import RtuShuiwen.Protocol.ExactValues
import RtuShuiwen.Thread.WaterLevel

/-! # The values of the hour report

`hour_message_init` turns the stored records of an hour into the values of its message, with exact
arithmetic in place of the floating-point type.

* **`rainfallBytes_iff`**: for which rainfall records every byte is the increment of its five minutes, or
  the invalid mark where there is none;
* **`waterLevel_survives`**: water levels come out of the report as they were measured. -/

namespace RtuShuiwen

open ByteLayout CellMemory

/-! ## Rainfall increments -/

/-- The cumulated rainfall in a stored record, in tenths of a millimetre, if it holds decimal digits. -/
def storedTenths (record : Vector UInt8 3) : Option ℕ :=
  if ∀ b ∈ record.toList, Bcd.IsDigits b then
    some (record.toList.foldl (fun tenths b => tenths * 100 + Bcd.value b) 0)
  else none

/-- The invalid mark. -/
def invalidRainfall : UInt8 := 0xff

/-- The byte for the increment from one record to the next. -/
def incrementByte : Option ℕ → Option ℕ → UInt8
  | some last, some curr =>
      if last ≤ curr ∧ curr ≤ last + 254 then .ofNat (curr - last) else invalidRainfall
  | _, _ => invalidRainfall

/-- The rainfall bytes of the hour message for stored records. -/
def rainfallBytes (records : Vector (Vector UInt8 3) 13) : Vector UInt8 12 :=
  hourRainFallSaveDataToFiveMinuteRelativeValue ℚ (records.toList.flatMap Vector.toList)

/-- They are what every hour message carries. -/
theorem hourMessage_rainfallBytes (p : RtuOperationParameters) (sn : UInt16) (systime : TimeDef)
    (contentAddr : Vector UInt8 5) (pulses level : UInt32) (records : Vector (Vector UInt8 3) 13)
    (waterlevelHourData : List UInt8) :
    (hourMessage ℚ p sn systime contentAddr pulses level (records.toList.flatMap Vector.toList)
      waterlevelHourData).content.hourFivePrcipitData = rainfallBytes records := rfl

/-- `JudegeBCD` tests for decimal digits. -/
theorem judegeBCD_iff (src : List UInt8) : judegeBCD src = true ↔ ∀ b ∈ src, Bcd.IsDigits b := by
  rw [judegeBCD, List.all_eq_true]
  apply forall₂_congr
  intro b _
  have hand : b.toNat &&& 15 = b.toNat % 16 := Nat.and_two_pow_sub_one_eq_mod b.toNat 4
  rw [Bool.and_eq_true, decide_eq_true_eq, decide_eq_true_eq, UInt8.lt_iff_toNat_lt,
    UInt8.lt_iff_toNat_lt, Bcd.IsDigits, UInt8.toNat_shiftRight, UInt8.toNat_and]
  simp only [UInt8.toNat_ofNat, Nat.reduceMod, Nat.reducePow, Nat.shiftRight_eq_div_pow, hand]

/-- A record is decoded to tenths of a millimetre; one that is none counts as zero. -/
theorem rainFallBCDString_eq (records : Vector (Vector UInt8 3) 13) {i : ℕ} (hi : i < 13) :
    rainFallBCDStringToFloatValue (records.toList.flatMap Vector.toList) i =
      (((storedTenths records[i]).getD 0 : ℕ) : ℚ) / 10 := by
  have hrecord : ((records.toList.flatMap Vector.toList).drop (3 * i)).take 3 =
      records[i].toList := by
    have hlen : i < records.toList.length := by rwa [Vector.length_toList]
    have hfield := bytesAt_flatMap (f := fun r : Vector UInt8 3 => r.toList) (n := 3)
      (fun r => r.length_toList) records.toList hlen
    rwa [Vector.getElem_toList] at hfield
  have hvalue : bcdStringValue records[i].toList =
      records[i].toList.foldl (fun tenths b => tenths * 100 + Bcd.value b) 0 := by
    rw [bcdStringValue]
    congr 1
    funext tenths b
    rw [toNat_bcdToInteger]
  simp only [rainFallBCDStringToFloatValue, hrecord, storedTenths]
  by_cases hdigits : ∀ b ∈ records[i].toList, Bcd.IsDigits b
  · rw [if_pos ((judegeBCD_iff _).mpr hdigits), if_pos hdigits, hvalue]
    rfl
  · rw [if_neg (fun h => hdigits ((judegeBCD_iff _).mp h)), if_neg hdigits]
    show ((0 : ℤ) : ℚ) = ((0 : ℕ) : ℚ) / 10
    norm_num

/-- **The byte that the report carries**: the increment in tenths modulo 256, or 255 if there is
none. -/
theorem rainfallBytes_eq (records : Vector (Vector UInt8 3) 13) (i : Fin 12) :
    (rainfallBytes records)[i] =
      if (storedTenths records[(i : ℕ)]).getD 0 ≤ (storedTenths records[(i : ℕ) + 1]).getD 0 then
        .ofNat ((storedTenths records[(i : ℕ) + 1]).getD 0 - (storedTenths records[(i : ℕ)]).getD 0)
      else invalidRainfall := by
  have hlast := rainFallBCDString_eq records (show (i : ℕ) < 13 by omega)
  have hcurr := rainFallBCDString_eq records (show (i : ℕ) + 1 < 13 by omega)
  show (rainfallBytes records)[(i : ℕ)] = _
  simp only [rainfallBytes, hourRainFallSaveDataToFiveMinuteRelativeValue, Vector.getElem_ofFn, hlast,
    hcurr]
  generalize (storedTenths records[(i : ℕ)]).getD 0 = last
  generalize (storedTenths records[(i : ℕ) + 1]).getD 0 = curr
  have hle : CFloat.le ((last : ℚ) / 10) ((curr : ℚ) / 10) = decide (last ≤ curr) := by
    show decide ((last : ℚ) / 10 ≤ (curr : ℚ) / 10) = _
    rw [decide_eq_decide, div_le_div_iff_of_pos_right (by norm_num), Nat.cast_le]
  simp only [hle, decide_eq_true_eq]
  split
  · next hlt =>
      have hdiff : ((curr : ℚ) / 10 - (last : ℚ) / 10) * CFloat.ofInt 10 = ((curr - last : ℕ) : ℚ) := by
        show ((curr : ℚ) / 10 - (last : ℚ) / 10) * ((10 : ℤ) : ℚ) = _
        push_cast [hlt]
        ring
      have hbyte : UInt8.ofInt ((curr - last : ℕ) : ℤ) = .ofNat (curr - last) := by
        rw [UInt8.ofInt, ← UInt8.toNat_inj, UInt8.toNat_ofNat', UInt8.toNat_ofNat']
        omega
      rw [hdiff, trunc_natCast, hbyte]
  · rfl

/-- The increments that show as they are: those that are below 255 or negative, a drop to a record that
does not hold decimal digits, and what leaves 255 modulo 256. -/
def IncrementShown : Option ℕ → Option ℕ → Prop
  | some last, some curr => curr < last ∨ curr ≤ last + 254 ∨ (curr - last) % 256 = 255
  | some last, none => 0 < last
  | none, some curr => curr % 256 = 255
  | none, none => False

instance (last curr : Option ℕ) : Decidable (IncrementShown last curr) := by
  cases last <;> cases curr <;> unfold IncrementShown <;> infer_instance

/-- A byte is the invalid mark when 255 is left. -/
theorem ofNat_eq_invalidRainfall_iff (n : ℕ) : UInt8.ofNat n = invalidRainfall ↔ n % 256 = 255 := by
  rw [invalidRainfall, ← UInt8.toNat_inj, UInt8.toNat_ofNat']
  rfl

/-- **One byte is right** exactly when its increment shows. -/
theorem incrementByte_eq_iff (last curr : Option ℕ) :
    (if last.getD 0 ≤ curr.getD 0 then .ofNat (curr.getD 0 - last.getD 0) else invalidRainfall) =
      incrementByte last curr ↔ IncrementShown last curr := by
  cases last with
  | none =>
      cases curr with
      | none => decide
      | some curr =>
          show (if 0 ≤ curr then UInt8.ofNat curr else invalidRainfall) = invalidRainfall ↔ _
          rw [if_pos (Nat.zero_le _), ofNat_eq_invalidRainfall_iff]
          rfl
  | some last =>
      cases curr with
      | none =>
          show (if last ≤ 0 then UInt8.ofNat (0 - last) else invalidRainfall) = invalidRainfall ↔ 0 < last
          split
          · next hzero =>
              rw [ofNat_eq_invalidRainfall_iff]
              omega
          · next hpos => simp only [true_iff]; omega
      | some curr =>
          show (if last ≤ curr then UInt8.ofNat (curr - last) else invalidRainfall) =
            (if last ≤ curr ∧ curr ≤ last + 254 then .ofNat (curr - last) else invalidRainfall) ↔
              curr < last ∨ curr ≤ last + 254 ∨ (curr - last) % 256 = 255
          by_cases hle : last ≤ curr
          · by_cases hsmall : curr ≤ last + 254
            · rw [if_pos hle, if_pos ⟨hle, hsmall⟩]
              simp only [true_iff]
              omega
            · rw [if_pos hle, if_neg (fun h => hsmall h.2), ofNat_eq_invalidRainfall_iff]
              omega
          · rw [if_neg hle, if_neg (fun h => hle h.1)]
            simp only [true_iff]
            omega

/-- **Every byte is the increment or the invalid mark.** -/
def RainfallBytesOk (records : Vector (Vector UInt8 3) 13) : Prop :=
  ∀ i : Fin 12, (rainfallBytes records)[i] =
    incrementByte (storedTenths records[(i : ℕ)]) (storedTenths records[(i : ℕ) + 1])

/-- **For which records the rainfall of the hour is reported as it was**: exactly those whose twelve
increments show. -/
theorem rainfallBytes_iff (records : Vector (Vector UInt8 3) 13) :
    RainfallBytesOk records ↔
      ∀ i : Fin 12,
        IncrementShown (storedTenths records[(i : ℕ)]) (storedTenths records[(i : ℕ) + 1]) := by
  apply forall_congr'
  intro i
  rw [rainfallBytes_eq, incrementByte_eq_iff]

/-- An hour whose records were all erased. -/
def erasedRecords : Vector (Vector UInt8 3) 13 := .replicate 13 (.replicate 3 0xff)

/-- It is reported as an hour without rain. -/
theorem erasedRecords_not_rainfallBytesOk :
    rainfallBytes erasedRecords = .replicate 12 0 ∧ ¬ RainfallBytesOk erasedRecords := by
  have hnone : ∀ i (hi : i < 13), storedTenths erasedRecords[i] = none := by
    intro i hi
    rw [erasedRecords, Vector.getElem_replicate]
    decide
  constructor
  · apply Vector.ext
    intro i hi
    have hbyte := rainfallBytes_eq erasedRecords ⟨i, hi⟩
    rw [hnone, hnone] at hbyte
    rw [Vector.getElem_replicate]
    exact hbyte
  · intro hok
    have hbyte := hok 0
    rw [rainfallBytes_eq, incrementByte_eq_iff, hnone, hnone] at hbyte
    exact hbyte

/-! ## Water levels through the store -/

/-- A full hour, and the twelve saves in it: what the clock shows at each, the pulse count and the
reading of the sensor in centimetres. -/
structure SavedHour where
  hour : Date
  times : Fin 12 → TimeDef
  pulses : Fin 12 → UInt32
  levels : Fin 12 → UInt32
  /-- The hour exists. -/
  valid : hour.Valid
  /-- It is a full one. -/
  minute_eq : hour.minute = 0
  /-- The saves are five minutes apart. -/
  times_eq : ∀ i, timeDefToDate (times i) = { hour with minute := 5 * i }
  /-- The sensor gives no more than 13 bits. -/
  levels_le : ∀ i, (levels i).toNat ≤ 8191

namespace SavedHour

variable (h : SavedHour)

/-- The slot of a save. -/
def slot (i : Fin 12) : Slot where
  toDate := { h.hour with minute := 5 * i }
  valid := ⟨h.valid.year_le, h.valid.inYear, h.valid.hour_le, by show 5 * (i : ℕ) ≤ 59; omega⟩
  aligned := Nat.mul_mod_right 5 i

/-- The slots of an hour are numbered one after the other. -/
theorem index_slot (i : Fin 12) : (h.slot i).index = h.hour.slotIndex + i := by
  simp only [Slot.index, slot, Date.slotIndex, Date.hourOfYear, h.minute_eq]
  omega

/-- The two records of a save, under the parameters `p`. -/
def ops (p : RtuOperationParameters) (i : Fin 12) : List StoreOp :=
  [.saveRecord (h.slot i) rainfallType
      (storeData3 (getBCDSendata cumulaPrecipitId (cumulaRainfall ℚ (h.pulses i)))),
    .saveRecord (h.slot i) waterLevelElementId.toUInt8
      (storeData4 (getBCDSendata waterLevelElementId
        (waterLevelMetres ℚ (h.levels i) + waterlevelBasicValue ℚ p)))]

/-- A save carries them out. -/
theorem saveAndGetData_eq (st : StoreState) (i : Fin 12) :
    (saveAndGetDataFiveMinute ℚ (h.times i) (h.pulses i) (h.levels i) st).2 =
      runStore st (h.ops (rtuParametersReaddata st) i) := by
  simp only [saveAndGetDataFiveMinute, h.times_eq]
  rfl

/-- The store after some of the saves. -/
def saves (st : StoreState) (is : List (Fin 12)) : StoreState :=
  is.foldl (fun st i =>
    (saveAndGetDataFiveMinute ℚ (h.times i) (h.pulses i) (h.levels i) st).2) st

/-- Records leave the parameters as they are. -/
theorem parameters_runStore_ops (st : StoreState) (p : RtuOperationParameters) (i : Fin 12) :
    rtuParametersReaddata (runStore st (h.ops p i)) = rtuParametersReaddata st :=
  rtuParametersReaddata_runStore st (h.ops p i)

/-- **The saves are one run of the store**, under the parameters at its start. -/
theorem saves_eq (p : RtuOperationParameters) (is : List (Fin 12)) :
    ∀ st : StoreState, rtuParametersReaddata st = p →
      h.saves st is = runStore st (is.flatMap (h.ops p)) ∧
        rtuParametersReaddata (h.saves st is) = p := by
  induction is with
  | nil => exact fun st hst => ⟨rfl, hst⟩
  | cons i is ih =>
      intro st hst
      have hfirst := h.saveAndGetData_eq st i
      rw [hst] at hfirst
      obtain ⟨hrun, hparams⟩ := ih (runStore st (h.ops p i))
        (by rw [h.parameters_runStore_ops, hst])
      rw [saves, List.foldl_cons, hfirst, ← saves]
      refine ⟨?_, hparams⟩
      rw [hrun, List.flatMap_cons, runStore, runStore, runStore, List.foldl_append]

/-- The record of a reading, under the parameters `p`. -/
def waterRecord (p : RtuOperationParameters) (i : Fin 12) : List UInt8 :=
  (storeData4 (getBCDSendata waterLevelElementId
    (waterLevelMetres ℚ (h.levels i) + waterlevelBasicValue ℚ p))).toList

/-- **After the saves the slot of each holds its record.** -/
theorem load_saves (st : StoreState) (i : Fin 12) :
    storeMap.load (h.saves st (List.finRange 12)).flash ((h.slot i).key .waterLevel) =
      h.waterRecord (rtuParametersReaddata st) i := by
  rw [(h.saves_eq _ (List.finRange 12) st rfl).1]
  apply load_runStore_of_unique
  · have hmem : ∀ op ∈ h.ops (rtuParametersReaddata st) i,
        op ∈ (List.finRange 12).flatMap (h.ops (rtuParametersReaddata st)) :=
      fun op hop => List.mem_flatMap.mpr ⟨i, List.mem_finRange i, hop⟩
    exact ⟨_, hmem _ (List.mem_cons_of_mem _ List.mem_cons_self), rfl⟩
  · intro op hop hkey
    obtain ⟨j, -, hj⟩ := List.mem_flatMap.mp hop
    rcases List.mem_cons.mp hj with rfl | hj
    · -- the rainfall record is of another type
      cases (StoreKey.record.inj hkey).1
    · -- a water-level record in the same place is of the same save
      obtain rfl := List.mem_singleton.mp hj
      have hindex := Fin.val_eq_of_eq (StoreKey.record.inj hkey).2.2
      dsimp only at hindex
      rw [h.index_slot, h.index_slot] at hindex
      obtain rfl : j = i := Fin.ext (by omega)
      rfl

/-- The bytes that the report reads for the hour hold the records one after the other. -/
theorem readData_saves (st : StoreState) :
    ∃ data, (readDataFromFlash h.hour waterlevelType 52 (h.saves st (List.finRange 12))).1 = .ok data ∧
      ∀ i : Fin 12, (data.drop (4 * i)).take 4 = h.waterRecord (rtuParametersReaddata st) i := by
  have hindex : h.hour.slotIndex < 200000 := by
    have hlt := (h.slot 0).index_lt
    rw [h.index_slot] at hlt
    omega
  rw [readDataFromFlash_of_inYear _ h.valid.inYear (by rw [h.minute_eq]) hindex waterlevelType
    (by decide)]
  refine ⟨_, rfl, fun i => ?_⟩
  rw [take_drop_slice _ _ (by omega), ← h.load_saves st i]
  have haddr : (h.slot i).toDate.recordAddress .waterLevel =
      h.hour.recordAddress (.ofByte waterlevelType) + 4 * i := by
    have hslot := h.index_slot i
    rw [Slot.index] at hslot
    show bankBase .waterLevel h.hour.oddYear + 4 * (h.slot i).toDate.slotIndex =
      bankBase .waterLevel h.hour.oddYear + 4 * h.hour.slotIndex + 4 * i
    rw [hslot]
    ring
  rw [← haddr]
  rfl

/-- **A record is decoded to the reading**, in centimetres over the base value. -/
theorem relative_waterRecord (p : RtuOperationParameters) {i : Fin 12}
    (hfits : baseValueMillimetres p + 10 * (h.levels i).toNat < 10 ^ 8) {data : List UInt8}
    (hdata : (data.drop (4 * i)).take 4 = h.waterRecord p i) :
    (waterLevelBCDStringToFloatValue data i - waterlevelBasicValue ℚ p) * CFloat.ofInt 100 =
      ((h.levels i).toNat : ℚ) := by
  have hscaled : (waterLevelMetres ℚ (h.levels i) + waterlevelBasicValue ℚ p) * 10 ^ 3 =
      (10 * (h.levels i).toNat + baseValueMillimetres p : ℕ) := by
    rw [add_mul, waterLevelMetres_mul, waterlevelBasicValue_mul]
    push_cast
    rfl
  have hrecord : h.waterRecord p i =
      (storeData4 (floatoHexLoop 10 (10 * (h.levels i).toNat + baseValueMillimetres p) 0 0)).toList := by
    rw [← floatoHex_of_scaled hscaled]
    rfl
  generalize hn : 10 * (h.levels i).toNat + baseValueMillimetres p = n at hrecord
  have hpair : ∀ m, Bcd.IsDigits (Bcd.ofNat (m % 100)) := fun m =>
    Bcd.isDigits_ofNat (Nat.mod_lt _ (by decide))
  have hvalue : ∀ m, (bcdToInteger (Bcd.ofNat (m % 100))).toNat = m % 100 := fun m => by
    rw [toNat_bcdToInteger, Bcd.value_ofNat (Nat.mod_lt _ (by decide))]
  have hdigits : judegeBCD ((h.waterRecord p i).take 3) = true := by
    rw [judegeBCD_iff, hrecord, toList_storeData4_floatoHexLoop]
    simp [hpair]
  have hnumber : bcdStringValue (h.waterRecord p i) = n := by
    rw [hrecord, toList_storeData4_floatoHexLoop]
    simp only [bcdStringValue, List.foldl_cons, List.foldl_nil, hvalue]
    omega
  have hmetres : waterLevelBCDStringToFloatValue data i = (n : ℚ) / 1000 := by
    simp only [waterLevelBCDStringToFloatValue, hdata, hdigits, if_true, hnumber]
    rfl
  have hbase : waterlevelBasicValue ℚ p = (baseValueMillimetres p : ℚ) / 1000 := by
    have hmul := waterlevelBasicValue_mul p
    linarith
  rw [hmetres, hbase, ← hn]
  show ((10 * (h.levels i).toNat + baseValueMillimetres p : ℕ) / 1000 - _) * ((100 : ℤ) : ℚ) = _
  push_cast
  ring

end SavedHour

/-- **Water levels survive the store**: after the twelve saves of an hour the parameters are the same, and
every hour message built from the records that are read for the hour carries the readings, high byte
first. -/
theorem waterLevel_survives (h : SavedHour) (st : StoreState)
    (hfits : ∀ i, baseValueMillimetres (rtuParametersReaddata st) + 10 * (h.levels i).toNat < 10 ^ 8) :
    rtuParametersReaddata (h.saves st (List.finRange 12)) = rtuParametersReaddata st ∧
      ∃ data, (readDataFromFlash h.hour waterlevelType 52 (h.saves st (List.finRange 12))).1 =
          .ok data ∧
        ∀ (sn : UInt16) (systime : TimeDef) (contentAddr : Vector UInt8 5) (pulses level : UInt32)
            (rainfallHourData : List UInt8) (i : Fin 12),
          u16le (hourMessage ℚ (rtuParametersReaddata (h.saves st (List.finRange 12))) sn systime
              contentAddr pulses level rainfallHourData data).content.hourFiveWaterlevelData[i] =
            u16be (.ofNat (h.levels i).toNat) := by
  have hparams := (h.saves_eq _ (List.finRange 12) st rfl).2
  obtain ⟨data, hread, hrecords⟩ := h.readData_saves st
  refine ⟨hparams, data, hread, fun sn systime contentAddr pulses level rainfallHourData i => ?_⟩
  rw [hparams]
  have hvalue := h.relative_waterRecord _ (hfits i) (hrecords i)
  show u16le (hourWaterLevelSaveDataToValue ℚ (rtuParametersReaddata st) data)[(i : ℕ)] = _
  simp only [hourWaterLevelSaveDataToValue, Vector.getElem_ofFn, hvalue, trunc_natCast, u16le_swap16]
  congr 1
  rw [UInt16.ofInt, ← UInt16.toNat_inj, UInt16.toNat_ofNat', UInt16.toNat_ofNat']
  omega

/-- Ten o'clock on New Year's Day of 2020, with the water rising from 250 cm. -/
def risingHour : SavedHour where
  hour := ⟨20, 1, 1, 10, 0⟩
  times i := ⟨0, Bcd.ofNat (5 * i), 0x10, 0, 0x01, 0x01, 0x20⟩
  pulses _ := 0
  levels i := .ofNat (250 + i)
  valid := by decide
  minute_eq := rfl
  times_eq := by decide
  levels_le := by decide

/-- The report shows the water rise. -/
theorem risingHour_survives :
    ∃ data, (readDataFromFlash risingHour.hour waterlevelType 52
        (risingHour.saves baseValueStore (List.finRange 12))).1 = .ok data ∧
      ∀ i : Fin 12, u16le (hourMessage ℚ
        (rtuParametersReaddata (risingHour.saves baseValueStore (List.finRange 12))) 0
        ⟨0, 0, 0, 0, 0, 0, 0⟩ (.replicate 5 0) 0 0 [] data).content.hourFiveWaterlevelData[i] =
          u16be (.ofNat (250 + i)) := by
  have hlevels : ∀ i : Fin 12, (risingHour.levels i).toNat = 250 + i := by decide
  obtain ⟨-, data, hread, hentries⟩ := waterLevel_survives risingHour baseValueStore (by
    rw [baseValueStore, rtuParametersReaddata_writedata]
    decide)
  refine ⟨data, hread, fun i => ?_⟩
  rw [hentries, hlevels]

end RtuShuiwen
