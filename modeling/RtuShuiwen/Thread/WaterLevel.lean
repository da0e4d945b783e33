import RtuShuiwen.Protocol.ExactValues
import RtuShuiwen.Protocol.ParameterUpdate
import RtuShuiwen.Thread.BasicMessage

/-! # The water level under its element identifier

Four functions compute the water level that goes out as element `3923`: `plus_message_init`,
`hour_message_init`, `QueryRealData_Init` and, for the records in the flash, `SaveAndGetData_FiveMinute`.
The first and the last add the stored base value, the other two do not. **`waterLevel_iff`** says when
they agree, with exact arithmetic in place of the floating-point type. -/

namespace RtuShuiwen

open ByteLayout

/-! ## Encoded values -/

/-- The four bytes of a word tell it. -/
theorem storeData4_inj (x y : UInt32) : storeData4 x = storeData4 y ↔ x = y := by
  constructor
  · intro h
    have hbytes : u32le x = u32le y := congrArg (fun v : Vector UInt8 4 => v.toList.reverse) h
    rw [← ofU32le_u32le x, hbytes, ofU32le_u32le]
  · exact congrArg storeData4

/-! ## The two values -/

/-- The stored base value of the water level, in millimetres. -/
def baseValueMillimetres (p : RtuOperationParameters) : ℕ :=
  p.waterlevelBasevalue1.toList.foldl (fun temp b => (bcdToInteger b).toNat + temp * 100) 0

/-- A sensor value is ten times as many millimetres. -/
theorem waterLevelMetres_mul (level : UInt32) :
    waterLevelMetres ℚ level * 10 ^ 3 = (10 * level.toNat : ℕ) := by
  show ((level.toNat : ℤ) : ℚ) / ((100 : ℤ) : ℚ) * 10 ^ 3 = _
  push_cast
  ring

/-- The base value as it is decoded. -/
theorem waterlevelBasicValue_mul (p : RtuOperationParameters) :
    waterlevelBasicValue ℚ p * 10 ^ 3 = (baseValueMillimetres p : ℕ) := by
  have htake : p.waterlevelBasevalue1.toList.take 4 = p.waterlevelBasevalue1.toList :=
    List.take_of_length_le (by rw [Vector.length_toList])
  have hdecode : waterlevelBasicValue ℚ p = (baseValueMillimetres p : ℚ) / 10 / 10 / 10 := by
    show Nat.repeat (· / ((10 : ℤ) : ℚ)) 3
      ((((p.waterlevelBasevalue1.toList.take 4).foldl
        (fun temp b => (bcdToInteger b).toNat + temp * 100) 0 : ℕ) : ℤ) : ℚ) = _
    rw [htake]
    rfl
  rw [hdecode]
  ring

/-- **The encoding with the base value and without it** agree just when it does not show in the eight
digits. -/
theorem encoded_base_iff (p : RtuOperationParameters) (level : UInt32) :
    storeData4 (floatoHex 3 (waterLevelMetres ℚ level)) =
        storeData4 (floatoHex 3 (waterLevelMetres ℚ level + waterlevelBasicValue ℚ p)) ↔
      baseValueMillimetres p % 10 ^ 8 = 0 := by
  have hsum : (waterLevelMetres ℚ level + waterlevelBasicValue ℚ p) * 10 ^ 3 =
      (10 * level.toNat + baseValueMillimetres p : ℕ) := by
    rw [add_mul, waterLevelMetres_mul, waterlevelBasicValue_mul]
    push_cast
    rfl
  rw [storeData4_inj, floatoHex_of_scaled (waterLevelMetres_mul level), floatoHex_of_scaled hsum,
    floatoHexLoop_inj]
  omega

/-! ## The four functions -/

/-- The water level in a plus message for a reading. -/
def plusWaterLevel (p : RtuOperationParameters) (level : UInt32) : Vector UInt8 4 :=
  (plusMessageInit ℚ p 0 ⟨0, 0, 0, 0, 0, 0, 0⟩ 0 0 level).content.waterLevelData

/-- **One element, one meaning**: for one reading and one stored block the water level is the same in
every plus message, hour message, real-data reply and record. -/
structure OneWaterLevel (st : StoreState) (level : UInt32) : Prop where
  /-- Plus messages have one value. -/
  plus : ∀ (sn : UInt16) (systime : TimeDef) (pulses lastPulses : UInt32),
    (plusMessageInit ℚ (rtuParametersReaddata st) sn systime pulses lastPulses level).content.waterLevelData
      = plusWaterLevel (rtuParametersReaddata st) level
  /-- Hour messages have it. -/
  hour : ∀ (lastMonth : UInt8) (call : HourCall), call.level = level →
    (hourMessageInit ℚ st lastMonth call).1.message.content.waterLevelData =
      plusWaterLevel (rtuParametersReaddata st) level
  /-- Real-data replies have it. -/
  realData : ∀ (sn : UInt16) (systime : TimeDef) (pulses pulsesAgain lastPulses : UInt32),
    (queryRealDataInit ℚ (rtuParametersReaddata st) sn systime pulses pulsesAgain lastPulses
      level).content.waterLevelData = plusWaterLevel (rtuParametersReaddata st) level
  /-- Records have it. -/
  record : ∀ (realTime : TimeDef) (pulses : UInt32) (date : Date) (data : List UInt8),
    .saveRecord date .waterLevel data ∈ (saveAndGetDataFiveMinute ℚ realTime pulses level st).1 →
      data = (plusWaterLevel (rtuParametersReaddata st) level).toList

/-- The records have what the plus message has. -/
theorem record_waterLevel {st : StoreState} {level : UInt32} {realTime : TimeDef} {pulses : UInt32}
    {date : Date} {data : List UInt8}
    (hsaved : .saveRecord date .waterLevel data ∈
      (saveAndGetDataFiveMinute ℚ realTime pulses level st).1) :
    data = (plusWaterLevel (rtuParametersReaddata st) level).toList := by
  simp only [saveAndGetDataFiveMinute] at hsaved
  rcases List.mem_append.mp hsaved with hrain | hwater
  · -- the first record is one of rainfall
    rw [savedEffect.eq_def] at hrain
    split at hrain
    · obtain ⟨-, htype, -⟩ := PollEffect.saveRecord.inj (List.mem_singleton.mp hrain)
      exact absurd htype (by decide)
    · cases hrain
  · rw [savedEffect.eq_def] at hwater
    split at hwater
    · obtain ⟨-, -, hdata⟩ := PollEffect.saveRecord.inj (List.mem_singleton.mp hwater)
      exact hdata
    · cases hwater

/-- **When the element has one meaning**: exactly when the stored base value, in millimetres, is a
multiple of `10 ^ 8`. For a base value in decimal digits that is zero. -/
theorem waterLevel_iff (st : StoreState) (level : UInt32) :
    OneWaterLevel st level ↔ baseValueMillimetres (rtuParametersReaddata st) % 10 ^ 8 = 0 := by
  rw [← encoded_base_iff (rtuParametersReaddata st) level]
  constructor
  · intro h
    exact h.realData 0 ⟨0, 0, 0, 0, 0, 0, 0⟩ 0 0 0
  · intro hbase
    constructor
    case plus => exact fun _ _ _ _ => rfl
    case hour =>
      rintro lastMonth call rfl
      exact hbase
    case realData => exact fun _ _ _ _ _ => hbase
    case record => exact fun _ _ _ _ => record_waterLevel

/-- With a base value of 1 metre and a reading of 2.50 metres the real-data reply says 2.500 and the
plus message 3.500. -/
theorem baseValueStore_not_oneWaterLevel : ¬ OneWaterLevel baseValueStore 250 := by
  intro h
  have hreply := h.realData 0 ⟨0, 0, 0, 0, 0, 0, 0⟩ 0 0 0
  have hbase := (encoded_base_iff (rtuParametersReaddata baseValueStore) 250).mp hreply
  rw [baseValueStore, rtuParametersReaddata_writedata] at hbase
  exact absurd hbase (by decide)

end RtuShuiwen
