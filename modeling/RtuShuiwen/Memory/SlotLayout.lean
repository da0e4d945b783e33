import RtuShuiwen.Library.RegionStore
import RtuShuiwen.Memory.Calendar
import RtuShuiwen.Memory.Parameters
import Mathlib

/-! # Where the store keeps a record

`GetAddress` turns a date and a data type into a flash address: the slots of the year, counted with
the patched month table, times the record length, over one of four bases. `getAddress_slot` reads
that off as `base + length · index`, `storeMap` collects the records, the day-start word and the
parameter block as one map of disjoint regions, and `slot_layout` is the resulting layout law. -/

namespace RtuShuiwen

open MonthCalendar

/-! ## Data types -/

/-- The two kinds of record. -/
inductive DataType
  | rainfall
  | waterLevel
  deriving DecidableEq, Repr

/-- The code asks only whether a `data_type` byte is zero. -/
def DataType.ofByte (dataType : UInt8) : DataType := if dataType = 0 then .rainfall else .waterLevel

/-- `RAINFALL_SINGLE_DATALEN` and `WATERLEVEL_SINGLE_DATALEN`. -/
def DataType.singleDatalen : DataType → ℕ
  | .rainfall => 3
  | .waterLevel => 4

/-- `RAINFALL_TYPE`. -/
def rainfallType : UInt8 := 0

/-- `WATERLEVEL_TYPE`. -/
def waterlevelType : UInt8 := 1

/-! ## Addresses -/

/-- `IDR_RAINFALL_EVEN_BASE`, `IDR_WATERLEVLE_EVEN_BASE`, `IDR_RAINFALL_ODD_BASE` and
`IDR_WATERLEVEL_ODD_BASE`. -/
def bankBase : DataType → Bool → ℕ
  | .rainfall, false => 0x000000
  | .waterLevel, false => 0x400000
  | .rainfall, true => 0x800000
  | .waterLevel, true => 0xC00000

/-- Each bank reaches up to the next base. -/
def bankSize : ℕ := 0x400000

/-- `RAINFALL_DAY_START_VALUE`. -/
def rainfallDayStartValue : ℕ := 0x080000

/-- `IDR_RTU_PARAMETERS`. -/
def idrRtuParameters : ℕ := 0x080010

/-- `GetBaseAddr`. -/
def getBaseAddr (date : Date) (dataType : UInt8) : ℕ :=
  bankBase (.ofByte dataType) (date.year % 2 == 1)

/-- Why `GetAddress` gives no address. -/
inductive AddressError
  /-- It returns −1: the minute is no multiple of five. -/
  | notMultiple
  /-- The loop over the earlier months runs past the end of the month table. -/
  | monthOutOfTable
  deriving DecidableEq, Repr

/-- `GetAddress`, and the month table it leaves behind. -/
def getAddress (date : Date) (dataType : UInt8) (t : MonthTable) :
    Except AddressError ℤ × MonthTable :=
  let singleGroupLength : ℤ := (DataType.ofByte dataType).singleDatalen
  let t' := isleapyear (date.year + 2000) t
  if t'.days.length < date.month - 1 then (.error .monthOutOfTable, t')
  else
    let totalDays : ℤ := (t'.days.take (date.month - 1)).sum + ((date.day : ℤ) - 1)
    let totalHours := totalDays * 24 + date.hour
    if date.minute % 5 = 0 then
      let totalGroups := totalHours * (60 / 5) + date.minute / 5
      (.ok (getBaseAddr date dataType + singleGroupLength * totalGroups), t')
    else (.error .notMultiple, t')

/-- The bank of a date: its year is odd. -/
def Date.oddYear (d : Date) : Bool := d.year % 2 == 1

/-- The address of the record of a date. -/
def Date.recordAddress (d : Date) (ty : DataType) : ℕ :=
  bankBase ty d.oddYear + ty.singleDatalen * d.slotIndex

/-- When the day exists `GetAddress` succeeds, for any state of the month table. -/
theorem getAddress_of_inYear {d : Date} (h : InYear (monthLengths d.year) d.month d.day)
    (halign : d.minute % 5 = 0) (dataType : UInt8) (t : MonthTable) :
    getAddress d dataType t =
      (.ok ↑(d.recordAddress (.ofByte dataType)), isleapyear (d.year + 2000) t) := by
  have hmonth : d.month ≤ 12 := h.2.1
  have hday := h.2.2.1
  have hin : ¬ (monthLengths d.year).length < d.month - 1 := by
    rw [length_monthLengths]
    omega
  -- the days before the month and in it are the day of the year
  have hdays : (((monthLengths d.year).take (d.month - 1)).sum : ℤ) + ((d.day : ℤ) - 1) =
      (dayOfYear (monthLengths d.year) d.month d.day : ℕ) := by
    rw [dayOfYear, daysBefore]
    omega
  simp only [getAddress, days_isleapyear, if_neg hin, if_pos halign, hdays, Date.recordAddress,
    Date.slotIndex, Date.hourOfYear]
  push_cast
  rfl

/-- **`GetAddress` of a slot** is the base of its bank plus its number times the record length,
whatever year the month table was last set to. -/
theorem getAddress_slot (s : Slot) (dataType : UInt8) (t : MonthTable) :
    getAddress s.toDate dataType t =
      (.ok ↑(s.recordAddress (.ofByte dataType)), isleapyear (s.year + 2000) t) :=
  getAddress_of_inYear s.valid.inYear s.aligned dataType t

/-! ## The map of the store -/

/-- What the store keeps: a record for every type, year parity and slot number, the rainfall at the
start of the day and the parameter block. -/
inductive StoreKey
  | record (ty : DataType) (odd : Bool) (index : Fin 105408)
  | dayStart
  | parameters
  deriving DecidableEq

/-- The first address of a region. -/
def StoreKey.base : StoreKey → ℕ
  | .record ty odd index => bankBase ty odd + ty.singleDatalen * index
  | .dayStart => rainfallDayStartValue
  | .parameters => idrRtuParameters

/-- The length of a region. -/
def StoreKey.size : StoreKey → ℕ
  | .record ty _ _ => ty.singleDatalen
  | .dayStart => 4
  | .parameters => RtuOperationParameters.byteSize

/-- A record stays clear of the addresses where the special data lie, and inside its bank. -/
theorem record_range (ty : DataType) (odd : Bool) (index : Fin 105408) :
    bankBase ty odd ≤ (StoreKey.record ty odd index).base ∧
      (StoreKey.record ty odd index).base + ty.singleDatalen ≤ bankBase ty odd + bankSize ∧
      ((StoreKey.record ty odd index).base + ty.singleDatalen ≤ rainfallDayStartValue ∨
        idrRtuParameters + RtuOperationParameters.byteSize ≤
          (StoreKey.record ty odd index).base) := by
  have hlt := index.isLt
  cases ty <;> cases odd <;>
    simp only [StoreKey.base, bankBase, bankSize, DataType.singleDatalen, rainfallDayStartValue,
      idrRtuParameters, RtuOperationParameters.byteSize] <;> omega

/-- Different banks do not meet. -/
theorem bank_disjoint {ty ty' : DataType} {odd odd' : Bool} (h : ¬ (ty = ty' ∧ odd = odd')) :
    bankBase ty odd + bankSize ≤ bankBase ty' odd' ∨ bankBase ty' odd' + bankSize ≤ bankBase ty odd := by
  revert h
  cases ty <;> cases odd <;> cases ty' <;> cases odd' <;> decide

/-- Records of different type, parity or number do not meet. -/
theorem record_disjoint {ty ty' : DataType} {odd odd' : Bool} {i j : Fin 105408}
    (h : StoreKey.record ty odd i ≠ .record ty' odd' j) :
    (StoreKey.record ty odd i).base + ty.singleDatalen ≤ (StoreKey.record ty' odd' j).base ∨
      (StoreKey.record ty' odd' j).base + ty'.singleDatalen ≤
        (StoreKey.record ty odd i).base := by
  by_cases hbank : ty = ty' ∧ odd = odd'
  · obtain ⟨rfl, rfl⟩ := hbank
    have hne : (i : ℕ) ≠ j := fun hij => h (by rw [Fin.ext hij])
    simp only [StoreKey.base]
    cases ty <;> simp only [DataType.singleDatalen] <;> omega
  · obtain ⟨hi, hiend, -⟩ := record_range ty odd i
    obtain ⟨hj, hjend, -⟩ := record_range ty' odd' j
    exact (bank_disjoint hbank).imp (fun h => hiend.trans (h.trans hj)) fun h => hjend.trans (h.trans hi)

/-- The day-start word and the parameter block lie next to each other in the special region. -/
theorem special_range {k : StoreKey} (h : k = .dayStart ∨ k = .parameters) :
    rainfallDayStartValue ≤ k.base ∧
      k.base + k.size ≤ idrRtuParameters + RtuOperationParameters.byteSize := by
  rcases h with rfl | rfl <;> decide

/-- **The store is a map of pairwise disjoint regions.** -/
def storeMap : RegionMap StoreKey where
  base := StoreKey.base
  size := StoreKey.size
  disjoint := by
    intro j k hne
    -- records are told apart by bank and number, the special data by their own region
    cases j with
    | record ty odd i =>
        have hi := (record_range ty odd i).2.2
        cases k with
        | record ty' odd' j => exact record_disjoint hne
        | dayStart =>
            have hk := special_range (.inl rfl)
            exact hi.imp hk.1.trans' hk.2.trans
        | parameters =>
            have hk := special_range (.inr rfl)
            exact hi.imp hk.1.trans' hk.2.trans
    | dayStart =>
        have hj := special_range (.inl rfl)
        cases k with
        | record ty odd i =>
            exact (record_range ty odd i).2.2.symm.imp hj.2.trans hj.1.trans'
        | dayStart => exact absurd rfl hne
        | parameters => exact .inl (by decide)
    | parameters =>
        have hj := special_range (.inr rfl)
        cases k with
        | record ty odd i =>
            exact (record_range ty odd i).2.2.symm.imp hj.2.trans hj.1.trans'
        | dayStart => exact .inr (by decide)
        | parameters => exact absurd rfl hne

/-- The key of the record of a slot. -/
def Slot.key (s : Slot) (ty : DataType) : StoreKey := .record ty s.oddYear ⟨s.index, s.index_lt⟩

/-- The record of a slot lies in the region of its key. -/
@[simp] theorem base_key (s : Slot) (ty : DataType) : storeMap.base (s.key ty) = s.recordAddress ty :=
  rfl

@[simp] theorem size_key (s : Slot) (ty : DataType) : storeMap.size (s.key ty) = ty.singleDatalen :=
  rfl

/-- Two records have one key when type, year parity and number agree. -/
theorem key_eq_iff (s u : Slot) (ty ty' : DataType) :
    s.key ty = u.key ty' ↔ ty = ty' ∧ s.year % 2 = u.year % 2 ∧ s.index = u.index := by
  have hparity : s.oddYear = u.oddYear ↔ s.year % 2 = u.year % 2 := by
    rw [Bool.eq_iff_iff]
    simp only [Date.oddYear, beq_iff_eq]
    omega
  simp only [Slot.key, StoreKey.record.injEq, Fin.mk.injEq, hparity]

/-! ## The layout law -/

/-- The addresses of the bytes of a record that starts at `a`. -/
def recordRange (a : ℤ) (ty : DataType) : Set ℤ := Set.Ico a (a + ty.singleDatalen)

/-- The addresses of a bank. -/
def bankRange (ty : DataType) (odd : Bool) : Set ℤ :=
  Set.Ico (bankBase ty odd) (bankBase ty odd + bankSize)

/-- Ranges of different keys do not share an address. -/
theorem recordRange_inter_nonempty_iff (s u : Slot) (ty ty' : DataType) :
    (recordRange (s.recordAddress ty) ty ∩ recordRange (u.recordAddress ty') ty').Nonempty ↔
      s.key ty = u.key ty' := by
  constructor
  · rintro ⟨x, ⟨hsx, hxs⟩, hux, hxu⟩
    by_contra hne
    have hdisj := storeMap.disjoint hne
    simp only [base_key, size_key] at hdisj
    omega
  · intro heq
    have hty : ty = ty' := ((key_eq_iff s u ty ty').mp heq).1
    have haddr : s.recordAddress ty = u.recordAddress ty' := congrArg StoreKey.base heq
    have hpos : 0 < ty'.singleDatalen := by cases ty' <;> decide
    rw [hty, ← hty, haddr, hty, Set.inter_self]
    exact ⟨_, le_rfl, by omega⟩

/-- A record does not meet any range of the special region. -/
theorem recordRange_disjoint_special (s : Slot) (ty : DataType) {lo hi : ℕ}
    (hlo : rainfallDayStartValue ≤ lo)
    (hhi : hi ≤ idrRtuParameters + RtuOperationParameters.byteSize) :
    Disjoint (recordRange (s.recordAddress ty) ty) (Set.Ico ↑lo ↑hi) := by
  have hspecial : s.recordAddress ty + ty.singleDatalen ≤ _ ∨ _ ≤ s.recordAddress ty :=
    (record_range ty s.oddYear ⟨_, s.index_lt⟩).2.2
  rw [Set.disjoint_left]
  rintro x ⟨hax, hxa⟩ ⟨hlx, hxh⟩
  omega

/-- **The layout of the store.** The record ranges that `GetAddress` gives for two slots meet only
if type, year parity and slot number agree, and then they are the same; records of consecutive
slots of a year are adjacent; a record stays inside its bank and clear of the day-start word and
the parameter block. -/
theorem slot_layout (s u : Slot) (dataType dataType' : UInt8) (t t' : MonthTable) :
    ∃ a a' : ℤ,
      (getAddress s.toDate dataType t).1 = .ok a ∧
      (getAddress u.toDate dataType' t').1 = .ok a' ∧
      ((recordRange a (.ofByte dataType) ∩ recordRange a' (.ofByte dataType')).Nonempty ↔
        DataType.ofByte dataType = .ofByte dataType' ∧ s.year % 2 = u.year % 2 ∧
          s.index = u.index) ∧
      ((recordRange a (.ofByte dataType) ∩ recordRange a' (.ofByte dataType')).Nonempty →
        recordRange a (.ofByte dataType) = recordRange a' (.ofByte dataType')) ∧
      (DataType.ofByte dataType = .ofByte dataType' → s.year = u.year → s.IsNext u →
        a + (DataType.ofByte dataType).singleDatalen = a') ∧
      recordRange a (.ofByte dataType) ⊆ bankRange (.ofByte dataType) s.oddYear ∧
      Disjoint (recordRange a (.ofByte dataType))
        (Set.Ico ↑rainfallDayStartValue ↑(rainfallDayStartValue + 4)) ∧
      Disjoint (recordRange a (.ofByte dataType))
        (Set.Ico ↑idrRtuParameters ↑(idrRtuParameters + RtuOperationParameters.byteSize)) := by
  have hoverlap := recordRange_inter_nonempty_iff s u (.ofByte dataType) (.ofByte dataType')
  obtain ⟨hlow, hhigh, -⟩ := record_range (.ofByte dataType) s.oddYear ⟨_, s.index_lt⟩
  refine ⟨s.recordAddress (.ofByte dataType), u.recordAddress (.ofByte dataType'),
    by rw [getAddress_slot], by rw [getAddress_slot], ?_, ?_, ?_, ?_, ?_, ?_⟩
  · rw [hoverlap, key_eq_iff]
  · -- ranges that meet have one key, and so one address
    intro hmeet
    have hkey := hoverlap.mp hmeet
    have haddr : s.recordAddress (.ofByte dataType) = u.recordAddress (.ofByte dataType') :=
      congrArg StoreKey.base hkey
    rw [haddr, ((key_eq_iff s u _ _).mp hkey).1]
  · -- the next slot has the next number
    intro hty hyear hnext
    have hindex : u.toDate.slotIndex = s.toDate.slotIndex + 1 := Slot.index_of_isNext hyear hnext
    rw [← hty, Date.recordAddress, Date.recordAddress, Date.oddYear, Date.oddYear, hyear, hindex,
      Nat.mul_add]
    push_cast
    ring
  · apply Set.Ico_subset_Ico
    · exact_mod_cast hlow
    · exact_mod_cast hhigh
  · exact recordRange_disjoint_special s _ le_rfl (by decide)
  · exact recordRange_disjoint_special s _ (by decide) le_rfl

end RtuShuiwen
