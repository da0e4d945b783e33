import RtuShuiwen.Library.Bcd
import RtuShuiwen.Library.MonthCalendar

/-! # Dates and the month table of the flash store

`memory_my.c` counts days with a static table of month lengths whose February entry is patched by
every call (`isleapyear`). The table, `GetMonthDays` and the decimal and BCD date records live
here, together with what they are for: a date is `Valid` when it names a minute of 2000-2099, a
`Slot` is such a minute at a multiple of five, and `Slot.index` numbers the slots of a year. -/

namespace RtuShuiwen

open MonthCalendar

/-! ## Date records -/

/-- `date_t`: a date in plain decimal, the year counted from 2000. -/
@[ext] structure Date where
  year : ℕ
  month : ℕ
  day : ℕ
  hour : ℕ
  minute : ℕ
  deriving DecidableEq, Repr

/-- `Time_Def`: the registers of the real-time clock, in BCD. -/
structure TimeDef where
  second : UInt8
  minute : UInt8
  hour : UInt8
  week : UInt8
  day : UInt8
  month : UInt8
  year : UInt8
  deriving DecidableEq, Repr

/-- `BCDToInteger`, and with it `BCDTimeTodata`: the number coded by a BCD byte. -/
def bcdToInteger (src : UInt8) : UInt8 := (src >>> 4) * 10 + (src &&& 0x0f)

/-- `bcdToInteger` never wraps: it is ten times the high nibble plus the low one. -/
@[simp] theorem toNat_bcdToInteger (src : UInt8) : (bcdToInteger src).toNat = Bcd.value src := by
  have hlt := src.toNat_lt
  have hand : src.toNat &&& 15 = src.toNat % 16 := Nat.and_two_pow_sub_one_eq_mod src.toNat 4
  simp only [bcdToInteger, Bcd.value, UInt8.toNat_add, UInt8.toNat_mul, UInt8.toNat_shiftRight,
    UInt8.toNat_and, UInt8.toNat_ofNat, Nat.reduceMod, Nat.reducePow, Nat.shiftRight_eq_div_pow,
    hand]
  omega

/-- `TimeDefTodate`: the clock reading as a decimal date. -/
def timeDefToDate (time : TimeDef) : Date where
  year := (bcdToInteger time.year).toNat
  month := (bcdToInteger time.month).toNat
  day := (bcdToInteger time.day).toNat
  hour := (bcdToInteger time.hour).toNat
  minute := (bcdToInteger time.minute).toNat

/-! ## The month table -/

/-- The leap-year test of `Isleapyear`. -/
def isLeap (year : ℕ) : Bool :=
  ((year % 4 == 0) && (year % 100 != 0)) || (year % 400 == 0)

/-- `s_monthday`: the static table of month lengths. Only its February entry is ever assigned, and
only to 28 or 29. -/
structure MonthTable where
  /-- Entry 1 of the table. -/
  february : ℕ
  /-- The only two values `Isleapyear` assigns. -/
  february_eq : february = 28 ∨ february = 29

/-- The table as it is initialised. -/
def MonthTable.initial : MonthTable := ⟨28, .inl rfl⟩

/-- The twelve entries of the table. -/
def MonthTable.days (t : MonthTable) : List ℕ :=
  [31, t.february, 31, 30, 31, 30, 31, 31, 30, 31, 30, 31]

/-- `Isleapyear`: set the February entry for a year. -/
def isleapyear (year : ℕ) (_t : MonthTable) : MonthTable :=
  if isLeap year then ⟨29, .inr rfl⟩ else ⟨28, .inl rfl⟩

/-- `GetMonthDays`: the month lengths of a year given in BCD, and the table left behind. -/
def getMonthDays (year : UInt8) (t : MonthTable) : List ℕ × MonthTable :=
  let yearsShort := 2000 + (year >>> 4).toNat * 10 + (year &&& 0x0f).toNat
  let t' := isleapyear yearsShort t
  (t'.days, t')

/-- The month lengths of year `2000 + year`, by the calendar. -/
def monthLengths (year : ℕ) : List ℕ :=
  [31, if isLeap (year + 2000) then 29 else 28, 31, 30, 31, 30, 31, 31, 30, 31, 30, 31]

/-- After `isleapyear` the table is the calendar of the year, whatever it was before. -/
theorem days_isleapyear (year : ℕ) (t : MonthTable) :
    (isleapyear (year + 2000) t).days = monthLengths year := by
  rw [isleapyear, monthLengths]
  split <;> rfl

/-- `GetMonthDays` returns the calendar of the year its argument codes. -/
theorem getMonthDays_days (year : UInt8) (t : MonthTable) :
    (getMonthDays year t).1 = monthLengths (Bcd.value year) := by
  have hlt := year.toNat_lt
  have hand : year.toNat &&& 15 = year.toNat % 16 := Nat.and_two_pow_sub_one_eq_mod year.toNat 4
  have hyear : 2000 + (year >>> 4).toNat * 10 + (year &&& 0x0f).toNat =
      Bcd.value year + 2000 := by
    simp only [Bcd.value, UInt8.toNat_shiftRight, UInt8.toNat_and, UInt8.toNat_ofNat,
      Nat.reduceMod, Nat.reducePow, Nat.shiftRight_eq_div_pow, hand]
    omega
  simp only [getMonthDays, hyear, days_isleapyear]

/-- A year has twelve months. -/
@[simp] theorem length_monthLengths (year : ℕ) : (monthLengths year).length = 12 := rfl

/-- A year has 365 or 366 days. -/
theorem sum_monthLengths (year : ℕ) :
    (monthLengths year).sum = if isLeap (year + 2000) then 366 else 365 := by
  rw [monthLengths]
  split <;> rfl

/-- No year is longer than 366 days. -/
theorem sum_monthLengths_le (year : ℕ) : (monthLengths year).sum ≤ 366 := by
  rw [sum_monthLengths]
  split <;> omega

/-! ## Valid dates and slots -/

namespace Date

/-- The date names a minute of the years 2000 to 2099. -/
structure Valid (d : Date) : Prop where
  /-- The year fits two digits. -/
  year_le : d.year ≤ 99
  /-- The month has the day, in that year. -/
  inYear : InYear (monthLengths d.year) d.month d.day
  /-- Hours run to 23. -/
  hour_le : d.hour ≤ 23
  /-- Minutes run to 59. -/
  minute_le : d.minute ≤ 59

theorem valid_iff (d : Date) : d.Valid ↔
    d.year ≤ 99 ∧ InYear (monthLengths d.year) d.month d.day ∧ d.hour ≤ 23 ∧ d.minute ≤ 59 :=
  ⟨fun h => ⟨h.1, h.2, h.3, h.4⟩, fun h => ⟨h.1, h.2.1, h.2.2.1, h.2.2.2⟩⟩

instance (d : Date) : Decidable d.Valid := decidable_of_iff _ (valid_iff d).symm

/-- A valid date has a month of the calendar. -/
theorem Valid.month_le {d : Date} (h : d.Valid) : 1 ≤ d.month ∧ d.month ≤ 12 :=
  ⟨h.inYear.1, h.inYear.2.1⟩

/-- Chronological order. -/
def Before (d e : Date) : Prop :=
  d.year < e.year ∨ d.year = e.year ∧
    (d.month < e.month ∨ d.month = e.month ∧
      (d.day < e.day ∨ d.day = e.day ∧
        (d.hour < e.hour ∨ d.hour = e.hour ∧ d.minute < e.minute)))

instance (d e : Date) : Decidable (d.Before e) := by unfold Before; infer_instance

/-- The hours of the year before the hour of the date. -/
def hourOfYear (d : Date) : ℕ := dayOfYear (monthLengths d.year) d.month d.day * 24 + d.hour

/-- The five-minute slots of the year before the minute of the date. -/
def slotIndex (d : Date) : ℕ := d.hourOfYear * 12 + d.minute / 5

/-- Dates of one year are numbered in chronological order, hours first. -/
theorem hourOfYear_le_of_before {d e : Date} (hd : d.Valid) (he : e.Valid)
    (hyear : d.year = e.year) (h : d.Before e) :
    d.hourOfYear < e.hourOfYear ∨ d.hourOfYear = e.hourOfYear ∧ d.minute < e.minute := by
  have hdh := hd.hour_le
  have heh := he.hour_le
  have heday := hyear ▸ he.inYear
  simp only [Before, hyear, lt_self_iff_false, true_and, false_or] at h
  simp only [hourOfYear, hyear]
  rcases h with hm | ⟨hm, hdlt | ⟨hday, hh⟩⟩
  · have hlt := dayOfYear_lt (hyear ▸ hd.inYear) he.inYear (.inl hm)
    omega
  · have hlt := dayOfYear_lt (hyear ▸ hd.inYear) he.inYear (.inr ⟨hm, hdlt⟩)
    omega
  · rw [hm, hday]
    omega

end Date

/-- A clock reading that names a second of 2000-2099 in BCD. -/
structure TimeDef.IsClock (t : TimeDef) : Prop where
  /-- The registers hold decimal digits. -/
  digits : ∀ b ∈ [t.second, t.minute, t.hour, t.day, t.month, t.year], Bcd.IsDigits b
  /-- Seconds run to 59. -/
  second_le : Bcd.value t.second ≤ 59
  /-- The date exists. -/
  valid : (timeDefToDate t).Valid

theorem TimeDef.isClock_iff (t : TimeDef) : t.IsClock ↔
    (∀ b ∈ [t.second, t.minute, t.hour, t.day, t.month, t.year], Bcd.IsDigits b) ∧
      Bcd.value t.second ≤ 59 ∧ (timeDefToDate t).Valid :=
  ⟨fun h => ⟨h.1, h.2, h.3⟩, fun h => ⟨h.1, h.2.1, h.2.2⟩⟩

instance (t : TimeDef) : Decidable t.IsClock := decidable_of_iff _ t.isClock_iff.symm

/-- A five-minute slot: a valid date whose minute is a multiple of five. -/
structure Slot extends Date where
  /-- The date exists. -/
  valid : toDate.Valid
  /-- Records are kept for whole multiples of five minutes only. -/
  aligned : minute % 5 = 0

namespace Slot

/-- The slots of a year before this one. -/
abbrev index (s : Slot) : ℕ := s.toDate.slotIndex

/-- A leap year has 105408 slots, and no year has more. -/
theorem index_lt (s : Slot) : s.index < 105408 := by
  have hday := dayOfYear_lt_sum s.valid.inYear
  have hsum := sum_monthLengths_le s.year
  have hh := s.valid.hour_le
  have hm := s.valid.minute_le
  simp only [index, Date.slotIndex, Date.hourOfYear]
  omega

/-- **The slots of a year are numbered in chronological order.** -/
theorem index_lt_of_before {s u : Slot} (hyear : s.year = u.year)
    (h : s.toDate.Before u.toDate) : s.index < u.index := by
  have hsm := s.valid.minute_le
  have hum := u.valid.minute_le
  have hsa := s.aligned
  have hua := u.aligned
  simp only [index, Date.slotIndex]
  rcases Date.hourOfYear_le_of_before s.valid u.valid hyear h with hlt | ⟨heq, hlt⟩
  · omega
  · omega

/-- Two slots of a year are the same or one comes first. -/
theorem before_trichotomy (s u : Slot) (hyear : s.year = u.year) :
    s.toDate.Before u.toDate ∨ s.toDate = u.toDate ∨ u.toDate.Before s.toDate := by
  simp only [Date.Before, hyear, lt_self_iff_false, true_and, false_or, Date.ext_iff]
  omega

/-- **Numbers and order agree**: the slot with the smaller number comes first. -/
theorem before_iff_index_lt {s u : Slot} (hyear : s.year = u.year) :
    s.toDate.Before u.toDate ↔ s.index < u.index := by
  refine ⟨index_lt_of_before hyear, fun hlt => ?_⟩
  rcases before_trichotomy s u hyear with h | h | h
  · exact h
  · rw [index, index, h] at hlt
    exact absurd hlt (lt_irrefl _)
  · exact absurd (index_lt_of_before hyear.symm h) (by omega)

/-- **Every number below the last of a year is the number of a slot of that year.** -/
theorem exists_index {year k : ℕ} (hyear : year ≤ 99) (hk : k < (monthLengths year).sum * 288) :
    ∃ s : Slot, s.year = year ∧ s.index = k := by
  obtain ⟨m, d, hin, hday⟩ :=
    exists_dayOfYear (show k / 288 < (monthLengths year).sum by omega)
  refine ⟨⟨⟨year, m, d, k % 288 / 12, k % 12 * 5⟩, ⟨hyear, hin, ?_, ?_⟩, ?_⟩, rfl, ?_⟩
  · simp only; omega
  · simp only; omega
  · simp only; omega
  · simp only [index, Date.slotIndex, Date.hourOfYear, hday]
    omega

/-- The number of a slot stays inside its year. -/
theorem index_lt_year (s : Slot) : s.index < (monthLengths s.year).sum * 288 := by
  have hday := dayOfYear_lt_sum s.valid.inYear
  have hh := s.valid.hour_le
  have hm := s.valid.minute_le
  simp only [index, Date.slotIndex, Date.hourOfYear]
  omega

/-- `u` follows `s` with no slot of any year in between. -/
def IsNext (s u : Slot) : Prop :=
  s.toDate.Before u.toDate ∧ ∀ v : Slot, ¬ (s.toDate.Before v.toDate ∧ v.toDate.Before u.toDate)

/-- **Consecutive slots of a year have consecutive numbers**, across hours, days, months and the
leap day. -/
theorem index_of_isNext {s u : Slot} (hyear : s.year = u.year) (h : s.IsNext u) :
    u.index = s.index + 1 := by
  have hlt := index_lt_of_before hyear h.1
  by_contra hne
  have hindex : s.index + 1 < (monthLengths s.year).sum * 288 := by
    have hyearEnd := u.index_lt_year
    rw [← hyear] at hyearEnd
    omega
  obtain ⟨v, hvy, hv⟩ := exists_index s.valid.year_le hindex
  refine h.2 v ⟨?_, ?_⟩
  · rw [before_iff_index_lt hvy.symm]
    omega
  · rw [before_iff_index_lt (hvy.trans hyear)]
    omega

end Slot

end RtuShuiwen
