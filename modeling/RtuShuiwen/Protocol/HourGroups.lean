import RtuShuiwen.Memory.Calendar
import Mathlib.Tactic.Ring
import Mathlib.Tactic.Linarith

/-! # Counting the hours of a time-period query

`GetHourGroupsByTimperiod` counts the hours between two BCD times: the days of the months in between,
summed in a loop, and the rests of the first and the last month. `getHourGroups_eq` says that for
two valid times of one year, the first before the second, it is the difference of their hours of
the year. -/

namespace RtuShuiwen

open MonthCalendar

/-- `timeperiod_t`: a full hour, in BCD. -/
structure Timeperiod where
  year : UInt8
  month : UInt8
  day : UInt8
  hour : UInt8
  deriving DecidableEq, Repr

/-- `TimeperiodToDate`. -/
def timeperiodToDate (srcTime : Timeperiod) : Date where
  year := (bcdToInteger srcTime.year).toNat
  month := (bcdToInteger srcTime.month).toNat
  day := (bcdToInteger srcTime.day).toNat
  hour := (bcdToInteger srcTime.hour).toNat
  minute := 0

/-- Entry `i` of the local array `month_days`; outside its twelve entries a read finds a stray
byte. -/
def monthDaysAt (monthDays : List ℕ) (stray : ℤ → UInt8) (i : ℤ) : UInt8 :=
  if 0 ≤ i ∧ i < 12 then .ofNat (monthDays.getD i.toNat 0) else stray i

/-- The loop over the months in between. Its counter is a byte, so after 257 turns it has taken a
value twice and the loop runs for ever. -/
def hourGroupsLoop (days : ℤ → UInt8) (bound : ℕ) : ℕ → UInt8 → UInt32 → Option UInt32
  | 0, _, _ => none
  | fuel + 1, i, hourGroups =>
      if i.toNat < bound then
        hourGroupsLoop days bound fuel (i + 1)
          (hourGroups + .ofInt ((days i.toNat).toNat * 24))
      else some hourGroups

/-- `GetHourGroupsByTimperiod`, if it returns, and the month table it leaves behind. -/
def getHourGroupsByTimperiod (startTime endTime : Timeperiod) (stray : ℤ → UInt8)
    (t : MonthTable) : Option UInt32 × MonthTable :=
  let startDate := timeperiodToDate startTime
  let endDate := timeperiodToDate endTime
  let (monthDays, t') := getMonthDays startTime.year t
  let days := monthDaysAt monthDays stray
  let hourGroups :=
    if endDate.month = startDate.month then
      if endDate.day = startDate.day then
        let endHour := if endDate.hour = 0 then 24 else endDate.hour
        some (.ofInt (endHour - startDate.hour))
      else
        some (.ofInt (((endDate.day : ℤ) - startDate.day - 1) * 24) +
          .ofInt (24 - startDate.hour) + .ofInt endDate.hour)
    else
      let monthInterval : UInt8 := .ofInt (endDate.month - startDate.month - 1)
      (hourGroupsLoop days (startDate.month + monthInterval.toNat) 257
          (.ofNat startDate.month) 0).map fun hourGroups =>
        hourGroups +
          .ofInt (((days (startDate.month - 1)).toNat - startDate.day) * 24 +
            (24 - startDate.hour)) +
          .ofInt ((endDate.day - 1) * 24 + endDate.hour)
  (hourGroups, t')

/-! ## The loop -/

/-- A month length fits a byte. -/
theorem getD_monthLengths_lt (year i : ℕ) : (monthLengths year).getD i 0 < 256 := by
  by_cases hi : i < (monthLengths year).length
  · rw [List.getD_eq_getElem _ _ hi]
    have hle : ∀ l ∈ monthLengths year, l ≤ 31 := by
      rw [monthLengths]
      split <;> decide
    exact Nat.lt_of_le_of_lt (hle _ (List.getElem_mem hi)) (by decide)
  · rw [List.getD_eq_default _ _ (by omega)]
    decide

/-- Inside the array the month lengths are those of the calendar. -/
theorem monthDaysAt_of_lt (year : ℕ) (stray : ℤ → UInt8) {i : ℕ} (h : i < 12) :
    (monthDaysAt (monthLengths year) stray i).toNat = (monthLengths year).getD i 0 := by
  rw [monthDaysAt, if_pos (by omega), Int.toNat_natCast, UInt8.toNat_ofNat',
    Nat.mod_eq_of_lt (getD_monthLengths_lt year i)]

/-- A natural number converts to `unsigned int` by its remainder. -/
theorem ofInt_natCast (n : ℕ) : UInt32.ofInt n = .ofNat n := by
  rw [UInt32.ofInt, ← UInt32.toNat_inj, UInt32.toNat_ofNat', UInt32.toNat_ofNat']
  omega

/-- The loop adds the hours of the months from the counter up to the bound. -/
theorem hourGroupsLoop_eq (year : ℕ) (stray : ℤ → UInt8) {bound : ℕ} (hbound : bound ≤ 12) :
    ∀ (k fuel i : ℕ) (hourGroups : UInt32), i + k = bound → k < fuel →
      hourGroupsLoop (monthDaysAt (monthLengths year) stray) bound fuel (.ofNat i) hourGroups =
        some (hourGroups + .ofInt (((daysBefore (monthLengths year) (bound + 1) : ℤ) -
          daysBefore (monthLengths year) (i + 1)) * 24)) := by
  intro k
  induction k with
  | zero =>
      intro fuel i hourGroups hi hfuel
      obtain ⟨fuel, rfl⟩ : ∃ f, fuel = f + 1 := ⟨fuel - 1, by omega⟩
      rw [Nat.add_zero] at hi
      subst hi
      have hnat : (UInt8.ofNat i).toNat = i := by
        rw [UInt8.toNat_ofNat']
        omega
      have hzero : UInt32.ofInt 0 = 0 := rfl
      rw [hourGroupsLoop, hnat, if_neg (lt_irrefl _), sub_self, Int.zero_mul, hzero,
        UInt32.add_zero]
  | succ k ih =>
      intro fuel i hourGroups hi hfuel
      obtain ⟨fuel, rfl⟩ : ∃ f, fuel = f + 1 := ⟨fuel - 1, by omega⟩
      have hnat : (UInt8.ofNat i).toNat = i := by
        rw [UInt8.toNat_ofNat']
        omega
      have hsucc : UInt8.ofNat i + 1 = UInt8.ofNat (i + 1) := by
        apply UInt8.toNat_inj.mp
        simp
      have hmonth := daysBefore_succ (monthLengths year) (m := i + 1) (by omega)
        (by rw [length_monthLengths]; omega)
      rw [Nat.add_sub_cancel] at hmonth
      rw [hourGroupsLoop, hnat, if_pos (by omega), hsucc, ih fuel (i + 1) _ (by omega) (by omega),
        monthDaysAt_of_lt year stray (by omega), UInt32.add_assoc, ← UInt32.ofInt_add]
      congr 3
      rw [hmonth]
      push_cast
      ring

/-! ## The count -/

/-- The hour at which a date lies in a year, its day and hour taken as they are, also where no
calendar has them. -/
def Date.hourIn (d : Date) (year : ℕ) : ℕ :=
  (daysBefore (monthLengths year) d.month + d.day) * 24 + d.hour

/-- The end of a period: on the day of the start, hour 0 is the end of that day. -/
def periodEnd (startDate endDate : Date) : Date :=
  if endDate.month = startDate.month ∧ endDate.day = startDate.day ∧ endDate.hour = 0 then
    { endDate with hour := 24 }
  else endDate

/-- The months of a period for which all reads of the month table stay in it: one month, or two in
order. -/
def MonthsInTable (startMonth endMonth : ℕ) : Prop :=
  endMonth = startMonth ∨ 1 ≤ startMonth ∧ startMonth < endMonth ∧ endMonth ≤ 13

instance (startMonth endMonth : ℕ) : Decidable (MonthsInTable startMonth endMonth) := by
  unfold MonthsInTable
  infer_instance

/-- A month interval of months in order is that number of months. -/
theorem toNat_monthInterval {startMonth endMonth : ℕ} (hlt : startMonth < endMonth)
    (hle : endMonth ≤ 256) :
    (UInt8.ofInt ((endMonth : ℤ) - startMonth - 1)).toNat = endMonth - startMonth - 1 := by
  rw [UInt8.ofInt, UInt8.toNat_ofNat']
  omega

/-- **What `GetHourGroupsByTimperiod` counts** as long as it stays in the month table: the hours from
the start to the end, in the year of the start. -/
theorem getHourGroups_eq_hourIn {startTime endTime : Timeperiod}
    (hmonths : MonthsInTable (timeperiodToDate startTime).month (timeperiodToDate endTime).month)
    (stray : ℤ → UInt8) (t : MonthTable) :
    (getHourGroupsByTimperiod startTime endTime stray t).1 =
      some (.ofInt
        ((periodEnd (timeperiodToDate startTime) (timeperiodToDate endTime)).hourIn
            (timeperiodToDate startTime).year -
          (timeperiodToDate startTime).hourIn (timeperiodToDate startTime).year)) := by
  have hdays : (getMonthDays startTime.year t).1 = monthLengths (timeperiodToDate startTime).year := by
    rw [getMonthDays_days, timeperiodToDate, toNat_bcdToInteger]
  simp only [getHourGroupsByTimperiod, hdays, periodEnd]
  generalize timeperiodToDate startTime = s at *
  generalize timeperiodToDate endTime = e at *
  by_cases hm : e.month = s.month
  · rw [if_pos hm]
    by_cases hd : e.day = s.day
    · -- one day
      rw [if_pos hd]
      by_cases hh : e.hour = 0
      · rw [if_pos hh, if_pos ⟨hm, hd, hh⟩, Date.hourIn, Date.hourIn, hm, hd]
        congr 2
        dsimp only
        omega
      · rw [if_neg hh, if_neg (by omega), Date.hourIn, Date.hourIn, hm, hd]
        congr 2
        omega
    · -- two days of one month
      rw [if_neg hd, if_neg (by omega), ← UInt32.ofInt_add, ← UInt32.ofInt_add, Date.hourIn,
        Date.hourIn, hm]
      congr 2
      omega
  · -- two months: the months in between, the rest of the first and the start of the last
    obtain ⟨hsm, hlt, hem⟩ := hmonths.resolve_left hm
    have hbound : s.month + (e.month - s.month - 1) = e.month - 1 := by omega
    have hloop := hourGroupsLoop_eq s.year stray (show e.month - 1 ≤ 12 by omega)
      (e.month - s.month - 1) 257 s.month 0 hbound (by omega)
    have hfirst : (monthDaysAt (monthLengths s.year) stray ((s.month : ℤ) - 1)).toNat =
        (monthLengths s.year).getD (s.month - 1) 0 := by
      rw [← monthDaysAt_of_lt s.year stray (show s.month - 1 < 12 by omega), Nat.cast_sub hsm,
        Nat.cast_one]
    have hnext := daysBefore_succ (monthLengths s.year) hsm
      (by rw [length_monthLengths]; omega)
    rw [if_neg hm, if_neg (fun h => hm h.1), toNat_monthInterval hlt (by omega), hbound, hloop,
      Option.map_some, hfirst, UInt32.zero_add, ← UInt32.ofInt_add, ← UInt32.ofInt_add, hnext,
      Nat.sub_add_cancel (by omega), Date.hourIn, Date.hourIn]
    congr 2
    push_cast
    ring

/-- Days of the calendar lie at the hour of the year that they have. -/
theorem Date.hourIn_of_valid {d : Date} (h : d.Valid) : d.hourIn d.year = d.hourOfYear + 24 := by
  obtain ⟨-, hin, -, -⟩ := h
  have hday := hin.2.2.1
  rw [hourIn, hourOfYear, dayOfYear]
  omega

/-- **`GetHourGroupsByTimperiod` counts the hours between two valid times of a year**, the first
before the second. -/
theorem getHourGroups_eq {startTime endTime : Timeperiod}
    (hstart : (timeperiodToDate startTime).Valid) (hend : (timeperiodToDate endTime).Valid)
    (hyear : (timeperiodToDate startTime).year = (timeperiodToDate endTime).year)
    (hbefore : (timeperiodToDate startTime).Before (timeperiodToDate endTime))
    (stray : ℤ → UInt8) (t : MonthTable) :
    (getHourGroupsByTimperiod startTime endTime stray t).1 =
      some (.ofNat ((timeperiodToDate endTime).hourOfYear -
        (timeperiodToDate startTime).hourOfYear)) := by
  have hsmin : (timeperiodToDate startTime).minute = 0 := rfl
  have hemin : (timeperiodToDate endTime).minute = 0 := rfl
  have hle := Date.hourOfYear_le_of_before hstart hend hyear hbefore
  have hsh := Date.hourIn_of_valid hstart
  have heh := Date.hourIn_of_valid hend
  have hsm := hstart.inYear.1
  have hem := hend.inYear.2.1
  simp only [Date.Before, hyear, lt_self_iff_false, true_and, false_or, hsmin, hemin, and_false,
    or_false] at hbefore
  have hmonths : MonthsInTable (timeperiodToDate startTime).month (timeperiodToDate endTime).month := by
    rw [length_monthLengths] at hem
    rw [MonthsInTable]
    omega
  have hperiod : periodEnd (timeperiodToDate startTime) (timeperiodToDate endTime) =
      timeperiodToDate endTime := by
    rw [periodEnd, if_neg]
    omega
  rw [getHourGroups_eq_hourIn hmonths stray t, hperiod, hyear, heh, ← hyear, hsh, ← ofInt_natCast]
  congr 2
  omega

end RtuShuiwen
