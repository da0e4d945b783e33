import Mathlib.Algebra.GroupWithZero.Nat
import Mathlib.Algebra.Order.BigOperators.Group.List
import Mathlib.Algebra.Order.Group.Nat
import Mathlib.Data.List.GetD
import Mathlib.Tactic.Common

/-! # Days of a year divided into months

A year is a list of month lengths. `dayOfYear months m d` counts the days before day `d` of month
`m` (both counted from 1, as calendars write them). On the days that exist (`InYear`) it is below
the length of the year, strictly increasing in the order of the calendar and onto, so days of the
year and month/day pairs are the same thing. -/

namespace MonthCalendar

variable (months : List ℕ)

/-- The number of days before the first day of month `m`. -/
def daysBefore (m : ℕ) : ℕ := (months.take (m - 1)).sum

/-- The number of days before day `d` of month `m`. -/
def dayOfYear (m d : ℕ) : ℕ := daysBefore months m + (d - 1)

/-- Month `m` has a day `d`. -/
def InYear (m d : ℕ) : Prop :=
  1 ≤ m ∧ m ≤ months.length ∧ 1 ≤ d ∧ d ≤ months.getD (m - 1) 0

instance (m d : ℕ) : Decidable (InYear months m d) := by unfold InYear; infer_instance

/-- The first month starts the year. -/
@[simp] theorem daysBefore_one : daysBefore months 1 = 0 := rfl

/-- A month ends where the next one starts. -/
theorem daysBefore_succ {m : ℕ} (hpos : 1 ≤ m) (hlen : m ≤ months.length) :
    daysBefore months (m + 1) = daysBefore months m + months.getD (m - 1) 0 := by
  obtain ⟨k, rfl⟩ : ∃ k, m = k + 1 := ⟨m - 1, by omega⟩
  have hk : k < months.length := by omega
  simp only [daysBefore, Nat.add_sub_cancel]
  rw [List.sum_take_succ _ _ hk, List.getD_eq_getElem _ _ hk]

/-- Later months start no earlier. -/
theorem daysBefore_mono {m m' : ℕ} (h : m ≤ m') : daysBefore months m ≤ daysBefore months m' :=
  List.monotone_sum_take months (Nat.sub_le_sub_right h 1)

/-- After the last month the whole year is over. -/
theorem daysBefore_length_succ : daysBefore months (months.length + 1) = months.sum := by
  simp [daysBefore]

variable {months}

/-- A day lies before the start of every later month. -/
theorem dayOfYear_lt_daysBefore {m d m' : ℕ} (h : InYear months m d) (hlt : m < m') :
    dayOfYear months m d < daysBefore months m' := by
  obtain ⟨hm, hlen, hd, hdle⟩ := h
  calc dayOfYear months m d < daysBefore months m + months.getD (m - 1) 0 := by
        rw [dayOfYear]; omega
    _ = daysBefore months (m + 1) := (daysBefore_succ months hm hlen).symm
    _ ≤ daysBefore months m' := daysBefore_mono months hlt

/-- Every day of the year comes before its end. -/
theorem dayOfYear_lt_sum {m d : ℕ} (h : InYear months m d) :
    dayOfYear months m d < months.sum := by
  rw [← daysBefore_length_succ]
  exact dayOfYear_lt_daysBefore h (Nat.lt_succ_of_le h.2.1)

/-- **Days are counted in calendar order.** -/
theorem dayOfYear_lt {m d m' d' : ℕ} (h : InYear months m d) (h' : InYear months m' d')
    (hlt : m < m' ∨ m = m' ∧ d < d') : dayOfYear months m d < dayOfYear months m' d' := by
  rcases hlt with hm | ⟨rfl, hd⟩
  · exact Nat.lt_of_lt_of_le (dayOfYear_lt_daysBefore h hm) (Nat.le_add_right _ _)
  · have hpos := h.2.2.1
    simp only [dayOfYear]
    omega

/-- **Every number below the length of the year is the number of a day.** -/
theorem exists_dayOfYear {k : ℕ} (hk : k < months.sum) :
    ∃ m d, InYear months m d ∧ dayOfYear months m d = k := by
  induction months generalizing k with
  | nil => simp at hk
  | cons l ls ih =>
      by_cases hl : k < l
      · refine ⟨1, k + 1, ⟨le_rfl, by simp, by omega, Nat.succ_le_of_lt hl⟩, ?_⟩
        simp [dayOfYear]
      · rw [List.sum_cons] at hk
        obtain ⟨m, d, ⟨hm, hlen, hd, hdle⟩, hday⟩ := ih (k := k - l) (by omega)
        obtain ⟨j, rfl⟩ : ∃ j, m = j + 1 := ⟨m - 1, by omega⟩
        refine ⟨j + 1 + 1, d, ⟨by omega, by simpa using hlen, hd, by simpa using hdle⟩, ?_⟩
        simp only [dayOfYear, daysBefore, Nat.add_sub_cancel] at hday
        simp only [dayOfYear, daysBefore, Nat.add_sub_cancel, List.take_succ_cons, List.sum_cons]
        omega

end MonthCalendar
