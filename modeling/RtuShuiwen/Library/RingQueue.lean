import Mathlib.Data.Nat.ModEq
import RtuShuiwen.Library.CellMemory

/-! # Queues in a ring of cells

`entries` values lie in the cells from `out` on, and the cell behind the last one is the first one. The lemmas
say what the list of the values becomes when one is put behind the newest or before the oldest, and when the
oldest is taken. -/

namespace RingQueue

variable {α : Type*}

/-- The cell behind cell `i`. -/
def next (size i : ℕ) : ℕ := if i + 1 = size then 0 else i + 1

/-- It is the one that counting in a circle gives. -/
theorem next_eq {size i : ℕ} (hi : i < size) : next size i = (i + 1) % size := by
  rw [next]
  split
  · next hlast => rw [hlast, Nat.mod_self]
  · next hinner => exact (Nat.mod_eq_of_lt (by omega)).symm

/-- And one of the ring. -/
theorem next_lt {size i : ℕ} (hi : i < size) : next size i < size := by
  rw [next_eq hi]
  exact Nat.mod_lt _ (Nat.zero_lt_of_lt hi)

/-- The values from the oldest to the newest. -/
def contents (cells : CellMemory α) (size out entries : ℕ) : List α :=
  (List.range entries).map fun i => cells ((out + i) % size)

@[simp] theorem contents_zero (cells : CellMemory α) (size out : ℕ) : contents cells size out 0 = [] := rfl

@[simp] theorem length_contents (cells : CellMemory α) (size out entries : ℕ) :
    (contents cells size out entries).length = entries := by
  rw [contents, List.length_map, List.length_range]

/-- **The oldest value** stands first. -/
theorem contents_succ (cells : CellMemory α) {size out : ℕ} (hout : out < size) (entries : ℕ) :
    contents cells size out (entries + 1) = cells out :: contents cells size (next size out) entries := by
  rw [contents, List.range_succ_eq_map, List.map_cons, List.map_map, Nat.add_zero, Nat.mod_eq_of_lt hout]
  refine congrArg (cells out :: ·) (List.map_congr_left fun i _ => ?_)
  rw [Function.comp_apply, next_eq hout, Nat.mod_add_mod]
  exact congrArg (fun x => cells (x % size)) (by omega)

/-- A cell of the ring that holds no value can be written. -/
theorem contents_update (cells : CellMemory α) {size out entries x : ℕ} (v : α)
    (hfree : ∀ i < entries, (out + i) % size ≠ x) :
    contents (Function.update cells x v) size out entries = contents cells size out entries :=
  List.map_congr_left fun i hi =>
    Function.update_of_ne (hfree i (List.mem_range.mp hi)) v cells

/-- Different places of the ring are different cells. -/
theorem place_ne {size out i j : ℕ} (hi : i < size) (hj : j < size) (hne : i ≠ j) :
    (out + i) % size ≠ (out + j) % size := by
  intro heq
  have hmod : i % size = j % size := Nat.ModEq.add_left_cancel (Nat.ModEq.refl out) heq
  rw [Nat.mod_eq_of_lt hi, Nat.mod_eq_of_lt hj] at hmod
  exact hne hmod

/-- **A value is put behind the newest.** -/
theorem contents_push (cells : CellMemory α) {size entries : ℕ} (out : ℕ) (v : α) (hroom : entries < size) :
    contents (Function.update cells ((out + entries) % size) v) size out (entries + 1) =
      contents cells size out entries ++ [v] := by
  have hold : contents (Function.update cells ((out + entries) % size) v) size out entries =
      contents cells size out entries :=
    contents_update cells v fun i hi => place_ne (by omega) hroom (by omega)
  rw [contents, List.range_succ, List.map_append, List.map_singleton, Function.update_self]
  exact congrArg (· ++ [v]) hold

end RingQueue
