import Mathlib.Data.List.GetD
import Mathlib.Logic.Function.Basic
import Mathlib.Tactic.Common

/-! # Cell memories: overwriting and reading ranges

A memory is a function from addresses to cells. `patch m a bs` overwrites the cells from `a` on
with the list `bs`; `slice m a n` reads the `n` cells from `a` on. The lemmas say how the two
meet: a slice of the patched range is the list written, a slice of a disjoint range is unchanged,
and patching a concatenation is patching its parts one after the other. -/

/-- A memory whose cells hold values of `α`, addressed by natural numbers. -/
abbrev CellMemory (α : Type*) := ℕ → α

namespace CellMemory

variable {α : Type*}

/-! ## Overwriting a range -/

/-- Overwrite the cells from address `a` on with `bs`. -/
def patch (m : CellMemory α) (a : ℕ) (bs : List α) : CellMemory α :=
  fun x => if a ≤ x then bs.getD (x - a) (m x) else m x

/-- A patch leaves the cells below its start alone. -/
theorem patch_of_lt (m : CellMemory α) {a x : ℕ} (bs : List α) (h : x < a) :
    patch m a bs x = m x := by
  rw [patch, if_neg (by omega)]

/-- A patch leaves the cells from its end on alone. -/
theorem patch_of_ge (m : CellMemory α) {a x : ℕ} (bs : List α) (h : a + bs.length ≤ x) :
    patch m a bs x = m x := by
  rw [patch, if_pos (by omega), List.getD_eq_default _ _ (by omega)]

/-- Inside the patched range stands the list written. -/
theorem patch_add (m : CellMemory α) (a : ℕ) (bs : List α) (i : ℕ) (h : i < bs.length) :
    patch m a bs (a + i) = bs[i] := by
  rw [patch, if_pos (Nat.le_add_right a i), Nat.add_sub_cancel_left, List.getD_eq_getElem _ _ h]

/-- Every cell is either in the patched range, at some offset, or left alone. -/
theorem patch_cases (m : CellMemory α) (a : ℕ) (bs : List α) (x : ℕ) :
    (∃ i, ∃ h : i < bs.length, x = a + i ∧ patch m a bs x = bs[i]) ∨
      ((x < a ∨ a + bs.length ≤ x) ∧ patch m a bs x = m x) := by
  by_cases hlt : x < a
  · exact .inr ⟨.inl hlt, patch_of_lt m bs hlt⟩
  by_cases hge : a + bs.length ≤ x
  · exact .inr ⟨.inr hge, patch_of_ge m bs hge⟩
  · have hx : x = a + (x - a) := by omega
    have hi : x - a < bs.length := by omega
    refine .inl ⟨x - a, hi, hx, ?_⟩
    conv_lhs => rw [hx]
    exact patch_add m a bs (x - a) hi

/-- A cell after a patch depends on this cell only. -/
theorem patch_congr {m m' : CellMemory α} {x : ℕ} (h : m x = m' x) (a : ℕ) (bs : List α) :
    patch m a bs x = patch m' a bs x := by
  rw [patch, patch, h]

/-- Writing nothing changes nothing. -/
@[simp] theorem patch_nil (m : CellMemory α) (a : ℕ) : patch m a [] = m := by
  funext x
  simp [patch]

/-- Writing one cell. -/
theorem patch_singleton (m : CellMemory α) (a : ℕ) (b : α) : patch m a [b] = Function.update m a b := by
  funext x
  rcases Nat.lt_trichotomy x a with hlt | rfl | hgt
  · rw [patch_of_lt m _ hlt, Function.update_of_ne (Nat.ne_of_lt hlt)]
  · rw [Function.update_self]
    exact patch_add m x [b] 0 Nat.one_pos
  · rw [patch_of_ge m _ hgt, Function.update_of_ne (Nat.ne_of_gt hgt)]

/-- Writing a concatenation is writing its parts one after the other. -/
theorem patch_append (m : CellMemory α) (a : ℕ) (bs cs : List α) :
    patch m a (bs ++ cs) = patch (patch m a bs) (a + bs.length) cs := by
  funext x
  rcases patch_cases (patch m a bs) (a + bs.length) cs x with ⟨i, hi, hx, hc⟩ | ⟨hx, hc⟩
  · rw [hc, hx, Nat.add_assoc, patch_add _ _ _ _ (by rw [List.length_append]; omega),
      List.getElem_append_right (Nat.le_add_right _ _)]
    simp
  · rw [hc]
    rcases patch_cases m a bs x with ⟨i, hi, rfl, hb⟩ | ⟨hx', hb⟩
    · rw [hb, patch_add _ _ _ _ (by rw [List.length_append]; omega), List.getElem_append_left hi]
    · rw [hb]
      rcases hx' with hlt | hge
      · exact patch_of_lt _ _ hlt
      · exact patch_of_ge _ _ (by rw [List.length_append]; omega)

/-! ## Reading a range -/

/-- The `n` cells from address `a` on. -/
def slice (m : CellMemory α) (a n : ℕ) : List α := (List.range n).map fun i => m (a + i)

/-- A slice has the length asked for. -/
@[simp] theorem length_slice (m : CellMemory α) (a n : ℕ) : (slice m a n).length = n := by
  simp [slice]

/-- Entry `i` of a slice is the cell `i` places on. -/
@[simp] theorem getElem_slice (m : CellMemory α) (a n i : ℕ) (h : i < (slice m a n).length) :
    (slice m a n)[i] = m (a + i) := by
  simp [slice]

/-- Slices of two memories agree when the memories agree on the range. -/
theorem slice_congr {m m' : CellMemory α} {a n : ℕ} (h : ∀ i < n, m (a + i) = m' (a + i)) :
    slice m a n = slice m' a n := by
  apply List.ext_getElem (by simp)
  intro i hi _
  rw [getElem_slice, getElem_slice, h i (by simpa using hi)]

/-- A long slice splits into two adjacent ones. -/
theorem slice_add (m : CellMemory α) (a n k : ℕ) :
    slice m a (n + k) = slice m a n ++ slice m (a + n) k := by
  simp [slice, List.range_add, Function.comp_def, Nat.add_assoc]

/-- A part of a slice. -/
theorem take_drop_slice (m : CellMemory α) (a : ℕ) {k j n : ℕ} (h : k + j ≤ n) :
    ((slice m a n).drop k).take j = slice m (a + k) j := by
  obtain ⟨r, rfl⟩ := Nat.exists_eq_add_of_le h
  rw [Nat.add_assoc, slice_add, List.drop_left' (length_slice m a k), slice_add,
    List.take_left' (length_slice m (a + k) j)]

/-- A slice is made of the records it covers. -/
theorem flatMap_slice (m : CellMemory α) (a len n : ℕ) :
    ((List.range n).flatMap fun i => slice m (a + len * i) len) = slice m a (len * n) := by
  induction n with
  | zero => rfl
  | succ n ih =>
      rw [List.range_succ, List.flatMap_append, ih, List.flatMap_singleton, Nat.mul_succ, slice_add]

/-- Reading back a patched range gives the list written. -/
theorem slice_patch_self (m : CellMemory α) (a : ℕ) (bs : List α) :
    slice (patch m a bs) a bs.length = bs := by
  apply List.ext_getElem (by simp)
  intro i _ hi
  rw [getElem_slice, patch_add _ _ _ _ hi]

/-- A patch does not show in a slice of a disjoint range. -/
theorem slice_patch_disjoint (m : CellMemory α) {a b n : ℕ} (bs : List α)
    (h : a + bs.length ≤ b ∨ b + n ≤ a) :
    slice (patch m a bs) b n = slice m b n := by
  apply slice_congr
  intro i hi
  rcases h with h | h
  · exact patch_of_ge m bs (by omega)
  · exact patch_of_lt m bs (by omega)

/-- A patch inside a slice replaces that part of it. -/
theorem slice_patch_within (m : CellMemory α) (a : ℕ) {off n : ℕ} {bs : List α}
    (h : off + bs.length ≤ n) :
    slice (patch m (a + off) bs) a n =
      (slice m a n).take off ++ bs ++ (slice m a n).drop (off + bs.length) := by
  obtain ⟨k, rfl⟩ := Nat.exists_eq_add_of_le h
  have htake : (slice m a (off + (bs.length + k))).take off = slice m a off := by
    rw [slice_add, List.take_left' (length_slice _ _ _)]
  have hdrop : (slice m a (off + bs.length + k)).drop (off + bs.length) =
      slice m (a + (off + bs.length)) k := by
    rw [slice_add, List.drop_left' (length_slice _ _ _)]
  rw [hdrop, Nat.add_assoc off, htake, slice_add, slice_add, slice_patch_disjoint _ _ (by omega),
    slice_patch_self, slice_patch_disjoint _ _ (by omega), List.append_assoc, Nat.add_assoc a]

/-- Two memories with the same slices of every length from `a` on agree at the first cell that a
slice shows: the converse of `slice_congr`. -/
theorem eq_of_slice_eq {m m' : CellMemory α} {a b n : ℕ} (h : slice m a n = slice m' b n) :
    ∀ i < n, m (a + i) = m' (b + i) := by
  intro i hi
  have hget := congrArg (fun l => l[i]?) h
  simpa [slice, hi] using hget

/-! ## Copying cell by cell -/

/-- `n` cells are copied from `src` to `des`, one after the other from the lowest on. -/
def copyCells : (n des src : ℕ) → CellMemory α → CellMemory α
  | 0, _, _, m => m
  | n + 1, des, src, m => copyCells n (des + 1) (src + 1) (patch m des [m src])

/-- Only the cells copied to change. -/
theorem copyCells_of_outside (m : CellMemory α) {n des : ℕ} (src : ℕ) {x : ℕ}
    (h : x < des ∨ des + n ≤ x) : copyCells n des src m x = m x := by
  induction n generalizing des src m with
  | zero => rfl
  | succ n ih =>
      rw [copyCells, ih _ _ (by omega)]
      rcases h with h | h
      · exact patch_of_lt m _ h
      · exact patch_of_ge m _ (by rw [List.length_singleton]; omega)

/-- **What lies in the first `k` cells of the source arrives** when the copy does not run over them. -/
theorem copyCells_add (m : CellMemory α) {n k des src : ℕ} (h : src + k ≤ des ∨ des + n ≤ src) {i : ℕ}
    (hi : i < n) (hik : i < k) : copyCells n des src m (des + i) = m (src + i) := by
  induction n generalizing i k des src m with
  | zero => exact absurd hi (Nat.not_lt_zero i)
  | succ n ih =>
      rw [copyCells]
      cases i with
      | zero =>
          rw [copyCells_of_outside _ _ (by omega)]
          exact patch_add m des [m src] 0 (by simp)
      | succ i =>
          have hstep := @ih (patch m des [m src]) (k - 1) (des + 1) (src + 1) (by omega) i
            (by omega) (by omega)
          have hsource : patch m des [m src] (src + 1 + i) = m (src + 1 + i) := by
            rcases h with h | h
            · exact patch_of_lt m _ (by omega)
            · exact patch_of_ge m _ (by rw [List.length_singleton]; omega)
          rw [hsource] at hstep
          have hdes : des + (i + 1) = des + 1 + i := by omega
          have hsrc : src + (i + 1) = src + 1 + i := by omega
          rw [hdes, hsrc, hstep]

end CellMemory
