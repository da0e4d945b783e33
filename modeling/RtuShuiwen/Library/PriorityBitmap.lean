import RtuShuiwen.Library.WordBits
import Mathlib.Logic.Function.Basic

/-! # Sets of priorities in two levels of bits

A set of the numbers below `w * w` is kept in `w` rows of `w` bits, with one more word that has a bit for every
row that is not empty. Two searches in single words then find the least element. -/

open WordBits

/-- Rows of bits and the word of the rows that are not empty. -/
structure PriorityBitmap (w : ℕ) where
  grp : BitVec w
  tbl : ℕ → BitVec w
  grp_iff : ∀ y < w, grp.getLsbD y = true ↔ tbl y ≠ 0#w

namespace PriorityBitmap

variable {w : ℕ}

/-- The elements. -/
def Mem (b : PriorityBitmap w) (p : ℕ) : Prop := (b.tbl (p / w)).getLsbD (p % w) = true

instance (b : PriorityBitmap w) (p : ℕ) : Decidable (b.Mem p) := inferInstanceAs (Decidable (_ = true))

/-- A word with a bit is not 0. -/
theorem ne_zero_of_bit {d : BitVec w} {i : ℕ} (hbit : d.getLsbD i = true) : d ≠ 0#w := by
  rintro rfl
  simp at hbit

/-- No elements. -/
def empty : PriorityBitmap w := ⟨0#w, fun _ => 0#w, fun y _ => by simp⟩

/-- Putting an element in: the bit of its row, and its bit in the row. -/
def insert (b : PriorityBitmap w) (p : ℕ) : PriorityBitmap w where
  grp := b.grp ||| (1#w <<< (p / w))
  tbl := Function.update b.tbl (p / w) (b.tbl (p / w) ||| (1#w <<< (p % w)))
  grp_iff := by
    intro y hy
    change (assign b.grp (p / w) true).getLsbD y = true ↔ _
    rw [getLsbD_assign _ _ _ hy]
    by_cases hrow : p / w = y
    · rw [if_pos hrow, ← hrow, Function.update_self]
      have hbit : (assign (b.tbl (p / w)) (p % w) true).getLsbD (p % w) = true := by
        rw [getLsbD_assign _ _ _ (Nat.mod_lt p (Nat.zero_lt_of_lt hy)), if_pos rfl]
      exact iff_of_true rfl (ne_zero_of_bit hbit)
    · rw [if_neg hrow, Function.update_of_ne (Ne.symm hrow), b.grp_iff y hy]

/-- Taking an element out: its bit in the row, and the bit of the row when it was the last. -/
def erase (b : PriorityBitmap w) (p : ℕ) : PriorityBitmap w where
  grp :=
    if b.tbl (p / w) &&& ~~~(1#w <<< (p % w)) = 0#w then b.grp &&& ~~~(1#w <<< (p / w)) else b.grp
  tbl := Function.update b.tbl (p / w) (b.tbl (p / w) &&& ~~~(1#w <<< (p % w)))
  grp_iff := by
    intro y hy
    by_cases hrow : p / w = y
    · subst hrow
      rw [Function.update_self]
      split
      · next hlast =>
          change (assign b.grp (p / w) false).getLsbD (p / w) = true ↔ _
          rw [getLsbD_assign _ _ _ hy, if_pos rfl]
          exact iff_of_false Bool.false_ne_true (not_not.mpr hlast)
      · next hmore =>
          refine iff_of_true ((b.grp_iff _ hy).mpr ?_) hmore
          intro hzero
          exact hmore (by rw [hzero, BitVec.zero_and])
    · rw [Function.update_of_ne (Ne.symm hrow), ← b.grp_iff y hy]
      split
      · change (assign b.grp (p / w) false).getLsbD y = true ↔ _
        rw [getLsbD_assign _ _ _ hy, if_neg hrow]
      · exact Iff.rfl

/-! ## The elements -/

/-- The empty set. -/
@[simp] theorem not_mem_empty (p : ℕ) : ¬ (empty : PriorityBitmap w).Mem p := by simp [Mem, empty]

/-- Assigning one bit of the rows. -/
theorem getLsbD_update_assign (tbl : ℕ → BitVec w) (v : Bool) {p q : ℕ} (hq : q < w * w) :
    (Function.update tbl (p / w) (assign (tbl (p / w)) (p % w) v) (q / w)).getLsbD (q % w) =
      if q = p then v else (tbl (q / w)).getLsbD (q % w) := by
  have hbit : q % w < w := Nat.mod_lt q (Nat.pos_of_mul_pos_left (Nat.zero_lt_of_lt hq))
  by_cases hrow : p / w = q / w
  · rw [hrow, Function.update_self, getLsbD_assign _ _ _ hbit]
    have hsame : p % w = q % w ↔ q = p := by
      constructor
      · intro hmod
        rw [← Nat.div_add_mod p w, ← Nat.div_add_mod q w, hrow, hmod]
      · rintro rfl
        rfl
    exact if_congr hsame rfl rfl
  · have hne : q ≠ p := by
      rintro rfl
      exact hrow rfl
    rw [Function.update_of_ne (Ne.symm hrow), if_neg hne]

/-- What is in after an element was put in. -/
theorem mem_insert (b : PriorityBitmap w) {p q : ℕ} (hq : q < w * w) :
    (b.insert p).Mem q ↔ q = p ∨ b.Mem q := by
  have hbit := getLsbD_update_assign b.tbl true (p := p) hq
  change (Function.update b.tbl (p / w) _ (q / w)).getLsbD (q % w) = true ↔ _
  rw [assign, if_pos rfl] at hbit
  rw [hbit, Mem]
  split
  · next hsame => exact iff_of_true rfl (.inl hsame)
  · next hother => exact (or_iff_right hother).symm

/-- What is in after an element was taken out. -/
theorem mem_erase (b : PriorityBitmap w) {p q : ℕ} (hq : q < w * w) :
    (b.erase p).Mem q ↔ q ≠ p ∧ b.Mem q := by
  have hbit := getLsbD_update_assign b.tbl false (p := p) hq
  change (Function.update b.tbl (p / w) _ (q / w)).getLsbD (q % w) = true ↔ _
  rw [assign, if_neg Bool.false_ne_true] at hbit
  rw [hbit, Mem]
  split
  · next hsame => exact iff_of_false Bool.false_ne_true fun hmem => hmem.1 hsame
  · next hother => exact (and_iff_right hother).symm

/-! ## The least element -/

/-- A search for the lowest bit of a word. -/
def FindsLowest (low : BitVec w → ℕ) : Prop :=
  ∀ d ≠ 0#w, d.getLsbD (low d) = true ∧ ∀ j, d.getLsbD j = true → low d ≤ j

/-- The least element, found by such a search. -/
def first (low : BitVec w → ℕ) (b : PriorityBitmap w) : ℕ := w * low b.grp + low (b.tbl (low b.grp))

/-- An element shows in the word of the rows. -/
theorem grp_of_mem {b : PriorityBitmap w} {p : ℕ} (hp : p < w * w) (hmem : b.Mem p) :
    b.grp.getLsbD (p / w) = true :=
  (b.grp_iff _ (Nat.div_lt_of_lt_mul hp)).mpr (ne_zero_of_bit hmem)

variable {low : BitVec w → ℕ}

/-- **The first element** is one. -/
theorem mem_first (hlow : FindsLowest low) {b : PriorityBitmap w} (hgrp : b.grp ≠ 0#w) :
    b.Mem (first low b) ∧ first low b < w * w := by
  have hrow := (hlow _ hgrp).1
  have hy : low b.grp < w := BitVec.lt_of_getLsbD hrow
  have hbit := (hlow _ ((b.grp_iff _ hy).mp hrow)).1
  have hx : low (b.tbl (low b.grp)) < w := BitVec.lt_of_getLsbD hbit
  have hdiv : first low b / w = low b.grp := by
    rw [first, Nat.mul_add_div (Nat.zero_lt_of_lt hy), Nat.div_eq_of_lt hx, Nat.add_zero]
  have hmod : first low b % w = low (b.tbl (low b.grp)) := by
    rw [first, Nat.mul_add_mod, Nat.mod_eq_of_lt hx]
  refine ⟨by rw [Mem, hdiv, hmod]; exact hbit, ?_⟩
  calc first low b < w * low b.grp + w := Nat.add_lt_add_left hx _
    _ = w * (low b.grp + 1) := (Nat.mul_succ _ _).symm
    _ ≤ w * w := Nat.mul_le_mul_left w hy

/-- **It is the least.** -/
theorem first_le (hlow : FindsLowest low) {b : PriorityBitmap w} {p : ℕ} (hp : p < w * w)
    (hmem : b.Mem p) : first low b ≤ p := by
  have hgrp := grp_of_mem hp hmem
  obtain ⟨hrow, hleast⟩ := hlow _ (ne_zero_of_bit hgrp)
  have hw : 0 < w := Nat.pos_of_mul_pos_left (Nat.zero_lt_of_lt hp)
  have hle : low b.grp ≤ p / w := hleast _ hgrp
  have hsplit := Nat.div_add_mod p w
  rcases Nat.lt_or_eq_of_le hle with hlt | heq
  · have hy : low b.grp < w := BitVec.lt_of_getLsbD hrow
    have hx : low (b.tbl (low b.grp)) < w :=
      BitVec.lt_of_getLsbD (hlow _ ((b.grp_iff _ hy).mp hrow)).1
    have hnext : w * (low b.grp + 1) ≤ w * (p / w) := Nat.mul_le_mul_left w hlt
    rw [Nat.mul_succ] at hnext
    rw [first]
    omega
  · have hbit : low (b.tbl (p / w)) ≤ p % w := (hlow _ (ne_zero_of_bit hmem)).2 _ hmem
    rw [first, heq]
    omega

/-- Whether there is an element at all shows in the word of the rows. -/
theorem grp_ne_zero_iff (hlow : FindsLowest low) {b : PriorityBitmap w} :
    b.grp ≠ 0#w ↔ ∃ p < w * w, b.Mem p := by
  constructor
  · intro hgrp
    obtain ⟨hmem, hlt⟩ := mem_first hlow hgrp
    exact ⟨_, hlt, hmem⟩
  · rintro ⟨p, hp, hmem⟩
    exact ne_zero_of_bit (grp_of_mem hp hmem)

/-- It is what going through the numbers finds. -/
theorem find?_range (hlow : FindsLowest low) {b : PriorityBitmap w} {f : ℕ → Bool}
    (hf : ∀ p < w * w, b.Mem p ↔ f p = true) :
    (List.range (w * w)).find? f = if b.grp ≠ 0#w then some (first low b) else none := by
  split
  · next hgrp =>
      obtain ⟨hmem, hlt⟩ := mem_first hlow hgrp
      rw [List.find?_range_eq_some]
      refine ⟨(hf _ hlt).mp hmem, List.mem_range.mpr hlt, fun p hp => ?_⟩
      have hnot : ¬ b.Mem p := fun hmem =>
        absurd (first_le hlow (Nat.lt_trans hp hlt) hmem) (Nat.not_le.mpr hp)
      rw [hf p (Nat.lt_trans hp hlt), Bool.not_eq_true] at hnot
      rw [hnot]
      rfl
  · next hgrp =>
      rw [List.find?_range_eq_none]
      intro p hp
      have hnot : ¬ b.Mem p := fun hmem => hgrp ((grp_ne_zero_iff hlow).mpr ⟨p, hp, hmem⟩)
      rw [hf p hp, Bool.not_eq_true] at hnot
      rw [hnot]
      rfl

end PriorityBitmap
