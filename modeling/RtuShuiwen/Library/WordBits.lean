import Mathlib.Algebra.Ring.Nat
import Mathlib.Tactic.Common

/-! # Single bits of words

Testing, setting and clearing a bit with a mask `1#w <<< i`, and the word that a loop collects which
assigns its bits one after the other. -/

namespace WordBits

variable {w : ℕ}

/-- The mask of one bit. -/
theorem getLsbD_mask (i j : ℕ) : (1#w <<< i).getLsbD j = (decide (i < w) && decide (i = j)) := by
  rw [← BitVec.twoPow_eq, BitVec.getLsbD_twoPow]

/-- Testing a bit. -/
theorem and_mask_ne_zero (d : BitVec w) (i : ℕ) : d &&& (1#w <<< i) ≠ 0#w ↔ d.getLsbD i = true := by
  have hand : d &&& (1#w <<< i) = if d.getLsbD i then 1#w <<< i else 0#w := BitVec.and_twoPow d i
  rw [hand]
  split
  · next hset =>
      refine ⟨fun _ => hset, fun _ hzero => ?_⟩
      have hbit := congrArg (fun v : BitVec w => v.getLsbD i) hzero
      simp [BitVec.lt_of_getLsbD hset] at hbit
  · next hclear => exact ⟨fun hne => absurd rfl hne, fun hset => absurd hset hclear⟩

/-- A word is shifted out when it is small enough. -/
theorem ushiftRight_eq_zero_iff (d : BitVec w) (k : ℕ) : d >>> k = 0#w ↔ d.toNat < 2 ^ k := by
  have hpos : 0 < 2 ^ k := Nat.two_pow_pos k
  rw [← BitVec.toNat_inj, BitVec.toNat_ushiftRight, BitVec.toNat_zero, Nat.shiftRight_eq_div_pow,
    Nat.div_eq_zero_iff_lt hpos]

/-- Assigning a bit. -/
def assign (d : BitVec w) (i : ℕ) (v : Bool) : BitVec w :=
  if v then d ||| (1#w <<< i) else d &&& ~~~(1#w <<< i)

/-- The assigned bit is the value, and the others are left alone. -/
theorem getLsbD_assign (d : BitVec w) (i : ℕ) (v : Bool) {j : ℕ} (hj : j < w) :
    (assign d i v).getLsbD j = if i = j then v else d.getLsbD j := by
  cases v with
  | true =>
      rw [assign, if_pos rfl, BitVec.getLsbD_or, getLsbD_mask]
      by_cases hij : i = j
      · simp [hij, hj]
      · simp [hij]
  | false =>
      rw [assign, if_neg Bool.false_ne_true, BitVec.getLsbD_and, BitVec.getLsbD_not, getLsbD_mask]
      by_cases hij : i = j
      · simp [hij]
      · simp [hij, hj]

/-- A bit that is clear is assigned by a sum. -/
theorem assign_of_clear {d : BitVec w} {i : ℕ} (hclear : d.getLsbD i = false) (v : Bool) :
    assign d i v = if v then d ^^^ (1#w <<< i) else d := by
  apply BitVec.eq_of_getLsbD_eq
  intro j hj
  rw [getLsbD_assign _ _ _ hj]
  cases v with
  | true =>
      rw [if_pos rfl, BitVec.getLsbD_xor, getLsbD_mask]
      by_cases hij : i = j
      · rw [← hij, hclear]
        simp [hij, hj]
      · simp [hij]
  | false =>
      rw [if_neg Bool.false_ne_true]
      split
      · next hij => rw [← hij, hclear]
      · rfl

/-- The word whose first `k` bits have been assigned from `f`. -/
def collect (w : ℕ) (f : ℕ → Bool) : ℕ → BitVec w
  | 0 => 0#w
  | k + 1 => assign (collect w f k) k (f k)

/-- **The bits of the collected word.** -/
theorem getLsbD_collect (f : ℕ → Bool) (k : ℕ) {j : ℕ} (hj : j < w) :
    (collect w f k).getLsbD j = (decide (j < k) && f j) := by
  induction k with
  | zero => simp [collect]
  | succ k ih =>
      rw [collect, getLsbD_assign _ _ _ hj, ih]
      by_cases hlast : k = j
      · simp [hlast]
      · have hold : j < k + 1 ↔ j < k := by omega
        simp [hlast, hold]

/-- **The collected word is the only one** with these bits and no others. -/
theorem eq_collect_iff {d : BitVec w} (f : ℕ → Bool) {k : ℕ} (hk : k ≤ w) :
    d = collect w f k ↔ d >>> k = 0#w ∧ ∀ i < k, d.getLsbD i = f i := by
  constructor
  · rintro rfl
    constructor
    · apply BitVec.eq_of_getLsbD_eq
      intro j hj
      rw [BitVec.getLsbD_ushiftRight, BitVec.getLsbD_zero]
      by_cases hinside : k + j < w
      · have hhigh : ¬ k + j < k := by omega
        simp [getLsbD_collect f k hinside, hhigh]
      · exact BitVec.getLsbD_of_ge _ _ (Nat.not_lt.mp hinside)
    · intro i hi
      simp [getLsbD_collect f k (Nat.lt_of_lt_of_le hi hk), hi]
  · rintro ⟨hout, hbits⟩
    apply BitVec.eq_of_getLsbD_eq
    intro j hj
    rw [getLsbD_collect f k hj]
    by_cases hlow : j < k
    · simp [hlow, hbits j hlow]
    · have hbit := congrArg (fun v : BitVec w => v.getLsbD (j - k)) hout
      rw [BitVec.getLsbD_ushiftRight, Nat.add_sub_cancel' (Nat.not_lt.mp hlow),
        BitVec.getLsbD_zero] at hbit
      simp [hlow, hbit]

end WordBits
