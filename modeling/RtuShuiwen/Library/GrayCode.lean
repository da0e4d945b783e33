import Mathlib.Logic.Equiv.Defs
import Mathlib.Tactic.Common

/-! # The reflected Gray code

The code word of a number is the sum, bit by bit, of the number and its half. A code word is decoded by
the sum of all its right shifts. Both telescope: the sum of the first `k` right shifts of a code word is
the number and what is left of it after `k` shifts (`shiftSum_encode`), and the code word of such a sum
is again of this form (`encode_shiftSum`). After as many shifts as there are bits nothing is left, and the
two are inverse to each other (`grayCode`). -/

namespace GrayCode

variable {w : ℕ}

/-- The code word of a number. -/
def encode (n : BitVec w) : BitVec w := n ^^^ (n >>> 1)

/-- The sum of the first `k` right shifts. -/
def shiftSum (g : BitVec w) : ℕ → BitVec w
  | 0 => 0#w
  | k + 1 => shiftSum g k ^^^ (g >>> k)

/-- The number of a code word. -/
def decode (g : BitVec w) : BitVec w := shiftSum g w

/-! ## Sums -/

/-- A middle term that occurs twice drops out. -/
theorem xor_cancel_middle (a b c : BitVec w) : (a ^^^ b) ^^^ (b ^^^ c) = a ^^^ c := by
  rw [BitVec.xor_assoc, ← BitVec.xor_assoc b b c, BitVec.xor_self, BitVec.zero_xor]

/-- Sums of four terms are put in order. -/
theorem xor_xor_xor_comm (a b c d : BitVec w) : (a ^^^ b) ^^^ (c ^^^ d) = (a ^^^ c) ^^^ (b ^^^ d) := by
  rw [BitVec.xor_assoc, BitVec.xor_assoc, ← BitVec.xor_assoc b c d, BitVec.xor_comm b c,
    BitVec.xor_assoc c b d]

/-- The code word of a sum. -/
theorem encode_xor (a b : BitVec w) : encode (a ^^^ b) = encode a ^^^ encode b := by
  rw [encode, BitVec.ushiftRight_xor_distrib, xor_xor_xor_comm]
  rfl

/-- The code word of a right shift. -/
theorem encode_ushiftRight (n : BitVec w) (k : ℕ) : encode n >>> k = encode (n >>> k) := by
  rw [encode, BitVec.ushiftRight_xor_distrib, ← BitVec.shiftRight_add, Nat.add_comm, BitVec.shiftRight_add]
  rfl

/-- The right shifts of a sum. -/
theorem shiftSum_xor (a b : BitVec w) (k : ℕ) : shiftSum (a ^^^ b) k = shiftSum a k ^^^ shiftSum b k := by
  induction k with
  | zero => exact BitVec.xor_self.symm
  | succ k ih =>
      calc shiftSum (a ^^^ b) (k + 1)
          = (shiftSum a k ^^^ shiftSum b k) ^^^ ((a >>> k) ^^^ (b >>> k)) := by
            rw [shiftSum, ih, BitVec.ushiftRight_xor_distrib]
        _ = shiftSum a (k + 1) ^^^ shiftSum b (k + 1) := xor_xor_xor_comm _ _ _ _

/-- Once a word is shifted out, more shifts add nothing. -/
theorem shiftSum_add {g : BitVec w} {k : ℕ} (hout : g >>> k = 0#w) (more : ℕ) :
    shiftSum g (k + more) = shiftSum g k := by
  induction more with
  | zero => rfl
  | succ more ih =>
      have hshift : g >>> (k + more) = 0#w := by
        rw [BitVec.shiftRight_add, hout, BitVec.zero_ushiftRight]
      rw [← Nat.add_assoc, shiftSum, ih, hshift, BitVec.xor_zero]

/-- **The right shifts of a code word telescope.** -/
theorem shiftSum_encode (n : BitVec w) (k : ℕ) : shiftSum (encode n) k = n ^^^ (n >>> k) := by
  induction k with
  | zero => rw [BitVec.ushiftRight_zero, BitVec.xor_self, shiftSum]
  | succ k ih =>
      have hshift : encode n >>> k = (n >>> k) ^^^ (n >>> (k + 1)) := by
        rw [encode_ushiftRight, encode, ← BitVec.shiftRight_add]
      rw [shiftSum, ih, hshift, xor_cancel_middle]

/-- **So does the code word of a sum of right shifts.** -/
theorem encode_shiftSum (g : BitVec w) (k : ℕ) : encode (shiftSum g k) = g ^^^ (g >>> k) := by
  induction k with
  | zero => rw [shiftSum, encode, BitVec.zero_ushiftRight, BitVec.xor_self, BitVec.ushiftRight_zero,
      BitVec.xor_self]
  | succ k ih =>
      have hshift : encode (g >>> k) = (g >>> k) ^^^ (g >>> (k + 1)) := by
        rw [encode, ← BitVec.shiftRight_add]
      rw [shiftSum, encode_xor, ih, hshift, xor_cancel_middle]

/-! ## Coding and decoding -/

/-- A number is told by its code word. -/
theorem decode_encode (n : BitVec w) : decode (encode n) = n := by
  rw [decode, shiftSum_encode, BitVec.ushiftRight_eq_zero (Nat.le_refl w), BitVec.xor_zero]

/-- Every word is a code word. -/
theorem encode_decode (g : BitVec w) : encode (decode g) = g := by
  rw [decode, encode_shiftSum, BitVec.ushiftRight_eq_zero (Nat.le_refl w), BitVec.xor_zero]

/-- **The Gray code**, numbers to code words. -/
def grayCode : BitVec w ≃ BitVec w where
  toFun := encode
  invFun := decode
  left_inv := decode_encode
  right_inv := encode_decode

/-- Nothing else has the code word of nothing. -/
theorem encode_eq_zero_iff (n : BitVec w) : encode n = 0#w ↔ n = 0#w := by
  have hzero : grayCode (0#w) = 0#w := by
    show 0#w ^^^ (0#w >>> 1) = 0#w
    rw [BitVec.zero_ushiftRight, BitVec.xor_self]
  exact grayCode.injective.eq_iff' hzero

/-- The number of a sum. -/
theorem decode_xor (a b : BitVec w) : decode (a ^^^ b) = decode a ^^^ decode b := shiftSum_xor a b w

/-- As soon as a word is shifted out its number is known. -/
theorem shiftSum_eq_decode {g : BitVec w} {k : ℕ} (hk : k ≤ w) (hout : g >>> k = 0#w) :
    shiftSum g k = decode g := by
  obtain ⟨more, rfl⟩ := Nat.exists_eq_add_of_le hk
  exact (shiftSum_add hout more).symm

end GrayCode
