import Mathlib.Logic.Function.Iterate
import Mathlib.Tactic.Common
import RtuShuiwen.Library.WordBits

/-! # Linear feedback shift registers

A checksum register of `w` bits takes in the bits of a message one by one: `absorb` adds a bit to the
lowest place of the register, moves all places down by one and adds the polynomial when a bit fell out.
Where the top bit of the polynomial is set the move is a bijection that respects exclusive or, and that
is why no error of at most `w` neighbouring bits goes unnoticed (`register_ne_of_burst`).
`reverse_stepMsb` is for registers that are written the other way round. -/

namespace ShiftRegister

variable {w : ℕ} (poly : BitVec w)

/-- One move of the register, least significant bit first. -/
def stepLsb (r : BitVec w) : BitVec w := if r.getLsbD 0 then (r >>> 1) ^^^ poly else r >>> 1

/-- One move of the register, most significant bit first. -/
def stepMsb (r : BitVec w) : BitVec w := if r.msb then (r <<< 1) ^^^ poly else r <<< 1

/-! ## Mirrored registers -/

/-- The mirror image of a sum. -/
theorem reverse_xor (a b : BitVec w) : (a ^^^ b).reverse = a.reverse ^^^ b.reverse := by
  apply BitVec.eq_of_getLsbD_eq
  intro i hi
  simp only [BitVec.getLsbD_reverse, BitVec.getLsbD_xor, BitVec.getMsbD_xor]

/-- The mirror image of a move up is a move down. -/
theorem reverse_shiftLeft_one (r : BitVec w) : (r <<< 1).reverse = r.reverse >>> 1 := by
  apply BitVec.eq_of_getLsbD_eq
  intro i hi
  rw [BitVec.getLsbD_reverse, BitVec.getMsbD_shiftLeft, BitVec.getLsbD_ushiftRight,
    BitVec.getLsbD_reverse, Nat.add_comm]

/-- **The two ways to write a register are mirror images of each other.** -/
theorem reverse_stepMsb (r : BitVec w) : (stepMsb poly r).reverse = stepLsb poly.reverse r.reverse := by
  have hbit : r.reverse.getLsbD 0 = r.msb := BitVec.getLsbD_reverse
  rw [stepMsb, stepLsb, hbit]
  split
  · rw [reverse_xor, reverse_shiftLeft_one]
  · exact reverse_shiftLeft_one r

/-- So are any number of moves. -/
theorem reverse_iterate_stepMsb (n : ℕ) (r : BitVec w) :
    ((stepMsb poly)^[n] r).reverse = (stepLsb poly.reverse)^[n] r.reverse := by
  induction n generalizing r with
  | zero => rfl
  | succ n ih => rw [Function.iterate_succ_apply, ih, reverse_stepMsb, Function.iterate_succ_apply]

/-- Turning a word round bit by bit, after the first `n` bits. -/
def reverseLoop (src : BitVec w) (n : ℕ) : BitVec w :=
  (List.range n).foldl
    (fun tmp i => if src &&& (1#w <<< i) ≠ 0#w then tmp ||| (1#w <<< (w - 1 - i)) else tmp) 0#w

/-- One more bit. -/
theorem reverseLoop_succ (src : BitVec w) (n : ℕ) :
    reverseLoop src (n + 1) =
      if src.getLsbD n then reverseLoop src n ||| (1#w <<< (w - 1 - n)) else reverseLoop src n := by
  rw [reverseLoop, List.range_succ, List.foldl_append]
  exact if_congr (WordBits.and_mask_ne_zero src n) rfl rfl

/-- The first `n` bits have found their places. -/
theorem getLsbD_reverseLoop (src : BitVec w) {n : ℕ} (hn : n ≤ w) {j : ℕ} (hj : j < w) :
    (reverseLoop src n).getLsbD j = (decide (w - 1 - j < n) && src.getLsbD (w - 1 - j)) := by
  induction n with
  | zero => simp [reverseLoop]
  | succ n ih =>
      have hone : (1#w <<< (w - 1 - n)).getLsbD j = decide (j = w - 1 - n) := by
        have hinside : w - 1 - n < w := by omega
        rw [WordBits.getLsbD_mask, decide_eq_true hinside, Bool.true_and]
        exact decide_eq_decide.mpr eq_comm
      have hrest := ih (Nat.le_of_succ_le hn)
      rw [reverseLoop_succ]
      by_cases h : j = w - 1 - n
      · have hplace : w - 1 - j = n := by omega
        have hnew : ¬ w - 1 - j < n := by omega
        rw [hplace] at hrest ⊢
        split
        · next hbit => rw [BitVec.getLsbD_or, hone, hbit]; simp [h]
        · next hbit => rw [hrest]; simp [hbit]
      · have hold : (w - 1 - j < n + 1) ↔ (w - 1 - j < n) := by omega
        rw [decide_eq_decide.mpr hold, ← hrest]
        split
        · rw [BitVec.getLsbD_or, hone]
          simp [h]
        · rfl

/-- **The loop over all bits turns the word round.** -/
theorem reverseLoop_eq (src : BitVec w) : reverseLoop src w = src.reverse := by
  apply BitVec.eq_of_getLsbD_eq
  intro j hj
  rw [getLsbD_reverseLoop src (Nat.le_refl w) hj, BitVec.getLsbD_reverse, BitVec.getMsbD_eq_getLsbD]
  have hinside : w - 1 - j < w := by omega
  simp [hj, hinside]

/-! ## The move -/

/-- The move respects sums. -/
theorem stepLsb_xor (a b : BitVec w) : stepLsb poly (a ^^^ b) = stepLsb poly a ^^^ stepLsb poly b := by
  have hcancel : (a >>> 1) ^^^ (b >>> 1) = (a >>> 1 ^^^ poly) ^^^ (b >>> 1 ^^^ poly) := by
    rw [BitVec.xor_assoc, BitVec.xor_comm (b >>> 1) poly, ← BitVec.xor_assoc poly poly, BitVec.xor_self,
      BitVec.zero_xor]
  unfold stepLsb
  rw [BitVec.getLsbD_xor, BitVec.ushiftRight_xor_distrib]
  cases a.getLsbD 0 <;> cases b.getLsbD 0
  · rfl
  · exact BitVec.xor_assoc _ _ _
  · show (a >>> 1 ^^^ b >>> 1) ^^^ poly = (a >>> 1 ^^^ poly) ^^^ b >>> 1
    rw [BitVec.xor_assoc, BitVec.xor_comm (b >>> 1), ← BitVec.xor_assoc]
  · exact hcancel

/-- Moving a register down whose lowest bit is clear loses nothing. -/
theorem eq_zero_of_ushiftRight {r : BitVec w} (hlow : r.getLsbD 0 = false) (hrest : r >>> 1 = 0#w) :
    r = 0#w := by
  apply BitVec.eq_of_getLsbD_eq
  intro i hi
  cases i with
  | zero => rw [hlow, BitVec.getLsbD_zero]
  | succ i =>
      have hbit := congrArg (fun v : BitVec w => v.getLsbD i) hrest
      rwa [BitVec.getLsbD_ushiftRight, Nat.add_comm, BitVec.getLsbD_zero, ← BitVec.getLsbD_zero] at hbit

variable {poly}

/-- Only the empty register is emptied by a move. -/
theorem eq_zero_of_stepLsb (hpoly : poly.msb = true) {r : BitVec w} (h : stepLsb poly r = 0#w) :
    r = 0#w := by
  rw [stepLsb] at h
  cases hlow : r.getLsbD 0 with
  | false =>
      rw [hlow] at h
      exact eq_zero_of_ushiftRight hlow h
  | true =>
      -- the polynomial brings in a top bit that the move down cannot have left
      rw [hlow] at h
      have hmsb := congrArg BitVec.msb h
      rw [if_pos rfl, BitVec.msb_xor, BitVec.msb_ushiftRight, hpoly] at hmsb
      simp at hmsb

/-- **The move is injective** where the top bit of the polynomial is set. -/
theorem stepLsb_injective (hpoly : poly.msb = true) : Function.Injective (stepLsb poly) := by
  intro a b hab
  have hdiff : stepLsb poly (a ^^^ b) = 0#w := by rw [stepLsb_xor, hab, BitVec.xor_self]
  exact BitVec.xor_eq_zero_iff.mp (eq_zero_of_stepLsb hpoly hdiff)

/-! ## Messages -/

/-- The register that holds one bit in its lowest place. -/
def bit (w : ℕ) (b : Bool) : BitVec w := if b then 1#w else 0#w

/-- Taking in one bit. -/
def absorb (poly : BitVec w) (r : BitVec w) (b : Bool) : BitVec w := stepLsb poly (r ^^^ bit w b)

/-- Taking in a message. -/
def register (poly : BitVec w) (r : BitVec w) (msg : List Bool) : BitVec w := msg.foldl (absorb poly) r

/-- The register that holds a message from its lowest place on. -/
def word (w : ℕ) : List Bool → BitVec w
  | [] => 0#w
  | b :: msg => bit w b ^^^ (word w msg <<< 1)

/-- A message in two parts is taken in part by part. -/
theorem register_append (r : BitVec w) (msg rest : List Bool) :
    register poly r (msg ++ rest) = register poly (register poly r msg) rest := List.foldl_append

/-- The places of one bit. -/
theorem getLsbD_bit (b : Bool) (i : ℕ) : (bit w b).getLsbD i = (decide (0 < w) && decide (i = 0) && b) := by
  cases b with
  | false => rw [bit, if_neg Bool.false_ne_true, BitVec.getLsbD_zero, Bool.and_false]
  | true =>
      rw [bit, if_pos rfl, BitVec.getLsbD_one, Bool.and_true]

/-- The places of a word are the bits of the message. -/
theorem getLsbD_word (msg : List Bool) {i : ℕ} (hi : i < w) : (word w msg).getLsbD i = msg.getD i false := by
  induction msg generalizing i with
  | nil => simp [word]
  | cons b msg ih =>
      rw [word, BitVec.getLsbD_xor, BitVec.getLsbD_shiftLeft, getLsbD_bit]
      cases i with
      | zero => simp [hi]
      | succ i =>
          have hlow := ih (Nat.lt_of_succ_lt hi)
          simp [hi, hlow]

/-- Messages that fit the register are told by their words. -/
theorem word_injOn {msg msg' : List Bool} (hlength : msg.length = msg'.length) (hfit : msg.length ≤ w)
    (hword : word w msg = word w msg') : msg = msg' := by
  refine List.ext_getElem hlength fun i hi hi' => ?_
  have hbit := congrArg (fun v : BitVec w => v.getLsbD i) hword
  simp only [getLsbD_word _ (Nat.lt_of_lt_of_le hi hfit)] at hbit
  rwa [List.getD_eq_getElem?_getD, List.getD_eq_getElem?_getD, List.getElem?_eq_getElem hi,
    List.getElem?_eq_getElem hi'] at hbit

/-- **A message that fits the register may be added at once** and moved through it afterwards. -/
theorem register_eq_iterate (r : BitVec w) {msg : List Bool} (hfit : msg.length ≤ w) :
    register poly r msg = (stepLsb poly)^[msg.length] (r ^^^ word w msg) := by
  induction msg generalizing r with
  | nil => exact (BitVec.xor_zero).symm
  | cons b msg ih =>
      have hfit : msg.length < w := hfit
      -- the rest of the message stands one place up, and its top bit is still inside
      have hrest : stepLsb poly (word w msg <<< 1) = word w msg := by
        have hlow : (word w msg <<< 1).getLsbD 0 = false := by
          rw [BitVec.getLsbD_shiftLeft]
          simp
        rw [stepLsb, hlow, if_neg Bool.false_ne_true]
        apply BitVec.eq_of_getLsbD_eq
        intro i hi
        rw [BitVec.getLsbD_ushiftRight, BitVec.getLsbD_shiftLeft, getLsbD_word _ hi]
        by_cases htop : 1 + i < w
        · have hi' : 1 + i - 1 = i := by omega
          rw [hi', getLsbD_word _ hi]
          simp [htop]
        · have hnone : msg.length ≤ i := by omega
          simp [htop, hnone]
      calc register poly r (b :: msg)
          = register poly (stepLsb poly (r ^^^ bit w b)) msg := rfl
        _ = (stepLsb poly)^[msg.length] (stepLsb poly (r ^^^ bit w b) ^^^ word w msg) :=
            ih _ (Nat.le_of_lt hfit)
        _ = (stepLsb poly)^[msg.length] (stepLsb poly (r ^^^ word w (b :: msg))) := by
            rw [word, ← BitVec.xor_assoc, stepLsb_xor poly (r ^^^ bit w b), hrest]
        _ = (stepLsb poly)^[(b :: msg).length] (r ^^^ word w (b :: msg)) := rfl

/-! ## Bursts -/

/-- Taking in a message keeps different registers apart. -/
theorem register_injective (hpoly : poly.msb = true) (msg : List Bool) :
    Function.Injective fun r => register poly r msg := by
  induction msg with
  | nil => exact Function.injective_id
  | cons b msg ih =>
      intro r r' h
      exact (BitVec.xor_left_inj _).mp (stepLsb_injective hpoly (ih h))

/-- Different messages that fit the register leave it different. -/
theorem register_injOn (hpoly : poly.msb = true) (r : BitVec w) {msg msg' : List Bool}
    (hlength : msg.length = msg'.length) (hfit : msg.length ≤ w)
    (h : register poly r msg = register poly r msg') : msg = msg' := by
  rw [register_eq_iterate r hfit, register_eq_iterate r (hlength ▸ hfit), ← hlength] at h
  exact word_injOn hlength hfit ((BitVec.xor_right_inj _).mp ((stepLsb_injective hpoly).iterate _ h))

/-- **Every burst of at most `w` bits is detected**, wherever it stands in the message. -/
theorem register_ne_of_burst (hpoly : poly.msb = true) (r : BitVec w) {msg msg' : List Bool}
    (hlength : msg.length = msg'.length) (hne : msg ≠ msg') {start : ℕ}
    (hburst : ∀ i, msg[i]? ≠ msg'[i]? → start ≤ i ∧ i < start + w) :
    register poly r msg ≠ register poly r msg' := by
  intro h
  have hfront : msg.take start = msg'.take start := by
    refine List.ext_getElem? fun i => ?_
    rw [List.getElem?_take, List.getElem?_take]
    by_contra hdiff
    split at hdiff
    · next hlt => exact absurd (hburst i hdiff).1 (by omega)
    · exact hdiff rfl
  have hback : msg.drop (start + w) = msg'.drop (start + w) := by
    refine List.ext_getElem? fun i => ?_
    rw [List.getElem?_drop, List.getElem?_drop]
    by_contra hdiff
    exact absurd (hburst _ hdiff).2 (by omega)
  have hcut : ∀ l : List Bool, l = l.take start ++ ((l.drop start).take w ++ l.drop (start + w)) := by
    intro l
    rw [← List.drop_drop, List.take_append_drop, List.take_append_drop]
  rw [hcut msg, hcut msg', hfront, hback, register_append, register_append, register_append,
    register_append] at h
  have hmiddle := register_injOn hpoly _ (by simp [hlength])
    (List.length_take_le _ _) (register_injective hpoly _ h)
  apply hne
  rw [hcut msg, hcut msg', hfront, hback, hmiddle]

end ShiftRegister
