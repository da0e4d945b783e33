import Mathlib.Data.List.GetD
import Mathlib.Tactic.Common

/-! # Bytes of packed records

The bytes of a text and of 16- and 32-bit words in the two byte orders, and `split`, which cuts a field of a
fixed length off the front of a byte string. A packed record is written as a concatenation of its
fields and read back field by field; `split_append` and `splitByte_cons` turn the read into the
record that was written. -/

namespace ByteLayout

/-! ## Texts -/

/-- The bytes of a text of ASCII characters. -/
def ascii (s : String) : List UInt8 := s.toList.map fun c => c.toNat.toUInt8

/-! ## Words -/

/-- A 16-bit word, low byte first. -/
def u16le (x : UInt16) : List UInt8 := [x.toUInt8, (x >>> 8).toUInt8]

/-- A 16-bit word, high byte first. -/
def u16be (x : UInt16) : List UInt8 := [(x >>> 8).toUInt8, x.toUInt8]

/-- A 32-bit word, low byte first. -/
def u32le (x : UInt32) : List UInt8 :=
  [x.toUInt8, (x >>> 8).toUInt8, (x >>> 16).toUInt8, (x >>> 24).toUInt8]

/-- The two bytes of a 16-bit word exchanged. -/
def swap16 (x : UInt16) : UInt16 := (x <<< 8) ||| (x >>> 8)

/-- The 16-bit word whose high byte is `hi` and low byte `lo`. -/
def ofBytes16 (hi lo : UInt8) : UInt16 := (hi.toUInt16 <<< 8) ||| lo.toUInt16

/-- The 32-bit word stored low byte first at the front of `bs`. -/
def ofU32le (bs : List UInt8) : UInt32 :=
  (bs.getD 0 0).toUInt32 ||| (bs.getD 1 0).toUInt32 <<< 8 ||| (bs.getD 2 0).toUInt32 <<< 16 |||
    (bs.getD 3 0).toUInt32 <<< 24

@[simp] theorem length_u16le (x : UInt16) : (u16le x).length = 2 := rfl

@[simp] theorem length_u16be (x : UInt16) : (u16be x).length = 2 := rfl

@[simp] theorem length_u32le (x : UInt32) : (u32le x).length = 4 := rfl

/-- The high byte of an exchanged word is the low byte of the word. -/
theorem swap16_hi (x : UInt16) : (swap16 x >>> 8).toUInt8 = x.toUInt8 := by
  rw [← UInt8.toBitVec_inj]
  simp only [swap16, UInt16.toBitVec_toUInt8, UInt16.toBitVec_shiftRight, UInt16.toBitVec_or,
    UInt16.toBitVec_shiftLeft]
  generalize x.toBitVec = v
  ext i hi
  have hout : v.getLsbD (8 + (8 + i)) = false := BitVec.getLsbD_of_ge _ _ (by omega)
  simp [hout]
  omega

/-- The low byte of an exchanged word is the high byte of the word. -/
theorem swap16_lo (x : UInt16) : (swap16 x).toUInt8 = (x >>> 8).toUInt8 := by
  rw [← UInt8.toBitVec_inj]
  simp only [swap16, UInt16.toBitVec_toUInt8, UInt16.toBitVec_shiftRight, UInt16.toBitVec_or,
    UInt16.toBitVec_shiftLeft]
  generalize x.toBitVec = v
  ext i hi
  simp

/-- **A word stored exchanged lies in memory high byte first.** -/
@[simp] theorem u16le_swap16 (x : UInt16) : u16le (swap16 x) = u16be x := by
  rw [u16le, u16be, swap16_hi, swap16_lo]

/-- Two bytes put together again. -/
theorem ofBytes16_toBytes (x : UInt16) : ofBytes16 (x >>> 8).toUInt8 x.toUInt8 = x := by
  rw [← UInt16.toBitVec_inj]
  simp only [ofBytes16, UInt16.toBitVec_or, UInt16.toBitVec_shiftLeft, UInt8.toBitVec_toUInt16,
    UInt16.toBitVec_toUInt8, UInt16.toBitVec_shiftRight]
  generalize x.toBitVec = v
  ext i hi
  simp
  grind

/-- A word made of two bytes taken apart again. -/
@[simp] theorem u16le_ofBytes16 (hi lo : UInt8) : u16le (ofBytes16 hi lo) = [lo, hi] := by
  have hlo : (ofBytes16 hi lo).toUInt8 = lo := by
    rw [← UInt8.toBitVec_inj]
    simp only [ofBytes16, UInt16.toBitVec_toUInt8, UInt16.toBitVec_or, UInt16.toBitVec_shiftLeft,
      UInt8.toBitVec_toUInt16]
    ext i hbit
    simp
  have hhi : (ofBytes16 hi lo >>> 8).toUInt8 = hi := by
    rw [← UInt8.toBitVec_inj]
    simp only [ofBytes16, UInt16.toBitVec_toUInt8, UInt16.toBitVec_or, UInt16.toBitVec_shiftLeft,
      UInt16.toBitVec_shiftRight, UInt8.toBitVec_toUInt16]
    ext i hbit
    have hword : i < 16 := by omega
    have hshift : 8 + i < 16 := by omega
    simp [hbit, hword, hshift]
  rw [u16le, hlo, hhi]

/-- Four bytes put together again. -/
@[simp] theorem ofU32le_u32le (x : UInt32) : ofU32le (u32le x) = x := by
  rw [← UInt32.toBitVec_inj]
  simp only [ofU32le, u32le, List.getD_cons_zero, List.getD_cons_succ, UInt32.toBitVec_or,
    UInt32.toBitVec_shiftLeft, UInt8.toBitVec_toUInt32, UInt32.toBitVec_toUInt8,
    UInt32.toBitVec_shiftRight]
  generalize x.toBitVec = v
  ext i hi
  simp
  grind

/-! ## Fields of a record -/

/-- Cut a field of `n` bytes off the front of `bs`; missing bytes read as zero. -/
def split (n : ℕ) (bs : List UInt8) : Vector UInt8 n × List UInt8 :=
  (Vector.ofFn fun i => bs.getD i 0, bs.drop n)

/-- A byte behind a field. -/
theorem getD_append_add (front bs : List UInt8) (k : ℕ) :
    (front ++ bs).getD (front.length + k) 0 = bs.getD k 0 := by
  rw [List.getD_append_right _ _ _ _ (Nat.le_add_right _ _), Nat.add_sub_cancel_left]

/-- A byte behind bytes that are skipped. -/
theorem getD_drop (n i : ℕ) (bs : List UInt8) : (bs.drop n).getD i 0 = bs.getD (n + i) 0 := by
  rw [List.getD_eq_getElem?_getD, List.getElem?_drop, ← List.getD_eq_getElem?_getD]

/-- The `n` bytes from offset `off` on. -/
def bytesAt (off n : ℕ) (bs : List UInt8) : List UInt8 := (bs.drop off).take n

/-- Missing bytes apart, `split` cuts off the first bytes. -/
theorem toList_split {n off : ℕ} {bs : List UInt8} (hlen : off + n ≤ bs.length) :
    (split n (bs.drop off)).1.toList = bytesAt off n bs := by
  apply List.ext_getElem
  · rw [Vector.length_toList, bytesAt, List.length_take, List.length_drop]
    omega
  · intro i hi hbytes
    rw [Vector.length_toList] at hi
    have hoff : off + i < bs.length := by omega
    simp only [split, Vector.getElem_toList, Vector.getElem_ofFn, bytesAt, List.getElem_take,
      List.getElem_drop, getD_drop, List.getD_eq_getElem _ _ hoff]

/-- A field of one byte. -/
theorem singleton_getD_drop {off : ℕ} {bs : List UInt8} (hlen : off + 1 ≤ bs.length) :
    [(bs.drop off).getD 0 0] = bytesAt off 1 bs := by
  rw [bytesAt, List.drop_eq_getElem_cons hlen, List.getD_cons_zero, List.take_succ_cons, List.take_zero]

/-- **The bytes that stand between two parts.** -/
theorem bytesAt_append {off n : ℕ} {front mid : List UInt8} (hfront : front.length = off)
    (hmid : mid.length = n) (rest : List UInt8) :
    bytesAt off n (front ++ (mid ++ rest)) = mid := by
  rw [bytesAt, List.drop_left' hfront, List.take_left' hmid]

/-- **A field of an array** whose entries have one length. -/
theorem bytesAt_flatMap {α : Type} {f : α → List UInt8} {n : ℕ} (hf : ∀ x, (f x).length = n)
    (xs : List α) {i : ℕ} (hi : i < xs.length) : bytesAt (n * i) n (xs.flatMap f) = f xs[i] := by
  induction xs generalizing i with
  | nil => exact absurd hi (Nat.not_lt_zero i)
  | cons x xs ih =>
      cases i with
      | zero =>
          rw [bytesAt, Nat.mul_zero, List.drop_zero, List.flatMap_cons, List.take_left' (hf x)]
          rfl
      | succ i =>
          rw [List.length_cons] at hi
          rw [List.getElem_cons_succ, ← ih (Nat.lt_of_succ_lt_succ hi), bytesAt, bytesAt,
            List.flatMap_cons, Nat.mul_succ, Nat.add_comm, ← List.drop_drop, List.drop_left' (hf x)]

/-- Cut one byte off the front of `bs`. -/
def splitByte (bs : List UInt8) : UInt8 × List UInt8 := (bs.getD 0 0, bs.drop 1)

/-- **The field written first is read first.** -/
@[simp] theorem split_append {n : ℕ} (v : Vector UInt8 n) (bs : List UInt8) :
    split n (v.toList ++ bs) = (v, bs) := by
  have hdrop : (v.toList ++ bs).drop n = bs := List.drop_left' Vector.length_toList
  rw [split, hdrop, Prod.mk.injEq, and_iff_left rfl]
  apply Vector.ext
  intro i hi
  have hget : i < v.toList.length := by rwa [Vector.length_toList]
  rw [Vector.getElem_ofFn, List.getD_append _ _ _ _ hget, List.getD_eq_getElem _ _ hget,
    Vector.getElem_toList]

/-- A byte written first is read first. -/
@[simp] theorem splitByte_cons (b : UInt8) (bs : List UInt8) : splitByte (b :: bs) = (b, bs) := rfl

end ByteLayout
