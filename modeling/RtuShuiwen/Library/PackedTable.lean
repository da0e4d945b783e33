import Mathlib.Algebra.Ring.Nat
import RtuShuiwen.Library.CellMemory

/-! # Tables of 12-, 16- and 28-bit entries

Numbers packed into bytes, low byte first: two 12-bit entries in three bytes, a 16-bit entry in two, and a 28-bit
entry in four, whose upper four bits belong to nobody. `get_put_self` and `get_put_ne` say that an entry that was
set has the new value and all others keep theirs; for 12-bit entries the second of these holds also when only the
first byte was written (`get_put12First`). -/

namespace PackedTable

open CellMemory

/-! ## Bytes -/

/-- The low half of a byte. -/
theorem toNat_and_low (p : UInt8) : (p &&& 0x0F).toNat = p.toNat % 16 := by
  rw [UInt8.toNat_and]
  exact Nat.and_two_pow_sub_one_eq_mod p.toNat 4

/-- The high half of a byte. -/
theorem toNat_and_high (p : UInt8) : (p &&& 0xF0).toNat = 16 * (p.toNat / 16) := by
  have h : ∀ n < 256, n &&& 240 = 16 * (n / 16) := by decide +kernel
  rw [UInt8.toNat_and]
  exact h _ p.toNat_lt

/-- Two halves put together. -/
theorem toNat_or_halves {p q : UInt8} {a b : ℕ} (hp : p.toNat = 16 * a) (hq : q.toNat = b) (hb : b < 16) :
    (p ||| q).toNat = 16 * a + b := by
  rw [UInt8.toNat_or, hp, hq]
  exact (Nat.two_pow_add_eq_or_of_lt (i := 4) hb a).symm

/-- The low half of a byte in the place of the high one. -/
theorem toNat_shiftLeft_four (p : UInt8) : (p <<< 4).toNat = 16 * (p.toNat % 16) := by
  have hshift : (p <<< 4).toNat = p.toNat <<< 4 % 256 := UInt8.toNat_shiftLeft p 4
  rw [hshift, Nat.shiftLeft_eq]
  omega

/-! ## Entries -/

/-- The 16-bit word at a place. -/
def getWord (m : CellMemory UInt8) (i : ℕ) : ℕ := (m (i + 1)).toNat <<< 8 ||| (m i).toNat

/-- The 32-bit word at a place. -/
def getDword (m : CellMemory UInt8) (i : ℕ) : ℕ :=
  (m (i + 3)).toNat <<< 24 ||| (m (i + 2)).toNat <<< 16 ||| (m (i + 1)).toNat <<< 8 ||| (m i).toNat

/-- The bytes of a 16-bit word. -/
def wordBytes (v : ℕ) : List UInt8 := [UInt8.ofNat v, UInt8.ofNat (v >>> 8)]

/-- The bytes of a 32-bit word. -/
def dwordBytes (v : ℕ) : List UInt8 :=
  [UInt8.ofNat v, UInt8.ofNat (v >>> 8), UInt8.ofNat (v >>> 16), UInt8.ofNat (v >>> 24)]

/-- The 12-bit entry in two bytes. -/
def join12 (odd : Bool) (p q : UInt8) : ℕ :=
  if odd then (p.toNat ||| q.toNat <<< 8) >>> 4 else (p.toNat ||| q.toNat <<< 8) &&& 0xFFF

/-- The first byte of a 12-bit entry that is set. -/
def first12 (odd : Bool) (p : UInt8) (v : ℕ) : UInt8 :=
  if odd then (p &&& (0x0F : UInt8)) ||| (UInt8.ofNat v <<< (4 : UInt8)) else UInt8.ofNat v

/-- The second byte. -/
def second12 (odd : Bool) (q : UInt8) (v : ℕ) : UInt8 :=
  if odd then UInt8.ofNat (v >>> 4) else (q &&& (0xF0 : UInt8)) ||| (UInt8.ofNat (v >>> 8) &&& (0x0F : UInt8))

/-- The bytes of a word. -/
theorem getWord_eq (m : CellMemory UInt8) (i : ℕ) : getWord m i = (m i).toNat + 256 * (m (i + 1)).toNat := by
  rw [getWord, Nat.shiftLeft_eq, Nat.mul_comm, ← Nat.two_pow_add_eq_or_of_lt (m i).toNat_lt]
  omega

/-- The bytes of a double word. -/
theorem getDword_eq (m : CellMemory UInt8) (i : ℕ) : getDword m i =
    (m i).toNat + 256 * (m (i + 1)).toNat + 65536 * (m (i + 2)).toNat + 16777216 * (m (i + 3)).toNat := by
  have h0 := (m i).toNat_lt
  have h1 := (m (i + 1)).toNat_lt
  have h2 := (m (i + 2)).toNat_lt
  have hlow : (m (i + 1)).toNat <<< 8 ||| (m i).toNat = 2 ^ 8 * (m (i + 1)).toNat + (m i).toNat := by
    rw [Nat.shiftLeft_eq, Nat.mul_comm, ← Nat.two_pow_add_eq_or_of_lt h0]
  have hmid : (m (i + 2)).toNat <<< 16 ||| (2 ^ 8 * (m (i + 1)).toNat + (m i).toNat) =
      2 ^ 16 * (m (i + 2)).toNat + (2 ^ 8 * (m (i + 1)).toNat + (m i).toNat) := by
    rw [Nat.shiftLeft_eq, Nat.mul_comm, ← Nat.two_pow_add_eq_or_of_lt (by omega)]
  rw [getDword, Nat.or_assoc, Nat.or_assoc, hlow, hmid, Nat.shiftLeft_eq, Nat.mul_comm,
    ← Nat.two_pow_add_eq_or_of_lt (by omega)]
  omega

/-- A word that was written is read. -/
theorem getWord_patch (m : CellMemory UInt8) (i v : ℕ) : getWord (patch m i (wordBytes v)) i = v % 2 ^ 16 := by
  have h0 : patch m i (wordBytes v) i = UInt8.ofNat v := patch_add m i (wordBytes v) 0 (by simp [wordBytes])
  have h1 : patch m i (wordBytes v) (i + 1) = UInt8.ofNat (v >>> 8) :=
    patch_add m i (wordBytes v) 1 (by simp [wordBytes])
  rw [getWord_eq, h0, h1, UInt8.toNat_ofNat', UInt8.toNat_ofNat', Nat.shiftRight_eq_div_pow]
  omega

/-- So is a double word. -/
theorem getDword_patch (m : CellMemory UInt8) (i v : ℕ) : getDword (patch m i (dwordBytes v)) i = v % 2 ^ 32 := by
  have h0 : patch m i (dwordBytes v) i = UInt8.ofNat v := patch_add m i (dwordBytes v) 0 (by simp [dwordBytes])
  have h1 : patch m i (dwordBytes v) (i + 1) = UInt8.ofNat (v >>> 8) :=
    patch_add m i (dwordBytes v) 1 (by simp [dwordBytes])
  have h2 : patch m i (dwordBytes v) (i + 2) = UInt8.ofNat (v >>> 16) :=
    patch_add m i (dwordBytes v) 2 (by simp [dwordBytes])
  have h3 : patch m i (dwordBytes v) (i + 3) = UInt8.ofNat (v >>> 24) :=
    patch_add m i (dwordBytes v) 3 (by simp [dwordBytes])
  rw [getDword_eq, h0, h1, h2, h3, UInt8.toNat_ofNat', UInt8.toNat_ofNat', UInt8.toNat_ofNat', UInt8.toNat_ofNat',
    Nat.shiftRight_eq_div_pow, Nat.shiftRight_eq_div_pow, Nat.shiftRight_eq_div_pow]
  omega

/-- The halves of a 12-bit entry. -/
theorem join12_eq (odd : Bool) (p q : UInt8) : join12 odd p q =
    if odd then p.toNat / 16 + 16 * q.toNat else p.toNat + 256 * (q.toNat % 16) := by
  have hp := p.toNat_lt
  have hor : p.toNat ||| q.toNat <<< 8 = 256 * q.toNat + p.toNat := by
    rw [Nat.or_comm, Nat.shiftLeft_eq, Nat.mul_comm]
    exact (Nat.two_pow_add_eq_or_of_lt (i := 8) hp _).symm
  rw [join12, hor]
  cases odd with
  | true =>
      rw [if_pos rfl, if_pos rfl, Nat.shiftRight_eq_div_pow]
      omega
  | false =>
      rw [if_neg Bool.false_ne_true, if_neg Bool.false_ne_true]
      refine (Nat.and_two_pow_sub_one_eq_mod _ 12).trans ?_
      omega

/-- The first byte of a 12-bit entry. -/
theorem toNat_first12 (odd : Bool) (p : UInt8) (v : ℕ) : (first12 odd p v).toNat =
    if odd then p.toNat % 16 + 16 * (v % 16) else v % 256 := by
  cases odd with
  | true =>
      have hlow : (p &&& (0x0F : UInt8)).toNat = p.toNat % 16 := toNat_and_low p
      have hhigh : (UInt8.ofNat v <<< (4 : UInt8)).toNat = 16 * (v % 16) := by
        rw [toNat_shiftLeft_four, UInt8.toNat_ofNat']
        omega
      rw [first12, if_pos rfl, if_pos rfl, UInt8.or_comm, toNat_or_halves hhigh hlow (Nat.mod_lt _ (by decide)),
        Nat.add_comm]
  | false => exact UInt8.toNat_ofNat'

/-- The second byte. -/
theorem toNat_second12 (odd : Bool) (q : UInt8) (v : ℕ) : (second12 odd q v).toNat =
    if odd then v / 16 % 256 else 16 * (q.toNat / 16) + v / 256 % 16 := by
  cases odd with
  | true =>
      rw [second12, if_pos rfl, if_pos rfl, UInt8.toNat_ofNat', Nat.shiftRight_eq_div_pow]
  | false =>
      have hlow : (UInt8.ofNat (v >>> 8) &&& (0x0F : UInt8)).toNat = v / 256 % 16 := by
        rw [toNat_and_low, UInt8.toNat_ofNat', Nat.shiftRight_eq_div_pow]
        omega
      rw [second12, if_neg Bool.false_ne_true, if_neg Bool.false_ne_true,
        toNat_or_halves (toNat_and_high q) hlow (Nat.mod_lt _ (by decide))]

/-! ## Tables -/

/-- The width of the entries. -/
inductive Width
  | twelve
  | sixteen
  | twentyEight
  deriving DecidableEq, Repr

namespace Width

/-- The bits of an entry. -/
def bits : Width → ℕ
  | twelve => 12
  | sixteen => 16
  | twentyEight => 28

/-- The first byte of an entry. -/
def start (c : ℕ) : Width → ℕ
  | twelve => c + c / 2
  | sixteen => c * 2
  | twentyEight => c * 4

/-- The bytes of an entry. -/
def size : Width → ℕ
  | twelve | sixteen => 2
  | twentyEight => 4

end Width

/-- An entry of a table. -/
def get (m : CellMemory UInt8) (c : ℕ) : Width → ℕ
  | .twelve => join12 (c % 2 = 1) (m (c + c / 2)) (m (c + c / 2 + 1))
  | .sixteen => getWord m (c * 2)
  | .twentyEight => getDword m (c * 4) &&& 0x0FFFFFFF

/-- The bytes of an entry that is set. -/
def putBytes (m : CellMemory UInt8) (c v : ℕ) : Width → List UInt8
  | .twelve => [first12 (c % 2 = 1) (m (c + c / 2)) v, second12 (c % 2 = 1) (m (c + c / 2 + 1)) v]
  | .sixteen => wordBytes v
  | .twentyEight => dwordBytes (v ||| (getDword m (c * 4) &&& 0xF0000000))

@[simp] theorem length_putBytes (m : CellMemory UInt8) (c v : ℕ) (w : Width) :
    (putBytes m c v w).length = w.size := by
  cases w <;> rfl

/-- An entry is set. -/
def put (m : CellMemory UInt8) (c v : ℕ) (w : Width) : CellMemory UInt8 := patch m (w.start c) (putBytes m c v w)

/-- Only the first byte of a 12-bit entry is written. -/
def put12First (m : CellMemory UInt8) (c v : ℕ) : CellMemory UInt8 :=
  patch m (c + c / 2) [first12 (c % 2 = 1) (m (c + c / 2)) v]

/-- An entry depends on its bytes only. -/
theorem get_congr {m m' : CellMemory UInt8} {c : ℕ} {w : Width}
    (h : ∀ i < w.size, m' (w.start c + i) = m (w.start c + i)) : get m' c w = get m c w := by
  cases w with
  | twelve =>
      have h0 : m' (c + c / 2) = m (c + c / 2) := h 0 (by decide)
      have h1 : m' (c + c / 2 + 1) = m (c + c / 2 + 1) := h 1 (by decide)
      rw [get, get, h0, h1]
  | sixteen =>
      have h0 : m' (c * 2) = m (c * 2) := h 0 (by decide)
      have h1 : m' (c * 2 + 1) = m (c * 2 + 1) := h 1 (by decide)
      rw [get, get, getWord, getWord, h0, h1]
  | twentyEight =>
      have h0 : m' (c * 4) = m (c * 4) := h 0 (by decide)
      have h1 : m' (c * 4 + 1) = m (c * 4 + 1) := h 1 (by decide)
      have h2 : m' (c * 4 + 2) = m (c * 4 + 2) := h 2 (by decide)
      have h3 : m' (c * 4 + 3) = m (c * 4 + 3) := h 3 (by decide)
      rw [get, get, getDword, getDword, h0, h1, h2, h3]

/-- An entry has no more bits than its width. -/
theorem get_lt (m : CellMemory UInt8) (c : ℕ) (w : Width) : get m c w < 2 ^ w.bits := by
  cases w with
  | twelve =>
      have hp := (m (c + c / 2)).toNat_lt
      have hq := (m (c + c / 2 + 1)).toNat_lt
      rw [get, join12_eq, Width.bits]
      split <;> omega
  | sixteen =>
      have hp := (m (c * 2)).toNat_lt
      have hq := (m (c * 2 + 1)).toNat_lt
      rw [get, getWord_eq, Width.bits]
      omega
  | twentyEight =>
      have hmod : getDword m (c * 4) &&& 0x0FFFFFFF = getDword m (c * 4) % 2 ^ 28 :=
        Nat.and_two_pow_sub_one_eq_mod _ 28
      rw [get, hmod]
      exact Nat.mod_lt _ (Nat.two_pow_pos 28)

/-- **An entry that was set has the new value.** -/
theorem get_put_self (m : CellMemory UInt8) (c : ℕ) {v : ℕ} (hv : v < 2 ^ 28) (w : Width) :
    get (put m c v w) c w = v % 2 ^ w.bits := by
  cases w with
  | twelve =>
      have h0 : put m c v .twelve (c + c / 2) = first12 (c % 2 = 1) (m (c + c / 2)) v :=
        patch_add m _ [_, _] 0 (by simp)
      have h1 : put m c v .twelve (c + c / 2 + 1) = second12 (c % 2 = 1) (m (c + c / 2 + 1)) v :=
        patch_add m _ [_, _] 1 (by simp)
      rw [get, h0, h1, join12_eq, toNat_first12, toNat_second12, Width.bits]
      split <;> omega
  | sixteen => exact getWord_patch m (c * 2) v
  | twentyEight =>
      have hhigh : (getDword m (c * 4) &&& 0xF0000000) % 2 ^ 28 = 0 := by
        rw [Nat.and_mod_two_pow]
        exact Nat.and_zero _
      have hlow : (v ||| (getDword m (c * 4) &&& 0xF0000000)) % 2 ^ 28 = v := by
        rw [Nat.or_mod_two_pow, hhigh, Nat.or_zero, Nat.mod_eq_of_lt hv]
      have hget : get (put m c v .twentyEight) c .twentyEight =
          (v ||| (getDword m (c * 4) &&& 0xF0000000)) % 2 ^ 32 &&& 0x0FFFFFFF :=
        congrArg (· &&& 0x0FFFFFFF) (getDword_patch m (c * 4) _)
      refine hget.trans ((Nat.and_two_pow_sub_one_eq_mod _ 28).trans ?_)
      rw [Nat.mod_mod_of_dvd _ (by decide : 2 ^ 28 ∣ 2 ^ 32), hlow]
      exact (Nat.mod_eq_of_lt hv).symm

/-- Two 12-bit entries share a byte at most, of which each has one half. -/
theorem get_twelve_congr {m m' : CellMemory UInt8} {c : ℕ}
    (hfirst : (m' (c + c / 2)).toNat / 16 = (m (c + c / 2)).toNat / 16)
    (hsecond : (m' (c + c / 2 + 1)).toNat % 16 = (m (c + c / 2 + 1)).toNat % 16)
    (heven : c % 2 = 0 → m' (c + c / 2) = m (c + c / 2))
    (hodd : c % 2 = 1 → m' (c + c / 2 + 1) = m (c + c / 2 + 1)) : get m' c .twelve = get m c .twelve := by
  rw [get, get, join12_eq, join12_eq]
  obtain hc | hc := Nat.mod_two_eq_zero_or_one c
  · rw [heven hc, hsecond, hc]
    rfl
  · rw [hodd hc, hfirst, hc]
    rfl

/-- **The others keep their values**, even if only the first byte is written. -/
theorem get_put12First (m : CellMemory UInt8) {c c' : ℕ} (hne : c' ≠ c) (v : ℕ) :
    get (put12First m c v) c' .twelve = get m c' .twelve := by
  have hself : put12First m c v (c + c / 2) = first12 (c % 2 = 1) (m (c + c / 2)) v :=
    patch_add m _ [_] 0 Nat.one_pos
  have hother : ∀ x, x ≠ c + c / 2 → put12First m c v x = m x := by
    intro x hx
    rw [put12First, patch_singleton, Function.update_of_ne hx]
  have hbefore : c' + c' / 2 ≠ c + c / 2 := by omega
  by_cases hshared : c' + c' / 2 + 1 = c + c / 2
  · -- the entry before, whose second half is in the byte
    have hodd : c % 2 = 1 := by omega
    refine get_twelve_congr (by rw [hother _ hbefore]) ?_ (fun _ => hother _ hbefore) (by omega)
    rw [hshared, hself, toNat_first12, hodd, if_pos (by decide)]
    omega
  · exact get_twelve_congr (by rw [hother _ hbefore]) (by rw [hother _ hshared]) (fun _ => hother _ hbefore)
      fun _ => hother _ hshared

/-- **The others keep their values.** -/
theorem get_put_ne (m : CellMemory UInt8) {c c' : ℕ} (hne : c' ≠ c) (v : ℕ) (w : Width) :
    get (put m c v w) c' w = get m c' w := by
  cases w with
  | twelve =>
      have hsplit : put m c v .twelve =
          patch (put12First m c v) (c + c / 2 + 1) [second12 (c % 2 = 1) (m (c + c / 2 + 1)) v] :=
        patch_append m (c + c / 2) [_] [_]
      have hself : put m c v .twelve (c + c / 2 + 1) = second12 (c % 2 = 1) (m (c + c / 2 + 1)) v :=
        patch_add m _ [_, _] 1 (by simp)
      have hother : ∀ x, x ≠ c + c / 2 + 1 → put m c v .twelve x = put12First m c v x := by
        intro x hx
        rw [hsplit, patch_singleton, Function.update_of_ne hx]
      have hkept : put12First m c v (c + c / 2 + 1) = m (c + c / 2 + 1) := by
        rw [put12First, patch_singleton, Function.update_of_ne (by omega)]
      rw [← get_put12First m hne v]
      have hafter : c' + c' / 2 + 1 ≠ c + c / 2 + 1 := by omega
      by_cases hshared : c' + c' / 2 = c + c / 2 + 1
      · -- the entry behind, whose first half is in the byte
        have heven : c % 2 = 0 := by omega
        refine get_twelve_congr ?_ (by rw [hother _ hafter]) (by omega) fun _ => hother _ hafter
        rw [hshared, hself, hkept, toNat_second12, heven, if_neg (by decide)]
        omega
      · exact get_twelve_congr (by rw [hother _ hshared]) (by rw [hother _ hafter]) (fun _ => hother _ hshared)
          fun _ => hother _ hafter
  | sixteen =>
      refine get_congr fun i hi => ?_
      have hi : i < 2 := hi
      obtain hlt | hgt := Nat.lt_or_gt_of_ne hne
      · exact patch_of_lt m _ (by change c' * 2 + i < c * 2; omega)
      · exact patch_of_ge m _ (by change c * 2 + 2 ≤ c' * 2 + i; omega)
  | twentyEight =>
      refine get_congr fun i hi => ?_
      have hi : i < 4 := hi
      obtain hlt | hgt := Nat.lt_or_gt_of_ne hne
      · exact patch_of_lt m _ (by change c' * 4 + i < c * 4; omega)
      · exact patch_of_ge m _ (by change c * 4 + 4 ≤ c' * 4 + i; omega)

end PackedTable
