import Mathlib.Tactic.Linarith
import Mathlib.Tactic.Ring

/-! # Binary-coded decimal bytes

A byte whose two nibbles are decimal digits codes a number below 100. `value` decodes, `ofNat`
encodes; on valid bytes they are inverse to each other and keep the order, so such bytes may be
compared without decoding them. `packed` is the number whose hexadecimal digits are the decimal digits
of another, and `field` the bytes of such a number, highest first. -/

namespace Bcd

/-- Both nibbles of the byte are decimal digits. -/
def IsDigits (b : UInt8) : Prop := b.toNat / 16 < 10 ∧ b.toNat % 16 < 10

instance (b : UInt8) : Decidable (IsDigits b) := by unfold IsDigits; infer_instance

/-- A list of bytes is checked byte by byte, not over all bytes there are. -/
instance (bytes : List UInt8) : Decidable (∀ b ∈ bytes, IsDigits b) := List.decidableBAll _ bytes

/-- The number a byte codes, ten times its high nibble plus its low one. -/
def value (b : UInt8) : ℕ := b.toNat / 16 * 10 + b.toNat % 16

/-- The byte that codes a number below 100. -/
def ofNat (n : ℕ) : UInt8 := UInt8.ofNat (n / 10 * 16 + n % 10)

/-- The bits of an encoded number. -/
theorem toNat_ofNat {n : ℕ} (h : n < 100) : (ofNat n).toNat = n / 10 * 16 + n % 10 := by
  rw [ofNat, UInt8.toNat_ofNat']
  omega

/-- Encoding gives decimal digits. -/
theorem isDigits_ofNat {n : ℕ} (h : n < 100) : IsDigits (ofNat n) := by
  rw [IsDigits, toNat_ofNat h]
  omega

/-- Decoding inverts encoding. -/
theorem value_ofNat {n : ℕ} (h : n < 100) : value (ofNat n) = n := by
  rw [value, toNat_ofNat h]
  omega

/-- Different numbers are encoded differently. -/
theorem ofNat_inj {m n : ℕ} (hm : m < 100) (hn : n < 100) : ofNat m = ofNat n ↔ m = n := by
  refine ⟨fun h => ?_, congrArg ofNat⟩
  rw [← value_ofNat hm, h, value_ofNat hn]

/-- A valid byte codes a number below 100. -/
theorem value_lt {b : UInt8} (h : IsDigits b) : value b < 100 := by
  obtain ⟨hhi, hlo⟩ := h
  rw [value]
  omega

/-- Encoding inverts decoding on valid bytes. -/
theorem ofNat_value {b : UInt8} (h : IsDigits b) : ofNat (value b) = b := by
  obtain ⟨hhi, hlo⟩ := h
  apply UInt8.toNat_inj.mp
  rw [toNat_ofNat (value_lt ⟨hhi, hlo⟩), value]
  omega

/-- Different valid bytes code different numbers. -/
theorem value_inj {a b : UInt8} (ha : IsDigits a) (hb : IsDigits b) (h : value a = value b) :
    a = b := by
  rw [← ofNat_value ha, ← ofNat_value hb, h]

/-! ## Packed numbers -/

/-- The number whose hexadecimal digits are the last `k` decimal digits of `n`. -/
def packed : ℕ → ℕ → ℕ
  | 0, _ => 0
  | k + 1, n => n % 10 + 16 * packed k (n / 10)

/-- Zero is packed as zero. -/
@[simp] theorem packed_zero (k : ℕ) : packed k 0 = 0 := by
  induction k with
  | zero => rfl
  | succ k ih => rw [packed, Nat.zero_div, ih]

/-- The last `k` digits take up `k` hexadecimal digits. -/
theorem packed_lt (k n : ℕ) : packed k n < 16 ^ k := by
  induction k generalizing n with
  | zero => exact Nat.one_pos
  | succ k ih =>
      have hrest := ih (n / 10)
      rw [packed, pow_succ]
      omega

/-- More digits are those in front of the last ones. -/
theorem packed_add (j k n : ℕ) : packed (j + k) n = packed j n + 16 ^ j * packed k (n / 10 ^ j) := by
  induction j generalizing n with
  | zero => simp [packed]
  | succ j ih =>
      have hdiv : n / 10 / 10 ^ j = n / 10 ^ (j + 1) := by
        rw [Nat.div_div_eq_div_mul, pow_succ']
      rw [Nat.add_right_comm, packed, packed, ih, hdiv, pow_succ']
      ring

/-- Two packed digits make the byte that codes them. -/
theorem packed_two (n : ℕ) : packed 2 n < 256 ∧ UInt8.ofNat (packed 2 n) = ofNat (n % 100) := by
  have hdigits : packed 2 n = n % 100 / 10 * 16 + n % 100 % 10 := by
    show n % 10 + 16 * (n / 10 % 10 + 16 * 0) = _
    omega
  rw [ofNat, hdigits]
  exact ⟨by omega, rfl⟩

/-- Eight packed digits are four such bytes. -/
theorem packed_eight (n : ℕ) :
    packed 8 n = packed 2 n + 16 ^ 2 * (packed 2 (n / 10 ^ 2) +
      16 ^ 2 * (packed 2 (n / 10 ^ 4) + 16 ^ 2 * packed 2 (n / 10 ^ 6))) := by
  have hlow := packed_add 2 6 n
  have hmiddle := packed_add 2 4 (n / 10 ^ 2)
  have hhigh := packed_add 2 2 (n / 10 ^ 2 / 10 ^ 2)
  simp only [Nat.div_div_eq_div_mul, ← Nat.pow_add, Nat.reduceAdd] at hlow hmiddle hhigh
  rw [hlow, hmiddle, hhigh]

/-- **Numbers are packed alike just when their last digits agree.** -/
theorem packed_inj (k m n : ℕ) : packed k m = packed k n ↔ m % 10 ^ k = n % 10 ^ k := by
  induction k generalizing m n with
  | zero => simp [packed, Nat.mod_one]
  | succ k ih =>
      have hdigit : packed (k + 1) m = packed (k + 1) n ↔
          m % 10 = n % 10 ∧ packed k (m / 10) = packed k (n / 10) := by
        rw [packed, packed]
        omega
      have hlast : ∀ a, a % 10 ^ (k + 1) = a % 10 + 10 * (a / 10 % 10 ^ k) := by
        intro a
        rw [pow_succ', Nat.mod_mul]
      rw [hdigit, ih, hlast, hlast]
      omega

/-! ## Fields -/

/-- The field of `k` bytes for a number, highest byte first. -/
def field : ℕ → ℕ → List UInt8
  | 0, _ => []
  | k + 1, n => ofNat (n / 100 ^ k % 100) :: field k n

/-- The number a field codes, with what stands in front of it. -/
def fieldValue (front : ℕ) (bytes : List UInt8) : ℕ := bytes.foldl (fun v b => value b + v * 100) front

/-- A field for `k` bytes has `k` bytes. -/
@[simp] theorem length_field (k n : ℕ) : (field k n).length = k := by
  induction k with
  | zero => rfl
  | succ k ih => rw [field, List.length_cons, ih]

/-- All its nibbles are digits. -/
theorem isDigits_field (k n : ℕ) : ∀ b ∈ field k n, IsDigits b := by
  induction k with
  | zero => exact List.forall_mem_nil _
  | succ k ih => exact List.forall_mem_cons.mpr ⟨isDigits_ofNat (Nat.mod_lt _ (by decide)), ih⟩

/-- The bytes of a number do not depend on what stands in front of them. -/
theorem field_add_mul (k n m : ℕ) : field k (n + 100 ^ k * m) = field k n := by
  induction k generalizing m with
  | zero => rfl
  | succ k ih =>
      have hsplit : n + 100 ^ (k + 1) * m = n + 100 ^ k * (100 * m) := by rw [pow_succ, Nat.mul_assoc]
      have hbyte : (n / 100 ^ k + 100 * m) % 100 = n / 100 ^ k % 100 := Nat.add_mul_mod_self_left _ _ _
      rw [field, field, hsplit, ih, Nat.add_mul_div_left _ _ (Nat.pow_pos (by decide)), hbyte]

/-- What stands in front of a field counts as many times as there are numbers in it. -/
theorem fieldValue_eq (front : ℕ) (bytes : List UInt8) :
    fieldValue front bytes = fieldValue 0 bytes + 100 ^ bytes.length * front := by
  induction bytes generalizing front with
  | nil => exact (Nat.zero_add _).trans (Nat.one_mul _) |>.symm
  | cons b bytes ih =>
      have hfront : fieldValue front (b :: bytes) = fieldValue (value b + front * 100) bytes := rfl
      have hzero : fieldValue 0 (b :: bytes) = fieldValue (value b + 0 * 100) bytes := rfl
      rw [hfront, hzero, ih, ih (value b + 0 * 100), List.length_cons, pow_succ]
      ring

/-- **Decoding a field gives the number back**, up to the digits there is no room for. -/
theorem fieldValue_field (k n : ℕ) : fieldValue 0 (field k n) = n % 100 ^ k := by
  induction k with
  | zero => exact (Nat.mod_one n).symm
  | succ k ih =>
      have hcons : fieldValue 0 (field (k + 1) n) =
          fieldValue (value (ofNat (n / 100 ^ k % 100)) + 0 * 100) (field k n) := rfl
      rw [hcons, fieldValue_eq, ih, length_field, value_ofNat (Nat.mod_lt _ (by decide)), Nat.zero_mul,
        Nat.add_zero, pow_succ, Nat.mod_mul]

/-- The number of a field of digits fits its digits. -/
theorem fieldValue_lt {bytes : List UInt8} (h : ∀ b ∈ bytes, IsDigits b) :
    fieldValue 0 bytes < 100 ^ bytes.length := by
  induction bytes with
  | nil => exact Nat.one_pos
  | cons b bytes ih =>
      obtain ⟨hb, hbytes⟩ := List.forall_mem_cons.mp h
      have hvalue := value_lt hb
      have hrest := ih hbytes
      have hcons : fieldValue 0 (b :: bytes) = fieldValue (value b + 0 * 100) bytes := rfl
      rw [hcons, fieldValue_eq, List.length_cons, pow_succ]
      nlinarith

/-- **Encoding the number of a field of digits gives the field back.** -/
theorem field_fieldValue {bytes : List UInt8} (h : ∀ b ∈ bytes, IsDigits b) :
    field bytes.length (fieldValue 0 bytes) = bytes := by
  induction bytes with
  | nil => rfl
  | cons b bytes ih =>
      obtain ⟨hb, hbytes⟩ := List.forall_mem_cons.mp h
      have hrest := fieldValue_lt hbytes
      have hcons : fieldValue 0 (b :: bytes) = fieldValue (value b + 0 * 100) bytes := rfl
      have hfirst : (fieldValue 0 bytes + 100 ^ bytes.length * value b) / 100 ^ bytes.length % 100 =
          value b := by
        rw [Nat.add_mul_div_left _ _ (Nat.pow_pos (by decide)), Nat.div_eq_of_lt hrest, Nat.zero_add]
        exact Nat.mod_eq_of_lt (value_lt hb)
      rw [hcons, fieldValue_eq, Nat.zero_mul, Nat.add_zero, List.length_cons, field, hfirst, field_add_mul,
        ih hbytes, ofNat_value hb]

/-- Two packed digits stand in each byte of a packed number. -/
theorem packed_byte {k i n : ℕ} (hi : i < k) :
    packed (2 * k) n / 256 ^ i % 256 = packed 2 (n / 100 ^ i) := by
  obtain ⟨j, rfl⟩ := Nat.exists_eq_add_of_lt hi
  have hlow : packed (2 * i) n < 256 ^ i := by
    have hlt := packed_lt (2 * i) n
    rwa [pow_mul] at hlt
  have hsplit : packed (2 * (i + j + 1)) n = packed (2 * i) n +
      256 ^ i * (packed 2 (n / 100 ^ i) + 256 * packed (2 * j) (n / 100 ^ i / 10 ^ 2)) := by
    have hdigits : 2 * (i + j + 1) = 2 * i + (2 + 2 * j) := by ring
    rw [hdigits, packed_add, packed_add 2, pow_mul, pow_mul]
    simp only [Nat.reducePow]
  obtain ⟨hbyte, -⟩ := packed_two (n / 100 ^ i)
  rw [hsplit, Nat.add_mul_div_left _ _ (Nat.pow_pos (by decide)), Nat.div_eq_of_lt hlow]
  omega

/-- A number with at most `k` digits is packed into `k` places. -/
theorem packed_of_lt {k n : ℕ} (h : n < 10 ^ k) (m : ℕ) : packed (k + m) n = packed k n := by
  rw [packed_add, Nat.div_eq_of_lt h, packed_zero, Nat.mul_zero, Nat.add_zero]

end Bcd
