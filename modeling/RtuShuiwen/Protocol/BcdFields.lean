import RtuShuiwen.Protocol.DataCodec

/-! # Decimal fields of any length

A measured value goes into a frame as the low bytes of what `FloatoHex` makes of it, and `HextoFloat`
reads such a field back; both compute in 32 bits. `BcdField` is what the two loops have to do with each
other, apart from the scaling by powers of ten. -/

namespace RtuShuiwen

/-- The low `k` bytes of a value, highest first, as the senders store them. -/
def lowBytes : ℕ → UInt32 → List UInt8
  | 0, _ => []
  | k + 1, x => (x >>> UInt32.ofNat (8 * k)).toUInt8 :: lowBytes k x

/-- One turn of the digit loop of `HextoFloat`. -/
def hextoFloatTurn (temp : UInt32) (b : UInt8) : UInt32 :=
  let highAns := b >>> 4 &&& 0x0f
  let lowAns := b &&& 0x0f
  (highAns.toUInt32 * 10 + lowAns.toUInt32) + temp * 100

/-- The digit loop of `HextoFloat`. -/
def hextoFloatLoop (srcBuff : List UInt8) : UInt32 := srcBuff.foldl hextoFloatTurn 0

/-- The stores of three and four bytes are such fields. -/
theorem lowBytes_three (x : UInt32) : lowBytes 3 x = (storeData3 x).toList := rfl

/-- The same for four. -/
theorem lowBytes_four (x : UInt32) : lowBytes 4 x = (storeData4 x).toList := rfl

/-- **The decimal codec on fields of `k` bytes.** -/
structure BcdField (k : ℕ) : Prop where
  /-- A number that fits is decoded as it was encoded. -/
  decode : ∀ n < 10 ^ (2 * k), (hextoFloatLoop (lowBytes k (floatoHexLoop 10 n 0 0))).toNat = n
  /-- Its field holds decimal digits. -/
  digits : ∀ n < 10 ^ (2 * k), ∀ b ∈ lowBytes k (floatoHexLoop 10 n 0 0), Bcd.IsDigits b
  /-- A field of digits is encoded as it was decoded. -/
  encode : ∀ bytes : List UInt8, bytes.length = k → (∀ b ∈ bytes, Bcd.IsDigits b) →
    lowBytes k (floatoHexLoop 10 (hextoFloatLoop bytes).toNat 0 0) = bytes

/-! ## The loops -/

/-- More turns than a number has digits change nothing: the fuel suffices. -/
theorem floatoHexLoop_of_lt {k n : ℕ} (h : n < 10 ^ k) (m : ℕ) :
    floatoHexLoop (k + m) n 0 0 = floatoHexLoop k n 0 0 := by
  rw [floatoHexLoop_eq, floatoHexLoop_eq, Bcd.packed_of_lt h]

/-- A stored byte of an encoded number codes two of its digits. -/
theorem toUInt8_floatoHexLoop {i : ℕ} (hi : i < 4) (n : ℕ) :
    (floatoHexLoop 10 n 0 0 >>> UInt32.ofNat (8 * i)).toUInt8 = Bcd.ofNat (n / 100 ^ i % 100) := by
  obtain ⟨hlt, hbyte⟩ := Bcd.packed_two (n / 100 ^ i)
  have hword : (floatoHexLoop 10 n 0 0).toNat = Bcd.packed 8 n := by
    rw [floatoHexLoop_ten]
    exact UInt32.toNat_ofNat_of_lt' (Bcd.packed_lt 8 n)
  have hshift : (UInt32.ofNat (8 * i)).toNat % 32 = 8 * i := by
    rw [UInt32.toNat_ofNat']
    omega
  rw [← hbyte]
  apply UInt8.toNat_inj.mp
  rw [UInt8.toNat_ofNat_of_lt' hlt, UInt32.toNat_toUInt8, UInt32.toNat_shiftRight, hword, hshift,
    Nat.shiftRight_eq_div_pow, pow_mul]
  exact Bcd.packed_byte (k := 4) hi

/-- **The stored bytes of an encoded number are its field.** -/
theorem lowBytes_floatoHexLoop {k : ℕ} (hk : k ≤ 4) (n : ℕ) :
    lowBytes k (floatoHexLoop 10 n 0 0) = Bcd.field k n := by
  induction k with
  | zero => rfl
  | succ k ih => rw [lowBytes, Bcd.field, toUInt8_floatoHexLoop hk, ih (Nat.le_of_succ_le hk)]

/-- A turn of the decoding loop puts the value of a byte behind what it has. -/
theorem hextoFloatTurn_ofNat (front : ℕ) (b : UInt8) :
    hextoFloatTurn (UInt32.ofNat front) b = UInt32.ofNat (Bcd.value b + front * 100) := by
  have hlt := b.toNat_lt
  have hhigh : (b >>> 4 &&& 0x0f).toNat = b.toNat / 16 := by
    rw [UInt8.toNat_and, UInt8.toNat_shiftRight]
    show b.toNat >>> 4 &&& 15 = b.toNat / 16
    rw [Nat.and_two_pow_sub_one_eq_mod _ 4, Nat.shiftRight_eq_div_pow]
    omega
  have hlow : (b &&& 0x0f).toNat = b.toNat % 16 := by
    rw [UInt8.toNat_and]
    exact Nat.and_two_pow_sub_one_eq_mod b.toNat 4
  have hvalue : (b >>> 4 &&& 0x0f).toUInt32 * 10 + (b &&& 0x0f).toUInt32 = UInt32.ofNat (Bcd.value b) := by
    apply UInt32.toNat_inj.mp
    rw [UInt32.toNat_add, UInt32.toNat_mul, UInt8.toNat_toUInt32, UInt8.toNat_toUInt32, hhigh, hlow,
      UInt32.toNat_ofNat', Bcd.value]
    show (b.toNat / 16 * 10 % 2 ^ 32 + b.toNat % 16) % 2 ^ 32 = _
    omega
  rw [UInt32.ofNat_add, UInt32.ofNat_mul, ← hvalue]
  rfl

/-- **The decoding loop computes the number of a field**, in 32 bits. -/
theorem hextoFloatLoop_eq (srcBuff : List UInt8) :
    hextoFloatLoop srcBuff = UInt32.ofNat (Bcd.fieldValue 0 srcBuff) := by
  have hrun : ∀ front : ℕ, srcBuff.foldl hextoFloatTurn (UInt32.ofNat front) =
      UInt32.ofNat (Bcd.fieldValue front srcBuff) := by
    induction srcBuff with
    | nil => exact fun front => rfl
    | cons b srcBuff ih =>
        intro front
        rw [List.foldl_cons, hextoFloatTurn_ofNat, ih]
        rfl
  exact hrun 0

/-- Up to four bytes of digits do not overflow it, not even as a signed number. -/
theorem toNat_hextoFloatLoop {srcBuff : List UInt8} (hlength : srcBuff.length ≤ 4)
    (hdigits : ∀ b ∈ srcBuff, Bcd.IsDigits b) :
    (hextoFloatLoop srcBuff).toNat = Bcd.fieldValue 0 srcBuff ∧ Bcd.fieldValue 0 srcBuff < 2 ^ 31 := by
  have hlt : Bcd.fieldValue 0 srcBuff < 2 ^ 31 :=
    calc Bcd.fieldValue 0 srcBuff < 100 ^ srcBuff.length := Bcd.fieldValue_lt hdigits
      _ ≤ 100 ^ 4 := Nat.pow_le_pow_right (by decide) hlength
      _ < 2 ^ 31 := by decide
  refine ⟨?_, hlt⟩
  rw [hextoFloatLoop_eq]
  exact UInt32.toNat_ofNat_of_lt' (Nat.lt_trans hlt (by decide))

/-- So `HextoFloat` of such a field is the number of the loop, scaled. -/
theorem hextoFloat_eq {F : Type} [CFloat F] (decimals : ℕ) {srcBuff : List UInt8}
    (hlength : srcBuff.length ≤ 4) (hdigits : ∀ b ∈ srcBuff, Bcd.IsDigits b) :
    (hextoFloat decimals srcBuff : F) = Nat.repeat (· / CFloat.ofInt 10) decimals
      (CFloat.ofInt (hextoFloatLoop srcBuff).toNat) := by
  have hfold : srcBuff.foldl (fun temp b => (bcdToInteger b).toNat + temp * 100) 0 =
      Bcd.fieldValue 0 srcBuff := by
    unfold Bcd.fieldValue
    congr 1
    funext temp b
    rw [toNat_bcdToInteger]
  rw [hextoFloat, hfold, (toNat_hextoFloatLoop hlength hdigits).1]

/-! ## The round trips -/

/-- **Fields of one to four bytes carry decimal numbers faithfully**, in both directions. -/
theorem bcdField_of_le_four (k : ℕ) (hk : 1 ≤ k ∧ k ≤ 4) : BcdField k := by
  obtain ⟨-, hk⟩ := hk
  constructor
  case decode =>
    intro n hn
    have hdigits := Bcd.isDigits_field k n
    have hlength : (Bcd.field k n).length ≤ 4 := by rw [Bcd.length_field]; exact hk
    rw [lowBytes_floatoHexLoop hk, (toNat_hextoFloatLoop hlength hdigits).1, Bcd.fieldValue_field]
    rw [pow_mul] at hn
    exact Nat.mod_eq_of_lt hn
  case digits =>
    intro n _
    rw [lowBytes_floatoHexLoop hk]
    exact Bcd.isDigits_field k n
  case encode =>
    intro bytes hlength hdigits
    subst hlength
    rw [lowBytes_floatoHexLoop hk, (toNat_hextoFloatLoop hk hdigits).1, Bcd.field_fieldValue hdigits]

/-- Four bytes, where the encoder goes beyond the signed range. -/
theorem bcdField_four : BcdField 4 := bcdField_of_le_four 4 (by decide)

end RtuShuiwen
