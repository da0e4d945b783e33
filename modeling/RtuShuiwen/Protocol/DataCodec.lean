import Mathlib.Data.Rat.Init
import Mathlib.Tactic.Common
import RtuShuiwen.Memory.Calendar

/-! # Measured values as decimal digits

The firmware computes rainfall and water level in floating point and puts them into frames and
records as packed decimal digits (`FloatoHex`, `HextoFloat`). `CFloat` stands for the floating-point
type; its instance on `ℚ` computes exactly. -/

namespace RtuShuiwen

/-- What the code uses of its floating-point types. -/
class CFloat (F : Type) extends Add F, Sub F, Mul F, Div F where
  /-- The value of an integer. -/
  ofInt : ℤ → F
  /-- Conversion to an integer type, towards zero. -/
  trunc : F → ℤ
  /-- The comparison `<=`. -/
  le : F → F → Bool

/-- Exact arithmetic. -/
instance : CFloat ℚ where
  ofInt n := n
  trunc q := q.num.tdiv q.den
  le p q := decide (p ≤ q)

variable {F : Type} [CFloat F]

/-- `RAINFALL_STEP`, half a millimetre. -/
def rainfallStep : F := CFloat.ofInt 1 / CFloat.ofInt 2

/-- The digit loop of `FloatoHex`: digit `j` of the number goes to bits `4 * j` on. The loop runs
once for every digit, and an `int` has at most ten. -/
def floatoHexLoop : ℕ → ℕ → ℕ → UInt32 → UInt32
  | 0, _, _, destData => destData
  | fuel + 1, integer, j, destData =>
      if integer = 0 then destData
      else
        floatoHexLoop fuel (integer / 10) (j + 1)
          (destData + UInt32.ofNat (integer % 10) * 16 ^ j)

/-- `FloatoHex`: the digits of a value scaled by `10 ^ decimals`; a negative value gives none. -/
def floatoHex (decimals : ℕ) (data : F) : UInt32 :=
  floatoHexLoop 10 (CFloat.trunc (Nat.repeat (· * CFloat.ofInt 10) decimals data)).toNat 0 0

/-- `HextoFloat`, of all of `srcBuff`. -/
def hextoFloat (decimals : ℕ) (srcBuff : List UInt8) : F :=
  let temp := srcBuff.foldl (fun temp b => (bcdToInteger b).toNat + temp * 100) 0
  Nat.repeat (· / CFloat.ofInt 10) decimals (CFloat.ofInt temp)

/-- `GetBCDSendata`: the low three bits of an element identifier are its decimals. -/
def getBCDSendata (elementId : UInt16) (srcData : F) : UInt32 :=
  floatoHex (elementId &&& 0x0007).toNat srcData

/-- `BCDSendataToFloat`: an element identifier also gives the number of bytes. -/
def bcdSendataToFloat (elementId : UInt16) (srcBuff : List UInt8) : F :=
  hextoFloat (elementId &&& 0x0007).toNat (srcBuff.take ((elementId >>> 3) &&& 0x001f).toNat)

/-- The element identifier under which the code decodes the base value of the water level. -/
def waterlevelBasevalueId : UInt16 := 0x23

/-- `JudegeBCD` succeeds: every nibble is a decimal digit. -/
def judegeBCD (src : List UInt8) : Bool := src.all fun temp => temp >>> 4 < 10 && temp &&& 0x0f < 10

/-- The low three bytes of a value, highest first. -/
def storeData3 (x : UInt32) : Vector UInt8 3 := #v[(x >>> 16).toUInt8, (x >>> 8).toUInt8, x.toUInt8]

/-- The four bytes of a value, highest first. -/
def storeData4 (x : UInt32) : Vector UInt8 4 :=
  #v[(x >>> 24).toUInt8, (x >>> 16).toUInt8, (x >>> 8).toUInt8, x.toUInt8]

/-! ## The digits -/

/-- The digit loop packs the digits it is given. -/
theorem floatoHexLoop_eq (fuel integer j : ℕ) (destData : UInt32) :
    floatoHexLoop fuel integer j destData =
      destData + UInt32.ofNat (Bcd.packed fuel integer) * 16 ^ j := by
  induction fuel generalizing integer j destData with
  | zero =>
      show destData = destData + 0 * 16 ^ j
      grind
  | succ fuel ih =>
      rw [floatoHexLoop]
      by_cases hzero : integer = 0
      · rw [if_pos hzero, hzero, Bcd.packed_zero]
        show destData = destData + 0 * 16 ^ j
        grind
      · have hstep : UInt32.ofNat (Bcd.packed (fuel + 1) integer) =
            UInt32.ofNat (integer % 10) + 16 * UInt32.ofNat (Bcd.packed fuel (integer / 10)) := by
          rw [Bcd.packed, UInt32.ofNat_add, UInt32.ofNat_mul]
          rfl
        rw [if_neg hzero, ih, hstep, UInt32.pow_succ]
        grind

/-- **The encoding of a value is given by its last eight digits**: the word has room for no more. -/
theorem floatoHexLoop_ten (integer : ℕ) :
    floatoHexLoop 10 integer 0 0 = UInt32.ofNat (Bcd.packed 8 integer) := by
  have hsplit : Bcd.packed 10 integer =
      Bcd.packed 8 integer + 16 ^ 8 * Bcd.packed 2 (integer / 10 ^ 8) := Bcd.packed_add 8 2 integer
  have hroom : UInt32.ofNat (16 ^ 8) = 0 := by decide
  rw [floatoHexLoop_eq, hsplit, UInt32.ofNat_add, UInt32.ofNat_mul, hroom, UInt32.pow_zero, UInt32.zero_mul,
    UInt32.add_zero, UInt32.mul_one, UInt32.zero_add]

/-- Two numbers are encoded alike just when their last eight digits agree. -/
theorem floatoHexLoop_inj (m n : ℕ) :
    floatoHexLoop 10 m 0 0 = floatoHexLoop 10 n 0 0 ↔ m % 10 ^ 8 = n % 10 ^ 8 := by
  have hm : Bcd.packed 8 m < 2 ^ 32 := Bcd.packed_lt 8 m
  have hn : Bcd.packed 8 n < 2 ^ 32 := Bcd.packed_lt 8 n
  rw [floatoHexLoop_ten, floatoHexLoop_ten, ← Bcd.packed_inj, ← UInt32.toNat_inj,
    UInt32.toNat_ofNat', UInt32.toNat_ofNat', Nat.mod_eq_of_lt hm, Nat.mod_eq_of_lt hn]

/-- The bytes that go into a field of three. -/
theorem toList_storeData3 {x : UInt32} {a b c rest : ℕ} (ha : a < 256) (hb : b < 256) (hc : c < 256)
    (hx : x.toNat = a + 256 * (b + 256 * (c + 256 * rest))) :
    (storeData3 x).toList = [UInt8.ofNat c, UInt8.ofNat b, UInt8.ofNat a] := by
  have hhigh : (x >>> 16).toUInt8 = UInt8.ofNat c := by
    apply UInt8.toNat_inj.mp
    rw [UInt8.toNat_ofNat_of_lt' hc, UInt32.toNat_toUInt8, UInt32.toNat_shiftRight]
    show x.toNat >>> 16 % 2 ^ 8 = c
    rw [Nat.shiftRight_eq_div_pow]
    omega
  have hmiddle : (x >>> 8).toUInt8 = UInt8.ofNat b := by
    apply UInt8.toNat_inj.mp
    rw [UInt8.toNat_ofNat_of_lt' hb, UInt32.toNat_toUInt8, UInt32.toNat_shiftRight]
    show x.toNat >>> 8 % 2 ^ 8 = b
    rw [Nat.shiftRight_eq_div_pow]
    omega
  have hlow : x.toUInt8 = UInt8.ofNat a := by
    apply UInt8.toNat_inj.mp
    rw [UInt8.toNat_ofNat_of_lt' ha, UInt32.toNat_toUInt8]
    omega
  show [(x >>> 16).toUInt8, (x >>> 8).toUInt8, x.toUInt8] = _
  rw [hhigh, hmiddle, hlow]

/-- The three bytes of an encoded number are its last pairs of digits. -/
theorem toList_storeData3_floatoHexLoop (n : ℕ) :
    (storeData3 (floatoHexLoop 10 n 0 0)).toList =
      [Bcd.ofNat (n / 10 ^ 4 % 100), Bcd.ofNat (n / 10 ^ 2 % 100), Bcd.ofNat (n % 100)] := by
  obtain ⟨hlow, hlowByte⟩ := Bcd.packed_two n
  obtain ⟨hmiddle, hmiddleByte⟩ := Bcd.packed_two (n / 10 ^ 2)
  obtain ⟨hhigh, hhighByte⟩ := Bcd.packed_two (n / 10 ^ 4)
  have hword : (floatoHexLoop 10 n 0 0).toNat = Bcd.packed 8 n := by
    rw [floatoHexLoop_ten]
    exact UInt32.toNat_ofNat_of_lt' (Bcd.packed_lt 8 n)
  rw [toList_storeData3 hlow hmiddle hhigh (hword.trans (Bcd.packed_eight n)), hlowByte, hmiddleByte,
    hhighByte]

/-- The four bytes of an encoded number are its last four pairs of digits. -/
theorem toList_storeData4_floatoHexLoop (n : ℕ) :
    (storeData4 (floatoHexLoop 10 n 0 0)).toList =
      [Bcd.ofNat (n / 10 ^ 6 % 100), Bcd.ofNat (n / 10 ^ 4 % 100), Bcd.ofNat (n / 10 ^ 2 % 100),
        Bcd.ofNat (n % 100)] := by
  have htail : (storeData4 (floatoHexLoop 10 n 0 0)).toList =
      (floatoHexLoop 10 n 0 0 >>> 24).toUInt8 :: (storeData3 (floatoHexLoop 10 n 0 0)).toList := rfl
  obtain ⟨hlow, -⟩ := Bcd.packed_two n
  obtain ⟨hmiddle, -⟩ := Bcd.packed_two (n / 10 ^ 2)
  obtain ⟨hhigh, -⟩ := Bcd.packed_two (n / 10 ^ 4)
  obtain ⟨htop, htopByte⟩ := Bcd.packed_two (n / 10 ^ 6)
  have hword : (floatoHexLoop 10 n 0 0).toNat = Bcd.packed 8 n := by
    rw [floatoHexLoop_ten]
    exact UInt32.toNat_ofNat_of_lt' (Bcd.packed_lt 8 n)
  have hfirst : (floatoHexLoop 10 n 0 0 >>> 24).toUInt8 = Bcd.ofNat (n / 10 ^ 6 % 100) := by
    rw [← htopByte]
    apply UInt8.toNat_inj.mp
    rw [UInt8.toNat_ofNat_of_lt' htop, UInt32.toNat_toUInt8, UInt32.toNat_shiftRight, hword,
      Bcd.packed_eight]
    show _ >>> 24 % 2 ^ 8 = _
    rw [Nat.shiftRight_eq_div_pow]
    omega
  rw [htail, hfirst, toList_storeData3_floatoHexLoop]

end RtuShuiwen
