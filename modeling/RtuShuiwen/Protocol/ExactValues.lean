import RtuShuiwen.Protocol.Builders
import Mathlib.Algebra.Order.Field.Rat
import Mathlib.Tactic.FieldSimp
import Mathlib.Tactic.NormNum

/-! # Measured values in exact arithmetic

With rationals for the floating-point type, the encoding of a value with some decimals is that of an
integer, and a rainfall field of three bytes is decoded as it was encoded as long as its six digits
suffice: **`decode_cumulaRainfall`**. -/

namespace RtuShuiwen

/-! ## Scaled values -/

/-- An integer is converted to itself. -/
@[simp] theorem trunc_natCast (n : ℕ) : CFloat.trunc ((n : ℚ)) = (n : ℤ) := by
  show ((n : ℚ)).num.tdiv ((n : ℚ)).den = (n : ℤ)
  simp

/-- The encoding of a value that its decimals make an integer. -/
theorem floatoHex_of_scaled {decimals : ℕ} {x : ℚ} {n : ℕ} (hx : x * 10 ^ decimals = n) :
    floatoHex decimals x = floatoHexLoop 10 n 0 0 := by
  have hrepeat : ∀ k, Nat.repeat (· * CFloat.ofInt 10) k x = x * 10 ^ k := by
    intro k
    induction k with
    | zero => simp [Nat.repeat]
    | succ k ih =>
        rw [Nat.repeat, ih, pow_succ, mul_assoc]
        rfl
  rw [floatoHex, hrepeat, hx, trunc_natCast, Int.toNat_natCast]

/-- **Three bytes of digits are decoded as they were encoded.** -/
theorem hextoFloat_storeData3 {n : ℕ} (h : n < 10 ^ 6) :
    hextoFloat 1 (storeData3 (floatoHexLoop 10 n 0 0)).toList = ((n : ℤ) : ℚ) / ((10 : ℤ) : ℚ) := by
  have hvalue : ((storeData3 (floatoHexLoop 10 n 0 0)).toList.foldl
      (fun temp b => (bcdToInteger b).toNat + temp * 100) 0) = n := by
    have hbyte : ∀ m, (bcdToInteger (Bcd.ofNat (m % 100))).toNat = m % 100 := by
      intro m
      rw [toNat_bcdToInteger, Bcd.value_ofNat (Nat.mod_lt _ (by decide))]
    rw [toList_storeData3_floatoHexLoop]
    simp only [List.foldl_cons, List.foldl_nil, hbyte]
    omega
  rw [hextoFloat, hvalue]
  rfl

/-! ## Rainfall -/

/-- The rainfall for a pulse count is five tenths of a millimetre a pulse. -/
theorem cumulaRainfall_eq (pulses : UInt32) :
    cumulaRainfall ℚ pulses = (pulses.toNat : ℚ) / 2 := by
  show ((pulses.toNat : ℤ) : ℚ) * (((1 : ℤ) : ℚ) / ((2 : ℤ) : ℚ)) = _
  push_cast
  ring

/-- **A rainfall field is decoded as it was encoded**, below 200000 pulses. -/
theorem decode_cumulaRainfall {pulses : UInt32} (h : pulses.toNat < 200000) :
    hextoFloat 1 (storeData3 (floatoHex 1 (cumulaRainfall ℚ pulses))).toList =
      (pulses.toNat : ℚ) / 2 := by
  have hscaled : cumulaRainfall ℚ pulses * 10 ^ 1 = (5 * pulses.toNat : ℕ) := by
    rw [cumulaRainfall_eq]
    push_cast
    ring
  rw [floatoHex_of_scaled hscaled, hextoFloat_storeData3 (by omega)]
  push_cast
  ring

/-- A count below 200000 is the same in an `int`. -/
theorem toInt_pulses {count : UInt32} (h : count.toNat < 200000) :
    count.toBitVec.toInt = (count.toNat : ℤ) := by
  refine BitVec.toInt_eq_toNat_of_lt ?_
  show 2 * count.toNat < 2 ^ 32
  omega

/-- The cumulated rainfall of a plus message is that of the count. -/
theorem plusCumulaRainfall_eq {pulses : UInt32} (h : pulses.toNat < 200000) :
    plusCumulaRainfall ℚ pulses = cumulaRainfall ℚ pulses := by
  rw [plusCumulaRainfall, toInt_pulses h]
  rfl

/-- The five-minute rainfall is that of the pulses since the last message. -/
theorem fiveMinuteRainfall_eq {pulses lastPulses : UInt32} (h : pulses.toNat < 200000)
    (hle : lastPulses.toNat ≤ pulses.toNat) :
    fiveMinuteRainfall ℚ pulses lastPulses = cumulaRainfall ℚ (pulses - lastPulses) := by
  have hsub : (pulses - lastPulses).toNat = pulses.toNat - lastPulses.toNat :=
    UInt32.toNat_sub_of_le _ _ (UInt32.le_iff_toNat_le.mpr hle)
  rw [fiveMinuteRainfall, toInt_pulses (by omega)]
  rfl

end RtuShuiwen
