import Mathlib.Tactic.Common

/-! # The checksum of the protocol

`CRC16_MODBUS` with its two bit reversals: every byte is reversed, shifted in most significant bit
first with polynomial `0x8005`, and the remainder is reversed at the end. -/

namespace RtuShuiwen

/-- `InvertUint8`: the bits of a byte in reverse order. -/
def invertUint8 (srcBuf : UInt8) : UInt8 :=
  (List.range 8).foldl (fun tmp i =>
    if srcBuf &&& (1 <<< UInt8.ofNat i) ≠ 0 then tmp ||| (1 <<< UInt8.ofNat (7 - i)) else tmp) 0

/-- `InvertUint16`: the bits of a word in reverse order. -/
def invertUint16 (srcBuf : UInt16) : UInt16 :=
  (List.range 16).foldl (fun tmp i =>
    if srcBuf &&& (1 <<< UInt16.ofNat i) ≠ 0 then tmp ||| (1 <<< UInt16.ofNat (15 - i)) else tmp) 0

/-- One turn of the inner loop of `CRC16_MODBUS`. -/
def crcShift (wCRCin : UInt16) : UInt16 :=
  if wCRCin &&& 0x8000 ≠ 0 then (wCRCin <<< 1) ^^^ 0x8005 else wCRCin <<< 1

/-- One turn of the outer loop of `CRC16_MODBUS`. -/
def crcByte (wCRCin : UInt16) (b : UInt8) : UInt16 :=
  Nat.repeat crcShift 8 (wCRCin ^^^ ((invertUint8 b).toUInt16 <<< 8))

/-- `CRC16_MODBUS`. -/
def crc16Modbus (puchMsg : List UInt8) : UInt16 := invertUint16 (puchMsg.foldl crcByte 0xFFFF)

/-! ## Evaluation -/

/-- Go on with a number once its digits are known. -/
def onceComputed {α : Type} (n : ℕ) (f : ℕ → α) : α :=
  match n with
  | 0 => f 0
  | k + 1 => f (k + 1)

/-- Waiting for the digits changes nothing. -/
@[simp] theorem onceComputed_eq {α : Type} (n : ℕ) (f : ℕ → α) : onceComputed n f = f n := by
  cases n <;> rfl

/-- The outer loop of `CRC16_MODBUS` on a running value that is computed at every byte. -/
def crcRun : List UInt8 → ℕ → UInt16
  | [], wCRCin => .ofNat wCRCin
  | b :: puchMsg, wCRCin => onceComputed (crcByte (.ofNat wCRCin) b).toNat (crcRun puchMsg)

/-- The computed loop is the loop. -/
theorem crcRun_eq (puchMsg : List UInt8) (wCRCin : UInt16) :
    crcRun puchMsg wCRCin.toNat = puchMsg.foldl crcByte wCRCin := by
  induction puchMsg generalizing wCRCin with
  | nil => exact UInt16.ofNat_toNat
  | cons b puchMsg ih => rw [crcRun, onceComputed_eq, UInt16.ofNat_toNat, ih, List.foldl_cons]

/-- **The CRC of a concrete message can be evaluated** byte by byte. -/
theorem crc16Modbus_eq_crcRun (puchMsg : List UInt8) :
    crc16Modbus puchMsg = invertUint16 (crcRun puchMsg 0xFFFF) :=
  congrArg invertUint16 (crcRun_eq puchMsg 0xFFFF).symm

-- the check value of the algorithm: the CRC of the digits 1 to 9
example : crc16Modbus [0x31, 0x32, 0x33, 0x34, 0x35, 0x36, 0x37, 0x38, 0x39] = 0x4B37 := by
  decide +kernel

end RtuShuiwen
