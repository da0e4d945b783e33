import Mathlib.Algebra.Ring.Int.Defs
import Mathlib.Data.List.Basic
import RtuShuiwen.Library.ByteLayout
import RtuShuiwen.Protocol.Crc16

/-! # The check of a downlink frame

`CheckReceive` waits for a burst from the module, looks for the start mark and compares the checksum
of the frame that starts there. `checkReceive_highFirst` says which order of the two checksum bytes it
asks for. -/

namespace RtuShuiwen

open ByteLayout

/-- `strstr`: the rest of a C string from the first occurrence of a pattern on. -/
def strstr (pattern : List UInt8) : List UInt8 → Option (List UInt8)
  | [] => none
  | b :: s =>
      if pattern <+: b :: s then some (b :: s)
      else if b = 0 then none
      else strstr pattern s

/-- `sizeof(down_frame_t)`. -/
def downFrameSize : ℕ := 28

/-- The test of `CheckReceive` on the contents of the receive buffer. -/
def checkReceiveBuffer (dmaUsart2Buf : List UInt8) : ℤ :=
  match strstr [0x7E, 0x7E] dmaUsart2Buf with
  | none => -1
  | some downFrame =>
      let calculateCrc := swap16 (crc16Modbus (downFrame.take (downFrameSize - 2)))
      -- the packed field is loaded low byte first
      let receiveCrc := ofBytes16 (downFrame.getD 27 0) (downFrame.getD 26 0)
      if receiveCrc ≠ calculateCrc then -1 else 0

/-- `CheckReceive`: what each of the three waits finds is a buffer or nothing. -/
def checkReceive (waits : Vector (Option (List UInt8)) 3) : ℤ :=
  match waits.toList.findSome? id with
  | some dmaUsart2Buf => checkReceiveBuffer dmaUsart2Buf
  | none => -1

/-! ## What `strstr` finds -/

section Strstr

variable {pattern text : List UInt8}

/-- A text that starts with the pattern is found as a whole. -/
theorem strstr_of_prefix (hne : text ≠ []) (h : pattern <+: text) :
    strstr pattern text = some text := by
  cases text with
  | nil => exact absurd rfl hne
  | cons b text => rw [strstr, if_pos h]

/-- What is found stays found when bytes follow. -/
theorem strstr_append (h : (strstr pattern text).isSome = true) (rest : List UInt8) :
    (strstr pattern (text ++ rest)).isSome = true := by
  induction text with
  | nil => simp [strstr] at h
  | cons b text ih =>
      rw [strstr] at h
      rw [List.cons_append, strstr]
      by_cases hfront : pattern <+: b :: text
      · have hlong : pattern <+: b :: (text ++ rest) := hfront.trans (List.prefix_append (b :: text) rest)
        rw [if_pos hlong]
        rfl
      · rw [if_neg hfront] at h
        split
        · rfl
        · split at h
          · simp at h
          · next hb =>
              rw [if_neg hb]
              exact ih h

/-- What is found is there. -/
theorem isInfix_of_strstr (h : (strstr pattern text).isSome = true) : pattern <:+: text := by
  induction text with
  | nil => simp [strstr] at h
  | cons b text ih =>
      rw [strstr] at h
      split at h
      · next hfront => exact hfront.isInfix
      · split at h
        · simp at h
        · exact (ih h).trans (List.suffix_cons b text).isInfix

/-- **A pattern that is found in a text with other bytes behind it, and occurs in the text, is found in the text
alone.** -/
theorem strstr_of_append {rest : List UInt8} (hne : text ≠ []) (hin : pattern <:+: text)
    (h : (strstr pattern (text ++ rest)).isSome = true) : (strstr pattern text).isSome = true := by
  induction text with
  | nil => exact absurd rfl hne
  | cons b text ih =>
      rw [List.cons_append, strstr] at h
      rw [strstr]
      by_cases hfront : pattern <+: b :: text
      · rw [if_pos hfront]
        rfl
      · have hin' : pattern <:+: text := (List.infix_cons_iff.mp hin).resolve_left hfront
        have hfront' : ¬ pattern <+: b :: (text ++ rest) := fun hlong =>
          hfront (List.prefix_of_prefix_length_le hlong (List.prefix_append (b :: text) rest)
            hin.length_le)
        have hne' : text ≠ [] := by
          rintro rfl
          exact hfront (List.eq_nil_of_infix_nil hin' ▸ List.nil_prefix)
        rw [if_neg hfront'] at h
        rw [if_neg hfront]
        split at h
        · simp at h
        · next hb =>
            rw [if_neg hb]
            exact ih hne' hin' h

end Strstr

/-! ## The two orders -/

/-- The two orders in which a checksum can be sent. -/
inductive CrcOrder
  | highFirst
  | lowFirst
  deriving DecidableEq

/-- The bytes of a checksum in an order. -/
def CrcOrder.bytes : CrcOrder → UInt16 → List UInt8
  | .highFirst => u16be
  | .lowFirst => u16le

/-- The last two bytes of a frame are, in this order, the CRC of all bytes before them. -/
def CrcLaw (o : CrcOrder) (frame : List UInt8) : Prop :=
  frame.drop (frame.length - 2) = o.bytes (crc16Modbus (frame.take (frame.length - 2)))

instance (o : CrcOrder) (frame : List UInt8) : Decidable (CrcLaw o frame) :=
  decidable_of_iff (frame.drop (frame.length - 2) =
      o.bytes (invertUint16 (crcRun (frame.take (frame.length - 2)) 0xFFFF)))
    (by rw [CrcLaw, crc16Modbus_eq_crcRun])

/-- `CheckReceive` accepts exactly the frames that obey the law: for every downlink frame, whatever
follows it in the buffer. -/
def CheckReceiveDemands (o : CrcOrder) : Prop :=
  ∀ frame rest : List UInt8, frame.length = downFrameSize → [0x7E, 0x7E] <+: frame →
    (checkReceive #v[some (frame ++ rest), none, none] = 0 ↔ CrcLaw o frame)

/-- The law for a frame with its parts in view. -/
theorem crcLaw_append (o : CrcOrder) (body crc : List UInt8) (hcrc : crc.length = 2) :
    CrcLaw o (body ++ crc) ↔ crc = o.bytes (crc16Modbus body) := by
  rw [CrcLaw, List.length_append, hcrc, Nat.add_sub_cancel, List.drop_left, List.take_left]

/-- The comparison `CheckReceive` makes, read as the order of the two bytes in the frame. -/
theorem ofBytes16_eq_swap16 (hi lo : UInt8) (crc : UInt16) :
    ofBytes16 lo hi = swap16 crc ↔ [hi, lo] = u16be crc := by
  constructor
  · intro h
    rw [← u16le_ofBytes16, h, u16le_swap16]
  · intro h
    obtain ⟨rfl, rfl⟩ : hi = (crc >>> 8).toUInt8 ∧ lo = crc.toUInt8 := by simpa [u16be] using h
    have hswap := ofBytes16_toBytes (swap16 crc)
    rwa [swap16_hi, swap16_lo] at hswap

/-- **`CheckReceive` asks for the high byte first.** -/
theorem checkReceive_highFirst : CheckReceiveDemands .highFirst := by
  intro frame rest hlen hstart
  -- the last two of the 28 bytes are the checksum
  obtain ⟨body, hi, lo, rfl, hbody⟩ : ∃ body hi lo, frame = body ++ [hi, lo] ∧ body.length = 26 := by
    have hdrop : (frame.drop 26).length = 2 := by
      rw [List.length_drop, hlen, downFrameSize]
    obtain ⟨hi, lo, hcrc⟩ := List.length_eq_two.1 hdrop
    refine ⟨frame.take 26, hi, lo, ?_, ?_⟩
    · rw [← hcrc, List.take_append_drop]
    · rw [List.length_take, hlen, downFrameSize]
      rfl
  have hfound : strstr [0x7E, 0x7E] (body ++ [hi, lo] ++ rest) = some (body ++ [hi, lo] ++ rest) :=
    strstr_of_prefix (by simp) (hstart.trans (List.prefix_append _ _))
  have htake : (body ++ [hi, lo] ++ rest).take 26 = body := by
    rw [List.append_assoc, List.take_left' hbody]
  -- what follows the frame in the buffer does not matter
  have hcrcAt : ∀ k, (body ++ [hi, lo] ++ rest).getD (26 + k) 0 = (hi :: lo :: rest).getD k 0 := by
    intro k
    rw [List.append_assoc, ← hbody, getD_append_add]
    rfl
  rw [crcLaw_append .highFirst body [hi, lo] rfl, CrcOrder.bytes, ← ofBytes16_eq_swap16]
  have hwait : checkReceive #v[some (body ++ [hi, lo] ++ rest), none, none] =
      checkReceiveBuffer (body ++ [hi, lo] ++ rest) := rfl
  rw [hwait, checkReceiveBuffer, hfound]
  simp only [downFrameSize, Nat.reduceSub, htake, hcrcAt 0, hcrcAt 1]
  by_cases h : ofBytes16 lo hi = swap16 (crc16Modbus body) <;> simp [h]

end RtuShuiwen
