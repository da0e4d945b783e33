import RtuShuiwen.Library.ShiftRegister
import RtuShuiwen.Protocol.Crc16

/-! # What the checksum is and what it detects

`CRC16_MODBUS` turns every byte round, shifts most significant bit first and turns the result round
again. Seen in the mirror it is the usual CRC-16/MODBUS, `crc16Reflected`, a shift register that takes in
the bits of the message least significant first (`toBitVec_crc16Modbus`); so it detects every burst of up
to 16 bits. -/

namespace RtuShuiwen

open ShiftRegister

/-! ## The usual form -/

/-- One shift of the reflected CRC-16/MODBUS. -/
def reflectedShift (crc : UInt16) : UInt16 :=
  if crc &&& 1 ≠ 0 then (crc >>> 1) ^^^ 0xA001 else crc >>> 1

/-- One byte of it. -/
def reflectedByte (crc : UInt16) (b : UInt8) : UInt16 := Nat.repeat reflectedShift 8 (crc ^^^ b.toUInt16)

/-- CRC-16/MODBUS as it is usually written. -/
def crc16Reflected (msg : List UInt8) : UInt16 := msg.foldl reflectedByte 0xFFFF

/-! ## The functions on bit vectors -/

/-- A repetition seen through a change of types. -/
theorem repeat_hom {α β : Type} (g : α → β) {f : α → α} {f' : β → β} (h : ∀ a, g (f a) = f' (g a)) (n : ℕ)
    (a : α) : g (Nat.repeat f n a) = f'^[n] (g a) := by
  induction n with
  | zero => rfl
  | succ n ih => rw [Function.iterate_succ_apply', ← ih, ← h]; rfl

/-- A loop over a list seen through a change of types. -/
theorem foldl_hom_mem {α β γ : Type} (g : α → β) {f : α → γ → α} {f' : β → γ → β} {l : List γ}
    (h : ∀ a, ∀ x ∈ l, g (f a x) = f' (g a) x) (a : α) : g (l.foldl f a) = l.foldl f' (g a) := by
  induction l generalizing a with
  | nil => rfl
  | cons x l ih =>
      obtain ⟨hx, hl⟩ := List.forall_mem_cons.mp (fun x hx a => h a x hx)
      rw [List.foldl_cons, List.foldl_cons, ih fun a y hy => hl y hy a, hx]

/-- `InvertUint8` turns a byte round. -/
theorem toBitVec_invertUint8 (b : UInt8) : (invertUint8 b).toBitVec = b.toBitVec.reverse := by
  have hplace : ∀ i < 8, ((1 : UInt8) <<< UInt8.ofNat i).toBitVec = 1#8 <<< i := by decide
  rw [← reverseLoop_eq]
  refine foldl_hom_mem UInt8.toBitVec (fun tmp i hi => ?_) 0
  have hi : i < 8 := List.mem_range.mp hi
  have hbit : b &&& (1 <<< UInt8.ofNat i) ≠ 0 ↔ b.toBitVec &&& (1#8 <<< i) ≠ 0#8 := by
    rw [← hplace i hi, ← UInt8.toBitVec_and]
    exact not_congr UInt8.toBitVec_inj.symm
  rw [apply_ite UInt8.toBitVec, UInt8.toBitVec_or, hplace (7 - i) (by omega)]
  exact if_congr hbit rfl rfl

/-- `InvertUint16` turns a word round. -/
theorem toBitVec_invertUint16 (r : UInt16) : (invertUint16 r).toBitVec = r.toBitVec.reverse := by
  have hplace : ∀ i < 16, ((1 : UInt16) <<< UInt16.ofNat i).toBitVec = 1#16 <<< i := by decide
  rw [← reverseLoop_eq]
  refine foldl_hom_mem UInt16.toBitVec (fun tmp i hi => ?_) 0
  have hi : i < 16 := List.mem_range.mp hi
  have hbit : r &&& (1 <<< UInt16.ofNat i) ≠ 0 ↔ r.toBitVec &&& (1#16 <<< i) ≠ 0#16 := by
    rw [← hplace i hi, ← UInt16.toBitVec_and]
    exact not_congr UInt16.toBitVec_inj.symm
  rw [apply_ite UInt16.toBitVec, UInt16.toBitVec_or, hplace (15 - i) (by omega)]
  exact if_congr hbit rfl rfl

/-- A turn of the inner loop is a move of the register, most significant bit first. -/
theorem toBitVec_crcShift (r : UInt16) : (crcShift r).toBitVec = stepMsb 0x8005#16 r.toBitVec := by
  have hbit : r &&& 0x8000 ≠ 0 ↔ r.toBitVec.msb = true := by
    rw [ne_eq, ← UInt16.toBitVec_inj, UInt16.toBitVec_and]
    exact WordBits.and_mask_ne_zero r.toBitVec 15
  rw [crcShift, stepMsb, apply_ite UInt16.toBitVec]
  exact if_congr hbit rfl rfl

/-- A shift of the reflected CRC is one, least significant bit first. -/
theorem toBitVec_reflectedShift (r : UInt16) :
    (reflectedShift r).toBitVec = stepLsb 0xA001#16 r.toBitVec := by
  have hbit : r &&& 1 ≠ 0 ↔ r.toBitVec.getLsbD 0 = true := by
    rw [ne_eq, ← UInt16.toBitVec_inj, UInt16.toBitVec_and]
    exact WordBits.and_mask_ne_zero r.toBitVec 0
  rw [reflectedShift, stepLsb, apply_ite UInt16.toBitVec]
  exact if_congr hbit rfl rfl

/-- A byte goes in at the top of the one register as it goes in at the bottom of the other. -/
theorem reverse_high_byte (b : UInt8) :
    ((invertUint8 b).toUInt16 <<< 8).toBitVec.reverse = b.toUInt16.toBitVec := by
  show ((invertUint8 b).toBitVec.setWidth 16 <<< 8).reverse = b.toBitVec.setWidth 16
  rw [toBitVec_invertUint8]
  apply BitVec.eq_of_getLsbD_eq
  intro i hi
  rw [BitVec.getLsbD_reverse, BitVec.getMsbD_shiftLeft, BitVec.getMsbD_setWidth, BitVec.getLsbD_setWidth,
    BitVec.getMsbD_reverse]
  by_cases h : i < 8
  · simp [hi, h]
  · have hout : b.toBitVec.getLsbD i = false := BitVec.getLsbD_of_ge _ _ (by omega)
    simp [hi, hout]

/-! ## The two forms -/

/-- One byte in the mirror. -/
theorem invertUint16_crcByte (r : UInt16) (b : UInt8) :
    invertUint16 (crcByte r b) = reflectedByte (invertUint16 r) b := by
  apply UInt16.toBitVec_inj.mp
  rw [toBitVec_invertUint16, crcByte, reflectedByte, repeat_hom _ toBitVec_crcShift,
    repeat_hom _ toBitVec_reflectedShift, reverse_iterate_stepMsb, UInt16.toBitVec_xor, reverse_xor,
    reverse_high_byte, UInt16.toBitVec_xor, toBitVec_invertUint16]
  rfl

/-- A message in the mirror. -/
theorem invertUint16_foldl (puchMsg : List UInt8) (r : UInt16) :
    invertUint16 (puchMsg.foldl crcByte r) = puchMsg.foldl reflectedByte (invertUint16 r) :=
  foldl_hom_mem invertUint16 (fun r b _ => invertUint16_crcByte r b) r

/-- **`CRC16_MODBUS` is the usual CRC-16/MODBUS** of every message. -/
theorem crc16Modbus_eq_reflected (puchMsg : List UInt8) : crc16Modbus puchMsg = crc16Reflected puchMsg :=
  invertUint16_foldl puchMsg 0xFFFF

/-! ## Bursts -/

/-- The bit at position `i` of a message: bits are counted least significant first in each byte. -/
def messageBit (puchMsg : List UInt8) (i : ℕ) : Option Bool :=
  puchMsg[i / 8]?.map fun b => b.toBitVec.getLsbD (i % 8)

/-- The bits of a byte. -/
def byteBits (b : UInt8) : List Bool := (List.range 8).map b.toBitVec.getLsbD

/-- The bits of a message. -/
def messageBits (puchMsg : List UInt8) : List Bool := puchMsg.flatMap byteBits

/-- A byte has eight bits. -/
@[simp] theorem length_byteBits (b : UInt8) : (byteBits b).length = 8 := rfl

/-- The bits of a message are the bits at its positions. -/
theorem messageBits_getElem? (puchMsg : List UInt8) (i : ℕ) :
    (messageBits puchMsg)[i]? = messageBit puchMsg i := by
  induction puchMsg generalizing i with
  | nil => rfl
  | cons b puchMsg ih =>
      rw [messageBits, List.flatMap_cons]
      rcases Nat.lt_or_ge i 8 with hi | hi
      · rw [List.getElem?_append_left (by rw [length_byteBits]; exact hi), messageBit, Nat.div_eq_of_lt hi,
          Nat.mod_eq_of_lt hi, byteBits, List.getElem?_map, List.getElem?_range hi]
        rfl
      · have hnext : i / 8 = (i - 8) / 8 + 1 := by omega
        have hplace : i % 8 = (i - 8) % 8 := by omega
        rw [List.getElem?_append_right (by rw [length_byteBits]; exact hi), length_byteBits]
        exact (ih (i - 8)).trans (by rw [messageBit, messageBit, hnext, hplace, List.getElem?_cons_succ])

/-- So many bits. -/
theorem length_messageBits (puchMsg : List UInt8) : (messageBits puchMsg).length = 8 * puchMsg.length := by
  induction puchMsg with
  | nil => rfl
  | cons b puchMsg ih =>
      rw [messageBits, List.flatMap_cons, List.length_append, length_byteBits, List.length_cons]
      have ih : (puchMsg.flatMap byteBits).length = _ := ih
      omega

/-- A message is told by its bits. -/
theorem messageBits_injective : Function.Injective messageBits := by
  intro puchMsg puchMsg' h
  have hbits : ∀ i, messageBit puchMsg i = messageBit puchMsg' i := fun i => by
    rw [← messageBits_getElem?, ← messageBits_getElem?, h]
  have hlength : puchMsg.length = puchMsg'.length := by
    have hbitcount := congrArg List.length h
    rw [length_messageBits, length_messageBits] at hbitcount
    omega
  refine List.ext_getElem hlength fun k hk hk' => ?_
  apply UInt8.toBitVec_inj.mp
  apply BitVec.eq_of_getLsbD_eq
  intro j hj
  have hbit := hbits (8 * k + j)
  have hbyte : (8 * k + j) / 8 = k := by omega
  have hplace : (8 * k + j) % 8 = j := by omega
  rw [messageBit, messageBit, hbyte, hplace, List.getElem?_eq_getElem hk, List.getElem?_eq_getElem hk'] at hbit
  exact Option.some.inj hbit

/-- The word of a byte's bits is the byte. -/
theorem word_byteBits (b : UInt8) : word 16 (byteBits b) = b.toUInt16.toBitVec := by
  show _ = b.toBitVec.setWidth 16
  apply BitVec.eq_of_getLsbD_eq
  intro i hi
  rw [getLsbD_word _ hi, List.getD_eq_getElem?_getD, byteBits, List.getElem?_map, BitVec.getLsbD_setWidth]
  rcases Nat.lt_or_ge i 8 with h | h
  · rw [List.getElem?_range h]
    simp [hi]
  · have hout : b.toBitVec.getLsbD i = false := BitVec.getLsbD_of_ge _ _ h
    have hnone : (List.range 8)[i]? = none := List.getElem?_eq_none (by rw [List.length_range]; exact h)
    rw [hnone, hout, Bool.and_false]
    rfl

/-- One byte of the CRC takes in its eight bits. -/
theorem toBitVec_reflectedByte (r : UInt16) (b : UInt8) :
    (reflectedByte r b).toBitVec = register 0xA001#16 r.toBitVec (byteBits b) := by
  have hfit : (byteBits b).length ≤ 16 := by rw [length_byteBits]; decide
  rw [register_eq_iterate _ hfit, length_byteBits, word_byteBits, reflectedByte,
    repeat_hom _ toBitVec_reflectedShift, UInt16.toBitVec_xor]

/-- **The CRC is the register that has taken in the bits of the message.** -/
theorem toBitVec_crc16Modbus (puchMsg : List UInt8) :
    (crc16Modbus puchMsg).toBitVec = register 0xA001#16 0xFFFF#16 (messageBits puchMsg) := by
  have hrun : ∀ r : UInt16, (puchMsg.foldl reflectedByte r).toBitVec =
      register 0xA001#16 r.toBitVec (messageBits puchMsg) := by
    induction puchMsg with
    | nil => exact fun r => rfl
    | cons b puchMsg ih =>
        intro r
        rw [List.foldl_cons, ih, toBitVec_reflectedByte, ← register_append]
        rfl
  exact (congrArg UInt16.toBitVec (invertUint16_foldl puchMsg 0xFFFF)).trans (hrun 0xFFFF)

/-- **`CRC16_MODBUS` detects every burst of up to 16 bits** in messages of any length. -/
theorem crc16Modbus_ne_of_burst {puchMsg puchMsg' : List UInt8} (hlength : puchMsg.length = puchMsg'.length)
    (hne : puchMsg ≠ puchMsg') {start : ℕ}
    (hburst : ∀ i, messageBit puchMsg i ≠ messageBit puchMsg' i → start ≤ i ∧ i < start + 16) :
    crc16Modbus puchMsg ≠ crc16Modbus puchMsg' := by
  rw [ne_eq, ← UInt16.toBitVec_inj, toBitVec_crc16Modbus, toBitVec_crc16Modbus]
  refine register_ne_of_burst (by decide) _ ?_ (fun h => hne (messageBits_injective h))
    fun i hi => hburst i ?_
  · rw [length_messageBits, length_messageBits, hlength]
  · rwa [messageBits_getElem?, messageBits_getElem?] at hi

/-- A burst over two bytes of a message of three. -/
theorem crc16Modbus_ne_of_burst_over_bytes :
    ([0x7E, 0x10, 0x05] : List UInt8).length = ([0x7E, 0xEF, 0xFA] : List UInt8).length ∧
      crc16Modbus [0x7E, 0x10, 0x05] ≠ crc16Modbus [0x7E, 0xEF, 0xFA] := by
  refine ⟨rfl, @crc16Modbus_ne_of_burst _ _ rfl (by decide) 8 fun i hi => ?_⟩
  rcases Nat.lt_or_ge i 24 with hlt | hge
  · refine ⟨?_, hlt⟩
    by_contra hlow
    have hfirst : i / 8 = 0 := by omega
    rw [messageBit, messageBit, hfirst] at hi
    exact hi rfl
  · have hlast : ∀ b₀ b₁ b₂ : UInt8, messageBit [b₀, b₁, b₂] i = none := fun b₀ b₁ b₂ => by
      have hout : ([b₀, b₁, b₂] : List UInt8)[i / 8]? = none :=
        List.getElem?_eq_none (show 3 ≤ i / 8 by omega)
      rw [messageBit, hout]
      rfl
    exact absurd (by rw [hlast, hlast]) hi

end RtuShuiwen
