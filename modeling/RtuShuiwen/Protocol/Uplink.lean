import RtuShuiwen.Gprs.CheckReceive
import RtuShuiwen.Gprs.Picture
import RtuShuiwen.Protocol.HourReport
import RtuShuiwen.Protocol.TimePeriod

/-! # The frames the device sends

`Uplink` lists the calls of all builders, `Uplink.sent` the bytes each puts on the line.
`lengthLaw_iff` says for which frames the announced length is the length of what is sent, and
`crcLaw_iff` which kinds of frames end with the checksum that `CheckReceive` asks for. -/

namespace RtuShuiwen

open ByteLayout

/-- The kinds of frames. -/
inductive UplinkKind
  | plus
  | hour
  | realData
  | parameters
  | clock
  | timePeriod
  | picture
  deriving DecidableEq

/-- The calls of the builders, each with everything it reads. -/
inductive Uplink
  | plus (p : RtuOperationParameters) (sn : UInt16) (systime : TimeDef)
      (pulses lastPulses level : UInt32)
  | hour (st : StoreState) (lastMonth : UInt8) (call : HourCall)
  | realData (p : RtuOperationParameters) (sn : UInt16) (systime : TimeDef)
      (pulses pulsesAgain lastPulses level : UInt32)
  | parameters (p : RtuOperationParameters) (sn : UInt16) (systime : TimeDef)
  | clock (p : RtuOperationParameters) (sn : UInt16) (realTime : TimeDef)
  | timePeriod (st : StoreState) (systime : TimeDef) (sn : UInt16) (stray : ℤ → UInt8)
      (query : QuerrytimeperiodDownmessage)
  | picture (p : RtuOperationParameters) (readings : UInt16 → TimeDef) (file : List UInt8)
      (s : PictureState)

namespace Uplink

/-- The kind of the frames of a call. -/
def kind : Uplink → UplinkKind
  | plus .. => .plus
  | hour .. => .hour
  | realData .. => .realData
  | parameters .. => .parameters
  | clock .. => .clock
  | timePeriod .. => .timePeriod
  | picture .. => .picture

/-- The frames that are sent, in order. -/
def sent (F : Type) [CFloat F] : Uplink → List (List UInt8)
  | plus p sn systime pulses lastPulses level =>
      [(plusMessageInit F p sn systime pulses lastPulses level).toBytes]
  | hour st lastMonth call => [(hourMessageInit F st lastMonth call).1.message.toBytes]
  | realData p sn systime pulses pulsesAgain lastPulses level =>
      [(queryRealDataInit F p sn systime pulses pulsesAgain lastPulses level).toBytes]
  | parameters p sn systime => [(queryParametersInit p sn systime).toBytes]
  | clock p sn realTime => [(calibrationTimeUpMessageInit p sn realTime).toBytes]
  | timePeriod st systime sn stray query =>
      (testSendTimePeriodData st systime sn stray query).getD []
  | picture p readings file s => (sendPictureToServer p readings file s).1

end Uplink

/-! ## The length law -/

/-- The length a frame announces: the low twelve bits of bytes 11 and 12, high byte first. -/
def announcedLength (frame : List UInt8) : ℕ :=
  (ofBytes16 (frame.getD 11 0) (frame.getD 12 0) &&& 0x0fff).toNat

/-- **The length law**: the announced length is the number of bytes between the start mark, byte 13,
and the end mark, which only the two bytes of the checksum follow. -/
structure LengthLaw (frame : List UInt8) : Prop where
  /-- Start mark, content, end mark and checksum make up the frame. -/
  length_eq : frame.length = 14 + announcedLength frame + 1 + 2
  /-- Behind the content stands an end mark. -/
  endMark : frame.getD (14 + announcedLength frame) 0 ∈ [networkEtx, networkEtb]

/-- The length that the header of a frame announces. -/
theorem announcedLength_toBytes {h : MessageHeader} {n : UInt16} (hid : h.frameIdLen = swap16 n)
    (rest : List UInt8) : announcedLength (h.toBytes ++ rest) = (n &&& 0x0fff).toNat := by
  obtain ⟨front, hfront⟩ : ∃ front, front = u16le h.startId ++ (h.centerAddr :: h.remoteAddr.toList) ++
      u16le h.password ++ [h.funId] := ⟨_, rfl⟩
  have hlen : front.length = 11 := by simp [hfront]
  have hbytes : h.toBytes ++ rest = front ++ (u16be n ++ (h.contentStartId :: rest)) := by
    simp [MessageHeader.toBytes, hfront, hid]
  have hat : ∀ k, (front ++ (u16be n ++ (h.contentStartId :: rest))).getD (11 + k) 0 =
      (u16be n ++ (h.contentStartId :: rest)).getD k 0 := by
    intro k
    rw [← hlen, getD_append_add]
  have hhi : (u16be n ++ (h.contentStartId :: rest)).getD 0 0 = (n >>> 8).toUInt8 := rfl
  have hlo : (u16be n ++ (h.contentStartId :: rest)).getD 1 0 = n.toUInt8 := rfl
  rw [announcedLength, hbytes, hat 0, hat 1, hhi, hlo, ofBytes16_toBytes]

/-- A length below 4096 is announced as it is. -/
theorem announced_ofNat {n : ℕ} (h : n < 4096) : (UInt16.ofNat n &&& 0x0fff).toNat = n := by
  have hmask : UInt16.toNat 0x0fff = 2 ^ 12 - 1 := rfl
  rw [UInt16.toNat_and, UInt16.toNat_ofNat', hmask, Nat.and_two_pow_sub_one_eq_mod]
  omega

/-- **A frame with its parts in view obeys the law when the length in its header is that of its
payload.** -/
theorem lengthLaw_parts {h : MessageHeader} {n : UInt16} (hid : h.frameIdLen = swap16 n)
    (payload : List UInt8) {endId : UInt8} (hend : endId ∈ [networkEtx, networkEtb])
    {crc : List UInt8} (hcrc : crc.length = 2) :
    LengthLaw (h.toBytes ++ payload ++ [endId] ++ crc) ↔
      (n &&& 0x0fff).toNat = payload.length := by
  have hlength : announcedLength (h.toBytes ++ payload ++ [endId] ++ crc) = (n &&& 0x0fff).toNat := by
    rw [List.append_assoc, List.append_assoc]
    exact announcedLength_toBytes hid _
  have hfront : (h.toBytes ++ payload).length = 14 + payload.length := by simp
  constructor
  · -- the length of the frame gives that of the payload
    intro hlaw
    have hlen := hlaw.length_eq
    rw [hlength, List.length_append, List.length_append, hfront, hcrc, List.length_singleton] at hlen
    omega
  · intro hn
    refine ⟨?_, ?_⟩
    · rw [hlength, hn, List.length_append, List.length_append, hfront, hcrc, List.length_singleton]
    · rw [hlength, hn, List.append_assoc, ← hfront,
        List.getD_append_right _ _ _ _ le_rfl, Nat.sub_self]
      exact hend

/-- The law for a message of a packed content. -/
theorem lengthLaw_toBytes {γ : Type} [Packed γ] {m : UpMessage γ} {n : UInt16}
    (hid : m.header.frameIdLen = swap16 n) (hend : m.contentEndId ∈ [networkEtx, networkEtb]) :
    LengthLaw m.toBytes ↔ (n &&& 0x0fff).toNat = Packed.byteSize γ := by
  rw [UpMessage.toBytes, UpMessage.body, lengthLaw_parts hid _ hend (length_u16le _),
    Packed.length_toBytes]

/-- Picture packets obey the law. -/
theorem IsPicturePacket.lengthLaw {bytes : List UInt8} (h : IsPicturePacket bytes) :
    LengthLaw bytes := by
  obtain ⟨header, payload, endId, rfl, hid, hlt, hend⟩ := h.parts
  exact (lengthLaw_parts hid payload (by simpa using hend) (length_u16be _)).mpr (announced_ofNat hlt)

/-! ### Packets of a time-period reply -/

/-- The law for a packet: the announced length is that of the packet numbers, the content less its
last two fields, and the data. -/
theorem lengthLaw_upframe (flash : Flash) (sn : UInt16) {m : QuerrytimeperiodUpmessage} {n : UInt16}
    (hid : m.header.frameIdLen = swap16 n) :
    LengthLaw (sendTimePerioadDataUpframe flash sn m) ↔
      (n &&& 0x0fff).toNat = 33 + toU16 m.dataLength.toNat := by
  obtain ⟨crc, hcrc, hparts⟩ := upframe_parts flash sn m
  have hlength : 3 + (23 + (5 + 2 + toU16 m.dataLength.toNat)) = 33 + toU16 m.dataLength.toNat := by omega
  rw [hparts, lengthLaw_parts hid _ (by simp) hcrc]
  simp only [List.length_append, Vector.length_toList, ContentHead.length_toBytes, length_u16le,
    length_w25qxxRead, hlength]

/-- All full packets announce the same length and have the same. -/
theorem lengthLaw_fullPackets (flash : Flash) (len : ℕ) {m : QuerrytimeperiodUpmessage} {n : UInt16}
    (hid : m.header.frameIdLen = swap16 n) (turns : ℕ) (i readAddress : UInt32) (sn : UInt16) :
    (fullPackets flash len m turns i readAddress sn).1.length = turns ∧
      ∀ frame ∈ (fullPackets flash len m turns i readAddress sn).1,
        LengthLaw frame ↔ (n &&& 0x0fff).toNat =
          33 + toU16 (UInt32.ofNat (timeperiodContentHourgroups * 12 * len)).toNat := by
  induction turns generalizing i readAddress sn with
  | zero => simp [fullPackets]
  | succ turns ih =>
      obtain ⟨hlength, hlaw⟩ := ih (i + 1) (readAddress + (i - 1) * 12 * 12 * .ofNat len) (sn + 1)
      simp only [fullPackets, List.length_cons, hlength, true_and]
      intro frame hframe
      rcases List.mem_cons.mp hframe with rfl | hrest
      · exact lengthLaw_upframe flash sn hid
      · exact hlaw frame hrest

/-- Records of at most twelve hours keep their length as a number of bytes to read. -/
theorem toU16_dataLength {hours len : ℕ} (hhours : hours ≤ 12) (hlen : len ≤ 4) :
    toU16 (UInt32.ofNat (hours * 12 * len)).toNat = hours * 12 * len := by
  have hle : hours * 12 * len ≤ 12 * 12 * 4 := Nat.mul_le_mul (by omega) hlen
  rw [UInt32.toNat_ofNat', toU16]
  omega

/-- The length announced for records of at most twelve hours. -/
theorem announced_frameIdLength {hours len : ℕ} (hhours : hours ≤ 12) (hlen : len ≤ 4) :
    (frameIdLength (hours * 12 * len) &&& 0x0fff).toNat = 33 + hours * 12 * len := by
  have hle : hours * 12 * len ≤ 12 * 12 * 4 := Nat.mul_le_mul (by omega) hlen
  rw [frameIdLength, announced_ofNat (by rw [timePeriodContentSize]; omega), timePeriodContentSize]

/-- The packet of a short reply obeys the law. -/
theorem lengthLaw_singlePacket (flash : Flash) {len : ℕ} (hlen : len ≤ 4)
    (m : QuerrytimeperiodUpmessage) (readAddress : UInt32) {hourGroups : ℕ} (hhours : hourGroups ≤ 12)
    (sn : UInt16) :
    ∀ frame ∈ singlePacket flash len m readAddress hourGroups sn, LengthLaw frame := by
  intro frame hframe
  obtain rfl := List.mem_singleton.mp hframe
  rw [lengthLaw_upframe flash sn (n := frameIdLength (hourGroups * 12 * len)) rfl,
    announced_frameIdLength hhours hlen]
  exact congrArg (33 + ·) (toU16_dataLength hhours hlen).symm

/-- The short packet behind the full ones obeys the law. -/
theorem lengthLaw_remainderPacket (flash : Flash) {len : ℕ} (hlen : len ≤ 4)
    (m : QuerrytimeperiodUpmessage) (readAddress : UInt32) (hourGroups : ℕ) (sn : UInt16) :
    ∀ frame ∈ remainderPacket flash len m readAddress hourGroups sn, LengthLaw frame := by
  intro frame hframe
  have hhours : hourGroups % timeperiodContentHourgroups ≤ 12 := by
    rw [timeperiodContentHourgroups]
    omega
  rw [remainderPacket] at hframe
  split at hframe
  · obtain rfl := List.mem_singleton.mp hframe
    rw [lengthLaw_upframe flash sn
        (n := frameIdLength (hourGroups % timeperiodContentHourgroups * 12 * len)) rfl,
      announced_frameIdLength hhours hlen]
    exact congrArg (33 + ·) (toU16_dataLength hhours hlen).symm
  · cases hframe

/-- **In a reply of several packets the full ones obey the law when their records have the length
they are announced with**; a packet behind them always does. -/
theorem lengthLaw_multiPackets (flash : Flash) {len fullLen : ℕ} (hlen : len ≤ 4) (hfull : fullLen ≤ 4)
    (m : QuerrytimeperiodUpmessage) (readAddress : UInt32) (hourGroups : ℕ) (sn : UInt16) (k : ℕ)
    (hk : k < (multiPackets flash len fullLen m readAddress hourGroups sn).length) :
    LengthLaw (multiPackets flash len fullLen m readAddress hourGroups sn)[k] ↔
      fullLen = len ∨ hourGroups / 12 ≤ k := by
  have hid : (multiRecord fullLen m hourGroups).header.frameIdLen =
      swap16 (frameIdLength (timeperiodContentHourgroups * 12 * fullLen)) := rfl
  simp only [multiPackets_eq] at hk ⊢
  obtain ⟨hlength, hlaw⟩ := lengthLaw_fullPackets flash len hid (hourGroups / 12) 1 readAddress sn
  -- a full packet, or the short one behind them
  by_cases hin : k < hourGroups / 12
  · rw [List.getElem_append_left (by omega), hlaw _ (List.getElem_mem _),
      announced_frameIdLength le_rfl hfull, toU16_dataLength le_rfl hlen]
    omega
  · rw [List.getElem_append_right (by omega)]
    exact iff_of_true (lengthLaw_remainderPacket flash hlen _ _ hourGroups _ _ (List.getElem_mem _))
      (.inr (by omega))

/-! ### All frames -/

/-- The full packets of a reply of several packets about water levels. -/
def FullWaterLevelPacket (st : StoreState) (stray : ℤ → UInt8)
    (query : QuerrytimeperiodDownmessage) (k : ℕ) : Prop :=
  swap16 query.precipitId = waterLevelElementId ∧
    ∃ hourGroups ∈ (getHourGroupsByTimperiod query.startTime query.endTime stray st.monthday).1,
      12 < hourGroups.toNat ∧ k < hourGroups.toNat / 12

/-- Which frame of a call is announced with its length: not the parameter reply, and not a full
packet of water levels. -/
def Uplink.LengthOk : Uplink → ℕ → Prop
  | .parameters .., _ => False
  | .timePeriod st _ _ stray query, k => ¬ FullWaterLevelPacket st stray query k
  | _, _ => True

/-- The law for the packets of a time-period reply. -/
theorem lengthLaw_timePeriod (st : StoreState) (systime : TimeDef) (sn : UInt16)
    (stray : ℤ → UInt8) (query : QuerrytimeperiodDownmessage) (k : ℕ)
    (hk : k < ((testSendTimePeriodData st systime sn stray query).getD []).length) :
    LengthLaw ((testSendTimePeriodData st systime sn stray query).getD [])[k] ↔
      ¬ FullWaterLevelPacket st stray query k := by
  rcases testSendTimePeriodData_cases st systime sn stray query with
    hnone | ⟨ty, m, readAddress, hourGroups, hcount, -, hty, hreply⟩
  · rw [hnone] at hk
    cases hk
  have hlen : ty.singleDatalen ≤ 4 := by cases ty <;> decide
  -- full packets are announced for records of three bytes, which water levels are not
  have hfull : FullWaterLevelPacket st stray query k ↔
      3 ≠ ty.singleDatalen ∧ 12 < hourGroups.toNat ∧ k < hourGroups.toNat / 12 := by
    have hwater : elementOf ty = waterLevelElementId ↔ 3 ≠ ty.singleDatalen := by cases ty <;> decide
    rw [FullWaterLevelPacket, hty, hwater, Option.mem_def.mp hcount]
    simp
  simp only [hreply, hfull] at hk ⊢
  by_cases hle : hourGroups.toNat ≤ timeperiodContentHourgroups
  · simp only [hle, if_true] at hk ⊢
    exact iff_of_true (lengthLaw_singlePacket st.flash hlen m readAddress hle sn _ (List.getElem_mem hk))
      fun h => Nat.not_lt.mpr hle h.2.1
  · simp only [hle, if_false] at hk ⊢
    rw [lengthLaw_multiPackets st.flash hlen (by decide)]
    rw [timeperiodContentHourgroups] at hle
    omega

/-- **Which frames obey the length law**: all but the reply to a parameter query and the full packets
of a reply of several packets about water levels. -/
theorem lengthLaw_iff (F : Type) [CFloat F] (u : Uplink) (k : Fin (u.sent F).length) :
    LengthLaw (u.sent F)[k] ↔ u.LengthOk k := by
  obtain ⟨k, hk⟩ := k
  have hetx : networkEtx ∈ [networkEtx, networkEtb] := by simp
  cases u with
  | timePeriod st systime sn stray query => exact lengthLaw_timePeriod st systime sn stray query k hk
  | picture p readings file s =>
      exact iff_of_true (isPicturePacket_loop p readings file true _ _ (List.getElem_mem hk)).lengthLaw trivial
  | plus p sn systime pulses lastPulses level =>
      obtain rfl : k = 0 := Nat.lt_one_iff.mp hk
      exact iff_of_true ((lengthLaw_toBytes rfl hetx).mpr rfl) trivial
  | hour st lastMonth call =>
      obtain rfl : k = 0 := Nat.lt_one_iff.mp hk
      exact iff_of_true ((lengthLaw_toBytes rfl hetx).mpr rfl) trivial
  | realData p sn systime pulses pulsesAgain lastPulses level =>
      obtain rfl : k = 0 := Nat.lt_one_iff.mp hk
      exact iff_of_true ((lengthLaw_toBytes rfl hetx).mpr rfl) trivial
  | clock p sn realTime =>
      obtain rfl : k = 0 := Nat.lt_one_iff.mp hk
      exact iff_of_true ((lengthLaw_toBytes rfl hetx).mpr rfl) trivial
  | parameters p sn systime =>
      obtain rfl : k = 0 := Nat.lt_one_iff.mp hk
      refine iff_of_false (fun hlaw => ?_) id
      exact absurd ((lengthLaw_toBytes rfl hetx).mp hlaw) (by decide)

/-- A parameter block of zeros. -/
def zeroParameters : RtuOperationParameters := .ofBytes []

/-- The reply to a parameter query announces 124 bytes and has 172. -/
theorem parametersReply_not_lengthLaw :
    ¬ LengthLaw (queryParametersInit zeroParameters 0 (march15 0x07)).toBytes ∧
      ¬ ∀ (u : Uplink), ∀ frame ∈ u.sent ℚ, LengthLaw frame := by
  have hbad : ¬ LengthLaw (queryParametersInit zeroParameters 0 (march15 0x07)).toBytes := by
    intro hlaw
    exact absurd ((lengthLaw_toBytes rfl (List.mem_cons_self ..)).mp hlaw) (by decide)
  exact ⟨hbad, fun h => hbad (h (.parameters zeroParameters 0 (march15 0x07)) _
    (List.mem_singleton.mpr rfl))⟩

/-! ## The checksum law -/

/-- **A kind of frames obeys the checksum law** when there is an order of the two bytes that
`CheckReceive` asks for and in which every such frame carries the CRC of what is sent before. -/
def CrcLawOf (k : UplinkKind) : Prop :=
  ∃ o, CheckReceiveDemands o ∧
    ∀ (F : Type) [CFloat F] (u : Uplink), u.kind = k → ∀ frame ∈ u.sent F, CrcLaw o frame

/-- The messages whose checksum a builder sets to the CRC of what stands before it. -/
def UpMessage.HasCrc {γ : Type} [Packed γ] (m : UpMessage γ) : Prop := m.crc = crc16Modbus m.body

/-- Setting the checksum does that. -/
theorem hasCrc_withCrc {γ : Type} [Packed γ] (m : UpMessage γ) : m.withCrc.HasCrc := rfl

/-- The plus message has its CRC. -/
theorem hasCrc_plusMessageInit (F : Type) [CFloat F] (p : RtuOperationParameters) (sn : UInt16)
    (systime : TimeDef) (pulses lastPulses level : UInt32) :
    (plusMessageInit F p sn systime pulses lastPulses level).HasCrc :=
  hasCrc_withCrc _

/-- The hour message has its CRC. -/
theorem hasCrc_hourMessageInit (F : Type) [CFloat F] (st : StoreState) (lastMonth : UInt8)
    (call : HourCall) : (hourMessageInit F st lastMonth call).1.message.HasCrc :=
  hasCrc_withCrc _

/-- The real-data reply has its CRC. -/
theorem hasCrc_queryRealDataInit (F : Type) [CFloat F] (p : RtuOperationParameters) (sn : UInt16)
    (systime : TimeDef) (pulses pulsesAgain lastPulses level : UInt32) :
    (queryRealDataInit F p sn systime pulses pulsesAgain lastPulses level).HasCrc :=
  hasCrc_withCrc _

/-- **Such a message carries its CRC low byte first.** -/
theorem UpMessage.HasCrc.crcLaw {γ : Type} [Packed γ] {m : UpMessage γ} (hcrc : m.HasCrc) :
    CrcLaw .lowFirst m.toBytes :=
  (crcLaw_append .lowFirst m.body _ (length_u16le _)).mpr (congrArg u16le hcrc)

/-- It does not carry it high byte first, unless the two bytes are equal. -/
theorem UpMessage.HasCrc.not_crcLaw {γ : Type} [Packed γ] {m : UpMessage γ} (hcrc : m.HasCrc)
    (hne : u16le (invertUint16 (crcRun m.body 0xFFFF)) ≠
      u16be (invertUint16 (crcRun m.body 0xFFFF))) : ¬ CrcLaw .highFirst m.toBytes := by
  have hcrc : m.crc = crc16Modbus m.body := hcrc
  rw [← crc16Modbus_eq_crcRun, ← hcrc] at hne
  rw [UpMessage.toBytes, crcLaw_append .highFirst _ _ (length_u16le _), ← hcrc]
  exact hne

/-- A packet of a time-period reply carries it high byte first. -/
theorem crcLaw_upframe (flash : Flash) (sn : UInt16) (m : QuerrytimeperiodUpmessage) :
    CrcLaw .highFirst (sendTimePerioadDataUpframe flash sn m) :=
  (crcLaw_append .highFirst _ _ (length_u16be _)).mpr rfl

/-- A picture packet carries it high byte first. -/
theorem IsPicturePacket.crcLaw {bytes : List UInt8} (h : IsPicturePacket bytes) :
    CrcLaw .highFirst bytes := by
  obtain ⟨header, payload, endId, rfl, -⟩ := h.parts
  exact (crcLaw_append .highFirst _ _ (length_u16be _)).mpr rfl

/-- Every packet of a time-period reply carries it high byte first. -/
theorem crcLaw_timePeriod (st : StoreState) (systime : TimeDef) (sn : UInt16) (stray : ℤ → UInt8)
    (query : QuerrytimeperiodDownmessage) :
    ∀ frame ∈ (testSendTimePeriodData st systime sn stray query).getD [],
      CrcLaw .highFirst frame := by
  intro frame hframe
  obtain ⟨m', sn', -, rfl⟩ := mem_testSendTimePeriodData st systime sn stray query frame hframe
  exact crcLaw_upframe _ _ _

/-- A downlink frame with its checksum high byte first. -/
def highFirstFrame : List UInt8 :=
  [0x7E, 0x7E] ++ List.replicate 24 0 ++
    u16be (crc16Modbus ([0x7E, 0x7E] ++ List.replicate 24 0))

/-- `CheckReceive` asks for the high byte first and for no other order. -/
theorem checkReceiveDemands_iff (o : CrcOrder) : CheckReceiveDemands o ↔ o = .highFirst := by
  refine ⟨fun h => ?_, fun h => h ▸ checkReceive_highFirst⟩
  cases o with
  | highFirst => rfl
  | lowFirst =>
      have hstart : [0x7E, 0x7E] <+: highFirstFrame := ⟨_, (List.append_assoc ..).symm⟩
      have hhigh : CrcLaw .highFirst highFirstFrame :=
        (crcLaw_append .highFirst _ _ (length_u16be _)).mpr rfl
      have hlow := (h highFirstFrame [] rfl hstart).mp
        ((checkReceive_highFirst highFirstFrame [] rfl hstart).mpr hhigh)
      exact absurd hlow (by decide +kernel)

/-- A kind obeys the law when all its frames carry the checksum high byte first. -/
theorem crcLawOf_iff (k : UplinkKind) :
    CrcLawOf k ↔ ∀ (F : Type) [CFloat F] (u : Uplink), u.kind = k →
      ∀ frame ∈ u.sent F, CrcLaw .highFirst frame := by
  simp only [CrcLawOf, checkReceiveDemands_iff, exists_eq_left]

/-- One frame that does not carry it high byte first decides against its kind. -/
theorem not_crcLawOf (u : Uplink) {frame : List UInt8} (hframe : u.sent ℚ = [frame])
    (hbad : ¬ CrcLaw .highFirst frame) : ¬ CrcLawOf u.kind := by
  intro h
  refine hbad ((crcLawOf_iff u.kind).mp h ℚ u rfl frame ?_)
  rw [hframe]
  exact List.mem_singleton.mpr rfl

/-- The hour message of the 15th of March 2020, 7 o'clock, over a flash of zeros but one byte. -/
def march15Call : HourCall := ⟨march15 0x07, 0, .replicate 5 0, 0, 0, 0, 0⟩

/-- A plus message does not carry its CRC high byte first. -/
theorem not_crcLaw_march15Plus :
    ¬ CrcLaw .highFirst (plusMessageInit ℚ zeroParameters 0 (march15 0x07) 0 0 0).toBytes :=
  (hasCrc_plusMessageInit ..).not_crcLaw (by decide +kernel)

/-- The reply to a parameter query carries no CRC at all. -/
theorem not_crcLaw_march15Parameters (o : CrcOrder) :
    ¬ CrcLaw o (queryParametersInit zeroParameters 0 (march15 0x07)).toBytes := by
  cases o <;> decide +kernel

/-- **Which kinds obey the checksum law**: exactly the packets of time-period replies and of picture
uploads. The other builders store the CRC low byte first or a constant. -/
theorem crcLaw_iff (k : UplinkKind) : CrcLawOf k ↔ k = .timePeriod ∨ k = .picture := by
  cases k with
  | timePeriod =>
      refine iff_of_true ((crcLawOf_iff _).mpr fun F _ u hu => ?_) (.inl rfl)
      cases u <;> cases hu
      exact crcLaw_timePeriod _ _ _ _ _
  | picture =>
      refine iff_of_true ((crcLawOf_iff _).mpr fun F _ u hu frame hframe => ?_) (.inr rfl)
      cases u <;> cases hu
      exact (isPicturePacket_loop _ _ _ _ _ frame hframe).crcLaw
  | plus =>
      exact iff_of_false (not_crcLawOf (.plus zeroParameters 0 (march15 0x07) 0 0 0) rfl
        not_crcLaw_march15Plus) (by decide)
  | hour =>
      exact iff_of_false (not_crcLawOf (.hour (markedStore 0) 0 march15Call) rfl
        ((hasCrc_hourMessageInit ..).not_crcLaw (by decide +kernel))) (by decide)
  | realData =>
      exact iff_of_false (not_crcLawOf (.realData zeroParameters 0 (march15 0x07) 0 0 0 0) rfl
        ((hasCrc_queryRealDataInit ..).not_crcLaw (by decide +kernel))) (by decide)
  | parameters =>
      exact iff_of_false (not_crcLawOf (.parameters zeroParameters 0 (march15 0x07)) rfl
        (not_crcLaw_march15Parameters .highFirst)) (by decide)
  | clock =>
      exact iff_of_false (not_crcLawOf (.clock zeroParameters 0 (march15 0x07)) rfl
        (by decide +kernel)) (by decide)

/-- A plus message ends with its CRC low byte first, the reply to a parameter query with no CRC at
all, and no order suits every frame. -/
theorem plusMessage_not_crcLaw :
    CrcLaw .lowFirst (plusMessageInit ℚ zeroParameters 0 (march15 0x07) 0 0 0).toBytes ∧
      ¬ CrcLaw .highFirst (plusMessageInit ℚ zeroParameters 0 (march15 0x07) 0 0 0).toBytes ∧
      (∀ o, ¬ CrcLaw o (queryParametersInit zeroParameters 0 (march15 0x07)).toBytes) ∧
      ¬ ∃ o, CheckReceiveDemands o ∧ ∀ (u : Uplink), ∀ frame ∈ u.sent ℚ, CrcLaw o frame := by
  refine ⟨(hasCrc_plusMessageInit ..).crcLaw, not_crcLaw_march15Plus, not_crcLaw_march15Parameters, ?_⟩
  rintro ⟨o, -, h⟩
  exact not_crcLaw_march15Parameters o (h (.parameters zeroParameters 0 (march15 0x07)) _ (List.mem_singleton.mpr rfl))

end RtuShuiwen
