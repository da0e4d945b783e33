import RtuShuiwen.Gprs.Picture
import RtuShuiwen.Protocol.TimePeriod

/-! # Numbers and end marks of the packets of a message

A message of several packets gives each packet the total and its own number, twelve bits each, and
an end mark: `NETWORK_ETB` while packets follow, `NETWORK_ETX` on the last. `expectedMarks` is the
sequence a receiver waits for.

* **`timePeriodMarked_never`**: a time-period reply has the right count and numbers, and never the
  right end marks;
* **`pictureFramed_iff`**: a picture upload is framed right exactly when the size of the file is no
  multiple of the packet size. -/

namespace RtuShuiwen

open ByteLayout CellMemory

/-! ## What a packet says of itself -/

/-- The total, the number of the packet and its end mark. -/
structure PacketMarks where
  total : ℕ
  serial : ℕ
  endMark : UInt8
  deriving DecidableEq

/-- The marks in the bytes of a packet: the numbers stand behind the header, the end mark before the
checksum. -/
def packetMarks (frame : List UInt8) : PacketMarks where
  total := (frame.getD 14 0).toNat * 16 + (frame.getD 15 0).toNat / 16
  serial := (frame.getD 15 0).toNat % 16 * 256 + (frame.getD 16 0).toNat
  endMark := frame.getD (frame.length - 3) 0

/-- What stands between the packet numbers and the end mark. -/
def packetPayload (frame : List UInt8) : List UInt8 := (frame.drop 17).take (frame.length - 20)

/-- The end mark of packet `i`, counted from 0, of `n`: only the last one closes the message. -/
def expectedEndMark (n i : ℕ) : UInt8 := if i + 1 = n then networkEtx else networkEtb

/-- **The marks of a message of `n` packets**, in order. -/
def expectedMarks (n : ℕ) : List PacketMarks :=
  (List.range n).map fun i => ⟨n, i + 1, expectedEndMark n i⟩

/-- The total in the three bytes of the packet numbers. -/
def numbersTotal (numbers : Vector UInt8 3) : ℕ :=
  (numbers.get 0).toNat * 16 + (numbers.get 1).toNat / 16

/-- The number of the packet in these bytes. -/
def numbersSerial (numbers : Vector UInt8 3) : ℕ :=
  (numbers.get 1).toNat % 16 * 256 + (numbers.get 2).toNat

/-- **The marks of a packet with its parts in view.** -/
theorem packetMarks_parts (h : MessageHeader) (numbers : Vector UInt8 3) (payload : List UInt8)
    (endId : UInt8) {crc : List UInt8} (hcrc : crc.length = 2) :
    packetMarks (h.toBytes ++ (numbers.toList ++ payload) ++ [endId] ++ crc) =
      ⟨numbersTotal numbers, numbersSerial numbers, endId⟩ := by
  have hassoc : h.toBytes ++ (numbers.toList ++ payload) ++ [endId] ++ crc =
      h.toBytes ++ (numbers.toList ++ (payload ++ ([endId] ++ crc))) := by
    simp only [List.append_assoc]
  -- the numbers stand behind the 14 bytes of the header
  have hnumber : ∀ (k : ℕ) (hk : k < 3),
      (h.toBytes ++ (numbers.toList ++ (payload ++ ([endId] ++ crc)))).getD (14 + k) 0 =
        numbers[k] := by
    intro k hk
    have hlist : k < numbers.toList.length := by rwa [Vector.length_toList]
    rw [← h.length_toBytes, getD_append_add, List.getD_append _ _ _ _ hlist,
      List.getD_eq_getElem _ _ hlist, Vector.getElem_toList]
  have hfront : h.toBytes ++ (numbers.toList ++ payload) ++ [endId] ++ crc =
      (h.toBytes ++ (numbers.toList ++ payload)) ++ ([endId] ++ crc) := List.append_assoc ..
  -- the end mark is the third byte from the end
  have hend : (h.toBytes ++ (numbers.toList ++ payload) ++ [endId] ++ crc).getD
      ((h.toBytes ++ (numbers.toList ++ payload) ++ [endId] ++ crc).length - 3) 0 = endId := by
    have hat : (h.toBytes ++ (numbers.toList ++ payload) ++ [endId] ++ crc).length - 3 =
        (h.toBytes ++ (numbers.toList ++ payload)).length + 0 := by
      simp only [List.length_append, hcrc, List.length_singleton]
      omega
    rw [hat, hfront, getD_append_add]
    rfl
  unfold packetMarks
  rw [hend, hassoc, hnumber 0 (by omega), hnumber 1 (by omega), hnumber 2 (by omega)]
  rfl

/-- The payload of a packet with its parts in view. -/
theorem packetPayload_parts (h : MessageHeader) (numbers : Vector UInt8 3) (payload : List UInt8)
    (endId : UInt8) {crc : List UInt8} (hcrc : crc.length = 2) :
    packetPayload (h.toBytes ++ (numbers.toList ++ payload) ++ [endId] ++ crc) = payload := by
  have hfront : (h.toBytes ++ numbers.toList).length = 17 := by
    rw [List.length_append, h.length_toBytes, Vector.length_toList]
  have hassoc : h.toBytes ++ (numbers.toList ++ payload) ++ [endId] ++ crc =
      (h.toBytes ++ numbers.toList) ++ (payload ++ ([endId] ++ crc)) := by
    simp only [List.append_assoc]
  rw [packetPayload, hassoc, List.drop_left' hfront, List.take_left']
  simp only [List.length_append, hcrc, List.length_singleton, h.length_toBytes, Vector.length_toList]
  omega

/-! ## Setting the numbers -/

/-- The four high bits of a byte whose low ones are replaced. -/
theorem toNat_replaceLow (b high : UInt8) (hhigh : high.toNat < 16) :
    ((b &&& 0xf0) ||| high).toNat / 16 = b.toNat / 16 ∧
      ((b &&& 0xf0) ||| high).toNat % 16 = high.toNat := by
  have hb : b.toNat < 256 := b.toNat_lt
  have hmask : (15 : ℕ) = 2 ^ 4 - 1 := rfl
  -- the two masks split the byte at bit 4, so quotient and remainder by 16 can be taken apart
  rw [UInt8.toNat_or, UInt8.toNat_and]
  constructor
  · calc ((b.toNat &&& 240) ||| high.toNat) / 2 ^ 4
        = (b.toNat / 2 ^ 4 &&& 15) ||| high.toNat / 2 ^ 4 := by
          rw [Nat.or_div_two_pow, Nat.and_div_two_pow]
      _ = b.toNat / 2 ^ 4 := by
          rw [Nat.div_eq_of_lt (by omega : high.toNat < 2 ^ 4), Nat.or_zero, hmask,
            Nat.and_two_pow_sub_one_eq_mod]
          omega
  · calc ((b.toNat &&& 240) ||| high.toNat) % 2 ^ 4
        = (b.toNat % 2 ^ 4 &&& 0) ||| high.toNat % 2 ^ 4 := by
          rw [Nat.or_mod_two_pow, Nat.and_mod_two_pow]
      _ = high.toNat := by
          rw [Nat.and_zero, Nat.zero_or, Nat.mod_eq_of_lt (by omega)]

/-- **Setting the number of a packet keeps the total and sets all twelve bits of the number.** -/
theorem numbers_setPacketNumber (numbers : Vector UInt8 3) {high low : UInt8} {n : ℕ}
    (hn : n < 4096) (hhigh : high.toNat = n / 256) (hlow : low.toNat = n % 256) :
    numbersTotal (setPacketNumber numbers high low) = numbersTotal numbers ∧
      numbersSerial (setPacketNumber numbers high low) = n := by
  obtain ⟨hkept, hset⟩ := toNat_replaceLow numbers[1] high (by omega)
  constructor
  · show numbers[0].toNat * 16 + ((numbers[1] &&& 0xf0) ||| high).toNat / 16 = _
    rw [hkept]
    rfl
  · show ((numbers[1] &&& 0xf0) ||| high).toNat % 16 * 256 + low.toNat = n
    rw [hset, hhigh, hlow]
    omega

/-! ## Packets of a time-period reply -/

/-- The marks of a packet: the end mark is always the same. -/
theorem packetMarks_upframe (flash : Flash) (sn : UInt16) (m : QuerrytimeperiodUpmessage) :
    packetMarks (sendTimePerioadDataUpframe flash sn m) =
      ⟨numbersTotal m.totalPktsSn, numbersSerial m.totalPktsSn, networkEtb⟩ := by
  obtain ⟨crc, hcrc, hparts⟩ := upframe_parts flash sn m
  rw [hparts, packetMarks_parts _ _ _ _ hcrc]

/-- The number that the loop counter sets. -/
theorem numbers_withSerial (m : QuerrytimeperiodUpmessage) {i : ℕ} (hi : i < 4096) :
    numbersTotal (m.withSerial (.ofNat i)).totalPktsSn = numbersTotal m.totalPktsSn ∧
      numbersSerial (m.withSerial (.ofNat i)).totalPktsSn = i := by
  have htoNat : (UInt32.ofNat i).toNat = i := by
    rw [UInt32.toNat_ofNat']
    omega
  apply numbers_setPacketNumber _ hi
  · have hmask : UInt32.toNat 0x0f = 2 ^ 4 - 1 := rfl
    have hshift : UInt32.toNat 8 % 32 = 8 := rfl
    rw [UInt32.toNat_toUInt8, UInt32.toNat_and, hmask, Nat.and_two_pow_sub_one_eq_mod,
      UInt32.toNat_shiftRight, hshift, htoNat, Nat.shiftRight_eq_div_pow]
    omega
  · rw [UInt32.toNat_toUInt8, htoNat]

/-- The total that is set before the loop. -/
theorem numbersTotal_withTotal (m : QuerrytimeperiodUpmessage) {n : ℕ} (hn : n < 4096) :
    numbersTotal (m.withTotal (.ofNat n)).totalPktsSn = n := by
  have htoNat : (UInt16.ofNat n).toNat = n := by
    rw [UInt16.toNat_ofNat']
    omega
  have hfour : UInt16.toNat 4 % 16 = 4 := rfl
  -- the total is stored shifted left by four: its high eight bits, then its low four
  have hhigh : ((UInt16.ofNat n) >>> 4).toUInt8.toNat = n / 16 := by
    rw [UInt16.toNat_toUInt8, UInt16.toNat_shiftRight, hfour, htoNat, Nat.shiftRight_eq_div_pow]
    omega
  have hlow : (((UInt16.ofNat n) <<< 4) &&& 0x00f0).toUInt8.toNat / 16 = n % 16 := by
    have hmask : UInt16.toNat 0x00f0 = 240 := rfl
    have hbits : (15 : ℕ) = 2 ^ 4 - 1 := rfl
    rw [UInt16.toNat_toUInt8, UInt16.toNat_and, hmask, UInt16.toNat_shiftLeft, hfour, htoNat,
      Nat.shiftLeft_eq]
    calc ((n * 2 ^ 4 % 2 ^ 16 &&& 240) % 2 ^ 8) / 2 ^ 4
        = ((n * 2 ^ 4 % 2 ^ 16) % 2 ^ 8 &&& 240) / 2 ^ 4 := by rw [Nat.and_mod_two_pow]
      _ = (n * 2 ^ 4 % 2 ^ 16) % 2 ^ 8 / 2 ^ 4 &&& 15 := by rw [Nat.and_div_two_pow]
      _ = n % 16 := by
          rw [hbits, Nat.and_two_pow_sub_one_eq_mod]
          omega
  show ((UInt16.ofNat n) >>> 4).toUInt8.toNat * 16 +
    (((UInt16.ofNat n) <<< 4) &&& 0x00f0).toUInt8.toNat / 16 = n
  rw [hhigh, hlow]
  omega

/-- The marks of the packet of a short reply. -/
theorem packetMarks_singlePacket (flash : Flash) (len : ℕ) (m : QuerrytimeperiodUpmessage)
    (readAddress : UInt32) (hourGroups : ℕ) (sn : UInt16) :
    (singlePacket flash len m readAddress hourGroups sn).map packetMarks = [⟨1, 1, networkEtb⟩] := by
  have htotal : numbersTotal #v[0x00, 0x10, 0x01] = 1 := by decide
  have hserial : numbersSerial #v[0x00, 0x10, 0x01] = 1 := by decide
  rw [singlePacket, List.map_singleton, packetMarks_upframe]
  show [PacketMarks.mk (numbersTotal #v[0x00, 0x10, 0x01]) (numbersSerial #v[0x00, 0x10, 0x01])
    networkEtb] = _
  rw [htotal, hserial]

/-- **The marks of the full packets**: their numbers go up from the counter, the total stays. -/
theorem packetMarks_fullPackets (flash : Flash) (len : ℕ) (m : QuerrytimeperiodUpmessage) (n j : ℕ)
    (hn : j + n < 4096) (readAddress : UInt32) (sn : UInt16) :
    (fullPackets flash len m n (.ofNat (j + 1)) readAddress sn).1.map packetMarks =
      (List.range n).map fun k => ⟨numbersTotal m.totalPktsSn, j + k + 1, networkEtb⟩ := by
  induction n generalizing j readAddress sn with
  | zero => rfl
  | succ n ih =>
      have hcount : UInt32.ofNat (j + 1) + 1 = .ofNat (j + 1 + 1) := by
        rw [UInt32.ofNat_add (j + 1)]
        rfl
      -- the packet of this turn has number `j + 1`; the others go on from `j + 2`
      obtain ⟨htotal, hserial⟩ := numbers_withSerial (m.withRange
        (readAddress + (.ofNat (j + 1) - 1) * 12 * 12 * .ofNat len)
        (.ofNat (timeperiodContentHourgroups * 12 * len))) (show j + 1 < 4096 by omega)
      simp only [fullPackets, hcount]
      rw [List.map_cons, packetMarks_upframe, htotal, hserial, ih (j + 1) (by omega),
        List.range_succ_eq_map, List.map_cons, List.map_map]
      congr 1
      apply List.map_congr_left
      intro k _
      simp only [Function.comp_apply]
      rw [show j + 1 + k + 1 = j + (k + 1) + 1 by omega]

/-- The marks of a reply of several packets. -/
theorem packetMarks_multiPackets (flash : Flash) (len fullLen : ℕ) (m : QuerrytimeperiodUpmessage)
    (readAddress : UInt32) {hourGroups : ℕ} (hhours : hourGroups < 8784) (sn : UInt16) :
    (multiPackets flash len fullLen m readAddress hourGroups sn).map packetMarks =
      (List.range ((hourGroups + 11) / 12)).map fun k =>
        ⟨(hourGroups + 11) / 12, k + 1, networkEtb⟩ := by
  have htotal : numbersTotal (multiRecord fullLen m hourGroups).totalPktsSn =
      hourGroups / 12 + (if hourGroups % 12 ≠ 0 then 1 else 0) :=
    numbersTotal_withTotal m (by split <;> omega)
  rw [multiPackets_eq]
  generalize multiRecord fullLen m hourGroups = m' at htotal ⊢
  have hfull : (fullPackets flash len m' (hourGroups / 12) 1 readAddress sn).1.map packetMarks =
      (List.range (hourGroups / 12)).map fun k =>
        ⟨numbersTotal m'.totalPktsSn, 0 + k + 1, networkEtb⟩ :=
    packetMarks_fullPackets flash len m' _ 0 (by omega) readAddress sn
  rw [List.map_append, hfull, htotal, remainderPacket]
  -- hours left over make one packet more, numbered behind the full ones
  by_cases hrest : hourGroups % timeperiodContentHourgroups ≠ 0
  · have hcount : (hourGroups + 11) / 12 = hourGroups / 12 + 1 := by
      rw [timeperiodContentHourgroups] at hrest
      omega
    rw [if_pos hrest, if_pos hrest, List.map_singleton, packetMarks_upframe, hcount,
      List.range_succ, List.map_append, List.map_singleton]
    congr 1
    · apply List.map_congr_left
      intro k _
      rw [Nat.zero_add]
    · obtain ⟨hkept, hserial⟩ := numbers_withSerial
        (((m'.withRange _ _).withFrameIdLen _)) (show hourGroups / 12 + 1 < 4096 by omega)
      rw [hkept, hserial]
      exact congrArg (fun total => [PacketMarks.mk total _ _]) (htotal.trans (if_pos hrest ▸ rfl))
  · have hcount : (hourGroups + 11) / 12 = hourGroups / 12 := by
      rw [timeperiodContentHourgroups] at hrest
      omega
    rw [if_neg hrest, if_neg hrest, List.map_nil, List.append_nil, hcount]
    apply List.map_congr_left
    intro k _
    rw [Nat.zero_add, Nat.add_zero]

/-- **The marks of a time-period reply**: as many packets as it takes for twelve hours each, numbered
in order, none of which closes the message. -/
theorem packetMarks_testSend (q : ValidQuery) (st : StoreState) (systime : TimeDef) (sn : UInt16)
    (stray : ℤ → UInt8) :
    ∃ frames, testSendTimePeriodData st systime sn stray q.message = some frames ∧
      frames.map packetMarks = (List.range ((q.hours + 11) / 12)).map fun k =>
        ⟨(q.hours + 11) / 12, k + 1, networkEtb⟩ := by
  refine ⟨_, q.testSend_eq st systime sn stray, ?_⟩
  by_cases hle : q.hours ≤ 12
  · have hone : (q.hours + 11) / 12 = 1 := by
      have := q.hours_pos
      omega
    rw [if_pos hle, packetMarks_singlePacket, hone]
    rfl
  · rw [if_neg hle]
    exact packetMarks_multiPackets st.flash _ 3 _ _ q.hours_lt sn

/-- Marks without an end of the message are not the expected ones. -/
theorem ne_expectedMarks {n : ℕ} (hn : 0 < n) :
    ((List.range n).map fun k => PacketMarks.mk n (k + 1) networkEtb) ≠ expectedMarks n := by
  intro h
  -- the last of the marks tells the two lists apart
  have hmark : networkEtb = expectedEndMark n (n - 1) := by
    have hentry : PacketMarks.mk n (n - 1 + 1) networkEtb =
        ⟨n, n - 1 + 1, expectedEndMark n (n - 1)⟩ :=
      (List.map_inj_left.mp h) (n - 1) (List.mem_range.mpr (by omega))
    exact congrArg PacketMarks.endMark hentry
  rw [expectedEndMark, if_pos (by omega)] at hmark
  exact absurd hmark (by decide)

/-- **The reply to a time-period query is packed right**: one packet for twelve hours, with the marks
of a message of that many packets. -/
def TimePeriodMarked (q : ValidQuery) (st : StoreState) (systime : TimeDef) (sn : UInt16)
    (stray : ℤ → UInt8) : Prop :=
  ∃ frames, testSendTimePeriodData st systime sn stray q.message = some frames ∧
    frames.length = (q.hours + 11) / 12 ∧ frames.map packetMarks = expectedMarks ((q.hours + 11) / 12)

/-- A reply never carries the marks of a whole message. -/
theorem not_timePeriodMarked (q : ValidQuery) (st : StoreState) (systime : TimeDef) (sn : UInt16)
    (stray : ℤ → UInt8) : ¬ TimePeriodMarked q st systime sn stray := by
  rintro ⟨frames, hframes, -, hmarks⟩
  obtain ⟨frames', hframes', hmarks'⟩ := packetMarks_testSend q st systime sn stray
  obtain rfl : frames = frames' := Option.some_injective _ (hframes.symm.trans hframes')
  have hpos := q.hours_pos
  exact ne_expectedMarks (by omega) (hmarks'.symm.trans hmarks)

/-- **No time-period reply is marked right**: count, total and numbers are right, and every packet,
the last one too, says that more follow. -/
theorem timePeriodMarked_never (q : ValidQuery) (st : StoreState) (systime : TimeDef) (sn : UInt16)
    (stray : ℤ → UInt8) :
    ¬ TimePeriodMarked q st systime sn stray ∧
      ∃ frames, testSendTimePeriodData st systime sn stray q.message = some frames ∧
        frames.map packetMarks = (List.range ((q.hours + 11) / 12)).map fun k =>
          ⟨(q.hours + 11) / 12, k + 1, networkEtb⟩ :=
  ⟨not_timePeriodMarked q st systime sn stray, packetMarks_testSend q st systime sn stray⟩

/-- The reply for the 36 hours from New Year on is no whole message. -/
theorem newYearQuery_not_timePeriodMarked :
    ¬ TimePeriodMarked newYearQuery (markedStore 0) ⟨0, 0, 0, 0, 0, 0, 0⟩ 0 fun _ => 0 :=
  not_timePeriodMarked newYearQuery _ _ _ _

/-! ## Packets of a picture upload -/

/-- **The bytes of a packet that `wp_send_data` sends** with a payload of `n` bytes. -/
theorem wpSendData_eq (frame : UpFrame) {n : ℕ} (hn : n ≤ pictureLen) :
    ∃ crc : List UInt8, crc.length = 2 ∧ wpSendData frame (n + 3) = frame.header.toBytes ++
      (frame.totalPktsAndCurSn.toList ++ slice frame.picture 0 n) ++ [frame.contentEndId] ++ crc := by
  have htake : (frame.totalPktsAndCurSn.toList ++ slice frame.picture 0 pictureLen).take (n + 3) =
      frame.totalPktsAndCurSn.toList ++ slice frame.picture 0 n := by
    obtain ⟨k, hk⟩ := Nat.exists_eq_add_of_le hn
    have hlen : (frame.totalPktsAndCurSn.toList ++ slice frame.picture 0 n).length = n + 3 := by
      rw [List.length_append, Vector.length_toList, length_slice, Nat.add_comm]
    rw [hk, slice_add, ← List.append_assoc, List.take_left' hlen]
  unfold wpSendData
  simp only [htake]
  exact ⟨_, length_u16be _, rfl⟩

/-- The packet number as `UpdateFrameContentData` stores it. -/
theorem numbers_curSn (numbers : Vector UInt8 3) {n : ℕ} (hn : n < 4096) :
    numbersTotal (setPacketNumber numbers ((UInt16.ofNat n >>> 8) &&& 0xf).toUInt8
        (UInt16.ofNat n).toUInt8) = numbersTotal numbers ∧
      numbersSerial (setPacketNumber numbers ((UInt16.ofNat n >>> 8) &&& 0xf).toUInt8
        (UInt16.ofNat n).toUInt8) = n := by
  have htoNat : (UInt16.ofNat n).toNat = n := by
    rw [UInt16.toNat_ofNat']
    omega
  apply numbers_setPacketNumber _ hn
  · have hmask : UInt16.toNat 0xf = 2 ^ 4 - 1 := rfl
    have hshift : UInt16.toNat 8 % 16 = 8 := rfl
    rw [UInt16.toNat_toUInt8, UInt16.toNat_and, hmask, Nat.and_two_pow_sub_one_eq_mod,
      UInt16.toNat_shiftRight, hshift, htoNat, Nat.shiftRight_eq_div_pow]
    omega
  · rw [UInt16.toNat_toUInt8, htoNat]

/-- Which packets count as the first. -/
theorem curSn_first {n : ℕ} (hn : n < 4096) : UInt16.ofNat n &&& 0xfff = 0x1 ↔ n = 1 := by
  have hmask : UInt16.toNat 0xfff = 2 ^ 12 - 1 := rfl
  rw [← UInt16.toNat_inj, UInt16.toNat_and, UInt16.toNat_ofNat', hmask,
    Nat.and_two_pow_sub_one_eq_mod, UInt16.toNat_one]
  omega

/-- The payload of packet `n` with the data `buf`: the first one has a picture header before them. -/
def picturePayload (p : RtuOperationParameters) (sn : UInt16) (sysTime : TimeDef) (n : ℕ)
    (buf : List UInt8) : List UInt8 :=
  if n = 1 then picInfoHead p sn sysTime ++ buf else buf

/-- A payload fits into the frame. -/
theorem length_picturePayload_le (p : RtuOperationParameters) (sn : UInt16) (sysTime : TimeDef) (n : ℕ)
    {buf : List UInt8} (hbuf : buf.length ≤ transContentLen) :
    (picturePayload p sn sysTime n buf).length ≤ pictureLen := by
  unfold picturePayload pictureLen
  split
  · rw [List.length_append, length_picInfoHead]
    omega
  · omega

/-- **What a call of `UpdateFrameContentData` does**, for packet `n` when `left` bytes are to be sent
from it on: numbers, end mark and counters, and the payload at the front of the union. -/
theorem updateFrameContentData_spec (p : RtuOperationParameters) (sysTime : TimeDef)
    (buf : List UInt8) (openNewPicture : Bool) (s : PictureState) {n left : ℕ} (hn : n < 4096)
    (hsn : (if openNewPicture then 1 else s.curSn) = .ofNat n) (hleft : s.picSize = left) :
    ∃ (frameIdLen : UInt16) (picture : CellMemory UInt8) (sn : UInt16),
      updateFrameContentData p sysTime buf openNewPicture s =
        ({ picSize := left - buf.length
           curSn := .ofNat (n + 1)
           frame := {
             header := { s.frame.header with frameIdLen }
             totalPktsAndCurSn := setPacketNumber s.frame.totalPktsAndCurSn
               ((UInt16.ofNat n >>> 8) &&& 0xf).toUInt8 (UInt16.ofNat n).toUInt8
             picture
             contentEndId := if left ≤ buf.length then networkEtx else networkEtb } },
         (picturePayload p sn sysTime n buf).length + 3) ∧
      slice picture 0 (picturePayload p sn sysTime n buf).length =
        picturePayload p sn sysTime n buf := by
  have hend : ((left : ℤ) - buf.length ≤ 0) = (left ≤ buf.length) := by
    rw [eq_iff_iff]
    omega
  have hnext : (UInt16.ofNat n) + 1 = .ofNat (n + 1) := by
    rw [UInt16.ofNat_add]
    rfl
  unfold updateFrameContentData picturePayload
  simp only [hsn, hleft, hend, hnext, curSn_first hn]
  by_cases hfirst : n = 1
  · -- header and data are laid one behind the other
    simp only [hfirst, if_true]
    generalize swap16 (ofBytes16 (s.frame.picture 1) (s.frame.picture 0) + 1) = sn
    have hhead := length_picInfoHead p sn sysTime
    have hlen : buf.length + 3 + picInfoHeadLen = (picInfoHead p sn sysTime ++ buf).length + 3 := by
      rw [List.length_append, hhead]
      omega
    rw [hlen]
    refine ⟨_, _, sn, rfl, ?_⟩
    have happend := patch_append s.frame.picture 0 (picInfoHead p sn sysTime) buf
    rw [Nat.zero_add, hhead] at happend
    rw [← happend, slice_patch_self]
  · simp only [hfirst, if_false]
    exact ⟨_, _, 0, rfl, slice_patch_self _ _ _⟩

/-- One turn of the upload loop: what packet `n` with the data `buf` says, when `left` bytes are to be
sent from it on, and what the turn leaves to the next one. -/
structure PictureTurn (p : RtuOperationParameters) (sysTime : TimeDef) (buf : List UInt8) (n left : ℕ)
    (total : ℕ) (frame : List UInt8) (s' : PictureState) : Prop where
  /-- The last packet closes the message. -/
  marks : packetMarks frame = ⟨total, n, if left ≤ buf.length then networkEtx else networkEtb⟩
  /-- Only the first packet has a picture header. -/
  payload : ∃ sn, packetPayload frame = picturePayload p sn sysTime n buf
  /-- The total stays. -/
  total_eq : numbersTotal s'.frame.totalPktsAndCurSn = total
  /-- The data count as sent. -/
  picSize_eq : s'.picSize = left - buf.length
  /-- The next packet has the next number. -/
  curSn_eq : s'.curSn = .ofNat (n + 1)

/-- **The step of the upload loop.** -/
theorem pictureTurn (p : RtuOperationParameters) (sysTime : TimeDef) {buf : List UInt8}
    (hbuf : buf.length ≤ transContentLen) (openNewPicture : Bool) (s : PictureState) {n left : ℕ}
    (hn : n < 4096) (hsn : (if openNewPicture then 1 else s.curSn) = .ofNat n)
    (hleft : s.picSize = left) :
    PictureTurn p sysTime buf n left (numbersTotal s.frame.totalPktsAndCurSn)
      (wpSendData (updateFrameContentData p sysTime buf openNewPicture s).1.frame
        (updateFrameContentData p sysTime buf openNewPicture s).2)
      (updateFrameContentData p sysTime buf openNewPicture s).1 := by
  obtain ⟨frameIdLen, picture, sn, hupdate, hslice⟩ :=
    updateFrameContentData_spec p sysTime buf openNewPicture s hn hsn hleft
  obtain ⟨htotal, hserial⟩ := numbers_curSn s.frame.totalPktsAndCurSn hn
  obtain ⟨crc, hcrc, hbytes⟩ := wpSendData_eq
    (updateFrameContentData p sysTime buf openNewPicture s).1.frame
    (length_picturePayload_le p sn sysTime n hbuf)
  rw [hupdate] at hbytes ⊢
  constructor
  case marks => rw [hbytes, packetMarks_parts _ _ _ _ hcrc, htotal, hserial]
  case payload => exact ⟨sn, by rw [hbytes, packetPayload_parts _ _ _ _ hcrc, hslice]⟩
  case total_eq => exact htotal
  case picSize_eq => rfl
  case curSn_eq => rfl

/-- Behind the first packet come the marks of the others. -/
theorem expectedEndMark_succ (n i : ℕ) : expectedEndMark (n + 1) (i + 1) = expectedEndMark n i := by
  unfold expectedEndMark
  exact if_congr (Nat.add_right_cancel_iff) rfl rfl

/-- One turn takes up to 900 bytes off the file. -/
theorem length_turn (file : List UInt8) : (file.take transContentLen).length = min 900 file.length ∧
    (file.drop transContentLen).length = file.length - 900 := ⟨List.length_take, List.length_drop⟩

/-- **The marks of an upload** from packet `n` on: the total that was set, numbers in order, and the
end of the message on the last one. -/
theorem packetMarks_loop (p : RtuOperationParameters) (clock : UInt16 → TimeDef) (file : List UInt8)
    (openNewPicture : Bool) (s : PictureState) {n : ℕ} (hfit : n + (file.length + 899) / 900 ≤ 4096)
    (hsn : (if openNewPicture then 1 else s.curSn) = .ofNat n) (hleft : s.picSize = file.length) :
    (sendPictureLoop p clock file openNewPicture s).1.map packetMarks =
      (List.range ((file.length + 899) / 900)).map fun i =>
        ⟨numbersTotal s.frame.totalPktsAndCurSn, n + i,
          expectedEndMark ((file.length + 899) / 900) i⟩ := by
  -- the induction is on the turns of the loop; each takes 900 bytes off the file
  fun_induction sendPictureLoop p clock file openNewPicture s generalizing n with
  | case1 => rfl
  | case2 openNewPicture s b file updated rest =>
      rename_i ih
      have hbuf : ((b :: file).take transContentLen).length ≤ transContentLen :=
        List.length_take_le _ _
      have hpos : 0 < (b :: file).length := Nat.succ_pos _
      obtain ⟨hdata, hrest⟩ := length_turn (b :: file)
      -- one packet for the data of this turn, the rest for what is left
      have hcount : ((b :: file).length + 899) / 900 =
          (((b :: file).drop transContentLen).length + 899) / 900 + 1 := by
        rw [hrest]
        omega
      have hturn := pictureTurn p (clock s.curSn) hbuf openNewPicture s (by omega) hsn hleft
      -- the packet closes the message when nothing is left behind it
      have hfirst : (if (b :: file).length ≤ ((b :: file).take transContentLen).length
          then networkEtx else networkEtb) =
            expectedEndMark ((((b :: file).drop transContentLen).length + 899) / 900 + 1) 0 := by
        unfold expectedEndMark
        exact if_congr (by omega) rfl rfl
      rw [List.map_cons, hturn.marks, ih (by omega : n + 1 + _ ≤ _) hturn.curSn_eq
          (by rw [hturn.picSize_eq]; omega), hturn.total_eq, hcount, hfirst,
        List.range_succ_eq_map, List.map_cons, List.map_map]
      congr 1
      apply List.map_congr_left
      intro i _
      rw [Function.comp_apply, expectedEndMark_succ, Nat.add_right_comm n 1 i, Nat.add_assoc n i 1]

/-- Behind the first packet the payloads are the rest of the file. -/
theorem packetPayload_loop (p : RtuOperationParameters) (clock : UInt16 → TimeDef)
    (file : List UInt8) (openNewPicture : Bool) (s : PictureState) {n : ℕ} (hone : 1 < n)
    (hfit : n + (file.length + 899) / 900 ≤ 4096)
    (hsn : (if openNewPicture then 1 else s.curSn) = .ofNat n) (hleft : s.picSize = file.length) :
    (sendPictureLoop p clock file openNewPicture s).1.flatMap packetPayload = file := by
  fun_induction sendPictureLoop p clock file openNewPicture s generalizing n with
  | case1 => rfl
  | case2 openNewPicture s b file updated rest =>
      rename_i ih
      have hpos : 0 < (b :: file).length := Nat.succ_pos _
      obtain ⟨hdata, hrest⟩ := length_turn (b :: file)
      have hturn := pictureTurn p (clock s.curSn) (List.length_take_le _ (b :: file)) openNewPicture s
        (by omega) hsn hleft
      -- no packet of number above 1 has a picture header
      obtain ⟨sn, hpayload⟩ := hturn.payload
      rw [List.flatMap_cons, hpayload, picturePayload, if_neg (by omega),
        ih (by omega : 1 < n + 1) (by omega) hturn.curSn_eq (by rw [hturn.picSize_eq]; omega),
        List.take_append_drop]

/-- The total that `OpenAndGetPictureSize` sets, twelve bits of one more than the full packets. -/
theorem numbersTotal_openAndGetPictureSize (size : ℕ) (s : PictureState) :
    numbersTotal (openAndGetPictureSize size s).frame.totalPktsAndCurSn = (size / 900 + 1) % 4096 := by
  -- the source shifts bytes here, so each half of the total is cut to eight bits
  have hhigh : (UInt8.ofNat ((size / 900 + 1) / 16)).toNat = (size / 900 + 1) / 16 % 256 :=
    UInt8.toNat_ofNat'
  have hlow : ((UInt8.ofNat (size / 900 + 1) &&& 0xf) <<< 4).toNat / 16 = (size / 900 + 1) % 16 := by
    have hmask : UInt8.toNat 0xf = 2 ^ 4 - 1 := rfl
    have hshift : UInt8.toNat 4 % 8 = 4 := rfl
    rw [UInt8.toNat_shiftLeft, hshift, UInt8.toNat_and, hmask, Nat.and_two_pow_sub_one_eq_mod,
      UInt8.toNat_ofNat', Nat.shiftLeft_eq]
    omega
  show (UInt8.ofNat ((size / 900 + 1) / 16)).toNat * 16 +
    ((UInt8.ofNat (size / 900 + 1) &&& 0xf) <<< 4).toNat / 16 = _
  rw [hhigh, hlow]
  omega

/-- A picture file that twelve bits of packet numbers suffice for. -/
structure PictureFile where
  bytes : List UInt8
  /-- There is something to send. -/
  ne_nil : bytes ≠ []
  /-- It takes at most 4095 packets. -/
  length_le : bytes.length ≤ 4095 * transContentLen

/-- The data parts of the packets of an upload: the first payload starts with a picture header, the
others are all data. -/
def pictureData : List (List UInt8) → List UInt8
  | [] => []
  | first :: rest => (packetPayload first).drop picInfoHeadLen ++ rest.flatMap packetPayload

/-- **An upload is framed right**: the marks are those of a message of as many packets as the file
takes, the first packet starts with a picture header, and the data parts make up the file. -/
structure PictureFramed (p : RtuOperationParameters) (file : List UInt8)
    (frames : List (List UInt8)) : Prop where
  /-- One packet for 900 bytes, numbered and closed. -/
  marks : frames.map packetMarks = expectedMarks ((file.length + 899) / 900)
  /-- The first packet has a picture header. -/
  header : ∃ first ∈ frames.head?, ∃ sn sysTime, picInfoHead p sn sysTime <+: packetPayload first
  /-- The rest is the file. -/
  data : pictureData frames = file

/-- **What an upload consists of**: the marks, with the total as it was set, and the file. -/
theorem sendPictureToServer_parts (p : RtuOperationParameters) (clock : UInt16 → TimeDef)
    (file : PictureFile) (s : PictureState) :
    (sendPictureToServer p clock file.bytes s).1.map packetMarks =
        ((List.range ((file.bytes.length + 899) / 900)).map fun i =>
          ⟨(file.bytes.length / 900 + 1) % 4096, 1 + i,
            expectedEndMark ((file.bytes.length + 899) / 900) i⟩) ∧
      (∃ first ∈ (sendPictureToServer p clock file.bytes s).1.head?, ∃ sn sysTime,
        picInfoHead p sn sysTime <+: packetPayload first) ∧
      pictureData (sendPictureToServer p clock file.bytes s).1 = file.bytes := by
  have hle : file.bytes.length ≤ 4095 * 900 := file.length_le
  have hmarks := packetMarks_loop p clock file.bytes true
    (openAndGetPictureSize file.bytes.length { s with frame := frameConstantInit p s.frame })
    (by omega : 1 + _ ≤ _) rfl rfl
  rw [numbersTotal_openAndGetPictureSize] at hmarks
  refine ⟨hmarks, ?_⟩
  -- the first turn is unrolled: its packet has the picture header
  obtain ⟨b, bytes, hfile⟩ := List.exists_cons_of_ne_nil file.ne_nil
  rw [hfile] at hle
  generalize hopen : openAndGetPictureSize file.bytes.length
    { s with frame := frameConstantInit p s.frame } = opened
  have hleft : opened.picSize = (b :: bytes).length := by
    rw [← hopen, hfile]
    rfl
  obtain ⟨hdata, hrest⟩ := length_turn (b :: bytes)
  have hturn := pictureTurn p (clock opened.curSn) (List.length_take_le _ (b :: bytes)) true opened
    (by omega : 1 < 4096) rfl hleft
  obtain ⟨sn, hpayload⟩ := hturn.payload
  rw [picturePayload, if_pos rfl] at hpayload
  unfold sendPictureToServer
  rw [hopen, hfile, sendPictureLoop]
  constructor
  · exact ⟨_, rfl, sn, _, hpayload ▸ List.prefix_append _ _⟩
  · rw [pictureData, hpayload, List.drop_left' (length_picInfoHead _ _ _),
      packetPayload_loop p clock _ false _ (by omega : 1 < 2) (by omega) hturn.curSn_eq
        (by rw [hturn.picSize_eq]; omega),
      List.take_append_drop]

/-- In an upload that is framed right the total that was set is the number of packets. -/
theorem total_of_pictureFramed {p : RtuOperationParameters} {clock : UInt16 → TimeDef}
    {file : PictureFile} {s : PictureState}
    (h : PictureFramed p file.bytes (sendPictureToServer p clock file.bytes s).1) :
    (file.bytes.length / 900 + 1) % 4096 = (file.bytes.length + 899) / 900 := by
  obtain ⟨hmarks, -, -⟩ := sendPictureToServer_parts p clock file s
  have hpos : 0 < file.bytes.length := List.length_pos_iff.mpr file.ne_nil
  have hfirst := List.map_inj_left.mp (hmarks.symm.trans h.marks) 0 (List.mem_range.mpr (by omega))
  exact congrArg PacketMarks.total hfirst

/-- **When an upload is framed right**: exactly when the size of the file is no multiple of the packet
size. At a multiple the total counts a packet that is not sent. -/
theorem pictureFramed_iff (p : RtuOperationParameters) (clock : UInt16 → TimeDef) (file : PictureFile)
    (s : PictureState) :
    PictureFramed p file.bytes (sendPictureToServer p clock file.bytes s).1 ↔
      file.bytes.length % transContentLen ≠ 0 := by
  have hle : file.bytes.length ≤ 4095 * 900 := file.length_le
  -- rounding up and adding one to the quotient differ just at the multiples; at 4096 the total wraps
  have htotal : (file.bytes.length / 900 + 1) % 4096 = (file.bytes.length + 899) / 900 ↔
      file.bytes.length % 900 ≠ 0 := by
    omega
  rw [transContentLen, ← htotal]
  constructor
  · exact total_of_pictureFramed
  · intro h
    obtain ⟨hmarks, hheader, hdata⟩ := sendPictureToServer_parts p clock file s
    refine ⟨?_, hheader, hdata⟩
    rw [hmarks, expectedMarks, h]
    apply List.map_congr_left
    intro i _
    rw [Nat.add_comm 1 i]

/-- A picture of 900 zero bytes. -/
def blankPicture : PictureFile where
  bytes := List.replicate 900 0
  ne_nil h := by
    have hlen := congrArg List.length h
    rw [List.length_replicate, List.length_nil] at hlen
    omega
  length_le := by rw [List.length_replicate, transContentLen]; omega

/-- The globals of the upload after power-up. -/
def pictureStart : PictureState where
  frame := ⟨⟨0, 0, .replicate 5 0, 0, 0, 0, 0⟩, .replicate 3 0, fun _ => 0, 0⟩
  picSize := 0
  curSn := 1

/-- The only packet of a picture of 900 bytes is announced as one of two. -/
theorem blankPicture_not_pictureFramed :
    ¬ PictureFramed (.ofBytes []) blankPicture.bytes
      (sendPictureToServer (.ofBytes []) (fun _ => ⟨0, 0, 0, 0, 0, 0, 0⟩) blankPicture.bytes
        pictureStart).1 := by
  intro h
  have htotal := total_of_pictureFramed h
  have hlen : blankPicture.bytes.length = 900 := List.length_replicate
  rw [hlen] at htotal
  omega

end RtuShuiwen
