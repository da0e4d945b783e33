import RtuShuiwen.Protocol.PacketMarks
import RtuShuiwen.Protocol.Uplink

/-! # Under which station a frame reports

Every frame carries the address of the station twice, in its header and behind a mark in its content,
and the password in its header. `CarriesIdentity` says that these are the stored ones.

* **`carriesIdentity_parts`**: the law for a frame with its parts in view;
* **`identity_iff`**: for each builder, the stored parameters for which its frames obey the law. -/

namespace RtuShuiwen

open ByteLayout CellMemory

/-! ## The law -/

/-- Where the content of a frame has the address of the station: the offset of the mark before it, and
the mark. In the reply to a parameter query the mark is a guide identifier. -/
structure AddressField where
  offset : ℕ
  mark : List UInt8

/-- The mark `F1F1` at an offset. -/
def AddressField.remoteAddr (offset : ℕ) : AddressField := ⟨offset, u16le remoteAddrId⟩

/-- The place of the address in the content of each kind of frame. -/
def UplinkKind.addressField : UplinkKind → AddressField
  | .plus | .hour | .realData | .clock => .remoteAddr 22
  | .timePeriod | .picture => .remoteAddr 25
  | .parameters => ⟨28, [0x02, 0x28]⟩

/-- **A frame carries the identity of a station** when both addresses and the password in it are the
stored ones. -/
structure CarriesIdentity (p : RtuOperationParameters) (field : AddressField) (frame : List UInt8) :
    Prop where
  /-- The address in the header. -/
  header : bytesAt 3 5 frame = p.rtuRemoteAddr.toList
  /-- The mark in the content. -/
  mark : bytesAt field.offset 2 frame = field.mark
  /-- The address behind it. -/
  content : bytesAt (field.offset + 2) 5 frame = p.rtuRemoteAddr.toList
  /-- The password in the header, in the order in which it is stored. -/
  password : bytesAt 8 2 frame = p.password.toList

/-- Address and password in the header of a frame. -/
theorem bytesAt_header (h : MessageHeader) (rest : List UInt8) :
    bytesAt 3 5 (h.toBytes ++ rest) = h.remoteAddr.toList ∧
      bytesAt 8 2 (h.toBytes ++ rest) = u16le h.password := by
  obtain ⟨front, hfront⟩ : ∃ front, front = u16le h.startId ++ [h.centerAddr] := ⟨_, rfl⟩
  have hlen : front.length = 3 := by rw [hfront]; rfl
  obtain ⟨back, hback⟩ : ∃ back, back = (h.funId :: u16le h.frameIdLen) ++ [h.contentStartId] ++ rest :=
    ⟨_, rfl⟩
  have hbytes : h.toBytes ++ rest =
      front ++ (h.remoteAddr.toList ++ (u16le h.password ++ back)) := by
    simp [MessageHeader.toBytes, hfront, hback]
  constructor
  · rw [hbytes, bytesAt_append hlen Vector.length_toList]
  · rw [hbytes, ← List.append_assoc, bytesAt_append _ (length_u16le _)]
    rw [List.length_append, hlen, Vector.length_toList]

/-- **The law for a frame with its parts in view**: header, the content before the mark, the mark and
the address. -/
theorem carriesIdentity_parts (p : RtuOperationParameters) (h : MessageHeader) {offset : ℕ}
    {front mark : List UInt8} (hfront : 14 + front.length = offset) (hmark : mark.length = 2)
    (remoteAddr : Vector UInt8 5) (rest : List UInt8) :
    CarriesIdentity p ⟨offset, mark⟩
        (h.toBytes ++ (front ++ (mark ++ (remoteAddr.toList ++ rest)))) ↔
      h.remoteAddr = p.rtuRemoteAddr ∧ remoteAddr = p.rtuRemoteAddr ∧
        u16le h.password = p.password.toList := by
  obtain ⟨hheader, hpassword⟩ :=
    bytesAt_header h (front ++ (mark ++ (remoteAddr.toList ++ rest)))
  have hbefore : (h.toBytes ++ front).length = offset := by
    rw [List.length_append, h.length_toBytes, hfront]
  have hbehind : (h.toBytes ++ front ++ mark).length = offset + 2 := by
    rw [List.length_append, hbefore, hmark]
  have hmarkAt : bytesAt offset 2
      (h.toBytes ++ (front ++ (mark ++ (remoteAddr.toList ++ rest)))) = mark := by
    rw [← List.append_assoc, bytesAt_append hbefore hmark]
  have haddrAt : bytesAt (offset + 2) 5
      (h.toBytes ++ (front ++ (mark ++ (remoteAddr.toList ++ rest)))) = remoteAddr.toList := by
    rw [← List.append_assoc, ← List.append_assoc, bytesAt_append hbehind Vector.length_toList]
  constructor
  · intro hid
    refine ⟨?_, ?_, ?_⟩
    · exact Vector.toList_inj.mp (hheader.symm.trans hid.header)
    · exact Vector.toList_inj.mp (haddrAt.symm.trans hid.content)
    · exact hpassword.symm.trans hid.password
  · rintro ⟨hh, hc, hp⟩
    constructor
    case header => rw [hheader, hh]
    case mark => exact hmarkAt
    case content => exact haddrAt.trans (congrArg Vector.toList hc)
    case password => rw [hpassword, hp]

/-- The password goes through a word whose bytes are stored in the other order. -/
theorem u16le_passwordWord (p : RtuOperationParameters) :
    u16le (passwordWord p) = p.password.toList ↔ p.password.get 0 = p.password.get 1 := by
  have hlist : p.password.toList = [p.password.get 0, p.password.get 1] := by
    apply List.ext_getElem (by simp)
    intro i hi _
    have hlt : i < 2 := by rwa [Vector.length_toList] at hi
    obtain rfl | rfl : i = 0 ∨ i = 1 := by omega
    · exact Vector.getElem_toList hi
    · exact Vector.getElem_toList hi
  rw [passwordWord, u16le_ofBytes16, hlist, List.cons.injEq, List.cons.injEq]
  constructor
  · exact fun h => h.1.symm
  · exact fun h => ⟨h.symm, h, rfl⟩

/-- A constant password is the stored one for one stored password. -/
theorem u16le_zero (p : RtuOperationParameters) :
    u16le 0 = p.password.toList ↔ p.password.toList = [0x00, 0x00] := eq_comm

/-! ## The builders -/

/-- A message whose content starts with a content head. -/
theorem carriesIdentity_contentHead {γ : Type} [Packed γ] (p : RtuOperationParameters)
    {m : UpMessage γ} {c : ContentHead} (hid : c.remoteAddrId = remoteAddrId)
    (hcontent : ∃ rest, Packed.toBytes m.content = c.toBytes ++ rest) :
    CarriesIdentity p (.remoteAddr 22) m.toBytes ↔
      m.header.remoteAddr = p.rtuRemoteAddr ∧ c.remoteAddr = p.rtuRemoteAddr ∧
        u16le m.header.password = p.password.toList := by
  obtain ⟨rest, hrest⟩ := hcontent
  have hbytes : m.toBytes = m.header.toBytes ++ ((u16le c.sn ++ pktTimeBytes c.pktTime) ++
      (u16le c.remoteAddrId ++ (c.remoteAddr.toList ++ ([c.classId] ++
        observTimeBytes c.observId c.observTime ++ rest ++ [m.contentEndId] ++ u16le m.crc)))) := by
    rw [UpMessage.toBytes, UpMessage.body, hrest, ContentHead.toBytes]
    simp only [List.append_assoc]
  have hfront : (u16le c.sn ++ pktTimeBytes c.pktTime).length = 8 := rfl
  rw [hbytes, hid]
  exact carriesIdentity_parts p m.header (by rw [hfront]) (length_u16le _) c.remoteAddr _

/-- A packet of a time-period reply. -/
theorem carriesIdentity_upframe (p : RtuOperationParameters) (flash : Flash) (sn : UInt16)
    {m : QuerrytimeperiodUpmessage} (hid : m.head.remoteAddrId = remoteAddrId) :
    CarriesIdentity p (.remoteAddr 25) (sendTimePerioadDataUpframe flash sn m) ↔
      m.header.remoteAddr = p.rtuRemoteAddr ∧ m.head.remoteAddr = p.rtuRemoteAddr ∧
        u16le m.header.password = p.password.toList := by
  obtain ⟨rest, hbytes⟩ : ∃ rest, sendTimePerioadDataUpframe flash sn m = m.header.toBytes ++
      ((m.totalPktsSn.toList ++ (u16be sn ++ pktTimeBytes m.head.pktTime)) ++
        (u16le m.head.remoteAddrId ++ (m.head.remoteAddr.toList ++ rest))) := by
    obtain ⟨crc, -, hparts⟩ := upframe_parts flash sn m
    simp only [hparts, head_withSn, List.append_assoc]
    exact ⟨_, rfl⟩
  -- packet numbers, serial number and time stand before the mark
  have hfront : (m.totalPktsSn.toList ++ (u16be sn ++ pktTimeBytes m.head.pktTime)).length = 11 := by
    rw [List.length_append, Vector.length_toList]
    rfl
  rw [hbytes, hid]
  exact carriesIdentity_parts p m.header (by rw [hfront]) (length_u16le _) m.head.remoteAddr rest

/-- The first packet of an upload has a picture header behind its numbers. -/
theorem firstPicture_parts (p : RtuOperationParameters) (readings : UInt16 → TimeDef)
    (b : UInt8) (file : List UInt8) (s : PictureState) :
    ∃ first ∈ (sendPictureToServer p readings (b :: file) s).1.head?,
      ∃ (h : MessageHeader) (numbers : Vector UInt8 3) (sn : UInt16) (sysTime : TimeDef)
        (rest : List UInt8), h.remoteAddr = p.rtuRemoteAddr ∧ h.password = 0x0000 ∧
          first = h.toBytes ++ (numbers.toList ++ (picInfoHead p sn sysTime ++ rest)) := by
  unfold sendPictureToServer
  -- only the first turn of the loop matters
  generalize hopen : openAndGetPictureSize (b :: file).length
    { s with frame := frameConstantInit p s.frame } = opened
  have hheader : opened.frame.header.remoteAddr = p.rtuRemoteAddr ∧
      opened.frame.header.password = 0x0000 := by
    rw [← hopen]
    exact ⟨rfl, rfl⟩
  have hleft : opened.picSize = (b :: file).length := by
    rw [← hopen]
    rfl
  obtain ⟨frameIdLen, picture, sn, hupdate, hslice⟩ := updateFrameContentData_spec p
    (readings opened.curSn) ((b :: file).take transContentLen) true opened
    (by omega : 1 < 4096) rfl hleft
  obtain ⟨crc, -, hbytes⟩ := wpSendData_eq
    (updateFrameContentData p (readings opened.curSn) ((b :: file).take transContentLen) true
      opened).1.frame
    (length_picturePayload_le p sn (readings opened.curSn) 1 (List.length_take_le _ (b :: file)))
  rw [hupdate, hslice, picturePayload, if_pos rfl] at hbytes
  rw [sendPictureLoop, hupdate, picturePayload, if_pos rfl]
  simp only [List.append_assoc] at hbytes
  refine ⟨_, rfl, _, _, sn, readings opened.curSn, _, ?_, ?_, hbytes⟩
  · exact hheader.1
  · exact hheader.2

/-- **The first packet of an upload carries the identity when the stored password is the constant.** -/
theorem carriesIdentity_firstPicture {p : RtuOperationParameters} {readings : UInt16 → TimeDef}
    {b : UInt8} {file : List UInt8} {s : PictureState} {first : List UInt8}
    (hfirst : first ∈ (sendPictureToServer p readings (b :: file) s).1.head?) :
    CarriesIdentity p (.remoteAddr 25) first ↔ p.password.toList = [0x00, 0x00] := by
  obtain ⟨first', hfirst', h, numbers, sn, sysTime, rest, haddr, hpassword, hbytes⟩ :=
    firstPicture_parts p readings b file s
  obtain rfl : first = first' := Option.mem_unique hfirst hfirst'
  have hparts : first = h.toBytes ++ ((numbers.toList ++ (u16le sn ++
      [0x19, 0x07, 0x02, 0x10, 0x18, 0x38])) ++ (u16le remoteAddrId ++ (p.rtuRemoteAddr.toList ++
        ([remoteAddrClassIdHedao] ++ observTimeBytes 0xF0F0 sysTime ++ u16le 0xF3F3 ++ rest)))) := by
    rw [hbytes, picInfoHead]
    simp only [List.append_assoc]
    rfl
  have hfront : (numbers.toList ++ (u16le sn ++ [0x19, 0x07, 0x02, 0x10, 0x18, 0x38])).length = 11 := by
    rw [List.length_append, Vector.length_toList]
    rfl
  have hlaw := carriesIdentity_parts p h (by rw [hfront]) (length_u16le remoteAddrId) p.rtuRemoteAddr
    ([remoteAddrClassIdHedao] ++ observTimeBytes 0xF0F0 sysTime ++ u16le 0xF3F3 ++ rest)
  rw [haddr, hpassword, eq_self, true_and, true_and, u16le_zero] at hlaw
  rw [hparts]
  exact hlaw

/-- The stored parameters that a call reads. -/
def Uplink.block : Uplink → RtuOperationParameters
  | plus p .. => p
  | hour st .. => rtuParametersReaddata st
  | realData p .. => p
  | parameters p .. => p
  | clock p .. => p
  | timePeriod st .. => rtuParametersReaddata st
  | picture p .. => p

/-- The frames of a call that name the station: of the packets of a picture only the first does. -/
def Uplink.stationFrames (F : Type) [CFloat F] (u : Uplink) : List (List UInt8) :=
  match u with
  | picture .. => (u.sent F).take 1
  | _ => u.sent F

/-- The stored parameters for which the frames of a call carry the identity of the station. The
password word is stored low byte first; the hour message has its own idea of the address in the
content; address and password of the parameter reply and the password of pictures are constants. -/
def Uplink.IdentityOk : Uplink → Prop
  | hour st _ call =>
      (rtuParametersReaddata st).password.get 0 = (rtuParametersReaddata st).password.get 1 ∧
        call.contentAddr = (rtuParametersReaddata st).rtuRemoteAddr
  | parameters p .. =>
      p.rtuRemoteAddr.toList = [0x00, 0x55, 0x00, 0x00, 0x01] ∧ p.password.toList = [0x00, 0x00]
  | picture p .. => p.password.toList = [0x00, 0x00]
  | u => u.block.password.get 0 = u.block.password.get 1

/-- The content of a plus message starts with its head. -/
theorem startsWithHead_plus (c : PlusMessageContent) :
    ∃ rest, Packed.toBytes c = c.head.toBytes ++ rest := by
  refine ⟨u16le c.fiveMinPrecipitId ++ (c.fiveMinPrecipitData.toList ++ (u16le c.waterLevelId ++
    (c.waterLevelData.toList ++ (u16le c.cumulaPrecipitId ++ (c.cumulaPrecipitData.toList ++
      (u16le c.voltageId ++ c.voltageData.toList)))))), ?_⟩
  simp only [Packed.toBytes, List.append_assoc]

/-- So does the content of an hour message. -/
theorem startsWithHead_hour (c : HourMessageContent) :
    ∃ rest, Packed.toBytes c = c.head.toBytes ++ rest := by
  refine ⟨u16le c.hourFivePrecipitId ++ (c.hourFivePrcipitData.toList ++ (u16le c.cumulaPrecipitId ++
    (c.cumulaPrecipitData.toList ++ (u16le c.hourFiveWaterlevelId ++
      (c.hourFiveWaterlevelData.toList.flatMap u16le ++ (u16le c.waterLevelId ++
        (c.waterLevelData.toList ++ (u16le c.voltageId ++ c.voltageData.toList)))))))), ?_⟩
  simp only [Packed.toBytes, List.append_assoc]

/-- So does the content of a real-data reply. -/
theorem startsWithHead_realData (c : QueryrealdataUpContent) :
    ∃ rest, Packed.toBytes c = c.head.toBytes ++ rest := by
  refine ⟨u16le c.precipitId ++ (c.precipitData.toList ++ (u16le c.cumulaPrecipitId ++
    (c.cumulaPrecipitData.toList ++ (u16le c.waterLevelId ++ (c.waterLevelData.toList ++
      (u16le c.voltageId ++ c.voltageData.toList)))))), ?_⟩
  simp only [Packed.toBytes, List.append_assoc]

/-- A header that is filled in from the stored parameters: what is left of the law is the order of the
password bytes. -/
theorem stationHeader_iff {p : RtuOperationParameters} {h : MessageHeader} {c : Vector UInt8 5}
    (haddr : h.remoteAddr = p.rtuRemoteAddr) (hpassword : h.password = passwordWord p) :
    (h.remoteAddr = p.rtuRemoteAddr ∧ c = p.rtuRemoteAddr ∧ u16le h.password = p.password.toList) ↔
      p.password.get 0 = p.password.get 1 ∧ c = p.rtuRemoteAddr := by
  rw [haddr, hpassword, u16le_passwordWord, eq_self, true_and, and_comm]

/-- The same where the address in the content is the stored one. -/
theorem stationContent_iff {p : RtuOperationParameters} {h : MessageHeader} {c : Vector UInt8 5}
    (haddr : h.remoteAddr = p.rtuRemoteAddr) (hpassword : h.password = passwordWord p)
    (hcontent : c = p.rtuRemoteAddr) :
    (h.remoteAddr = p.rtuRemoteAddr ∧ c = p.rtuRemoteAddr ∧ u16le h.password = p.password.toList) ↔
      p.password.get 0 = p.password.get 1 := by
  rw [stationHeader_iff haddr hpassword, hcontent, eq_self, and_true]

/-- The clock-setting reply. -/
theorem carriesIdentity_clock (p : RtuOperationParameters) (sn : UInt16) (realTime : TimeDef) :
    CarriesIdentity p (.remoteAddr 22) (calibrationTimeUpMessageInit p sn realTime).toBytes ↔
      p.password.get 0 = p.password.get 1 := by
  have hbytes : (calibrationTimeUpMessageInit p sn realTime).toBytes =
      (calibrationTimeUpMessageInit p sn realTime).header.toBytes ++
        ((u16le (swap16 sn) ++ pktTimeBytes realTime) ++
          (u16le remoteAddrId ++ (p.rtuRemoteAddr.toList ++ ([networkEtx] ++ u16le 0)))) := by
    rw [UpMessage.toBytes, UpMessage.body]
    show _ ++ (u16le (swap16 sn) ++ pktTimeBytes realTime ++ u16le remoteAddrId ++
      p.rtuRemoteAddr.toList) ++ [networkEtx] ++ u16le 0 = _
    simp only [List.append_assoc]
  have hfront : (u16le (swap16 sn) ++ pktTimeBytes realTime).length = 8 := rfl
  have hlaw := carriesIdentity_parts p (calibrationTimeUpMessageInit p sn realTime).header
    (by rw [hfront]) (length_u16le remoteAddrId) p.rtuRemoteAddr ([networkEtx] ++ u16le 0)
  rw [hbytes]
  exact hlaw.trans (stationContent_iff rfl rfl rfl)

/-- The reply to a parameter query. -/
theorem carriesIdentity_parameters (p : RtuOperationParameters) (sn : UInt16) (systime : TimeDef) :
    CarriesIdentity p ⟨28, [0x02, 0x28]⟩ (queryParametersInit p sn systime).toBytes ↔
      p.rtuRemoteAddr.toList = [0x00, 0x55, 0x00, 0x00, 0x01] ∧
        p.password.toList = [0x00, 0x00] := by
  obtain ⟨rest, hbytes⟩ : ∃ rest, (queryParametersInit p sn systime).toBytes =
      (queryParametersInit p sn systime).header.toBytes ++
        ((u16le (swap16 sn) ++ pktTimeBytes systime ++ (u16le (swap16 0x0120) ++ p.centerAddr.toList)) ++
          (u16be 0x0228 ++ (p.rtuRemoteAddr.toList ++ rest))) := by
    refine ⟨((parameterFields p).drop 2).flatMap (fun f => u16le f.guideId ++ f.value) ++
      ([networkEtx] ++ u16le 0xffff), ?_⟩
    have hfields : (parameterFields p).flatMap (fun f => u16le f.guideId ++ f.value) =
        (u16le (swap16 0x0120) ++ p.centerAddr.toList) ++
          ((u16le (swap16 0x0228) ++ p.rtuRemoteAddr.toList) ++
            ((parameterFields p).drop 2).flatMap fun f => u16le f.guideId ++ f.value) := rfl
    rw [queryParametersInit_toBytes, hfields, ← u16le_swap16]
    simp only [List.append_assoc]
  have hfront : (u16le (swap16 sn) ++ pktTimeBytes systime ++
      (u16le (swap16 0x0120) ++ p.centerAddr.toList)).length = 14 := by
    rw [List.length_append, List.length_append, List.length_append, Vector.length_toList]
    rfl
  have hlaw := carriesIdentity_parts p (queryParametersInit p sn systime).header (by rw [hfront])
    (length_u16be 0x0228) p.rtuRemoteAddr rest
  rw [eq_self, true_and, eq_comm, ← Vector.toList_inj] at hlaw
  rw [hbytes, ← u16le_zero]
  exact hlaw

/-- **Under which stored parameters the frames carry the identity of the station**: for each builder,
and for all frames of a reply alike. -/
theorem identity_iff (F : Type) [CFloat F] (u : Uplink) (k : Fin (u.stationFrames F).length) :
    CarriesIdentity u.block u.kind.addressField (u.stationFrames F)[k] ↔ u.IdentityOk := by
  obtain ⟨k, hk⟩ := k
  cases u with
  | plus p sn systime pulses lastPulses level =>
      -- a single frame whose content starts with its head
      obtain rfl : k = 0 := Nat.lt_one_iff.mp hk
      exact (carriesIdentity_contentHead p rfl (startsWithHead_plus _)).trans
        (stationContent_iff rfl rfl rfl)
  | hour st lastMonth call =>
      obtain rfl : k = 0 := Nat.lt_one_iff.mp hk
      exact (carriesIdentity_contentHead _ rfl (startsWithHead_hour _)).trans
        (stationHeader_iff rfl rfl)
  | realData p sn systime pulses pulsesAgain lastPulses level =>
      obtain rfl : k = 0 := Nat.lt_one_iff.mp hk
      exact (carriesIdentity_contentHead p rfl (startsWithHead_realData _)).trans
        (stationContent_iff rfl rfl rfl)
  | parameters p sn systime =>
      obtain rfl : k = 0 := Nat.lt_one_iff.mp hk
      exact carriesIdentity_parameters p sn systime
  | clock p sn realTime =>
      obtain rfl : k = 0 := Nat.lt_one_iff.mp hk
      exact carriesIdentity_clock p sn realTime
  -- of the packets of one reply all have the same header and head
  | timePeriod st systime sn stray query =>
      obtain ⟨m, sn', hsame, hsent⟩ :=
        mem_testSendTimePeriodData st systime sn stray query _ (List.getElem_mem hk)
      have hframe : (Uplink.stationFrames F (.timePeriod st systime sn stray query))[k] =
          sendTimePerioadDataUpframe st.flash sn' m := hsent
      have hlaw := carriesIdentity_upframe (rtuParametersReaddata st) st.flash sn'
        (congrArg ContentHead.remoteAddrId hsame.head)
      rw [hsame.header, hsame.head] at hlaw
      exact hframe ▸ hlaw.trans (stationContent_iff rfl rfl rfl)
  | picture p readings file s =>
      cases file with
      -- an empty file is sent in no packet at all
      | nil =>
          have hnone : Uplink.stationFrames F (.picture p readings [] s) = [] := by
            show (sendPictureToServer p readings [] s).1.take 1 = []
            rw [sendPictureToServer, sendPictureLoop, List.take_nil]
          rw [hnone] at hk
          cases hk
      | cons b file =>
          have htake : Uplink.stationFrames F (.picture p readings (b :: file) s) =
              (sendPictureToServer p readings (b :: file) s).1.take 1 := rfl
          have hzero : k = 0 := by
            rw [htake, List.length_take] at hk
            omega
          subst hzero
          have hfirst : (Uplink.stationFrames F (.picture p readings (b :: file) s))[0] ∈
              (sendPictureToServer p readings (b :: file) s).1.head? := by
            rw [Option.mem_def, List.head?_eq_getElem?, ← List.getElem?_take_of_lt Nat.one_pos, ← htake]
            exact List.getElem?_eq_getElem hk
          exact carriesIdentity_firstPicture hfirst

/-- A parameter block whose password is 12 34. -/
def password1234 : RtuOperationParameters := { zeroParameters with password := #v[0x12, 0x34] }

/-- A plus message has the two password bytes exchanged. -/
theorem password1234_not_carriesIdentity :
    ¬ CarriesIdentity password1234 UplinkKind.plus.addressField
      (plusMessageInit ℚ password1234 0 (march15 0x07) 0 0 0).toBytes := by
  intro hid
  have hlaw := (carriesIdentity_contentHead password1234 rfl (startsWithHead_plus _)).mp hid
  exact absurd ((u16le_passwordWord password1234).mp hlaw.2.2) (by decide)

end RtuShuiwen
