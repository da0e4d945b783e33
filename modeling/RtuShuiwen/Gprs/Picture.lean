import RtuShuiwen.Library.CellMemory
import RtuShuiwen.Protocol.Builders

/-! # Picture upload

`SendPictureToServer` cuts a file into packets of up to 900 bytes. All packets go through one global
frame whose payload is a union: the first packet lays a picture header over its start and the data
behind it, the others put their data at the start. `wp_send_data` copies header and payload out of
the frame and appends end mark and checksum. -/

namespace RtuShuiwen

open ByteLayout CellMemory

/-- `up_frame_t`. The union of picture header and data is kept as its bytes. -/
structure UpFrame where
  header : MessageHeader
  totalPktsAndCurSn : Vector UInt8 3
  picture : CellMemory UInt8
  contentEndId : UInt8

/-- `TRANS_CONTENT_LEN`. -/
def transContentLen : ℕ := 900

/-- `sizeof(pic_info_t)` without its data. -/
def picInfoHeadLen : ℕ := 25

/-- The bytes of the union, `sizeof(pic_info_t)`. -/
def pictureLen : ℕ := picInfoHeadLen + transContentLen

/-- The globals of the upload: the frame, the bytes of the file not yet sent (`pic_size`) and the
number of the next packet (`cur_sn`). -/
structure PictureState where
  frame : UpFrame
  picSize : ℤ
  curSn : UInt16

/-- `FrameConstantInit`. -/
def frameConstantInit (p : RtuOperationParameters) (frame : UpFrame) : UpFrame :=
  { frame with header := { frame.header with
      startId := networkS0h
      centerAddr := 0x01
      remoteAddr := p.rtuRemoteAddr
      password := 0x0000
      funId := 0x36
      contentStartId := networkSyn } }

/-- `OpenAndGetPictureSize`, for a file of `size` bytes. -/
def openAndGetPictureSize (size : ℕ) (s : PictureState) : PictureState :=
  let totalPkts := size / transContentLen + 1
  { s with
    picSize := size
    frame := { s.frame with totalPktsAndCurSn :=
      #v[.ofNat (totalPkts / 16), (.ofNat totalPkts &&& (0xf : UInt8)) <<< 4, 0x01] } }

/-- The picture header of the packet `sn`, before its data in `pic_info_t`. -/
def picInfoHead (p : RtuOperationParameters) (sn : UInt16) (sysTime : TimeDef) : List UInt8 :=
  u16le sn ++ [0x19, 0x07, 0x02, 0x10, 0x18, 0x38] ++ u16le 0xf1f1 ++ p.rtuRemoteAddr.toList ++
    [remoteAddrClassIdHedao] ++ observTimeBytes 0xF0F0 sysTime ++ u16le 0xF3F3

@[simp] theorem length_picInfoHead (p : RtuOperationParameters) (sn : UInt16) (sysTime : TimeDef) :
    (picInfoHead p sn sysTime).length = picInfoHeadLen := by
  simp [picInfoHead, picInfoHeadLen]

/-- `UpdateFrameContentData` of the data `buf`, with the length it returns. -/
def updateFrameContentData (p : RtuOperationParameters) (sysTime : TimeDef) (buf : List UInt8)
    (openNewPicture : Bool) (s : PictureState) : PictureState × ℕ :=
  let curSn := if openNewPicture then 1 else s.curSn
  let picSize := s.picSize - buf.length
  let first := curSn &&& 0xfff = 0x1
  let picture :=
    if first then
      let sn := swap16 (ofBytes16 (s.frame.picture 1) (s.frame.picture 0) + 1)
      patch (patch s.frame.picture 0 (picInfoHead p sn sysTime)) picInfoHeadLen buf
    else patch s.frame.picture 0 buf
  let len := buf.length + 3 + if first then picInfoHeadLen else 0
  ({ picSize
     curSn := curSn + 1
     frame := {
       header := { s.frame.header with frameIdLen := swap16 (.ofNat len) }
       totalPktsAndCurSn := setPacketNumber s.frame.totalPktsAndCurSn
         ((curSn >>> 8) &&& 0xf).toUInt8 curSn.toUInt8
       picture
       contentEndId := if picSize ≤ 0 then networkEtx else networkEtb } }, len)

/-- `wp_send_data`: the bytes it hands to the module, once: of packet 2 the `OK` is taken to be seen, without
which `gprs_send_string_len` hands it over again. -/
def wpSendData (frame : UpFrame) (len : ℕ) : List UInt8 :=
  let buf := frame.header.toBytes ++
    (frame.totalPktsAndCurSn.toList ++ slice frame.picture 0 pictureLen).take len ++
    [frame.contentEndId]
  buf ++ u16be (crc16Modbus buf)

/-- The loop of `SendPictureToServer` over the rest of the file, when every read and every send
succeeds, that of packet 2 with its `OK` seen. `clock` is the reading at each packet. -/
def sendPictureLoop (p : RtuOperationParameters) (clock : UInt16 → TimeDef) (file : List UInt8)
    (openNewPicture : Bool) (s : PictureState) : List (List UInt8) × PictureState :=
  match file with
  | [] => ([], s)
  | b :: file =>
      let updated := updateFrameContentData p (clock s.curSn) ((b :: file).take transContentLen)
        openNewPicture s
      let rest := sendPictureLoop p clock ((b :: file).drop transContentLen) false updated.1
      (wpSendData updated.1.frame updated.2 :: rest.1, rest.2)
termination_by file.length
decreasing_by
  simp only [transContentLen, List.length_drop, List.length_cons]
  omega

/-- `SendPictureToServer`: the frames it sends and the globals it leaves. -/
def sendPictureToServer (p : RtuOperationParameters) (clock : UInt16 → TimeDef)
    (file : List UInt8) (s : PictureState) : List (List UInt8) × PictureState :=
  sendPictureLoop p clock file true
    (openAndGetPictureSize file.length { s with frame := frameConstantInit p s.frame })

/-! ## What a packet consists of -/

/-- **A picture packet** is a header that announces the payload length, the payload, an end mark and
the checksum, high byte first. -/
structure IsPicturePacket (bytes : List UInt8) : Prop where
  /-- The parts of the packet. -/
  parts : ∃ (h : MessageHeader) (payload : List UInt8) (endId : UInt8),
    bytes = h.toBytes ++ payload ++ [endId] ++
        u16be (crc16Modbus (h.toBytes ++ payload ++ [endId])) ∧
      h.frameIdLen = swap16 (.ofNat payload.length) ∧ payload.length < 4096 ∧
      (endId = networkEtx ∨ endId = networkEtb)

/-- One turn of the loop sends a picture packet. -/
theorem isPicturePacket_turn (p : RtuOperationParameters) (sysTime : TimeDef) {buf : List UInt8}
    (hbuf : buf.length ≤ transContentLen) (openNewPicture : Bool) (s : PictureState) :
    IsPicturePacket (wpSendData (updateFrameContentData p sysTime buf openNewPicture s).1.frame
      (updateFrameContentData p sysTime buf openNewPicture s).2) := by
  have hlen : (updateFrameContentData p sysTime buf openNewPicture s).2 ≤ 3 + pictureLen := by
    have hhead : ∀ c : Prop, [Decidable c] → (if c then picInfoHeadLen else 0) ≤ picInfoHeadLen := by
      intro c _
      split
      · exact le_rfl
      · exact Nat.zero_le _
    have := hhead ((if openNewPicture then 1 else s.curSn) &&& 0xfff = 0x1)
    simp only [updateFrameContentData, pictureLen]
    omega
  have hpayload : ∀ frame : UpFrame, ((frame.totalPktsAndCurSn.toList ++
      slice frame.picture 0 pictureLen).take
        (updateFrameContentData p sysTime buf openNewPicture s).2).length =
      (updateFrameContentData p sysTime buf openNewPicture s).2 := by
    intro frame
    rw [List.length_take, List.length_append, Vector.length_toList, length_slice]
    omega
  refine ⟨_, _, _, rfl, ?_, ?_, ?_⟩
  · rw [hpayload]
    rfl
  · rw [hpayload]
    exact Nat.lt_of_le_of_lt hlen (by decide)
  · simp only [updateFrameContentData]
    split
    · exact .inl rfl
    · exact .inr rfl

/-- **Everything an upload sends is a picture packet**, for a file of any size. -/
theorem isPicturePacket_loop (p : RtuOperationParameters) (clock : UInt16 → TimeDef)
    (file : List UInt8) (openNewPicture : Bool) (s : PictureState) :
    ∀ bytes ∈ (sendPictureLoop p clock file openNewPicture s).1, IsPicturePacket bytes := by
  fun_induction sendPictureLoop p clock file openNewPicture s with
  | case1 => simp
  | case2 openNewPicture s b file updated rest ih =>
      intro bytes hbytes
      rcases List.mem_cons.mp hbytes with rfl | hrest
      · exact isPicturePacket_turn p _ (List.length_take_le _ _) openNewPicture s
      · exact ih bytes hrest

end RtuShuiwen
