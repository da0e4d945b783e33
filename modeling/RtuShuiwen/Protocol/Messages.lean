import RtuShuiwen.Library.ByteLayout
import RtuShuiwen.Memory.Calendar

/-! # The packed messages of the protocol

The records of `protocol.h` that go over the line, as concatenations of their fields. Words are
stored low byte first, so a builder that wants a word high byte first stores it exchanged
(`swap16`). `Packed` collects the records that can be the content of a frame; `UpMessage.toBytes`
puts header, content, end mark and checksum together. -/

namespace RtuShuiwen

open ByteLayout

/-! ## Marks and identifiers -/

/-- `NETWORK_S0H`. -/
def networkS0h : UInt16 := 0x7E7E

/-- `NETWORK_STX`: the content of a single packet starts. -/
def networkStx : UInt8 := 0x02

/-- `NETWORK_SYN`: the content of one packet of several starts. -/
def networkSyn : UInt8 := 0x16

/-- `NETWORK_ETX`: the message ends, none follows. -/
def networkEtx : UInt8 := 0x03

/-- `NETWORK_ETB`: the message ends, more follow. -/
def networkEtb : UInt8 := 0x17

/-- `REMOTE_ADDR_ID`. -/
def remoteAddrId : UInt16 := 0xF1F1

/-- `OBSERVE_TIME_ID`. -/
def observeTimeId : UInt16 := 0xF0F0

/-- `REMOTE_ADDR_CLASS_ID_HEDAO`. -/
def remoteAddrClassIdHedao : UInt8 := 0x48

/-- `FIVE_MIN_PRECIPIT_ID`. -/
def fiveMinPrecipitId : UInt16 := 0x2219

/-- `CUMULA_PRECIPIT_ID`. -/
def cumulaPrecipitId : UInt16 := 0x2619

/-- `WATER_LEVEL_ID`. -/
def waterLevelElementId : UInt16 := 0x3923

/-- `VOLTAGE_ID`. -/
def voltageId : UInt16 := 0x3812

/-- `HOUR_FIVE_MIN_PRECIPIT_ID`. -/
def hourFiveMinPrecipitId : UInt16 := 0xF460

/-- `HOUR_FIVE_WATERLEVEL_ID`. -/
def hourFiveWaterlevelId : UInt16 := 0xF5C0

/-! ## Parts of a message -/

/-- `message_header_t`. -/
structure MessageHeader where
  startId : UInt16
  centerAddr : UInt8
  remoteAddr : Vector UInt8 5
  password : UInt16
  funId : UInt8
  frameIdLen : UInt16
  contentStartId : UInt8

/-- The bytes of a header. -/
def MessageHeader.toBytes (h : MessageHeader) : List UInt8 :=
  u16le h.startId ++ (h.centerAddr :: h.remoteAddr.toList) ++ u16le h.password ++
    (h.funId :: u16le h.frameIdLen) ++ [h.contentStartId]

@[simp] theorem MessageHeader.length_toBytes (h : MessageHeader) : h.toBytes.length = 14 := by
  simp [toBytes]

/-- `pkt_time_data_t`: when a message was put together. -/
def pktTimeBytes (t : TimeDef) : List UInt8 := [t.year, t.month, t.day, t.hour, t.minute, t.second]

/-- `observ_time_t`: when its values were observed, behind the mark `id`. -/
def observTimeBytes (id : UInt16) (t : TimeDef) : List UInt8 :=
  u16le id ++ [t.year, t.month, t.day, t.hour, t.minute]

@[simp] theorem length_pktTimeBytes (t : TimeDef) : (pktTimeBytes t).length = 6 := rfl

@[simp] theorem length_observTimeBytes (id : UInt16) (t : TimeDef) :
    (observTimeBytes id t).length = 7 := rfl

/-- `upmessage_header_content_t`: the fields with which the content of a data message starts. -/
structure ContentHead where
  sn : UInt16
  pktTime : TimeDef
  remoteAddrId : UInt16
  remoteAddr : Vector UInt8 5
  classId : UInt8
  observId : UInt16
  observTime : TimeDef

/-- The bytes of a content head. -/
def ContentHead.toBytes (c : ContentHead) : List UInt8 :=
  u16le c.sn ++ pktTimeBytes c.pktTime ++ u16le c.remoteAddrId ++ c.remoteAddr.toList ++
    [c.classId] ++ observTimeBytes c.observId c.observTime

@[simp] theorem ContentHead.length_toBytes (c : ContentHead) : c.toBytes.length = 23 := by
  simp [toBytes]

/-- Set the number of a packet among several: twelve bits, `high` four of them, behind the twelve bits
of the total. -/
def setPacketNumber (numbers : Vector UInt8 3) (high low : UInt8) : Vector UInt8 3 :=
  #v[numbers[0], (numbers[1] &&& 0xf0) ||| high, low]

/-! ## Whole messages -/

/-- The packed records: each has the bytes of its fields, as many as `sizeof` says. -/
class Packed (γ : Type) where
  /-- The bytes of the record. -/
  toBytes : γ → List UInt8
  /-- `sizeof` the record type. -/
  byteSize : ℕ
  /-- Every record has the size of its type. -/
  length_toBytes : ∀ c, (toBytes c).length = byteSize

attribute [simp] Packed.length_toBytes

/-- A message with a content of type `γ`. -/
structure UpMessage (γ : Type) where
  header : MessageHeader
  content : γ
  contentEndId : UInt8
  crc : UInt16

namespace UpMessage

variable {γ : Type} [Packed γ]

/-- The bytes of a message up to its checksum. -/
def body (m : UpMessage γ) : List UInt8 :=
  m.header.toBytes ++ Packed.toBytes m.content ++ [m.contentEndId]

/-- The bytes of a message. -/
def toBytes (m : UpMessage γ) : List UInt8 := m.body ++ u16le m.crc

end UpMessage

/-! ## The contents -/

/-- `plus_message_content_t`. -/
structure PlusMessageContent where
  head : ContentHead
  fiveMinPrecipitId : UInt16
  fiveMinPrecipitData : Vector UInt8 3
  waterLevelId : UInt16
  waterLevelData : Vector UInt8 4
  cumulaPrecipitId : UInt16
  cumulaPrecipitData : Vector UInt8 3
  voltageId : UInt16
  voltageData : Vector UInt8 2

instance : Packed PlusMessageContent where
  toBytes c :=
    c.head.toBytes ++ u16le c.fiveMinPrecipitId ++ c.fiveMinPrecipitData.toList ++
      u16le c.waterLevelId ++ c.waterLevelData.toList ++ u16le c.cumulaPrecipitId ++
      c.cumulaPrecipitData.toList ++ u16le c.voltageId ++ c.voltageData.toList
  byteSize := 43
  length_toBytes c := by simp

/-- `hour_message_content_t`. -/
structure HourMessageContent where
  head : ContentHead
  hourFivePrecipitId : UInt16
  hourFivePrcipitData : Vector UInt8 12
  cumulaPrecipitId : UInt16
  cumulaPrecipitData : Vector UInt8 3
  hourFiveWaterlevelId : UInt16
  hourFiveWaterlevelData : Vector UInt16 12
  waterLevelId : UInt16
  waterLevelData : Vector UInt8 4
  voltageId : UInt16
  voltageData : Vector UInt8 2

instance : Packed HourMessageContent where
  toBytes c :=
    c.head.toBytes ++ u16le c.hourFivePrecipitId ++ c.hourFivePrcipitData.toList ++
      u16le c.cumulaPrecipitId ++ c.cumulaPrecipitData.toList ++ u16le c.hourFiveWaterlevelId ++
      c.hourFiveWaterlevelData.toList.flatMap u16le ++ u16le c.waterLevelId ++
      c.waterLevelData.toList ++ u16le c.voltageId ++ c.voltageData.toList
  byteSize := 78
  length_toBytes c := by simp

/-- `queryrealdata_up_content_t`. -/
structure QueryrealdataUpContent where
  head : ContentHead
  precipitId : UInt16
  precipitData : Vector UInt8 3
  cumulaPrecipitId : UInt16
  cumulaPrecipitData : Vector UInt8 3
  waterLevelId : UInt16
  waterLevelData : Vector UInt8 4
  voltageId : UInt16
  voltageData : Vector UInt8 2

instance : Packed QueryrealdataUpContent where
  toBytes c :=
    c.head.toBytes ++ u16le c.precipitId ++ c.precipitData.toList ++ u16le c.cumulaPrecipitId ++
      c.cumulaPrecipitData.toList ++ u16le c.waterLevelId ++ c.waterLevelData.toList ++
      u16le c.voltageId ++ c.voltageData.toList
  byteSize := 43
  length_toBytes c := by simp

/-- The content of `calibration_time_upmsssage_t`. -/
structure CalibrationTimeUpContent where
  sn : UInt16
  pktTime : TimeDef
  remoteAddrId : UInt16
  remoteAddr : Vector UInt8 5

instance : Packed CalibrationTimeUpContent where
  toBytes c := u16le c.sn ++ pktTimeBytes c.pktTime ++ u16le c.remoteAddrId ++ c.remoteAddr.toList
  byteSize := 15
  length_toBytes c := by simp

/-- A guide identifier and the value of the parameter behind it. -/
structure GuidedField where
  guideId : UInt16
  value : List UInt8

/-- `setparameter_content_t`: serial number, time and the 25 guided parameters. -/
structure SetparameterContent where
  sn : UInt16
  pktTime : TimeDef
  fields : List GuidedField
  /-- The parameters take up what the record has room for. -/
  size_fields : (fields.map fun f => 2 + f.value.length).sum = 164

instance : Packed SetparameterContent where
  toBytes c :=
    u16le c.sn ++ pktTimeBytes c.pktTime ++ c.fields.flatMap fun f => u16le f.guideId ++ f.value
  byteSize := 172
  length_toBytes c := by
    have hfields := c.size_fields
    simp only [List.length_append, length_u16le, length_pktTimeBytes, List.length_flatMap]
    omega

end RtuShuiwen
