import RtuShuiwen.Memory.Parameters
import RtuShuiwen.Protocol.Crc16
import RtuShuiwen.Protocol.DataCodec
import RtuShuiwen.Protocol.Messages

/-! # The builders of single-packet messages

`plus_message_init`, `QueryRealData_Init`, `QueryParameters_Init`, `Calibration_time_UpMessage_init`
and the message part of `hour_message_init`. Each reads the stored parameters, the clock and the
serial number `sn`, fills a packed record and sets its checksum, three of them by `CRC16_MODBUS`
and two by a constant. What else they read (pulse counts, water level, stored records) is an
argument. -/

namespace RtuShuiwen

open ByteLayout

variable {F : Type} [CFloat F]

/-! ## Common parts -/

/-- The password as the builders combine it into a word. -/
def passwordWord (p : RtuOperationParameters) : UInt16 := ofBytes16 p.password[0] p.password[1]

/-- The header that most builders fill in from the stored parameters. -/
def stationHeader (p : RtuOperationParameters) (funId : UInt8) (dataLen : UInt16)
    (contentStartId : UInt8) : MessageHeader where
  startId := networkS0h
  centerAddr := p.centerAddr[0]
  remoteAddr := p.rtuRemoteAddr
  password := passwordWord p
  funId := funId
  frameIdLen := swap16 dataLen
  contentStartId := contentStartId

/-- The first fields of a data message; message and observation time are one clock reading. -/
def contentHead (sn : UInt16) (systime : TimeDef) (remoteAddr : Vector UInt8 5) : ContentHead where
  sn := swap16 sn
  pktTime := systime
  remoteAddrId := remoteAddrId
  remoteAddr := remoteAddr
  classId := remoteAddrClassIdHedao
  observId := observeTimeId
  observTime := systime

/-- Set the checksum to the CRC of everything before it. -/
def UpMessage.withCrc {γ : Type} [Packed γ] (m : UpMessage γ) : UpMessage γ :=
  { m with crc := crc16Modbus m.body }

/-- The constant voltage that the builders report. -/
def voltageStore : Vector UInt8 2 := #v[0x12, 0x00]

/-- The cumulated rainfall for a pulse count. -/
def cumulaRainfall (F : Type) [CFloat F] (pulses : UInt32) : F :=
  CFloat.ofInt pulses.toNat * rainfallStep

/-- The water level in metres for a sensor value in centimetres. The `int` that two builders hold it
in has room for the bits of a reading. -/
def waterLevelMetres (F : Type) [CFloat F] (level : UInt32) : F :=
  CFloat.ofInt level.toNat / CFloat.ofInt 100

/-- The base value of the water level in a parameter block. -/
def waterlevelBasicValue (F : Type) [CFloat F] (p : RtuOperationParameters) : F :=
  bcdSendataToFloat waterlevelBasevalueId p.waterlevelBasevalue1.toList

/-! ## The plus message -/

/-- `PLUS_MESSAGE_FUNID`. -/
def plusMessageFunid : UInt8 := 0x33

/-- The five-minute rainfall of `plus_message_init`: pulses since the last call, as a signed
difference. -/
def fiveMinuteRainfall (F : Type) [CFloat F] (pulses lastPulses : UInt32) : F :=
  CFloat.ofInt (pulses - lastPulses).toBitVec.toInt * rainfallStep

/-- The cumulated rainfall of `plus_message_init`, which holds the pulse count in an `int`. -/
def plusCumulaRainfall (F : Type) [CFloat F] (pulses : UInt32) : F :=
  CFloat.ofInt pulses.toBitVec.toInt * rainfallStep

/-- `plus_message_init`, when the pulse count is `pulses` and was `lastPulses` in the call before. -/
def plusMessageInit (F : Type) [CFloat F] (p : RtuOperationParameters) (sn : UInt16)
    (systime : TimeDef) (pulses lastPulses level : UInt32) : UpMessage PlusMessageContent :=
  UpMessage.withCrc {
    header := stationHeader p plusMessageFunid (.ofNat (Packed.byteSize PlusMessageContent)) networkStx
    content := {
      head := contentHead sn systime p.rtuRemoteAddr
      fiveMinPrecipitId := swap16 fiveMinPrecipitId
      fiveMinPrecipitData := storeData3 (floatoHex 1 (fiveMinuteRainfall F pulses lastPulses))
      waterLevelId := swap16 waterLevelElementId
      waterLevelData :=
        storeData4 (floatoHex 3 (waterLevelMetres F level + waterlevelBasicValue F p))
      cumulaPrecipitId := swap16 cumulaPrecipitId
      cumulaPrecipitData := storeData3 (floatoHex 1 (plusCumulaRainfall F pulses))
      voltageId := swap16 voltageId
      voltageData := voltageStore }
    contentEndId := networkEtx
    crc := 0 }

/-! ## The hour message -/

/-- `HOUR_MESSAGE_FUNID`. -/
def hourMessageFunid : UInt8 := 0x34

/-- The decimal number of a string of BCD bytes. -/
def bcdStringValue (desStr : List UInt8) : ℕ :=
  desStr.foldl (fun desData b => desData * 100 + (bcdToInteger b).toNat) 0

/-- `RainFallBCDString_To_FloatValue`: record `i` of the stored rainfall. -/
def rainFallBCDStringToFloatValue (srcBuff : List UInt8) (i : ℕ) : F :=
  let desStr := (srcBuff.drop (3 * i)).take 3
  if judegeBCD desStr then CFloat.ofInt (bcdStringValue desStr) / CFloat.ofInt 10
  else CFloat.ofInt 0

/-- `HourRainFallSaveData_To_FiveMinuteRelativeValue`: twelve differences of thirteen records. -/
def hourRainFallSaveDataToFiveMinuteRelativeValue (F : Type) [CFloat F] (srcBuff : List UInt8) :
    Vector UInt8 12 :=
  Vector.ofFn fun i =>
    let lastValue : F := rainFallBCDStringToFloatValue srcBuff i
    let currValue : F := rainFallBCDStringToFloatValue srcBuff (i + 1)
    if CFloat.le lastValue currValue then
      UInt8.ofInt (CFloat.trunc ((currValue - lastValue) * CFloat.ofInt 10))
    else 0xff

/-- `WaterLevelBCDString_To_FloatValue`: record `i` of the stored water level. Only its first three
bytes are tested for decimal digits. -/
def waterLevelBCDStringToFloatValue (srcBuff : List UInt8) (i : ℕ) : F :=
  let desStr := (srcBuff.drop (4 * i)).take 4
  if judegeBCD (desStr.take 3) then CFloat.ofInt (bcdStringValue desStr) / CFloat.ofInt 1000
  else CFloat.ofInt 0

/-- `HourWaterLevelSaveData_To_Value`: twelve levels over the base value, in centimetres. -/
def hourWaterLevelSaveDataToValue (F : Type) [CFloat F] (p : RtuOperationParameters)
    (srcBuff : List UInt8) : Vector UInt16 12 :=
  Vector.ofFn fun i =>
    let relativeValue : F := waterLevelBCDStringToFloatValue srcBuff i - waterlevelBasicValue F p
    swap16 (UInt16.ofInt (CFloat.trunc (relativeValue * CFloat.ofInt 100)))

/-- The message that `hour_message_init` fills in from the records it has read. It leaves the
address in the content as it was, `contentAddr`. -/
def hourMessage (F : Type) [CFloat F] (p : RtuOperationParameters) (sn : UInt16)
    (systime : TimeDef) (contentAddr : Vector UInt8 5) (pulses level : UInt32)
    (rainfallHourData waterlevelHourData : List UInt8) : UpMessage HourMessageContent :=
  UpMessage.withCrc {
    header := stationHeader p hourMessageFunid (.ofNat (Packed.byteSize HourMessageContent)) networkStx
    content := {
      head := contentHead sn systime contentAddr
      hourFivePrecipitId := swap16 hourFiveMinPrecipitId
      hourFivePrcipitData := hourRainFallSaveDataToFiveMinuteRelativeValue F rainfallHourData
      cumulaPrecipitId := swap16 cumulaPrecipitId
      cumulaPrecipitData := storeData3 (floatoHex 1 (cumulaRainfall F pulses))
      hourFiveWaterlevelId := swap16 hourFiveWaterlevelId
      hourFiveWaterlevelData := hourWaterLevelSaveDataToValue F p waterlevelHourData
      waterLevelId := swap16 waterLevelElementId
      waterLevelData := storeData4 (floatoHex 3 (waterLevelMetres F level))
      voltageId := swap16 voltageId
      voltageData := voltageStore }
    contentEndId := networkEtx
    crc := 0 }

/-! ## The real-data reply -/

/-- `QUERY_REALDATA_FUNID`. -/
def queryRealdataFunid : UInt8 := 0x37

/-- `QueryRealData_Init`, which reads the pulse count for the current and again for the cumulated
rainfall. -/
def queryRealDataInit (F : Type) [CFloat F] (p : RtuOperationParameters) (sn : UInt16)
    (systime : TimeDef) (pulses pulsesAgain lastPulses level : UInt32) :
    UpMessage QueryrealdataUpContent :=
  UpMessage.withCrc {
    header := stationHeader p queryRealdataFunid (.ofNat (Packed.byteSize QueryrealdataUpContent))
      networkEtx
    content := {
      head := contentHead sn systime p.rtuRemoteAddr
      precipitId := swap16 fiveMinPrecipitId
      precipitData :=
        storeData3 (getBCDSendata fiveMinPrecipitId (cumulaRainfall F (pulses - lastPulses)))
      cumulaPrecipitId := swap16 cumulaPrecipitId
      cumulaPrecipitData := storeData3 (getBCDSendata cumulaPrecipitId (cumulaRainfall F pulsesAgain))
      waterLevelId := swap16 waterLevelElementId
      waterLevelData := storeData4 (getBCDSendata waterLevelElementId (waterLevelMetres F level))
      voltageId := swap16 voltageId
      voltageData := voltageStore }
    contentEndId := networkEtx
    crc := 0 }

/-! ## The parameter-query reply -/

/-- `QUERY_PARAMETER_FUNID`. -/
def queryParameterFunid : UInt8 := 0x40

/-- The guided parameters in the order of the record. The identifier of the water level of plus
messages gets its low byte from the identifier after it. -/
def parameterFields (p : RtuOperationParameters) : List GuidedField :=
  [⟨swap16 0x0120, p.centerAddr.toList⟩,
   ⟨swap16 0x0228, p.rtuRemoteAddr.toList⟩,
   ⟨swap16 0x0310, p.password.toList⟩,
   ⟨swap16 0x0450, p.center1MainChannel.toList⟩,
   ⟨swap16 0x0550, p.center1SpareChannel.toList⟩,
   ⟨swap16 0x0650, p.center2MainChannel.toList⟩,
   ⟨swap16 0x0750, p.center2SpareChannel.toList⟩,
   ⟨swap16 0x0850, p.center3MainChannel.toList⟩,
   ⟨swap16 0x0950, p.center3SpareChannel.toList⟩,
   ⟨swap16 0x0A50, p.center4MainChannel.toList⟩,
   ⟨swap16 0x0B50, p.center4SpareChannel.toList⟩,
   ⟨swap16 0x0C08, [p.workStyle]⟩,
   ⟨swap16 0x0D20, p.remoteCollectFactor.toList⟩,
   ⟨swap16 0x2008, [p.timeIntervalOfTimingMessage]⟩,
   ⟨swap16 0x2108, [p.timeIntervalOfPlusMessage]⟩,
   ⟨swap16 0x2208, [p.rainfallDayStartTime]⟩,
   ⟨swap16 0x2310, p.samplingInterval.toList⟩,
   ⟨swap16 0x2408, [p.waterlevelSaveInterval]⟩,
   ⟨swap16 0x2509, [p.rainfallResolution]⟩,
   ⟨swap16 0x2609, [p.waterlevelResolution]⟩,
   ⟨swap16 0x2708, [p.thresholdRainfallValueOfPlusmessage]⟩,
   ⟨((0x3812 : UInt16) >>> 8) ||| ((0x4012 : UInt16) <<< 8), p.waterlevelPlusmessage1.toList⟩,
   ⟨swap16 0x4012, p.aboveThresholdWaterlevelValueOfPlusmessage.toList⟩,
   ⟨swap16 0x4112, p.belowThresholdWaterlevelValueOfPlusmessage.toList⟩,
   ⟨swap16 0x421B, p.flowThresholdPlusmessage.toList⟩]

/-- `QueryParameters_Init`: address, length and checksum are constants. -/
def queryParametersInit (p : RtuOperationParameters) (sn : UInt16) (systime : TimeDef) :
    UpMessage SetparameterContent where
  header := {
    startId := networkS0h
    centerAddr := 0x00
    remoteAddr := #v[0x00, 0x55, 0x00, 0x00, 0x01]
    password := 0x0000
    funId := queryParameterFunid
    frameIdLen := swap16 0x807C
    contentStartId := networkStx }
  content := {
    sn := swap16 sn
    pktTime := systime
    fields := parameterFields p
    size_fields := by simp [parameterFields] }
  contentEndId := networkEtx
  crc := 0xffff

/-- The bytes of the reply: behind the header the serial number, the time and the guided parameters. -/
theorem queryParametersInit_toBytes (p : RtuOperationParameters) (sn : UInt16) (systime : TimeDef) :
    (queryParametersInit p sn systime).toBytes =
      (queryParametersInit p sn systime).header.toBytes ++
        ((u16le (swap16 sn) ++ pktTimeBytes systime) ++
          ((parameterFields p).flatMap (fun f => u16le f.guideId ++ f.value) ++
            ([networkEtx] ++ u16le 0xffff))) := by
  rw [UpMessage.toBytes, UpMessage.body]
  show _ ++ (u16le (swap16 sn) ++ pktTimeBytes systime ++
    (parameterFields p).flatMap fun f => u16le f.guideId ++ f.value) ++ [networkEtx] ++
      u16le 0xffff = _
  simp only [List.append_assoc]

/-! ## The clock-setting reply -/

/-- `SET_REAL_TIME`. -/
def setRealTime : UInt8 := 0x4A

/-- `Calibration_time_UpMessage_init`: the checksum stays zero. -/
def calibrationTimeUpMessageInit (p : RtuOperationParameters) (sn : UInt16) (realTime : TimeDef) :
    UpMessage CalibrationTimeUpContent where
  header := stationHeader p setRealTime (.ofNat (Packed.byteSize CalibrationTimeUpContent)) networkStx
  content := {
    sn := swap16 sn
    pktTime := realTime
    remoteAddrId := remoteAddrId
    remoteAddr := p.rtuRemoteAddr }
  contentEndId := networkEtx
  crc := 0

end RtuShuiwen
