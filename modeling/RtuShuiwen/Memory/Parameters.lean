import RtuShuiwen.Library.ByteLayout

/-! # The operation parameters of the station

`RTU_operation_parameters_t`: a packed record of 121 bytes that is kept in the flash and sent back
in a parameter query. It is written as the concatenation of its fields in order (`toBytes`) and
read back by cutting them off in the same order; `ofBytes_toBytes` is the round trip. -/

namespace RtuShuiwen

open ByteLayout

/-- `RTU_operation_parameters_t`. -/
structure RtuOperationParameters where
  centerAddr : Vector UInt8 4
  rtuRemoteAddr : Vector UInt8 5
  password : Vector UInt8 2
  center1MainChannel : Vector UInt8 10
  center1SpareChannel : Vector UInt8 10
  center2MainChannel : Vector UInt8 10
  center2SpareChannel : Vector UInt8 10
  center3MainChannel : Vector UInt8 10
  center3SpareChannel : Vector UInt8 10
  center4MainChannel : Vector UInt8 10
  center4SpareChannel : Vector UInt8 10
  workStyle : UInt8
  remoteCollectFactor : Vector UInt8 4
  timeIntervalOfTimingMessage : UInt8
  timeIntervalOfPlusMessage : UInt8
  rainfallDayStartTime : UInt8
  samplingInterval : Vector UInt8 2
  waterlevelSaveInterval : UInt8
  rainfallResolution : UInt8
  waterlevelResolution : UInt8
  thresholdRainfallValueOfPlusmessage : UInt8
  waterlevelBasevalue1 : Vector UInt8 4
  waterlevelCorrectionValue1 : Vector UInt8 3
  waterlevelPlusmessage1 : Vector UInt8 2
  aboveThresholdWaterlevelValueOfPlusmessage : Vector UInt8 2
  belowThresholdWaterlevelValueOfPlusmessage : Vector UInt8 2
  flowThresholdPlusmessage : Vector UInt8 3

namespace RtuOperationParameters

/-- The bytes of the packed record. -/
def toBytes (p : RtuOperationParameters) : List UInt8 :=
  p.centerAddr.toList ++ (p.rtuRemoteAddr.toList ++ (p.password.toList ++
  (p.center1MainChannel.toList ++ (p.center1SpareChannel.toList ++
  (p.center2MainChannel.toList ++ (p.center2SpareChannel.toList ++
  (p.center3MainChannel.toList ++ (p.center3SpareChannel.toList ++
  (p.center4MainChannel.toList ++ (p.center4SpareChannel.toList ++
  (p.workStyle :: (p.remoteCollectFactor.toList ++
  (p.timeIntervalOfTimingMessage :: p.timeIntervalOfPlusMessage :: p.rainfallDayStartTime ::
  (p.samplingInterval.toList ++
  (p.waterlevelSaveInterval :: p.rainfallResolution :: p.waterlevelResolution ::
    p.thresholdRainfallValueOfPlusmessage ::
  (p.waterlevelBasevalue1.toList ++ (p.waterlevelCorrectionValue1.toList ++
  (p.waterlevelPlusmessage1.toList ++ (p.aboveThresholdWaterlevelValueOfPlusmessage.toList ++
  (p.belowThresholdWaterlevelValueOfPlusmessage.toList ++
    p.flowThresholdPlusmessage.toList))))))))))))))))))))

/-- The record that lies at the front of a byte string. -/
def ofBytes (bs : List UInt8) : RtuOperationParameters :=
  let (centerAddr, bs) := split 4 bs
  let (rtuRemoteAddr, bs) := split 5 bs
  let (password, bs) := split 2 bs
  let (center1MainChannel, bs) := split 10 bs
  let (center1SpareChannel, bs) := split 10 bs
  let (center2MainChannel, bs) := split 10 bs
  let (center2SpareChannel, bs) := split 10 bs
  let (center3MainChannel, bs) := split 10 bs
  let (center3SpareChannel, bs) := split 10 bs
  let (center4MainChannel, bs) := split 10 bs
  let (center4SpareChannel, bs) := split 10 bs
  let (workStyle, bs) := splitByte bs
  let (remoteCollectFactor, bs) := split 4 bs
  let (timeIntervalOfTimingMessage, bs) := splitByte bs
  let (timeIntervalOfPlusMessage, bs) := splitByte bs
  let (rainfallDayStartTime, bs) := splitByte bs
  let (samplingInterval, bs) := split 2 bs
  let (waterlevelSaveInterval, bs) := splitByte bs
  let (rainfallResolution, bs) := splitByte bs
  let (waterlevelResolution, bs) := splitByte bs
  let (thresholdRainfallValueOfPlusmessage, bs) := splitByte bs
  let (waterlevelBasevalue1, bs) := split 4 bs
  let (waterlevelCorrectionValue1, bs) := split 3 bs
  let (waterlevelPlusmessage1, bs) := split 2 bs
  let (aboveThresholdWaterlevelValueOfPlusmessage, bs) := split 2 bs
  let (belowThresholdWaterlevelValueOfPlusmessage, bs) := split 2 bs
  let (flowThresholdPlusmessage, _) := split 3 bs
  { centerAddr, rtuRemoteAddr, password, center1MainChannel, center1SpareChannel,
    center2MainChannel, center2SpareChannel, center3MainChannel, center3SpareChannel,
    center4MainChannel, center4SpareChannel, workStyle, remoteCollectFactor,
    timeIntervalOfTimingMessage, timeIntervalOfPlusMessage, rainfallDayStartTime,
    samplingInterval, waterlevelSaveInterval, rainfallResolution, waterlevelResolution,
    thresholdRainfallValueOfPlusmessage, waterlevelBasevalue1, waterlevelCorrectionValue1,
    waterlevelPlusmessage1, aboveThresholdWaterlevelValueOfPlusmessage,
    belowThresholdWaterlevelValueOfPlusmessage, flowThresholdPlusmessage }

/-- `sizeof(RTU_operation_parameters_t)`. -/
def byteSize : ℕ := 121

/-- The packed record has the size of its type. -/
@[simp] theorem length_toBytes (p : RtuOperationParameters) : p.toBytes.length = byteSize := by
  simp [toBytes, byteSize]

/-- **The round trip**: a record read back from its bytes is the record. -/
@[simp] theorem ofBytes_toBytes (p : RtuOperationParameters) : ofBytes p.toBytes = p := by
  have hlast : split 3 p.flowThresholdPlusmessage.toList = (p.flowThresholdPlusmessage, []) := by
    have h := split_append p.flowThresholdPlusmessage []
    rwa [List.append_nil] at h
  simp only [ofBytes, toBytes, split_append, splitByte_cons, hlast]

end RtuOperationParameters

end RtuShuiwen
