import RtuShuiwen.Library.TaggedFields
import RtuShuiwen.Memory.FlashStore
import RtuShuiwen.Protocol.Builders

/-! # Setting the parameters and querying them

`SetParameters` copies the values of a downlink frame into a local record, field by field, and writes
that record over the stored one. Two fields of the record are not copied; they are written as the
stack held them.

* **`setParameters_iff`**: the update touches only what the frame carries exactly when the stack held
  the stored values of these two fields;
* **`decode_queryParameters`**: a parameter query that follows answers, under each guide identifier,
  with the value that was set. -/

namespace RtuShuiwen

open ByteLayout

/-! ## The downlink frame -/

/-- `sizeof(setparameter_downmessage_t)`. -/
def setparameterDownmessageSize : ℕ := 189

/-- `setparameter_downmessage_t`, as it lies in the receive buffer. -/
abbrev SetparameterDownmessage := Vector UInt8 setparameterDownmessageSize

/-- The parameters in `setparameter_content_t`. -/
structure SetparameterValues where
  centerAddr : Vector UInt8 4
  rtuRemoteAddr : Vector UInt8 5
  password : Vector UInt8 2
  center1MainChannel : Vector UInt8 10
  center1SpareChannel : Vector UInt8 10
  center2MainChannel : Vector UInt8 10
  center2SpareChannel : Vector UInt8 10
  center3MainChannel : Vector UInt8 10
  center3SpareChannel : Vector UInt8 10
  center4MainChannel : Vector UInt8 10
  center4SpareChannel : Vector UInt8 10
  workStyle : UInt8
  remoteCollectFactor : Vector UInt8 4
  timeIntervalOfTimingMessage : UInt8
  timeIntervalOfPlusMessage : UInt8
  rainfallDayStartTime : UInt8
  samplingInterval : Vector UInt8 2
  waterlevelSaveInterval : UInt8
  rainfallResolution : UInt8
  waterlevelResolution : UInt8
  thresholdRainfallValueOfPlusmessage : UInt8
  waterlevelPlusmessage1 : Vector UInt8 2
  aboveThresholdWaterlevelValueOfPlusmessage : Vector UInt8 2
  belowThresholdWaterlevelValueOfPlusmessage : Vector UInt8 2
  flowThresholdPlusmessage : Vector UInt8 3

/-- Skip a guide identifier and cut the field of `n` bytes behind it off. -/
def splitGuided (n : ℕ) (bs : List UInt8) : Vector UInt8 n × List UInt8 := split n (bs.drop 2)

/-- Skip a guide identifier and cut one byte off. -/
def splitGuidedByte (bs : List UInt8) : UInt8 × List UInt8 := splitByte (bs.drop 2)

/-- The parameters in a frame. The code reads neither header nor guide identifiers. -/
def SetparameterDownmessage.values (frame : SetparameterDownmessage) : SetparameterValues :=
  -- header, serial number and time
  let bs := frame.toList.drop (14 + 8)
  let (centerAddr, bs) := splitGuided 4 bs
  let (rtuRemoteAddr, bs) := splitGuided 5 bs
  let (password, bs) := splitGuided 2 bs
  let (center1MainChannel, bs) := splitGuided 10 bs
  let (center1SpareChannel, bs) := splitGuided 10 bs
  let (center2MainChannel, bs) := splitGuided 10 bs
  let (center2SpareChannel, bs) := splitGuided 10 bs
  let (center3MainChannel, bs) := splitGuided 10 bs
  let (center3SpareChannel, bs) := splitGuided 10 bs
  let (center4MainChannel, bs) := splitGuided 10 bs
  let (center4SpareChannel, bs) := splitGuided 10 bs
  let (workStyle, bs) := splitGuidedByte bs
  let (remoteCollectFactor, bs) := splitGuided 4 bs
  let (timeIntervalOfTimingMessage, bs) := splitGuidedByte bs
  let (timeIntervalOfPlusMessage, bs) := splitGuidedByte bs
  let (rainfallDayStartTime, bs) := splitGuidedByte bs
  let (samplingInterval, bs) := splitGuided 2 bs
  let (waterlevelSaveInterval, bs) := splitGuidedByte bs
  let (rainfallResolution, bs) := splitGuidedByte bs
  let (waterlevelResolution, bs) := splitGuidedByte bs
  let (thresholdRainfallValueOfPlusmessage, bs) := splitGuidedByte bs
  let (waterlevelPlusmessage1, bs) := splitGuided 2 bs
  let (aboveThresholdWaterlevelValueOfPlusmessage, bs) := splitGuided 2 bs
  let (belowThresholdWaterlevelValueOfPlusmessage, bs) := splitGuided 2 bs
  let (flowThresholdPlusmessage, _) := splitGuided 3 bs
  { centerAddr, rtuRemoteAddr, password, center1MainChannel, center1SpareChannel,
    center2MainChannel, center2SpareChannel, center3MainChannel, center3SpareChannel,
    center4MainChannel, center4SpareChannel, workStyle, remoteCollectFactor,
    timeIntervalOfTimingMessage, timeIntervalOfPlusMessage, rainfallDayStartTime,
    samplingInterval, waterlevelSaveInterval, rainfallResolution, waterlevelResolution,
    thresholdRainfallValueOfPlusmessage, waterlevelPlusmessage1,
    aboveThresholdWaterlevelValueOfPlusmessage, belowThresholdWaterlevelValueOfPlusmessage,
    flowThresholdPlusmessage }

/-- The places of fields of some widths that start at `off`, each behind a guide identifier. -/
def guidedOffsets (off : ℕ) : List ℕ → List ℕ
  | [] => []
  | n :: widths => List.range' (off + 2) n ++ guidedOffsets (off + 2 + n) widths

/-- The places of the parameters in a frame, in the order in which `SetParameters` copies them. -/
def valueOffsets : List ℕ :=
  guidedOffsets (14 + 8)
    [4, 5, 2, 10, 10, 10, 10, 10, 10, 10, 10, 1, 4, 1, 1, 1, 2, 1, 1, 1, 1, 2, 2, 2, 3]

/-- **The parameters of a frame are read from these places only.** -/
theorem values_congr {frame frame' : SetparameterDownmessage}
    (h : ∀ i ∈ valueOffsets, frame.toList.getD i 0 = frame'.toList.getD i 0) :
    frame.values = frame'.values := by
  have hfield : ∀ off n, (∀ i < n, off + i ∈ valueOffsets) →
      (Vector.ofFn fun i : Fin n => frame.toList.getD (off + i) 0) =
        Vector.ofFn fun i : Fin n => frame'.toList.getD (off + i) 0 :=
    fun off n hoff => congrArg Vector.ofFn (funext fun i => h _ (hoff i i.isLt))
  unfold SetparameterDownmessage.values
  simp only [splitGuided, splitGuidedByte, split, splitByte, List.drop_drop, getD_drop,
    Nat.reduceAdd, Nat.add_zero]
  simp (disch := decide) only [hfield, h]

/-- The parameters behind their guide identifiers, in the order of `setparameter_content_t`. -/
def SetparameterValues.guided (v : SetparameterValues) : List TaggedFields.Field :=
  [(0x0120, v.centerAddr.toList),
   (0x0228, v.rtuRemoteAddr.toList),
   (0x0310, v.password.toList),
   (0x0450, v.center1MainChannel.toList),
   (0x0550, v.center1SpareChannel.toList),
   (0x0650, v.center2MainChannel.toList),
   (0x0750, v.center2SpareChannel.toList),
   (0x0850, v.center3MainChannel.toList),
   (0x0950, v.center3SpareChannel.toList),
   (0x0A50, v.center4MainChannel.toList),
   (0x0B50, v.center4SpareChannel.toList),
   (0x0C08, [v.workStyle]),
   (0x0D20, v.remoteCollectFactor.toList),
   (0x2008, [v.timeIntervalOfTimingMessage]),
   (0x2108, [v.timeIntervalOfPlusMessage]),
   (0x2208, [v.rainfallDayStartTime]),
   (0x2310, v.samplingInterval.toList),
   (0x2408, [v.waterlevelSaveInterval]),
   (0x2509, [v.rainfallResolution]),
   (0x2609, [v.waterlevelResolution]),
   (0x2708, [v.thresholdRainfallValueOfPlusmessage]),
   (0x3812, v.waterlevelPlusmessage1.toList),
   (0x4012, v.aboveThresholdWaterlevelValueOfPlusmessage.toList),
   (0x4112, v.belowThresholdWaterlevelValueOfPlusmessage.toList),
   (0x421B, v.flowThresholdPlusmessage.toList)]

/-- The places of the values in a frame: the guide identifier, the offset of the value behind it, and
its length. -/
def setparameterContentPlaces : List (UInt16 × ℕ × ℕ) :=
  [(0x0120, 24, 4), (0x0228, 30, 5), (0x0310, 37, 2), (0x0450, 41, 10), (0x0550, 53, 10),
   (0x0650, 65, 10), (0x0750, 77, 10), (0x0850, 89, 10), (0x0950, 101, 10), (0x0A50, 113, 10),
   (0x0B50, 125, 10), (0x0C08, 137, 1), (0x0D20, 140, 4), (0x2008, 146, 1), (0x2108, 149, 1),
   (0x2208, 152, 1), (0x2310, 155, 2), (0x2408, 159, 1), (0x2509, 162, 1), (0x2609, 165, 1),
   (0x2708, 168, 1), (0x3812, 171, 2), (0x4012, 175, 2), (0x4112, 179, 2), (0x421B, 183, 3)]

/-- **What a frame carries**: the bytes at the places of the values. -/
def SetparameterDownmessage.carried (frame : SetparameterDownmessage) : List TaggedFields.Field :=
  setparameterContentPlaces.map fun (guideId, off, n) => (guideId, bytesAt off n frame.toList)

/-- **The values read from a frame are the bytes that it carries.** -/
theorem guided_values (frame : SetparameterDownmessage) : frame.values.guided = frame.carried := by
  have hlen : frame.toList.length = 189 := Vector.length_toList
  have hfield : ∀ off n, off + n ≤ 189 →
      (split n (frame.toList.drop off)).1.toList = bytesAt off n frame.toList :=
    fun off n hoff => toList_split (by rw [hlen]; exact hoff)
  have hbyte : ∀ off, off + 1 ≤ 189 →
      [(frame.toList.drop off).getD 0 0] = bytesAt off 1 frame.toList :=
    fun off hoff => singleton_getD_drop (by rw [hlen]; exact hoff)
  have hrest : ∀ off n, (split n (frame.toList.drop off)).2 = frame.toList.drop (off + n) :=
    fun off n => List.drop_drop
  unfold SetparameterDownmessage.values
  simp only [splitGuided, splitGuidedByte, splitByte, hrest, List.drop_drop, Nat.reduceAdd,
    SetparameterValues.guided, SetparameterDownmessage.carried, setparameterContentPlaces, List.map_cons,
    List.map_nil]
  simp (disch := decide) only [hfield, hbyte]

/-! ## The update -/

/-- `SetParameters`. The local record holds `writeParameters` before the copies. -/
def setParameters (writeParameters : RtuOperationParameters) (frame : SetparameterDownmessage)
    (st : StoreState) : StoreState :=
  let content := frame.values
  rtuParametersWritedata
    { writeParameters with
      centerAddr := content.centerAddr
      rtuRemoteAddr := content.rtuRemoteAddr
      password := content.password
      center1MainChannel := content.center1MainChannel
      center1SpareChannel := content.center1SpareChannel
      center2MainChannel := content.center2MainChannel
      center2SpareChannel := content.center2SpareChannel
      center3MainChannel := content.center3MainChannel
      center3SpareChannel := content.center3SpareChannel
      center4MainChannel := content.center4MainChannel
      center4SpareChannel := content.center4SpareChannel
      workStyle := content.workStyle
      remoteCollectFactor := content.remoteCollectFactor
      timeIntervalOfTimingMessage := content.timeIntervalOfTimingMessage
      timeIntervalOfPlusMessage := content.timeIntervalOfPlusMessage
      rainfallDayStartTime := content.rainfallDayStartTime
      samplingInterval := content.samplingInterval
      waterlevelSaveInterval := content.waterlevelSaveInterval
      rainfallResolution := content.rainfallResolution
      waterlevelResolution := content.waterlevelResolution
      thresholdRainfallValueOfPlusmessage := content.thresholdRainfallValueOfPlusmessage
      -- the base value is ignored
      waterlevelPlusmessage1 := content.waterlevelPlusmessage1
      aboveThresholdWaterlevelValueOfPlusmessage := content.aboveThresholdWaterlevelValueOfPlusmessage
      belowThresholdWaterlevelValueOfPlusmessage := content.belowThresholdWaterlevelValueOfPlusmessage
      flowThresholdPlusmessage := content.flowThresholdPlusmessage } st

/-- The parameters of a stored block that a frame can set. -/
def RtuOperationParameters.values (p : RtuOperationParameters) : SetparameterValues where
  centerAddr := p.centerAddr
  rtuRemoteAddr := p.rtuRemoteAddr
  password := p.password
  center1MainChannel := p.center1MainChannel
  center1SpareChannel := p.center1SpareChannel
  center2MainChannel := p.center2MainChannel
  center2SpareChannel := p.center2SpareChannel
  center3MainChannel := p.center3MainChannel
  center3SpareChannel := p.center3SpareChannel
  center4MainChannel := p.center4MainChannel
  center4SpareChannel := p.center4SpareChannel
  workStyle := p.workStyle
  remoteCollectFactor := p.remoteCollectFactor
  timeIntervalOfTimingMessage := p.timeIntervalOfTimingMessage
  timeIntervalOfPlusMessage := p.timeIntervalOfPlusMessage
  rainfallDayStartTime := p.rainfallDayStartTime
  samplingInterval := p.samplingInterval
  waterlevelSaveInterval := p.waterlevelSaveInterval
  rainfallResolution := p.rainfallResolution
  waterlevelResolution := p.waterlevelResolution
  thresholdRainfallValueOfPlusmessage := p.thresholdRainfallValueOfPlusmessage
  waterlevelPlusmessage1 := p.waterlevelPlusmessage1
  aboveThresholdWaterlevelValueOfPlusmessage := p.aboveThresholdWaterlevelValueOfPlusmessage
  belowThresholdWaterlevelValueOfPlusmessage := p.belowThresholdWaterlevelValueOfPlusmessage
  flowThresholdPlusmessage := p.flowThresholdPlusmessage

/-- **An update touches only what the frame carries**: the parameters in the frame are set, the two
fields it does not carry keep their values. -/
structure UpdatesOnly (before after : RtuOperationParameters) (frame : SetparameterDownmessage) :
    Prop where
  /-- What the frame carries is set. -/
  carried : after.values.guided = frame.carried
  /-- The base value of the water level is kept. -/
  baseValue : after.waterlevelBasevalue1 = before.waterlevelBasevalue1
  /-- The correction value of the water level is kept. -/
  correctionValue : after.waterlevelCorrectionValue1 = before.waterlevelCorrectionValue1

/-- **What `SetParameters` leaves in the flash**: the values of the frame, and the two fields of the
local record that were not copied. -/
theorem readdata_setParameters (writeParameters : RtuOperationParameters)
    (frame : SetparameterDownmessage) (st : StoreState) :
    UpdatesOnly writeParameters (rtuParametersReaddata (setParameters writeParameters frame st))
      frame := by
  have hguided := guided_values frame
  unfold setParameters
  generalize frame.values = content at hguided ⊢
  rw [rtuParametersReaddata_writedata]
  exact ⟨hguided, rfl, rfl⟩

/-- **When an update touches only what the frame carries**: exactly when the local record happens to
hold the stored base and correction value. -/
theorem setParameters_iff (writeParameters : RtuOperationParameters)
    (frame : SetparameterDownmessage) (st : StoreState) :
    UpdatesOnly (rtuParametersReaddata st)
        (rtuParametersReaddata (setParameters writeParameters frame st)) frame ↔
      writeParameters.waterlevelBasevalue1 = (rtuParametersReaddata st).waterlevelBasevalue1 ∧
        writeParameters.waterlevelCorrectionValue1 =
          (rtuParametersReaddata st).waterlevelCorrectionValue1 := by
  have hread := readdata_setParameters writeParameters frame st
  constructor
  · intro h
    exact ⟨hread.baseValue.symm.trans h.baseValue,
      hread.correctionValue.symm.trans h.correctionValue⟩
  · rintro ⟨hbase, hcorrection⟩
    constructor
    case carried => exact hread.carried
    case baseValue => exact hread.baseValue.trans hbase
    case correctionValue => exact hread.correctionValue.trans hcorrection

/-- The local record of a call whose stack holds zeros. -/
def zeroStack : RtuOperationParameters := .ofBytes []

/-- A store whose parameter block has the base value 1 metre. -/
def baseValueStore : StoreState :=
  rtuParametersWritedata { zeroStack with waterlevelBasevalue1 := #v[0x00, 0x00, 0x10, 0x00] }
    ⟨fun _ => 0, .initial⟩

/-- Over a stack of zeros a frame of zeros sets the base value to zero. -/
theorem baseValueStore_not_updatesOnly :
    ¬ UpdatesOnly (rtuParametersReaddata baseValueStore)
      (rtuParametersReaddata (setParameters zeroStack (.replicate _ 0) baseValueStore))
      (.replicate _ 0) := by
  intro h
  have hkept := h.baseValue
  rw [(readdata_setParameters zeroStack _ baseValueStore).baseValue, baseValueStore,
    rtuParametersReaddata_writedata] at hkept
  exact absurd hkept (by decide)

/-! ## The query that follows -/

/-- The length of a value, in the high five bits of the low byte of its guide identifier. -/
def guideLength (guideId : UInt16) : ℕ := (guideId.toUInt8 >>> 3).toNat

/-- Every parameter has the length that its guide identifier announces. -/
theorem length_guided (v : SetparameterValues) :
    ∀ f ∈ v.guided, f.2.length = guideLength f.1 := by
  have hwidths : v.guided.map (fun f => f.2.length) = v.guided.map fun f => guideLength f.1 := by
    simp only [SetparameterValues.guided, List.map_cons, List.map_nil, Vector.length_toList,
      List.length_singleton]
    decide
  exact List.map_inj_left.mp hwidths

/-- A guided field that is written first is read first. -/
theorem splitGuided_append {n : ℕ} (guideId : UInt16) (v : Vector UInt8 n) (bs : List UInt8) :
    splitGuided n (u16be guideId ++ (v.toList ++ bs)) = (v, bs) := by
  show split n (v.toList ++ bs) = (v, bs)
  exact split_append v bs

/-- So is a guided byte. -/
theorem splitGuidedByte_append (guideId : UInt16) (b : UInt8) (bs : List UInt8) :
    splitGuidedByte (u16be guideId ++ ([b] ++ bs)) = (b, bs) := rfl

/-- **The parameters of a frame are read right**: they are those a sender lays out behind their guide
identifiers. -/
theorem values_eq {frame : SetparameterDownmessage} {front back : List UInt8} {v : SetparameterValues}
    (hfront : front.length = 14 + 8)
    (hframe : frame.toList = front ++ (TaggedFields.encode v.guided ++ back)) : frame.values = v := by
  unfold SetparameterDownmessage.values
  rw [hframe, List.drop_left' hfront]
  simp only [TaggedFields.encode, SetparameterValues.guided, List.flatMap_cons, List.flatMap_nil,
    List.append_assoc, List.nil_append, splitGuided_append, splitGuidedByte_append]

/-- The guided fields of the reply to a query are the parameters behind their identifiers. -/
theorem parameterFields_eq (p : RtuOperationParameters) :
    (parameterFields p).flatMap (fun f => u16le f.guideId ++ f.value) =
      TaggedFields.encode p.values.guided := by
  -- the identifier of the plus water level has the low byte of its neighbour, which is the same
  have hmixed : ((0x3812 : UInt16) >>> 8) ||| ((0x4012 : UInt16) <<< 8) = swap16 0x3812 := by decide
  have hfields : parameterFields p = p.values.guided.map fun f => ⟨swap16 f.1, f.2⟩ := by
    rw [parameterFields, hmixed]
    rfl
  rw [hfields, List.flatMap_map, TaggedFields.encode]
  simp only [u16le_swap16]

/-- The reply to a query, read as a sequence of guide identifiers and values. -/
def decodeReply (reply : List UInt8) : Option (List TaggedFields.Field) :=
  TaggedFields.decode guideLength (bytesAt (14 + 8) 164 reply)

/-- The reply to a query decodes to the stored parameters. -/
theorem decodeReply_queryParametersInit (p : RtuOperationParameters) (sn : UInt16)
    (systime : TimeDef) :
    decodeReply (queryParametersInit p sn systime).toBytes = some p.values.guided := by
  have hbytes : (queryParametersInit p sn systime).toBytes =
      ((queryParametersInit p sn systime).header.toBytes ++ (u16le (swap16 sn) ++ pktTimeBytes systime)) ++
        (TaggedFields.encode p.values.guided ++ ([networkEtx] ++ u16le 0xffff)) := by
    rw [queryParametersInit_toBytes, parameterFields_eq]
    simp only [List.append_assoc]
  have hlen : (TaggedFields.encode p.values.guided).length = 164 := by
    rw [← parameterFields_eq, List.length_flatMap]
    simp [parameterFields]
  have hfront : ((queryParametersInit p sn systime).header.toBytes ++
      (u16le (swap16 sn) ++ pktTimeBytes systime)).length = 14 + 8 := by
    rw [List.length_append, MessageHeader.length_toBytes]
    rfl
  rw [decodeReply, hbytes, bytesAt_append hfront hlen,
    TaggedFields.decode_encode _ (length_guided _)]

/-- **Set, then query**: whatever was stored before and whatever the stack held, the reply to a query
after `SetParameters` decodes to the bytes that the frame carries, each value behind its own guide
identifier. Of a frame that a sender laid out these are the sender's values. -/
theorem decode_queryParameters (writeParameters : RtuOperationParameters)
    (frame : SetparameterDownmessage) (st : StoreState) (sn : UInt16) (systime : TimeDef) :
    let reply := queryParametersInit
      (rtuParametersReaddata (setParameters writeParameters frame st)) sn systime
    decodeReply reply.toBytes = some frame.carried ∧
      ∀ (front back : List UInt8) (v : SetparameterValues), front.length = 14 + 8 →
        frame.toList = front ++ (TaggedFields.encode v.guided ++ back) →
          decodeReply reply.toBytes = some v.guided := by
  intro reply
  have hreply : decodeReply reply.toBytes = some frame.carried := by
    rw [decodeReply_queryParametersInit, (readdata_setParameters writeParameters frame st).carried]
  refine ⟨hreply, ?_⟩
  intro front back v hfront hframe
  rw [hreply, ← guided_values, values_eq hfront hframe]

/-- The values of a sender that sets a center address, and everything else to zero. -/
def centerAddressValues : SetparameterValues := { zeroStack with centerAddr := #v[1, 2, 3, 4] }.values

/-- Its frame. -/
def centerAddressFrame : SetparameterDownmessage :=
  ⟨(List.replicate 22 0 ++ (TaggedFields.encode centerAddressValues.guided ++ List.replicate 3 0)).toArray,
    by decide +kernel⟩

/-- The reply to a query shows its values. -/
theorem decode_centerAddressFrame :
    decodeReply (queryParametersInit
      (rtuParametersReaddata (setParameters zeroStack centerAddressFrame baseValueStore)) 1
      ⟨0, 0, 0, 0, 0, 0, 0⟩).toBytes = some centerAddressValues.guided :=
  (decode_queryParameters zeroStack centerAddressFrame baseValueStore 1 ⟨0, 0, 0, 0, 0, 0, 0⟩).2
    (List.replicate 22 0) (List.replicate 3 0) centerAddressValues rfl rfl

end RtuShuiwen
