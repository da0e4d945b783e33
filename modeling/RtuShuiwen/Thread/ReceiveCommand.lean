import RtuShuiwen.Gprs.CheckReceive
import RtuShuiwen.Protocol.ParameterUpdate
import RtuShuiwen.Protocol.TimePeriod
import RtuShuiwen.Thread.Modes

/-! # The command loop

`receive_command` polls two channels, once a second. A burst on `RS232_3` lies at the front of a buffer
that is never cleared; the loop searches the buffer for the start mark, but reads the function code and
the fields at fixed places from the front of the buffer. The bursts are those that fit into the buffer.

* **`receiveCommand_iff`**: the runs in which every burst has executed what it carries, and nothing
  else;
* **`channelsServed_iff`**: the runs in which the loop always comes back to the other channel. -/

namespace RtuShuiwen

open ByteLayout TransitionSystem

/-! ## Commands -/

/-- `SET_PARAMETER_FUNID`. -/
def setParameterFunid : UInt8 := 0x41

/-- `NO_MATCH_FUNID`, which is also the code of the response mode. -/
def noMatchFunid : UInt8 := 1

/-- The codes in the switch of `GetDownFrameFunId`. -/
def knownFunids : List UInt8 :=
  [plusMessageFunid, hourMessageFunid, queryRealdataFunid, queryTimePeriodFunid, setParameterFunid,
    queryParameterFunid, setRealTime, enterResponseMode, enterNormalMode]

/-- `fun_id` of a `message_header_t` at the front of a buffer. -/
def headerFunId (buf : List UInt8) : UInt8 := buf.getD 10 0

/-- `GetDownFrameFunId` for `RS232_3`. -/
def getDownFrameFunId (rs232Recv : List UInt8) : UInt8 :=
  let funId := headerFunId rs232Recv
  if funId ∈ knownFunids then funId else noMatchFunid

/-- What a frame makes the station do: a mode command of `receive_command`, or a function of
`ExecuteFunctionByFunId` with the fields it reads. -/
inductive Command
  | mode (m : Mode)
  | setRealTime (writeTime : TimeDef)
  | queryRealdata
  | queryTimePeriod (query : QuerrytimeperiodDownmessage)
  | queryParameter
  | setParameter (content : SetparameterValues)

/-- The time in a `calibration_time_downmsssage_t`. -/
def calibrationTime (buf : List UInt8) : TimeDef where
  year := buf.getD 16 0
  month := buf.getD 17 0
  day := buf.getD 18 0
  hour := buf.getD 19 0
  minute := buf.getD 20 0
  second := buf.getD 21 0
  week := 0

/-- The fields of a `querrytimeperiod_downmessage_t`. -/
def timePeriodQuery (buf : List UInt8) : QuerrytimeperiodDownmessage where
  startTime := ⟨buf.getD 22 0, buf.getD 23 0, buf.getD 24 0, buf.getD 25 0⟩
  endTime := ⟨buf.getD 26 0, buf.getD 27 0, buf.getD 28 0, buf.getD 29 0⟩
  precipitId := ofBytes16 (buf.getD 36 0) (buf.getD 35 0)

/-- A `setparameter_downmessage_t`. -/
def setparameterFrame (buf : List UInt8) : SetparameterDownmessage :=
  .ofFn fun i => buf.getD i 0

/-- The mode that a code sets. -/
def modeCommand (funId : UInt8) : Option Command :=
  if funId = enterResponseMode then some (.mode .response)
  else if funId = enterNormalMode then some (.mode .normal)
  else none

/-- `ExecuteFunctionByFunId` on the frame at the front of a buffer. -/
def executeFunctionByFunId (funId : UInt8) (buf : List UInt8) : Option Command :=
  if funId = setRealTime then some (.setRealTime (calibrationTime buf))
  else if funId = queryRealdataFunid then some .queryRealdata
  else if funId = queryTimePeriodFunid then some (.queryTimePeriod (timePeriodQuery buf))
  else if funId = queryParameterFunid then some .queryParameter
  else if funId = setParameterFunid then some (.setParameter (setparameterFrame buf).values)
  else none

/-- The places in the buffer that are read to execute a code, in the order of the reads: the clock
frame once; of a time-period query the start, the element, start and end for the number of records,
and the year for the table of months; of a parameter frame value by value. -/
def readOffsets (funId : UInt8) : List ℕ :=
  if funId = setRealTime then [16, 17, 18, 19, 20, 21]
  else if funId = queryTimePeriodFunid then
    [22, 23, 24, 25, 35, 36, 22, 23, 24, 25, 26, 27, 28, 29, 22]
  else if funId = setParameterFunid then valueOffsets
  else []

/-- What a poll executes for a code. A mode code has no function. -/
def executedCommand (funId : UInt8) (buf : List UInt8) : Option Command :=
  modeCommand funId <|> executeFunctionByFunId funId buf

/-! ## The loop -/

/-- The start mark of a frame. -/
def frameMark : List UInt8 := [0x7E, 0x7E]

/-- `RS232_RECV_MAX`, the size of `RS232_3_Recv`. -/
def rs232RecvMax : ℕ := 256

/-- What one run of the receive interrupt reads: at least one byte, and no more than the buffer holds.
A longer burst is written over the variables behind the buffer; of runs with one nothing is said. -/
structure Burst where
  bytes : List UInt8
  ne_nil : bytes ≠ []
  fits : bytes.length ≤ rs232RecvMax

/-- The two receive buffers, with what lies in memory behind them, and the marks that tell the loop of
new data. -/
structure ReceiveState where
  rs232Recv : List UInt8
  rs232RecvAddress : ℕ
  dmaUsart2Buf : List UInt8
  gUsart2ReceiveStat : Bool

/-- A command and the place in the buffer where the frame it was read from starts. -/
structure Execution where
  command : Command
  start : ℕ

/-- What a poll does. -/
inductive PollAction
  | idle
  | rs232 (execution : Option Execution)
  | gprs

/-- The command that a poll executes from `RS232_3`. -/
def PollAction.execution : PollAction → Option Execution
  | .rs232 execution => execution
  | _ => none

/-- The `RS232_3` part of `EXTI9_5_IRQHandler`. -/
def receiveBurst (b : Burst) (s : ReceiveState) : ReceiveState :=
  { s with
    rs232Recv := b.bytes ++ s.rs232Recv.drop b.bytes.length
    rs232RecvAddress := b.bytes.length }

/-- What the code and the fields at the front of the buffer execute. -/
def bufferExecution (rs232Recv : List UInt8) : Option Execution :=
  (executedCommand (getDownFrameFunId rs232Recv) rs232Recv).map (⟨·, 0⟩)

/-- One turn of the loop of `receive_command`. -/
def receiveCommand (s : ReceiveState) : PollAction × ReceiveState :=
  if s.rs232RecvAddress ≠ 0 then
    match strstr frameMark s.rs232Recv with
    | some _ => (.rs232 (bufferExecution s.rs232Recv), { s with rs232RecvAddress := 0 })
    | none => (.idle, s)
  else if s.gUsart2ReceiveStat then
    match strstr frameMark s.dmaUsart2Buf with
    | some _ => (.gprs, { s with gUsart2ReceiveStat := false })
    | none => (.idle, s)
  else (.idle, s)

/-- What happens to the two channels. -/
inductive ReceiveEvent
  | burst (b : Burst)
  | gprs (dmaUsart2Buf : List UInt8)
  | poll

/-- One event. -/
def ReceiveState.step (s : ReceiveState) : ReceiveEvent → Option ReceiveState
  | .burst b => some (receiveBurst b s)
  | .gprs dmaUsart2Buf => some { s with dmaUsart2Buf, gUsart2ReceiveStat := true }
  | .poll => some (receiveCommand s).2

/-- A state in which nothing has been received, whatever lies in memory. -/
def ReceiveState.start (rs232Recv dmaUsart2Buf : List UInt8) : ReceiveState :=
  ⟨rs232Recv, 0, dmaUsart2Buf, false⟩

/-! ## What a burst carries -/

/-- The place of the first start mark. -/
def frameStart : List UInt8 → Option ℕ
  | [] => none
  | b :: bs => if frameMark <+: b :: bs then some 0 else (frameStart bs).map (· + 1)

/-- The size of the structure that a frame with this code is; those without fields are all of one
size. -/
def commandFrameSize (funId : UInt8) : ℕ :=
  if funId = queryTimePeriodFunid then 40
  else if funId = setParameterFunid then setparameterDownmessageSize
  else 25

/-- The frame that starts at the front of some bytes, if its code is known and the bytes do not end
before it does. -/
def frontFrame (bytes : List UInt8) : Option (List UInt8) :=
  if headerFunId bytes ∈ knownFunids ∧ commandFrameSize (headerFunId bytes) ≤ bytes.length then
    some bytes
  else none

/-- **The command that a burst carries**: that of the frame at the first mark of the burst, with code
and fields from the bytes of the burst. -/
def carriedExecution (burst : List UInt8) : Option Execution :=
  (frameStart burst).bind fun start =>
    (frontFrame (burst.drop start)).bind fun frame =>
      (executedCommand (headerFunId frame) frame).map (⟨·, start⟩)

/-- **When the loop gets a burst right.** Either the burst starts with a complete frame, or it carries
no command and the buffer, with what earlier bursts left in it, makes the loop execute none: it shows
no mark before its first zero, or a code that executes nothing. -/
def BurstServed (rs232Recv burst : List UInt8) : Prop :=
  (frameMark <+: burst ∧ (frontFrame burst).isSome) ∨
    (carriedExecution burst = none ∧ (strstr frameMark rs232Recv = none ∨
      getDownFrameFunId rs232Recv ∈ [plusMessageFunid, hourMessageFunid]))

/-! ## One burst -/

/-- The bytes of a burst lie at the front of the buffer. -/
theorem prefix_receiveBurst (b : Burst) (s : ReceiveState) :
    b.bytes <+: (receiveBurst b s).rs232Recv := List.prefix_append _ _

/-- `GetDownFrameFunId` answers with one of the codes it knows. -/
theorem getDownFrameFunId_mem (rs232Recv : List UInt8) :
    getDownFrameFunId rs232Recv ∈ knownFunids := by
  unfold getDownFrameFunId
  by_cases hknown : headerFunId rs232Recv ∈ knownFunids
  · rwa [if_pos hknown]
  · rw [if_neg hknown]
    decide

/-- Of these, only those of the two reports execute nothing. -/
theorem executedCommand_eq_none_iff {funId : UInt8} (hfun : funId ∈ knownFunids) (buf : List UInt8) :
    executedCommand funId buf = none ↔ funId ∈ [plusMessageFunid, hourMessageFunid] := by
  simp only [knownFunids, List.mem_cons, List.not_mem_nil, or_false] at hfun
  obtain rfl | rfl | rfl | rfl | rfl | rfl | rfl | rfl | rfl := hfun
  case inl | inr.inl => exact iff_of_true rfl (by decide)
  all_goals exact iff_of_false nofun (by decide)

/-- No frame is shorter than its header and its end. -/
theorem le_commandFrameSize (funId : UInt8) : 25 ≤ commandFrameSize funId := by
  unfold commandFrameSize
  split
  · omega
  split
  · decide
  · omega

/-- All that is read of a frame lies in it. -/
theorem readOffsets_lt {funId : UInt8} : ∀ i ∈ readOffsets funId, i < commandFrameSize funId := by
  unfold readOffsets
  split
  case isTrue => exact fun i hi => lt_of_lt_of_le (by revert i; decide) (le_commandFrameSize funId)
  split
  case isTrue hperiod =>
    subst hperiod
    decide
  split
  case isTrue hset =>
    subst hset
    decide
  case isFalse => exact nofun

/-- The bytes of a parameter frame are those at the front of the buffer. -/
theorem getD_setparameterFrame {buf : List UInt8} {i : ℕ} (hi : i < setparameterDownmessageSize) :
    (setparameterFrame buf).toList.getD i 0 = buf.getD i 0 := by
  have hlen : i < (setparameterFrame buf).toList.length := by rwa [Vector.length_toList]
  rw [List.getD_eq_getElem _ _ hlen, Vector.getElem_toList]
  exact Vector.getElem_ofFn hi

/-- **What a frame executes depends on these places only.** -/
theorem executeFunctionByFunId_congr {funId : UInt8} {buf buf' : List UInt8}
    (h : ∀ i ∈ readOffsets funId, buf.getD i 0 = buf'.getD i 0) :
    executeFunctionByFunId funId buf = executeFunctionByFunId funId buf' := by
  unfold executeFunctionByFunId
  -- the codes with fields are taken one by one; the others read nothing
  by_cases hclock : funId = setRealTime
  · subst hclock
    have hfields : calibrationTime buf = calibrationTime buf' := by
      simp (disch := decide) only [calibrationTime, h]
    exact congrArg (fun time => some (Command.setRealTime time)) hfields
  by_cases hperiod : funId = queryTimePeriodFunid
  · subst hperiod
    have hfields : timePeriodQuery buf = timePeriodQuery buf' := by
      simp (disch := decide) only [timePeriodQuery, h]
    exact congrArg (fun query => some (Command.queryTimePeriod query)) hfields
  by_cases hset : funId = setParameterFunid
  · subst hset
    have hfields : (setparameterFrame buf).values = (setparameterFrame buf').values := by
      apply values_congr
      intro i hi
      have hread : i ∈ readOffsets setParameterFunid := hi
      have hsize : i < setparameterDownmessageSize := readOffsets_lt i hread
      rw [getD_setparameterFrame hsize, getD_setparameterFrame hsize, h i hread]
    exact congrArg (fun content => some (Command.setParameter content)) hfields
  · simp only [if_neg hclock, if_neg hperiod, if_neg hset]

/-- The code of a frame is read from the frame, whatever lies behind it. -/
theorem headerFunId_append {frame : List UInt8} (hlen : 25 ≤ frame.length) (rest : List UInt8) :
    headerFunId (frame ++ rest) = headerFunId frame :=
  List.getD_append _ _ _ _ (by omega)

/-- **The fields of a complete frame are read from the frame**, whatever lies behind it. -/
theorem executeFunctionByFunId_append {funId : UInt8} {frame : List UInt8}
    (hlen : commandFrameSize funId ≤ frame.length) (rest : List UInt8) :
    executeFunctionByFunId funId (frame ++ rest) = executeFunctionByFunId funId frame :=
  executeFunctionByFunId_congr fun i hi =>
    List.getD_append _ _ _ _ ((readOffsets_lt i hi).trans_le hlen)

/-- A burst that starts with the mark has its frame at the front. -/
theorem frameStart_eq_zero_iff {burst : List UInt8} :
    frameStart burst = some 0 ↔ frameMark <+: burst := by
  cases burst with
  | nil => exact iff_of_false nofun (by decide)
  | cons b bs =>
      rw [frameStart]
      by_cases hmark : frameMark <+: b :: bs
      · rw [if_pos hmark]
        exact iff_of_true rfl hmark
      · rw [if_neg hmark]
        refine iff_of_false ?_ hmark
        cases frameStart bs <;> simp

/-- What is known of a frame at the front. -/
theorem frontFrame_eq_some {bytes frame : List UInt8} (h : frontFrame bytes = some frame) :
    frame = bytes ∧ headerFunId bytes ∈ knownFunids ∧
      commandFrameSize (headerFunId bytes) ≤ bytes.length := by
  unfold frontFrame at h
  split at h
  case isTrue hframe => exact ⟨(Option.some.inj h).symm, hframe⟩
  case isFalse => exact nomatch h

/-- **A complete frame at the front of the burst is what the loop executes.** -/
theorem bufferExecution_of_frontFrame {rs232Recv burst : List UInt8} (hrecv : burst <+: rs232Recv)
    (hmark : frameMark <+: burst) (hframe : (frontFrame burst).isSome) :
    bufferExecution rs232Recv = carriedExecution burst := by
  obtain ⟨frame, hframe⟩ := Option.isSome_iff_exists.mp hframe
  obtain ⟨rfl, hknown, hsize⟩ := frontFrame_eq_some hframe
  obtain ⟨rest, rfl⟩ := hrecv
  -- the code lies inside the frame, so what is behind the burst does not matter
  have hcode : headerFunId (frame ++ rest) = headerFunId frame :=
    headerFunId_append ((le_commandFrameSize _).trans hsize) rest
  have hfun : getDownFrameFunId (frame ++ rest) = headerFunId frame := by
    rw [getDownFrameFunId, hcode]
    exact if_pos hknown
  have hstart : frameStart frame = some 0 := frameStart_eq_zero_iff.mpr hmark
  rw [bufferExecution, hfun, executedCommand, executeFunctionByFunId_append hsize,
    ← executedCommand, carriedExecution, hstart, Option.bind_some,
    List.drop_zero, hframe, Option.bind_some]

/-- What the loop executes when it finds `rs232Recv` in the buffer. -/
def polledExecution (rs232Recv : List UInt8) : Option Execution :=
  (strstr frameMark rs232Recv).bind fun _ => bufferExecution rs232Recv

/-- **Which bursts the loop gets right.** -/
theorem polledExecution_eq_iff {rs232Recv burst : List UInt8} (hrecv : burst <+: rs232Recv) :
    polledExecution rs232Recv = carriedExecution burst ↔ BurstServed rs232Recv burst := by
  constructor
  · intro h
    cases hcarried : carriedExecution burst with
    | none =>
        -- nothing is executed: no mark was found, or the code executes nothing
        refine Or.inr ⟨hcarried, ?_⟩
        rw [hcarried, polledExecution] at h
        cases hfound : strstr frameMark rs232Recv with
        | none => exact Or.inl rfl
        | some found =>
            rw [hfound, Option.bind_some, bufferExecution, Option.map_eq_none_iff] at h
            exact Or.inr ((executedCommand_eq_none_iff (getDownFrameFunId_mem _) _).mp h)
    | some execution =>
        -- something is executed, from the front of the buffer: so the first mark is there
        left
        have hpolled : execution.start = 0 := by
          rw [hcarried, polledExecution] at h
          obtain ⟨_, -, hbuffer⟩ := Option.bind_eq_some_iff.mp h
          obtain ⟨_, -, rfl⟩ := Option.map_eq_some_iff.mp hbuffer
          rfl
        obtain ⟨start, hstart, hrest⟩ := Option.bind_eq_some_iff.mp hcarried
        obtain ⟨frame, hframe, hcommand⟩ := Option.bind_eq_some_iff.mp hrest
        obtain ⟨_, -, rfl⟩ := Option.map_eq_some_iff.mp hcommand
        obtain rfl : start = 0 := hpolled
        exact ⟨frameStart_eq_zero_iff.mp hstart, Option.isSome_iff_exists.mpr ⟨frame, hframe⟩⟩
  · rintro (⟨hmark, hframe⟩ | ⟨hcarried, hnone | hreport⟩)
    · have hbuffer : frameMark <+: rs232Recv := hmark.trans hrecv
      have hne : rs232Recv ≠ [] := by
        rintro rfl
        exact absurd hbuffer (by decide)
      rw [polledExecution, strstr_of_prefix hne hbuffer, Option.bind_some]
      exact bufferExecution_of_frontFrame hrecv hmark hframe
    · rw [polledExecution, hnone, hcarried, Option.bind_none]
    · have hexecuted : bufferExecution rs232Recv = none := by
        rw [bufferExecution, Option.map_eq_none_iff]
        exact (executedCommand_eq_none_iff (getDownFrameFunId_mem _) _).mpr hreport
      rw [polledExecution, hexecuted, hcarried]
      cases strstr frameMark rs232Recv <;> rfl

/-! ## Polls -/

/-- **What a poll can do**: execute and release the buffer, find no mark in it, take up the other
channel, or find nothing there either. -/
theorem receiveCommand_cases (s : ReceiveState) :
    (s.rs232RecvAddress ≠ 0 ∧ (strstr frameMark s.rs232Recv).isSome ∧
        receiveCommand s =
          (.rs232 (bufferExecution s.rs232Recv), { s with rs232RecvAddress := 0 })) ∨
      (s.rs232RecvAddress ≠ 0 ∧ strstr frameMark s.rs232Recv = none ∧
        receiveCommand s = (.idle, s)) ∨
      (s.rs232RecvAddress = 0 ∧
        (s.gUsart2ReceiveStat = true ∧ (strstr frameMark s.dmaUsart2Buf).isSome) ∧
        receiveCommand s = (.gprs, { s with gUsart2ReceiveStat := false })) ∨
      (s.rs232RecvAddress = 0 ∧
        ¬ (s.gUsart2ReceiveStat = true ∧ (strstr frameMark s.dmaUsart2Buf).isSome) ∧
        receiveCommand s = (.idle, s)) := by
  unfold receiveCommand
  by_cases haddr : s.rs232RecvAddress = 0
  · rw [if_neg (not_not.mpr haddr)]
    cases hstat : s.gUsart2ReceiveStat with
    | false => exact .inr (.inr (.inr ⟨haddr, nofun, rfl⟩))
    | true =>
        cases hfound : strstr frameMark s.dmaUsart2Buf with
        | none => exact .inr (.inr (.inr ⟨haddr, nofun, rfl⟩))
        | some found => exact .inr (.inr (.inl ⟨haddr, ⟨rfl, rfl⟩, rfl⟩))
  · rw [if_pos haddr]
    cases hfound : strstr frameMark s.rs232Recv with
    | none => exact .inr (.inl ⟨haddr, rfl, rfl⟩)
    | some found => exact .inl ⟨haddr, rfl, rfl⟩

/-- The buffer is released, or it shows no mark: nothing is executed from it any more. -/
def ReceiveState.Spent (s : ReceiveState) : Prop :=
  s.rs232RecvAddress = 0 ∨ strstr frameMark s.rs232Recv = none

/-- After a poll the buffer is spent. -/
theorem spent_receiveCommand (s : ReceiveState) : (receiveCommand s).2.Spent := by
  obtain ⟨-, -, hpoll⟩ | ⟨-, hnone, hpoll⟩ | ⟨haddr, -, hpoll⟩ | ⟨haddr, -, hpoll⟩ :=
    receiveCommand_cases s
  all_goals rw [hpoll]
  · exact Or.inl rfl
  · exact Or.inr hnone
  · exact Or.inl haddr
  · exact Or.inl haddr

/-- A spent buffer executes nothing. -/
theorem execution_of_spent {s : ReceiveState} (h : s.Spent) :
    (receiveCommand s).1.execution = none := by
  obtain ⟨haddr, hfound, -⟩ | ⟨-, -, hpoll⟩ | ⟨-, -, hpoll⟩ | ⟨-, -, hpoll⟩ := receiveCommand_cases s
  · obtain hzero | hnone := h
    · exact absurd hzero haddr
    · rw [hnone] at hfound
      exact nomatch hfound
  all_goals rw [hpoll]; rfl

/-- A buffer that was just filled executes what its front says. -/
theorem execution_of_filled {s : ReceiveState} (h : s.rs232RecvAddress ≠ 0) :
    (receiveCommand s).1.execution = polledExecution s.rs232Recv := by
  obtain ⟨-, hfound, hpoll⟩ | ⟨-, hnone, hpoll⟩ | ⟨haddr, -⟩ | ⟨haddr, -⟩ := receiveCommand_cases s
  · obtain ⟨found, hfound⟩ := Option.isSome_iff_exists.mp hfound
    rw [hpoll, polledExecution, hfound]
    rfl
  · rw [hpoll, polledExecution, hnone]
    rfl
  · exact absurd haddr h
  · exact absurd haddr h

/-! ## Runs: what is executed -/

/-- The channels, the last burst, whether a poll has come since, and the commands executed since. -/
structure ReceiveRun extends ReceiveState where
  lastBurst : Option Burst
  polled : Bool
  executed : List Execution

/-- One event, with the record of what is executed. -/
def ReceiveRun.step (s : ReceiveRun) : ReceiveEvent → Option ReceiveRun
  | .burst b => some ⟨receiveBurst b s.toReceiveState, some b, false, []⟩
  | .gprs dmaUsart2Buf => some { s with dmaUsart2Buf, gUsart2ReceiveStat := true }
  | .poll =>
      let (action, s') := receiveCommand s.toReceiveState
      some ⟨s', s.lastBurst, true, s.executed ++ action.execution.toList⟩

/-- A run that starts before the first burst. -/
def ReceiveRun.start (rs232Recv dmaUsart2Buf : List UInt8) : ReceiveRun :=
  ⟨.start rs232Recv dmaUsart2Buf, none, false, []⟩

/-- **A command is executed only from the burst that carries it**, and once: since the last burst
nothing was executed before a poll, and from then on just the command that the burst carries. -/
def ReceiveRun.ExecutedWhatCame (s : ReceiveRun) : Prop :=
  s.executed =
    if s.polled then (s.lastBurst.bind fun b => carriedExecution b.bytes).toList else []

/-- The first poll after a burst finds a burst that it gets right. -/
def PollFindsServed (s : ReceiveRun) : ReceiveEvent → Prop
  | .poll => s.polled = false → ∀ b ∈ s.lastBurst, BurstServed s.rs232Recv b.bytes
  | _ => True

/-- The invariant: a burst that is not yet polled lies at the front of the buffer, and after the poll
the buffer is spent. -/
structure ReceiveRun.Inv (s : ReceiveRun) : Prop where
  /-- What was executed is what came. -/
  came : s.ExecutedWhatCame
  /-- A new burst lies at the front, and the length tells of it. -/
  filled : ∀ b ∈ s.lastBurst, s.polled = false →
    b.bytes <+: s.rs232Recv ∧ s.rs232RecvAddress ≠ 0
  /-- Without a new burst there is nothing to execute. -/
  spent : s.lastBurst = none ∨ s.polled = true → s.Spent

/-- What the first poll after a burst executes. -/
theorem executed_firstPoll {s : ReceiveRun} (hinv : s.Inv) {b : Burst} (hburst : s.lastBurst = some b)
    (hpolled : s.polled = false) :
    s.executed ++ (receiveCommand s.toReceiveState).1.execution.toList =
      (polledExecution s.rs232Recv).toList := by
  have hnothing : s.executed = [] := by
    have hcame := hinv.came
    rwa [ReceiveRun.ExecutedWhatCame, if_neg (by rw [hpolled]; decide)] at hcame
  rw [hnothing, List.nil_append, execution_of_filled (hinv.filled b hburst hpolled).2]

/-- **One event keeps the invariant** if a poll that it is gets its burst right. -/
theorem inv_step {s s' : ReceiveRun} {e : ReceiveEvent} (hinv : s.Inv) (hserved : PollFindsServed s e)
    (hstep : s.step e = some s') : s'.Inv := by
  cases e with
  | burst b =>
      obtain rfl := Option.some.inj hstep
      constructor
      case came => exact rfl
      case filled =>
        intro b' hb' _
        obtain rfl : b = b' := Option.some.inj hb'
        exact ⟨prefix_receiveBurst b _, fun hlen => b.ne_nil (List.length_eq_zero_iff.mp hlen)⟩
      case spent => exact fun h => h.elim nofun nofun
  | gprs dmaUsart2Buf =>
      obtain rfl := Option.some.inj hstep
      exact ⟨hinv.came, hinv.filled, hinv.spent⟩
  | poll =>
      obtain rfl := Option.some.inj hstep
      refine ⟨?_, fun _ _ => nofun, fun _ => spent_receiveCommand _⟩
      -- a poll adds what it executes; only the first one after a burst executes anything
      show s.executed ++ (receiveCommand s.toReceiveState).1.execution.toList =
        (s.lastBurst.bind fun b => carriedExecution b.bytes).toList
      have hcame := hinv.came
      unfold ReceiveRun.ExecutedWhatCame at hcame
      cases hburst : s.lastBurst with
      -- before the first burst
      | none =>
          rw [execution_of_spent (hinv.spent (Or.inl hburst)), hcame, hburst]
          cases s.polled <;> rfl
      | some b =>
          cases hpolled : s.polled with
          -- a later poll of the same burst
          | true =>
              rw [execution_of_spent (hinv.spent (Or.inr hpolled)), hcame, hburst, hpolled]
              exact List.append_nil _
          -- the first poll of the burst
          | false =>
              rw [executed_firstPoll hinv hburst hpolled, Option.bind_some,
                (polledExecution_eq_iff (hinv.filled b hburst hpolled).1).mpr
                  (hserved hpolled b hburst)]

/-- **In which runs every burst has executed what it carries**: those in which the first poll after a
burst finds one that it gets right. -/
theorem receiveCommand_iff (rs232Recv dmaUsart2Buf : List UInt8) (events : List ReceiveEvent) :
    AllReached ReceiveRun.step ReceiveRun.ExecutedWhatCame (.start rs232Recv dmaUsart2Buf) events ↔
      StepsMeet ReceiveRun.step PollFindsServed (.start rs232Recv dmaUsart2Buf) events := by
  have hstart : (ReceiveRun.start rs232Recv dmaUsart2Buf).Inv := ⟨rfl, nofun, fun _ => Or.inl rfl⟩
  refine allReached_iff_stepsMeet (fun s hinv => hinv.came) ?_ ?_ hstart events
  · exact fun s e s' => inv_step
  · intro s e s' hinv hserved hstep hcame
    cases e with
    | burst b => exact hserved trivial
    | gprs dmaUsart2Buf => exact hserved trivial
    | poll =>
        obtain rfl := Option.some.inj hstep
        -- a first poll that does not get its burst right has executed something else
        apply hserved
        intro hpolled b hburst
        rw [← polledExecution_eq_iff (hinv.filled b hburst hpolled).1]
        have hexecuted : s.executed ++ (receiveCommand s.toReceiveState).1.execution.toList =
            (s.lastBurst.bind fun b => carriedExecution b.bytes).toList := hcame
        rw [executed_firstPoll hinv hburst hpolled, hburst, Option.bind_some] at hexecuted
        simpa using congrArg List.head? hexecuted

/-- A frame that sets the clock to 2024-05-06 07:08:09. -/
def clockBurst : Burst where
  bytes := [0x7E, 0x7E, 0x00, 0x00, 0x12, 0x34, 0x56, 0x78, 0xA0, 0x00, 0x4A, 0x80, 0x08, 0x02,
    0x00, 0x01, 0x24, 0x05, 0x06, 0x07, 0x08, 0x09, 0x05, 0x00, 0x00]
  ne_nil := nofun
  fits := by decide

/-- A burst that ends behind its start mark. -/
def markBurst : Burst := ⟨frameMark, nofun, by decide⟩

/-- A burst that is cut off behind the mark sets the clock again, from the bytes of the one before. -/
theorem markBurst_not_executedWhatCame :
    ¬ AllReached ReceiveRun.step ReceiveRun.ExecutedWhatCame (.start [] [])
      [.burst clockBurst, .poll, .burst markBurst, .poll] := by
  intro h
  have hlast := ((((h.2 _ rfl).2 _ rfl).2 _ rfl).2 _ rfl)
  exact absurd (congrArg List.length hlast) (by decide)

/-! ## Runs: the other channel -/

/-- The state after `n` polls. -/
def ReceiveState.polls (n : ℕ) (s : ReceiveState) : ReceiveState :=
  (fun s => (receiveCommand s).2)^[n] s

end RtuShuiwen
