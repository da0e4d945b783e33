import RtuShuiwen.Protocol.Uplink
import RtuShuiwen.Thread.BasicMessage

/-! # The serial numbers of the frames

The builders read the global `sn` into their frame and advance it, and the frame is sent later, by
`basic_message_task` or by `receive_command`, whichever runs. `serialLaw` says that the frames on the
line are numbered one after the other in every run in which polls build and send a plus message only,
no task numbers a frame while the other has one to send, and the module takes every frame once. -/

namespace RtuShuiwen

open Function ByteLayout

/-! ## Numbered frames -/

/-- The serial number of a frame, high byte first: behind the header, or behind the packet numbers
that follow the header in a packet of a time-period reply. -/
def frameSn (frame : List UInt8) : UInt16 :=
  if frame.getD 10 0 = queryTimePeriodFunid then ofBytes16 (frame.getD 17 0) (frame.getD 18 0)
  else ofBytes16 (frame.getD 14 0) (frame.getD 15 0)

/-- A frame that is built around a serial number. -/
structure SnFrame where
  build : UInt16 → List UInt8
  /-- The frame carries the number. -/
  carries : ∀ sn, frameSn (build sn) = sn

/-- The function identifier of a frame. -/
theorem getD_ten_toBytes (h : MessageHeader) (rest : List UInt8) :
    (h.toBytes ++ rest).getD 10 0 = h.funId := by
  obtain ⟨front, hfront⟩ : ∃ front, front = u16le h.startId ++ (h.centerAddr :: h.remoteAddr.toList) ++
      u16le h.password := ⟨_, rfl⟩
  have hlen : front.length = 10 := by simp [hfront]
  have hbytes : h.toBytes ++ rest =
      front ++ (h.funId :: u16le h.frameIdLen ++ [h.contentStartId] ++ rest) := by
    simp [MessageHeader.toBytes, hfront]
  rw [hbytes, ← Nat.add_zero 10, ← hlen, getD_append_add]
  rfl

/-- A number stored exchanged right behind the header is the number of the frame. -/
theorem frameSn_toBytes {h : MessageHeader} (hfun : h.funId ≠ queryTimePeriodFunid) (sn : UInt16)
    (rest : List UInt8) : frameSn (h.toBytes ++ (u16be sn ++ rest)) = sn := by
  have hlen : h.toBytes.length = 14 := h.length_toBytes
  have hat : ∀ k, (h.toBytes ++ (u16be sn ++ rest)).getD (14 + k) 0 = (u16be sn ++ rest).getD k 0 := by
    intro k
    rw [← hlen, getD_append_add]
  rw [frameSn, getD_ten_toBytes, if_neg hfun, hat 0, hat 1]
  exact ofBytes16_toBytes sn

/-- So is the one behind the packet numbers of a time-period packet. -/
theorem frameSn_upframe (flash : Flash) (sn : UInt16) {m : QuerrytimeperiodUpmessage}
    (hfun : m.header.funId = queryTimePeriodFunid) :
    frameSn (sendTimePerioadDataUpframe flash sn m) = sn := by
  obtain ⟨rest, hrest⟩ : ∃ rest, sendTimePerioadDataUpframe flash sn m =
      m.header.toBytes ++ (m.totalPktsSn.toList ++ (u16be sn ++ rest)) := by
    obtain ⟨crc, -, hparts⟩ := upframe_parts flash sn m
    simp only [hparts, head_withSn, List.append_assoc]
    exact ⟨_, rfl⟩
  have hlen : (m.header.toBytes ++ m.totalPktsSn.toList).length = 17 := by simp
  have hat : ∀ k, (m.header.toBytes ++ (m.totalPktsSn.toList ++ (u16be sn ++ rest))).getD (17 + k) 0 =
      (u16be sn ++ rest).getD k 0 := by
    intro k
    rw [← List.append_assoc, ← hlen, getD_append_add]
  rw [frameSn, hrest, getD_ten_toBytes, if_pos hfun, hat 0, hat 1]
  exact ofBytes16_toBytes sn

/-- A message whose content starts with its serial number. -/
theorem frameSn_message {γ : Type} [Packed γ] {m : UpMessage γ} {sn : UInt16}
    (hfun : m.header.funId ≠ queryTimePeriodFunid)
    (hcontent : ∃ rest, Packed.toBytes m.content = u16be sn ++ rest) : frameSn m.toBytes = sn := by
  obtain ⟨rest, hrest⟩ := hcontent
  rw [UpMessage.toBytes, UpMessage.body, hrest, List.append_assoc, List.append_assoc,
    List.append_assoc]
  exact frameSn_toBytes hfun sn _

/-- A content head starts with the serial number. -/
theorem toBytes_contentHead (sn : UInt16) (systime : TimeDef) (addr : Vector UInt8 5) :
    ∃ rest, (contentHead sn systime addr).toBytes = u16be sn ++ rest := by
  simp only [ContentHead.toBytes, contentHead, u16le_swap16, List.append_assoc]
  exact ⟨_, rfl⟩

namespace SnFrame

variable (F : Type) [CFloat F]

/-- The plus message. -/
def plus (p : RtuOperationParameters) (systime : TimeDef) (pulses lastPulses level : UInt32) :
    SnFrame where
  build sn := (plusMessageInit F p sn systime pulses lastPulses level).toBytes
  carries sn := by
    refine frameSn_message (show plusMessageFunid ≠ queryTimePeriodFunid by decide) ?_
    obtain ⟨rest, hrest⟩ := toBytes_contentHead sn systime p.rtuRemoteAddr
    simp only [plusMessageInit, UpMessage.withCrc, Packed.toBytes, hrest, List.append_assoc]
    exact ⟨_, rfl⟩

/-- The hour message. -/
def hour (st : StoreState) (lastMonth : UInt8) (call : HourCall) : SnFrame where
  build sn := (hourMessageInit F st lastMonth { call with sn }).1.message.toBytes
  carries sn := by
    refine frameSn_message (show hourMessageFunid ≠ queryTimePeriodFunid by decide) ?_
    obtain ⟨rest, hrest⟩ := toBytes_contentHead sn call.systime call.contentAddr
    simp only [hourMessageInit, hourMessage, UpMessage.withCrc, Packed.toBytes, hrest,
      List.append_assoc]
    exact ⟨_, rfl⟩

/-- The real-data reply. -/
def realData (p : RtuOperationParameters) (systime : TimeDef)
    (pulses pulsesAgain lastPulses level : UInt32) : SnFrame where
  build sn := (queryRealDataInit F p sn systime pulses pulsesAgain lastPulses level).toBytes
  carries sn := by
    refine frameSn_message (show queryRealdataFunid ≠ queryTimePeriodFunid by decide) ?_
    obtain ⟨rest, hrest⟩ := toBytes_contentHead sn systime p.rtuRemoteAddr
    simp only [queryRealDataInit, UpMessage.withCrc, Packed.toBytes, hrest, List.append_assoc]
    exact ⟨_, rfl⟩

/-- The reply to a parameter query. -/
def parameters (p : RtuOperationParameters) (systime : TimeDef) : SnFrame where
  build sn := (queryParametersInit p sn systime).toBytes
  carries sn := by
    refine frameSn_message (show queryParameterFunid ≠ queryTimePeriodFunid by decide) ?_
    simp only [queryParametersInit, Packed.toBytes, u16le_swap16, List.append_assoc]
    exact ⟨_, rfl⟩

/-- The reply to a clock setting. -/
def clock (p : RtuOperationParameters) (realTime : TimeDef) : SnFrame where
  build sn := (calibrationTimeUpMessageInit p sn realTime).toBytes
  carries sn := by
    refine frameSn_message (show setRealTime ≠ queryTimePeriodFunid by decide) ?_
    simp only [calibrationTimeUpMessageInit, Packed.toBytes, u16le_swap16, List.append_assoc]
    exact ⟨_, rfl⟩

/-- A packet of a time-period reply. -/
def timePeriod (flash : Flash) (m : QuerrytimeperiodUpmessage)
    (hfun : m.header.funId = queryTimePeriodFunid) : SnFrame where
  build sn := sendTimePerioadDataUpframe flash sn m
  carries sn := frameSn_upframe flash sn hfun

end SnFrame

/-! ## Sending -/

/-- Over which line a frame goes. For the module the outcome of the exchange is given: whether it
answers the command with a prompt, and whether the buffer holds an `OK` after the data. -/
inductive Channel
  | rs232
  | gprs (prompt ok : Bool)
  deriving DecidableEq, Repr

/-- `MAX_AT_CIPSEND_ERRO_TIMES`. -/
def maxAtCipsendErroTimes : ℕ := 5

/-- `gprs_send_string_len`: how often the data is handed to the module, and the count of failed
commands in a row. -/
def gprsSendStringLen (erroCount : ℕ) (prompt ok : Bool) (sendData : List UInt8) : ℕ × ℕ :=
  let erroCount := if prompt then 0 else erroCount + 1
  if erroCount = maxAtCipsendErroTimes then (0, erroCount)
  else if ¬ ok ∧ sendData.getD 16 0 = 0x02 then (2, erroCount)
  else (1, erroCount)

/-- How often a frame is sent over a channel, and the count of failed commands after it. -/
def Channel.send (channel : Channel) (erroCount : ℕ) (frame : List UInt8) : ℕ × ℕ :=
  match channel with
  | rs232 => (1, erroCount)
  | gprs prompt ok => gprsSendStringLen erroCount prompt ok frame

/-! ## The two tasks that number frames -/

/-- `basic_message_task` and `receive_command`. -/
inductive SerialTask
  | basicMessage
  | receiveCommand
  deriving DecidableEq, Repr

/-- The other task. -/
def SerialTask.other : SerialTask → SerialTask
  | basicMessage => receiveCommand
  | receiveCommand => basicMessage

/-- What a task does with frames and the serial number: it puts the number into a frame of its own,
advances it, and sends the frame. -/
inductive SerialOp
  | load (k : UplinkKind) (frame : SnFrame)
  | advance
  | transmit (k : UplinkKind) (channel : Channel)

/-- Build and send a frame, as `receive_command` does for every reply. -/
def replyOps (reply : UplinkKind × SnFrame × Channel) : List SerialOp :=
  [.load reply.1 reply.2.1, .advance, .transmit reply.1 reply.2.2]

/-- A poll that `basic_message_task` handles: the plus message is built, then the hour message if it is
due, which is sent at once and whose builder does not advance the number; the plus message is sent if
the rainfall reaches the threshold. -/
def pollOps (plus : SnFrame) (hour : Option SnFrame) (sendPlus : Bool) : List SerialOp :=
  [.load .plus plus, .advance] ++
    (match hour with
      | some hour => [.load .hour hour, .transmit .hour .rs232]
      | none => []) ++
    if sendPlus then [.transmit .plus .rs232] else []

/-- The serial number, the frames of each task, what each has still to do, the count of failed
commands, and the frames sent so far. -/
structure SerialState where
  sn : UInt16
  frames : SerialTask → UplinkKind → List UInt8
  ops : SerialTask → List SerialOp
  erroCount : ℕ
  sent : List (List UInt8)

/-- What happens: the reporting task handles a poll, a command is answered with some replies, a picture
packet goes to the module, or a task takes its next step. -/
inductive SerialEvent
  | poll (plus : SnFrame) (hour : Option SnFrame) (sendPlus : Bool)
  | command (replies : List (UplinkKind × SnFrame × Channel))
  | picturePacket (prompt ok : Bool) (packet : List UInt8)
  | op (t : SerialTask)

namespace SerialState

/-- The start, with `sn` at a value. -/
def start (sn : UInt16) : SerialState where
  sn := sn
  frames _ _ := []
  ops _ := []
  erroCount := 0
  sent := []

/-- The effect of a step of a task. -/
def exec (s : SerialState) (t : SerialTask) : SerialOp → SerialState
  | .load k frame =>
      { s with frames := update s.frames t (update (s.frames t) k (frame.build s.sn)) }
  | .advance => { s with sn := s.sn + 1 }
  | .transmit k channel =>
      let (copies, erroCount) := channel.send s.erroCount (s.frames t k)
      { s with erroCount, sent := s.sent ++ List.replicate copies (s.frames t k) }

/-- One event, if it can happen. -/
def step (s : SerialState) : SerialEvent → Option SerialState
  | .poll plus hour sendPlus =>
      match s.ops .basicMessage with
      | [] => some { s with ops := update s.ops .basicMessage (pollOps plus hour sendPlus) }
      | _ :: _ => none
  | .command replies =>
      match s.ops .receiveCommand with
      | [] => some { s with ops := update s.ops .receiveCommand (replies.flatMap replyOps) }
      | _ :: _ => none
  | .picturePacket prompt ok packet =>
      some { s with erroCount := (gprsSendStringLen s.erroCount prompt ok packet).2 }
  | .op t =>
      match s.ops t with
      | o :: ops => some ({ s with ops := update s.ops t ops }.exec t o)
      | [] => none

end SerialState

/-- **The frames sent are numbered one after the other**: each carries the number after the one before
it, and none within 65536 of it the same. -/
structure SerialLaw (sent : List (List UInt8)) : Prop where
  /-- The numbers go up by one. -/
  successor : ∀ i (h : i + 1 < sent.length), frameSn sent[i + 1] = frameSn sent[i] + 1
  /-- They do not repeat within 65536 frames. -/
  distinct : ∀ i j (hij : i < j) (hj : j < sent.length), j < i + 65536 →
    frameSn sent[i] ≠ frameSn sent[j]

/-- A task has put `sn` into a frame and not yet advanced it. -/
def Numbering : List SerialOp → Bool
  | .advance :: _ => true
  | _ => false

/-- The frame that a task has numbered and has still to send. -/
def SerialState.held (s : SerialState) (t : SerialTask) : Option (List UInt8) :=
  match s.ops t with
  | .transmit k _ :: _ => some (s.frames t k)
  | _ => none

/-- The module takes a frame once: the count of failed commands does not reach its limit, and the
second packet of a reply finds its `OK`. -/
def Channel.TakesOnce (channel : Channel) (erroCount : ℕ) (frame : List UInt8) : Prop :=
  match channel with
  | rs232 => True
  | gprs prompt ok => (prompt = true ∨ erroCount + 1 ≠ maxAtCipsendErroTimes) ∧
      (ok = true ∨ frame.getD 16 0 ≠ 0x02)

instance (channel : Channel) (erroCount : ℕ) (frame : List UInt8) :
    Decidable (channel.TakesOnce erroCount frame) := by
  cases channel <;> (unfold Channel.TakesOnce; infer_instance)

/-- **The events that keep the numbering**: a poll sends its plus message and has no hour message due,
no task reads `sn` between the other's read and its advance, no frame overtakes the one numbered
before it, and the module takes each frame once. -/
def SerialState.NumberingOk (s : SerialState) : SerialEvent → Prop
  | .poll _ hour sendPlus => hour = none ∧ sendPlus = true
  | .op t =>
      match s.ops t with
      | .load _ _ :: _ => Numbering (s.ops t.other) = false
      | .transmit k channel :: _ =>
          (∀ frame ∈ s.held t.other, frameSn frame + 1 ≠ frameSn (s.frames t k)) ∧
            channel.TakesOnce s.erroCount (s.frames t k)
      | _ => True
  | _ => True

/-- A frame that the module takes once is sent once. -/
theorem Channel.TakesOnce.send_eq {channel : Channel} {erroCount : ℕ} {frame : List UInt8}
    (h : channel.TakesOnce erroCount frame) : (channel.send erroCount frame).1 = 1 := by
  cases channel with
  | rs232 => rfl
  | gprs prompt ok =>
      obtain ⟨hprompt, hok⟩ := h
      have hcount : (if prompt then 0 else erroCount + 1) ≠ maxAtCipsendErroTimes := by
        cases prompt with
        | true => exact Nat.zero_ne_add_one 4
        | false => exact hprompt.resolve_left Bool.false_ne_true
      have hagain : ¬ (¬ ok ∧ frame.getD 16 0 = 0x02) := fun h => hok.elim h.1 fun hne => hne h.2
      simp only [Channel.send, gprsSendStringLen, hcount, hagain, if_false]

/-! ## The numbering -/

/-- `n` serial numbers from `first` on. -/
def serialNumbers (first : UInt16) (n : ℕ) : List UInt16 := (List.range n).map (first + .ofNat ·)

/-- One number more. -/
theorem serialNumbers_succ (first : UInt16) (n : ℕ) :
    serialNumbers first (n + 1) = serialNumbers first n ++ [first + .ofNat n] := by
  rw [serialNumbers, List.range_succ, List.map_append]
  rfl

/-- The number after the last. -/
theorem add_ofNat_succ (first : UInt16) (n : ℕ) :
    first + .ofNat (n + 1) = first + .ofNat n + 1 := by
  rw [UInt16.ofNat_add, UInt16.add_assoc]
  rfl

/-- Frames that carry such numbers obey the law. -/
theorem SerialLaw.of_numbers {sent : List (List UInt8)} {first : UInt16}
    (h : sent.map frameSn = serialNumbers first sent.length) : SerialLaw sent := by
  have hat : ∀ i (hi : i < sent.length), frameSn sent[i] = first + .ofNat i := by
    intro i hi
    have hget : (sent.map frameSn)[i]? = (serialNumbers first sent.length)[i]? := by rw [h]
    simpa [serialNumbers, hi] using hget
  refine ⟨fun i hi => ?_, fun i j hij hj hlt heq => ?_⟩
  · rw [hat (i + 1) hi, hat i (by omega), add_ofNat_succ]
  · rw [hat i (by omega), hat j hj, UInt16.add_right_inj] at heq
    have hmod := congrArg UInt16.toNat heq
    rw [UInt16.toNat_ofNat', UInt16.toNat_ofNat'] at hmod
    omega

/-! ## The operations of the source -/

/-- Frames built one after the other, each around the number that `sn` has at its turn. -/
def numberFrames : UInt16 → List SnFrame → List (List UInt8)
  | _, [] => []
  | sn, frame :: frames => frame.build sn :: numberFrames (sn + 1) frames

/-- Frames behind others start with a later number. -/
theorem numberFrames_append (sn : UInt16) (frames frames' : List SnFrame) :
    numberFrames sn (frames ++ frames') =
      numberFrames sn frames ++ numberFrames (sn + .ofNat frames.length) frames' := by
  induction frames generalizing sn with
  | nil => exact congrArg (numberFrames · frames') (UInt16.add_zero sn).symm
  | cons frame frames ih =>
      rw [List.cons_append, numberFrames, ih, numberFrames, List.cons_append, List.length_cons,
        add_ofNat_succ, UInt16.add_assoc, UInt16.add_assoc, UInt16.add_comm 1]

/-- A time-period packet is such a frame. -/
theorem exists_snFrame (flash : Flash) {m : QuerrytimeperiodUpmessage}
    (hfun : m.header.funId = queryTimePeriodFunid) :
    ∃ frame : SnFrame, ∀ sn, frame.build sn = sendTimePerioadDataUpframe flash sn m :=
  ⟨.timePeriod flash m hfun, fun _ => rfl⟩

/-- One packet alone. -/
theorem exists_numberFrames (flash : Flash) (sn : UInt16) {m : QuerrytimeperiodUpmessage}
    (hfun : m.header.funId = queryTimePeriodFunid) :
    ∃ frames, [sendTimePerioadDataUpframe flash sn m] = numberFrames sn frames :=
  ⟨[.timePeriod flash m hfun], rfl⟩

/-- The full packets of a time-period reply are numbered so. -/
theorem numberFrames_fullPackets (flash : Flash) (len : ℕ) {m : QuerrytimeperiodUpmessage}
    (hfun : m.header.funId = queryTimePeriodFunid) (turns : ℕ) (i readAddress : UInt32)
    (sn : UInt16) : ∃ frames : List SnFrame, frames.length = turns ∧
      (fullPackets flash len m turns i readAddress sn).1 = numberFrames sn frames := by
  -- the induction is on the turns of the loop, the number goes up with each
  induction turns generalizing i readAddress sn with
  | zero => exact ⟨[], rfl, rfl⟩
  | succ turns ih =>
      obtain ⟨frames, hlength, hframes⟩ :=
        ih (i + 1) (readAddress + (i - 1) * 12 * 12 * .ofNat len) (sn + 1)
      obtain ⟨frame, hframe⟩ := exists_snFrame flash (m := (m.withRange
        (readAddress + (i - 1) * 12 * 12 * .ofNat len)
        (.ofNat (timeperiodContentHourgroups * 12 * len))).withSerial i) hfun
      refine ⟨frame :: frames, by rw [List.length_cons, hlength], ?_⟩
      simp only [fullPackets, numberFrames, hframes, hframe]

/-- So is the short packet behind them. -/
theorem numberFrames_remainderPacket (flash : Flash) (len : ℕ) {m : QuerrytimeperiodUpmessage}
    (hfun : m.header.funId = queryTimePeriodFunid) (readAddress : UInt32) (hourGroups : ℕ)
    (sn : UInt16) : ∃ frames : List SnFrame,
      remainderPacket flash len m readAddress hourGroups sn = numberFrames sn frames := by
  rw [remainderPacket]
  split
  · exact exists_numberFrames flash sn hfun
  · exact ⟨[], rfl⟩

/-- **The packets of a time-period reply are numbered one after the other.** -/
theorem numberFrames_timePeriod (st : StoreState) (systime : TimeDef) (sn : UInt16)
    (stray : ℤ → UInt8) (query : QuerrytimeperiodDownmessage) :
    ∃ frames : List SnFrame,
      (testSendTimePeriodData st systime sn stray query).getD [] = numberFrames sn frames := by
  rcases testSendTimePeriodData_cases st systime sn stray query with
    hnone | ⟨ty, m, readAddress, hourGroups, -, hinit, -, hreply⟩
  · exact ⟨[], hnone⟩
  have hfun : m.header.funId = queryTimePeriodFunid := congrArg (·.header.funId) hinit
  rw [hreply]
  split
  · exact exists_numberFrames st.flash sn hfun
  · have hfun' : (multiRecord 3 m hourGroups.toNat).header.funId = queryTimePeriodFunid := hfun
    rw [multiPackets_eq]
    generalize multiRecord 3 m hourGroups.toNat = m' at hfun' ⊢
    obtain ⟨full, hlength, hfull⟩ := numberFrames_fullPackets st.flash ty.singleDatalen hfun'
      (hourGroups.toNat / 12) 1 readAddress sn
    obtain ⟨rest, hrest⟩ := numberFrames_remainderPacket st.flash ty.singleDatalen hfun'
      (fullPackets st.flash ty.singleDatalen m' (hourGroups.toNat / 12) 1 readAddress sn).2
      hourGroups.toNat (sn + .ofNat (hourGroups.toNat / 12))
    -- the short packet goes on from the number behind the full ones
    refine ⟨full ++ rest, ?_⟩
    rw [hrest, hfull, numberFrames_append, hlength]

/-- A task runs through its operations with the other one waiting. -/
def SerialState.run (s : SerialState) (t : SerialTask) (ops : List SerialOp) : SerialState :=
  ops.foldl (exec · t) s

/-- **Replies over the serial line are numbered so.** -/
theorem SerialState.run_replies (s : SerialState) (t : SerialTask) (k : UplinkKind)
    (frames : List SnFrame) :
    (s.run t (frames.flatMap fun frame => replyOps (k, frame, .rs232))).sent =
        s.sent ++ numberFrames s.sn frames ∧
      (s.run t (frames.flatMap fun frame => replyOps (k, frame, .rs232))).sn =
        s.sn + .ofNat frames.length := by
  induction frames generalizing s with
  | nil => exact ⟨(List.append_nil _).symm, (UInt16.add_zero _).symm⟩
  | cons frame frames ih =>
      -- the first frame takes the number and advances it
      have hfirst : (s.run t (replyOps (k, frame, .rs232))).sent = s.sent ++ [frame.build s.sn] := by
        simp [run, replyOps, exec, Channel.send]
      have hsn : (s.run t (replyOps (k, frame, .rs232))).sn = s.sn + 1 := rfl
      have hsplit : s.run t ((frame :: frames).flatMap fun frame => replyOps (k, frame, .rs232)) =
          (s.run t (replyOps (k, frame, .rs232))).run t
            (frames.flatMap fun frame => replyOps (k, frame, .rs232)) := by
        rw [List.flatMap_cons, run, List.foldl_append]
        rfl
      rw [hsplit, (ih _).1, (ih _).2, hfirst, hsn, numberFrames, List.append_assoc, List.length_cons,
        add_ofNat_succ, UInt16.add_assoc, UInt16.add_assoc, UInt16.add_comm 1]
      exact ⟨rfl, rfl⟩

/-- The frame that an effect of a poll puts on the line. -/
def PollEffect.frame : PollEffect → Option (List UInt8)
  | sendHour message => some message.toBytes
  | sendPlus message => some message.toBytes
  | _ => none

/-- A record saved puts nothing on the line. -/
theorem frame_savedEffect (date : Date) (dataType : UInt8) (data : List UInt8)
    (result : Except AddressError Unit) :
    (savedEffect date dataType data result).filterMap PollEffect.frame = [] := by
  cases result <;> rfl

/-- Nor does the end of a poll, which leaves `sn` as it is. -/
theorem frame_pollFtp (s : BasicMessageState) (r : PollReads) :
    (pollFtp s r).1.filterMap PollEffect.frame = [] ∧ (pollFtp s r).2.sn = s.sn := by
  rw [pollFtp]
  split
  · cases r.savePicture <;> exact ⟨rfl, rfl⟩
  · exact ⟨rfl, rfl⟩

/-- **The operations of a poll**: the plus frame is numbered `sn`, the hour frame, which goes out
first, `sn + 1`, and `sn` is advanced once. -/
theorem SerialState.run_pollOps (s : SerialState) (plus : SnFrame) (hour : Option SnFrame)
    (sendPlus : Bool) :
    (s.run .basicMessage (pollOps plus hour sendPlus)).sent =
        s.sent ++ ((hour.map fun hour => hour.build (s.sn + 1)).toList ++
          if sendPlus then [plus.build s.sn] else []) ∧
      (s.run .basicMessage (pollOps plus hour sendPlus)).sn = s.sn + 1 := by
  cases hour <;> cases sendPlus <;> simp [run, pollOps, exec, Channel.send]

/-- **A poll that `basic_message_task` handles runs through `pollOps`**: the same frames go out and
`sn` ends the same. -/
theorem basicMessagePoll_pollOps (F : Type) [CFloat F] (task : BasicMessageState) (r : PollReads)
    (h : task.Handles r) :
    ∃ plus hour sendPlus,
      (hour ≠ none ↔ bcdToInteger r.realTime.minute = 0 ∧
        bcdToInteger r.realTime.hour ≠ task.lastHours) ∧
      ∀ s : SerialState, s.sn = task.sn →
        (s.run .basicMessage (pollOps plus hour sendPlus)).sent =
            s.sent ++ (basicMessagePoll F task r).1.filterMap PollEffect.frame ∧
          (s.run .basicMessage (pollOps plus hour sendPlus)).sn =
            (basicMessagePoll F task r).2.sn := by
  have hin : bcdToInteger r.realTime.minute % 5 = 0 ∧
      bcdToInteger r.realTime.minute ≠ task.lastMinutes :=
    ⟨(minutes_mod_eq_zero_iff _).mpr h.1, h.2⟩
  rw [basicMessagePoll, if_pos hin]
  obtain ⟨saved, hsaved⟩ : ∃ saved, saved = saveAndGetDataFiveMinute F r.saveTime.toTimeDef
      r.savePulses r.saveLevel task.store := ⟨_, rfl⟩
  -- saving records puts no frame on the line
  have hnone : saved.1.filterMap PollEffect.frame = [] := by
    rw [hsaved, saveAndGetDataFiveMinute, List.filterMap_append, frame_savedEffect,
      frame_savedEffect]
    rfl
  rw [← hsaved]
  refine ⟨.plus F (rtuParametersReaddata saved.2) r.plusTime.toTimeDef r.plusPulses task.lastPulses
      r.plusLevel,
    if bcdToInteger r.realTime.minute = 0 ∧ bcdToInteger r.realTime.hour ≠ task.lastHours then
      some (.hour F saved.2 task.lastMonth ⟨r.hourTime.toTimeDef, task.sn, .replicate 5 0,
        r.hourPulses, r.hourLevel, r.unset, r.stray⟩)
    else none,
    reachesThreshold F (rtuParametersReaddata task.store)
      (plusMessageInit F (rtuParametersReaddata saved.2) task.sn r.plusTime.toTimeDef r.plusPulses
        task.lastPulses r.plusLevel), by simp, fun s hs => ?_⟩
  rw [(s.run_pollOps _ _ _).1, (s.run_pollOps _ _ _).2]
  simp only [List.filterMap_append, hnone, frame_pollFtp, List.nil_append, List.append_nil, hs,
    pollHour]
  split <;> split <;> exact ⟨rfl, rfl⟩

/-! ## The invariant -/

/-- A task has still whole replies to build and to send. -/
def Resting (ops : List SerialOp) : Prop :=
  ∃ replies : List (UplinkKind × SnFrame × Channel), ops = replies.flatMap replyOps

/-- Such a task goes on with a new frame. -/
theorem Resting.of_cons {o : SerialOp} {ops : List SerialOp} (h : Resting (o :: ops)) :
    ∃ k frame channel rest, o = .load k frame ∧
      ops = .advance :: .transmit k channel :: rest ∧ Resting rest := by
  obtain ⟨replies, hreplies⟩ := h
  cases replies with
  | nil => cases hreplies
  | cons reply replies =>
      obtain ⟨rfl, rfl⟩ := List.cons.inj hreplies
      exact ⟨reply.1, reply.2.1, reply.2.2, _, rfl, rfl, replies, rfl⟩

/-- A poll that sends its plus message and no hour message is one such reply. -/
theorem resting_pollOps (plus : SnFrame) : Resting (pollOps plus none true) :=
  ⟨[(.plus, plus, .rs232)], rfl⟩

namespace SerialTask

/-- There are two tasks. -/
theorem eq_or_eq_other (t u : SerialTask) : u = t ∨ u = t.other := by
  cases t <;> cases u <;> simp [other]

theorem other_ne (t : SerialTask) : t.other ≠ t := by
  cases t <;> simp [other]

@[simp] theorem other_other (t : SerialTask) : t.other.other = t := by
  cases t <;> rfl

end SerialTask

namespace SerialState

/-- The number that the next frame on the line should carry. -/
def due (first : UInt16) (s : SerialState) : UInt16 := first + .ofNat s.sent.length

/-- The task has put `n` into a frame, has yet to advance `sn` and to send the frame. -/
def Loaded (s : SerialState) (t : SerialTask) (n : UInt16) : Prop :=
  ∃ k channel rest, s.ops t = .advance :: .transmit k channel :: rest ∧ Resting rest ∧
    frameSn (s.frames t k) = n

/-- The task has a frame with the number `n` to send. -/
def Holds (s : SerialState) (t : SerialTask) (n : UInt16) : Prop :=
  ∃ k channel rest, s.ops t = .transmit k channel :: rest ∧ Resting rest ∧
    frameSn (s.frames t k) = n

/-- A task that works with the number `n`, which is the latest. -/
inductive Latest (s : SerialState) (t : SerialTask) (n : UInt16) : Prop
  | resting (h : Resting (s.ops t)) (sn_eq : s.sn = n)
  | loaded (h : s.Loaded t n) (sn_eq : s.sn = n)
  | holds (h : s.Holds t n) (sn_eq : s.sn = n + 1)

/-- The other task rests and `n` is due, or it holds the frame that is due and `n` comes next. -/
inductive Before (first : UInt16) (s : SerialState) (t : SerialTask) (n : UInt16) : Prop
  | resting (h : Resting (s.ops t)) (due_eq : n = s.due first)
  | holds (h : s.Holds t (s.due first)) (due_eq : n = s.due first + 1)

/-- A task that holds a frame can be seen to do so. -/
theorem Holds.mem_held {s : SerialState} {t : SerialTask} {n : UInt16} (h : s.Holds t n) :
    ∃ frame ∈ s.held t, frameSn frame = n := by
  obtain ⟨k, channel, rest, hops, -, hframe⟩ := h
  exact ⟨s.frames t k, by simp [held, hops], hframe⟩

section Frame

variable {s s' : SerialState} {t : SerialTask} {n : UInt16}

/-- What a task holds depends on its own operations and frames only. -/
theorem Holds.of_eq (h : s.Holds t n) (hops : s'.ops t = s.ops t)
    (hframes : s'.frames t = s.frames t) : s'.Holds t n := by
  simpa only [Holds, hops, hframes] using h

theorem Latest.of_eq (h : s.Latest t n) (hops : s'.ops t = s.ops t)
    (hframes : s'.frames t = s.frames t) (hsn : s'.sn = s.sn) : s'.Latest t n := by
  cases h with
  | resting h sn_eq => exact .resting (hops ▸ h) (hsn.trans sn_eq)
  | loaded h sn_eq =>
      exact .loaded (by simpa only [Loaded, hops, hframes] using h) (hsn.trans sn_eq)
  | holds h sn_eq => exact .holds (h.of_eq hops hframes) (hsn.trans sn_eq)

theorem Before.of_eq {first : UInt16} (h : s.Before first t n) (hops : s'.ops t = s.ops t)
    (hframes : s'.frames t = s.frames t) (hsent : s'.sent = s.sent) : s'.Before first t n := by
  have hdue : s'.due first = s.due first := by rw [due, due, hsent]
  cases h with
  | resting h due_eq => exact .resting (hops ▸ h) (hdue ▸ due_eq)
  | holds h due_eq => exact .holds (hdue ▸ h.of_eq hops hframes) (hdue ▸ due_eq)

end Frame

/-- **What carries the numbering through a run**: the frames sent are numbered from the first, and of
the two tasks one works with the latest number and the other holds at most the frame before. -/
structure Inv (first : UInt16) (s : SerialState) : Prop where
  /-- The frames sent. -/
  sent_eq : s.sent.map frameSn = serialNumbers first s.sent.length
  /-- The frames to come. -/
  phase : ∃ t n, s.Latest t n ∧ s.Before first t.other n

/-- The start satisfies it. -/
theorem inv_start (first : UInt16) : (start first).Inv first where
  sent_eq := rfl
  phase := ⟨.basicMessage, first, .resting ⟨[], rfl⟩ rfl,
    .resting ⟨[], rfl⟩ (UInt16.add_zero first).symm⟩

section Step

variable {first : UInt16} {s : SerialState} {t : SerialTask} {ops : List SerialOp}

/-- **New replies of an idle task keep the invariant.** -/
theorem Inv.begin (h : s.Inv first) (hidle : s.ops t = []) (hops : Resting ops) :
    Inv first { s with ops := update s.ops t ops } := by
  obtain ⟨u, n, hlatest, hbefore⟩ := h.phase
  refine ⟨h.sent_eq, ?_⟩
  have hself : Resting (update s.ops t ops t) := by rwa [update_self]
  have hother : ∀ v ≠ t, update s.ops t ops v = s.ops v := fun v hv => update_of_ne hv ..
  -- an idle task has loaded nothing and holds nothing
  rcases u.eq_or_eq_other t with rfl | rfl
  · refine ⟨t, n, ?_, hbefore.of_eq (hother _ t.other_ne) rfl rfl⟩
    cases hlatest with
    | resting _ sn_eq => exact .resting hself sn_eq
    | loaded h => obtain ⟨_, _, _, heq, _⟩ := h; cases hidle.symm.trans heq
    | holds h => obtain ⟨_, _, _, heq, _⟩ := h; cases hidle.symm.trans heq
  · refine ⟨u, n, hlatest.of_eq (hother _ u.other_ne.symm) rfl rfl, ?_⟩
    cases hbefore with
    | resting _ due_eq => exact .resting hself due_eq
    | holds h => obtain ⟨_, _, _, heq, _⟩ := h; cases hidle.symm.trans heq

/-- The state after the next operation of a task. -/
def next (s : SerialState) (t : SerialTask) (o : SerialOp) (ops : List SerialOp) : SerialState :=
  { s with ops := update s.ops t ops }.exec t o

theorem next_ops_self (o : SerialOp) : (s.next t o ops).ops t = ops := by
  cases o <;> exact update_self ..

theorem next_ops_of_ne (o : SerialOp) {u : SerialTask} (h : u ≠ t) :
    (s.next t o ops).ops u = s.ops u := by
  cases o <;> exact update_of_ne h ..

theorem next_frames_of_ne (o : SerialOp) {u : SerialTask} (h : u ≠ t) :
    (s.next t o ops).frames u = s.frames u := by
  cases o with
  | load => exact update_of_ne h ..
  | advance => rfl
  | transmit => rfl

/-- **Putting the number into a frame keeps the invariant**, unless the other task has read it and not
yet advanced it. -/
theorem Inv.load (h : s.Inv first) {k : UplinkKind} {frame : SnFrame}
    (hops : s.ops t = .load k frame :: ops) (hok : Numbering (s.ops t.other) = false) :
    Inv first (s.next t (.load k frame) ops) := by
  obtain ⟨u, n, hlatest, hbefore⟩ := h.phase
  refine ⟨h.sent_eq, ?_⟩
  -- a task that rests takes the next number
  have hloaded : Resting (s.ops t) → (s.next t (.load k frame) ops).Loaded t s.sn := by
    intro hrest
    rw [hops] at hrest
    obtain ⟨k', frame', channel, rest, ho, rfl, hrest'⟩ := hrest.of_cons
    cases ho
    refine ⟨k, channel, rest, next_ops_self _, hrest', ?_⟩
    have hframe : (s.next t (.load k frame) (.advance :: .transmit k channel :: rest)).frames t k =
        frame.build s.sn := by
      change update s.frames t (update (s.frames t) k (frame.build s.sn)) t k = _
      rw [update_self, update_self]
    rw [hframe, frame.carries]
  -- the task that loads is the one with the latest number, or the other one
  rcases u.eq_or_eq_other t with rfl | rfl
  · refine ⟨t, n, ?_, hbefore.of_eq (next_ops_of_ne _ t.other_ne) (next_frames_of_ne _ t.other_ne) rfl⟩
    cases hlatest with
    | resting hrest sn_eq => exact .loaded (sn_eq ▸ hloaded hrest) sn_eq
    | loaded h => obtain ⟨_, _, _, heq, _⟩ := h; cases hops.symm.trans heq
    | holds h => obtain ⟨_, _, _, heq, _⟩ := h; cases hops.symm.trans heq
  · rw [SerialTask.other_other] at hok
    have hops' : (s.next u.other (.load k frame) ops).ops u = s.ops u :=
      next_ops_of_ne _ u.other_ne.symm
    have hframes' : (s.next u.other (.load k frame) ops).frames u = s.frames u :=
      next_frames_of_ne _ u.other_ne.symm
    cases hbefore with
    | holds h => obtain ⟨_, _, _, heq, _⟩ := h; cases hops.symm.trans heq
    | resting hrest due_eq =>
        -- the tasks change places
        cases hlatest with
        | resting hrest' sn_eq =>
            refine ⟨u.other, n, .loaded (sn_eq ▸ hloaded hrest) sn_eq, ?_⟩
            rw [SerialTask.other_other]
            exact .resting (hops'.symm ▸ hrest') due_eq
        | loaded h =>
            obtain ⟨_, _, _, heq, _⟩ := h
            rw [heq] at hok
            cases hok
        | holds h sn_eq =>
            refine ⟨u.other, n + 1, .loaded (sn_eq ▸ hloaded hrest) sn_eq, ?_⟩
            rw [SerialTask.other_other]
            subst due_eq
            exact .holds (h.of_eq hops' hframes') rfl

/-- **Advancing the number keeps the invariant.** -/
theorem Inv.advance (h : s.Inv first) (hops : s.ops t = .advance :: ops) :
    Inv first (s.next t .advance ops) := by
  obtain ⟨u, n, hlatest, hbefore⟩ := h.phase
  refine ⟨h.sent_eq, ?_⟩
  rcases u.eq_or_eq_other t with rfl | rfl
  · refine ⟨t, n, ?_, hbefore.of_eq (next_ops_of_ne _ t.other_ne) (next_frames_of_ne _ t.other_ne) rfl⟩
    cases hlatest with
    | resting hrest => obtain ⟨_, _, _, _, heq, _⟩ := (hops ▸ hrest).of_cons; cases heq
    | loaded h sn_eq =>
        obtain ⟨k, channel, rest, heq, hrest, hframe⟩ := h
        obtain ⟨-, rfl⟩ := List.cons.inj (hops.symm.trans heq)
        exact .holds ⟨k, channel, rest, next_ops_self _, hrest, hframe⟩ (congrArg (· + 1) sn_eq)
    | holds h => obtain ⟨_, _, _, heq, _⟩ := h; cases hops.symm.trans heq
  · cases hbefore with
    | resting hrest => obtain ⟨_, _, _, _, heq, _⟩ := (hops ▸ hrest).of_cons; cases heq
    | holds h => obtain ⟨_, _, _, heq, _⟩ := h; cases hops.symm.trans heq

/-- **Sending a frame keeps the invariant**, unless the other task holds the frame before it or the
module does not take it once. -/
theorem Inv.transmit (h : s.Inv first) {k : UplinkKind} {channel : Channel}
    (hops : s.ops t = .transmit k channel :: ops)
    (hok : ∀ frame ∈ s.held t.other, frameSn frame + 1 ≠ frameSn (s.frames t k))
    (honce : channel.TakesOnce s.erroCount (s.frames t k)) :
    Inv first (s.next t (.transmit k channel) ops) := by
  obtain ⟨u, n, hlatest, hbefore⟩ := h.phase
  have hsent : (s.next t (.transmit k channel) ops).sent = s.sent ++ [s.frames t k] := by
    change s.sent ++ List.replicate (channel.send s.erroCount (s.frames t k)).1 (s.frames t k) = _
    rw [honce.send_eq, List.replicate_one]
  have hdue : (s.next t (.transmit k channel) ops).due first = s.due first + 1 := by
    rw [due, hsent, List.length_append, List.length_singleton, add_ofNat_succ]
    rfl
  -- the line stays numbered when the frame has the number that is due
  have hnumbers : frameSn (s.frames t k) = s.due first →
      (s.next t (.transmit k channel) ops).sent.map frameSn =
        serialNumbers first (s.next t (.transmit k channel) ops).sent.length := by
    intro hframe
    rw [hsent, List.map_append, h.sent_eq, List.map_singleton, hframe, List.length_append,
      List.length_singleton, serialNumbers_succ]
    rfl
  rcases u.eq_or_eq_other t with rfl | rfl
  · cases hlatest with
    | resting hrest => obtain ⟨_, _, _, _, heq, _⟩ := (hops ▸ hrest).of_cons; cases heq
    | loaded h => obtain ⟨_, _, _, heq, _⟩ := h; cases hops.symm.trans heq
    | holds h sn_eq =>
        obtain ⟨k', channel', rest, heq, hrest, hframe⟩ := h
        obtain ⟨ho, rfl⟩ := List.cons.inj (hops.symm.trans heq)
        cases ho
        cases hbefore with
        | resting hrest' due_eq =>
            refine ⟨hnumbers (hframe.trans due_eq), t, n + 1, .resting ?_ sn_eq, .resting ?_ ?_⟩
            · rwa [next_ops_self]
            · rwa [next_ops_of_ne _ t.other_ne]
            · rw [hdue, due_eq]
        | holds hheld due_eq =>
            obtain ⟨frame, hmem, hsn⟩ := hheld.mem_held
            -- the other task holds an earlier frame: the condition forbids this order
            exact absurd (by rw [hsn, hframe, due_eq]) (hok frame hmem)
  · cases hbefore with
    | resting hrest => obtain ⟨_, _, _, _, heq, _⟩ := (hops ▸ hrest).of_cons; cases heq
    | holds hheld due_eq =>
        obtain ⟨k', channel', rest, heq, hrest, hframe⟩ := hheld
        obtain ⟨ho, rfl⟩ := List.cons.inj (hops.symm.trans heq)
        cases ho
        have hlatest' : (s.next u.other (.transmit k channel) ops).Latest u n :=
          hlatest.of_eq (next_ops_of_ne _ u.other_ne.symm) (next_frames_of_ne _ u.other_ne.symm) rfl
        refine ⟨hnumbers hframe, u, n, hlatest', .resting ?_ (due_eq.trans hdue.symm)⟩
        rwa [next_ops_self]

end Step

/-- **Every event that meets the condition keeps the invariant.** -/
theorem Inv.step {first : UInt16} {s s' : SerialState} {e : SerialEvent} (h : s.Inv first)
    (hok : s.NumberingOk e) (hstep : s.step e = some s') : s'.Inv first := by
  cases e with
  | poll plus hour sendPlus =>
      obtain ⟨rfl, rfl⟩ := hok
      cases hops : s.ops .basicMessage with
      | cons o ops => simp [SerialState.step, hops] at hstep
      | nil =>
          simp only [SerialState.step, hops, Option.some.injEq] at hstep
          exact hstep ▸ h.begin hops (resting_pollOps plus)
  | command replies =>
      cases hops : s.ops .receiveCommand with
      | cons o ops => simp [SerialState.step, hops] at hstep
      | nil =>
          simp only [SerialState.step, hops, Option.some.injEq] at hstep
          exact hstep ▸ h.begin hops ⟨replies, rfl⟩
  | picturePacket prompt ok packet =>
      -- a packet of a picture only counts errors
      obtain rfl := Option.some.inj hstep
      obtain ⟨t, n, hlatest, hbefore⟩ := h.phase
      exact ⟨h.sent_eq, t, n, hlatest.of_eq rfl rfl rfl, hbefore.of_eq rfl rfl rfl⟩
  | op t =>
      cases hops : s.ops t with
      | nil => simp [SerialState.step, hops] at hstep
      | cons o ops =>
          simp only [SerialState.step, hops, Option.some.injEq] at hstep
          simp only [NumberingOk, hops] at hok
          subst hstep
          cases o with
          | load k frame => exact h.load hops hok
          | advance => exact h.advance hops
          | transmit k channel => exact h.transmit hops hok.1 hok.2

/-- **The frames on the line are numbered one after the other** in every state of every run whose
events keep the numbering. -/
theorem serialLaw (first : UInt16) (es : List SerialEvent)
    (hmeet : TransitionSystem.StepsMeet step NumberingOk (start first) es) :
    TransitionSystem.AllReached step (fun s => SerialLaw s.sent) (start first) es :=
  (TransitionSystem.allReached_of_stepsMeet (fun _ _ _ h hok hstep => h.step hok hstep)
    (inv_start first) hmeet).mono fun _ h => .of_numbers h.sent_eq

instance (s : SerialState) (e : SerialEvent) : Decidable (s.NumberingOk e) := by
  unfold NumberingOk
  split
  · infer_instance
  · split <;> infer_instance
  · infer_instance

/-- The plus message of 7 o'clock. -/
def sevenPlus : SnFrame := .plus ℚ zeroParameters (march15 0x07) 0 0 0

/-- The hour message of 7 o'clock. -/
def sevenHour : SnFrame := .hour ℚ (markedStore 0) 0 march15Call

/-- A poll without an hour report, during which the clock is set over the module. -/
def pollDuringCommand : List SerialEvent :=
  [.poll sevenPlus none true,
    .command [(.clock, .clock zeroParameters (march15 0x07), .gprs true true)],
    .op .basicMessage, .op .basicMessage, .op .receiveCommand, .op .basicMessage,
    .op .receiveCommand, .op .receiveCommand]

/-- The run obeys the law. -/
theorem serialLaw_pollDuringCommand :
    TransitionSystem.AllReached step (fun s => SerialLaw s.sent) (start 0) pollDuringCommand := by
  exact serialLaw 0 _ (by decide)

/-- A poll with an hour report sends the hour message with number 1 and then the plus message with
number 0. -/
theorem hourPoll_not_serialLaw :
    ¬ TransitionSystem.AllReached step (fun s => SerialLaw s.sent) (start 0)
      (.poll sevenPlus (some sevenHour) true :: List.replicate 5 (.op .basicMessage)) := by
  intro h
  have hlaw : SerialLaw [sevenHour.build 1, sevenPlus.build 0] :=
    (((((h.2 _ rfl).2 _ rfl).2 _ rfl).2 _ rfl).2 _ rfl).2 _ rfl
  have hsuccessor : frameSn (sevenPlus.build 0) = frameSn (sevenHour.build 1) + 1 :=
    hlaw.successor 0 (by decide)
  rw [sevenPlus.carries, sevenHour.carries] at hsuccessor
  exact absurd hsuccessor (by decide)

end SerialState

end RtuShuiwen
