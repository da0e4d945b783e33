import Mathlib.Data.List.Infix
import Mathlib.Data.UInt
import RtuShuiwen.Gprs.CheckReceive
import RtuShuiwen.Library.CommandScript
import RtuShuiwen.Library.TransitionSystem

/-! # AT commands and their answers

`gprs_send_cmd` sends a command to the 4G module and polls the receive flag of `USART2`; when it is set,
it looks for the expected text in `DMA_usart2_Buf`. The module's bursts come by interrupt at any time. On
`gprs_send_cmd` rest `gprs_init`, `gprs_net_config`, `gprs_connect` and `GPRS_4G_Init`, which are scripts of
commands here.

* **`atCommands`**: a command is acknowledged only by its own answer, in the runs in which it finds no
  flag with an old text when it is sent and no burst completes the text with what lies in the buffer;
* **`exists_not_atCommands`**: the condition leaves nothing out. -/

namespace RtuShuiwen

open ByteLayout CommandScript TransitionSystem

/-! ## The commands -/

/-- The arguments of `gprs_send_cmd`. -/
structure AtCommand where
  cmd : List UInt8
  ack : List UInt8
  timeout : ℕ
  retime : ℕ
  deriving DecidableEq

/-- A script of calls of `gprs_send_cmd`, which returns 0 or 1. -/
abbrev AtScript := Script AtCommand UInt8

/-- Commands in a row: the first one that is not acknowledged ends it with its error, and 0 is returned
behind the last. -/
def inOrder : List (AtCommand × UInt8) → AtScript UInt8
  | [] => .done 0
  | (c, error) :: rest => .send c fun returned => if returned ≠ 0 then .done error else inOrder rest

/-- The commands of `gprs_init` and their errors, `AT_ERRO`, `CPIN_ERRO`, `CPSI_ERRO`, `CGATT_ERRO` and
`ATE0_ERRO`. -/
def gprsInitCommands : List (AtCommand × UInt8) :=
  [(⟨ascii "AT\r\n", ascii "OK", 500, 5⟩, 1), (⟨ascii "AT+CPIN?\r\n", ascii "OK", 200, 2⟩, 3),
    (⟨ascii "AT+CPSI?\r\n", ascii "OK", 200, 2⟩, 5), (⟨ascii "AT+CGATT?\r\n", ascii "OK", 200, 2⟩, 6),
    (⟨ascii "ATE0\r\n", ascii "OK", 200, 5⟩, 2)]

/-- Those of `gprs_net_config`: `NETCLOSE_ERRO`, `CIPMODE_ERRO`, `CIPHEAD_ERRO`, `CSOCKSETPN_ERRO` and
`NETOPEN_ERRO`. -/
def gprsNetConfigCommands : List (AtCommand × UInt8) :=
  [(⟨ascii "AT+NETCLOSE\r\n", ascii "+NETCLOSE:", 500, 2⟩, 7),
    (⟨ascii "AT+CIPMODE=0\r\n", ascii "OK", 200, 2⟩, 8),
    (⟨ascii "AT+CIPHEAD=1\r\n", ascii "OK", 200, 2⟩, 9),
    (⟨ascii "AT+CSOCKSETPN=1\r\n", ascii "OK", 200, 2⟩, 10),
    (⟨ascii "AT+NETOPEN\r\n", ascii "+NETOPEN: 0", 500, 1⟩, 11)]

/-- Those of `gprs_connect`, both with `TCPCONNE_ERRO`. -/
def gprsConnectCommands : List (AtCommand × UInt8) :=
  [(⟨ascii "AT+CIPOPEN=0,\"TCP\",\"218.94.97.35\",5009\r\n", ascii "+CIPOPEN:", 500, 2⟩, 13),
    (⟨ascii "AT+CIPOPEN=1,\"TCP\",\"106.15.234.181\",5009\r\n", ascii "+CIPOPEN:", 500, 2⟩, 13)]

/-- `gprs_init`. -/
def gprsInit : AtScript UInt8 := inOrder gprsInitCommands

/-- `gprs_net_config`. -/
def gprsNetConfig : AtScript UInt8 := inOrder gprsNetConfigCommands

/-- `gprs_connect`. -/
def gprsConnect : AtScript UInt8 := inOrder gprsConnectCommands

/-- `s_gprs_init_flag`, `s_gprs_net_flag`, `s_gprs_connect_flag` and `s_error_flag`. -/
structure GprsFlags where
  init : Bool
  net : Bool
  connect : Bool
  error : UInt8

/-- Runs a routine if its test holds, stores what it returns in `s_error_flag` and sets its flag when that
is 0. -/
def runIf (test : Bool) (routine : AtScript UInt8) (set : GprsFlags → GprsFlags) (f : GprsFlags) :
    AtScript GprsFlags :=
  if test then
    routine.bind fun returned =>
      .done (if returned = 0 then set { f with error := 0 } else { f with error := returned })
  else .done f

/-- `err_process`, as far as the flags go. -/
def errProcess (f : GprsFlags) : GprsFlags := { f with init := false, net := false, connect := false }

/-- The loop of `GPRS_4G_Init` with `time` turns left. -/
def gprs4GInitLoop : ℕ → GprsFlags → AtScript ℤ
  | 0, _ => .done (-1)
  | time + 1, f =>
      (runIf (!f.init && !f.connect && !f.net) gprsInit ({ · with init := true }) f).bind fun f =>
      (runIf (!f.net && !f.connect && f.init) gprsNetConfig ({ · with net := true }) f).bind fun f =>
      let connects := f.init && f.net && !f.connect
      (runIf connects gprsConnect ({ · with connect := true }) f).bind fun f =>
      if connects && f.error == 0 then .done 0
      else
        gprs4GInitLoop time
          (if (!f.init || !f.net || !f.connect) && f.error != 0 then errProcess f else f)

/-- `GPRS_4G_Init`. -/
def gprs4GInit : AtScript ℤ := gprs4GInitLoop 3 ⟨false, false, false, 0⟩

/-- A call of one of the functions. -/
inductive GprsCall
  | sendCmd (c : AtCommand)
  | init
  | netConfig
  | connect
  | fourGInit

/-- What it runs, with its value as an `int`. -/
def GprsCall.script : GprsCall → AtScript ℤ
  | sendCmd c => .send c fun returned => .done returned.toNat
  | init => gprsInit.bind fun returned => .done returned.toNat
  | netConfig => gprsNetConfig.bind fun returned => .done returned.toNat
  | connect => gprsConnect.bind fun returned => .done returned.toNat
  | fourGInit => gprs4GInit

/-- Its commands. -/
def GprsCall.commands : GprsCall → List AtCommand
  | sendCmd c => [c]
  | init => gprsInitCommands.map Prod.fst
  | netConfig => gprsNetConfigCommands.map Prod.fst
  | connect => gprsConnectCommands.map Prod.fst
  | fourGInit => (gprsInitCommands ++ gprsNetConfigCommands ++ gprsConnectCommands).map Prod.fst

/-- A script has no way to 0 without a reply 0 to the command. -/
abbrev AtScript.NeedsAck {α : Type} [Zero α] (c : AtCommand) (p : AtScript α) : Prop :=
  p.Demands (· = 0) (· = 0) c

theorem needsAck_inOrder {cs : List (AtCommand × UInt8)} (herrors : ∀ ce ∈ cs, ce.2 ≠ 0) {c : AtCommand}
    (hc : c ∈ cs.map Prod.fst) : (inOrder cs).NeedsAck c := by
  induction cs with
  | nil => simp at hc
  | cons ce cs ih =>
      obtain ⟨c', error⟩ := ce
      obtain ⟨herror, hrest⟩ := List.forall_mem_cons.mp herrors
      rw [List.map_cons, List.mem_cons] at hc
      intro returned
      dsimp only
      by_cases hreturned : returned = 0
      · rw [if_neg (not_not.mpr hreturned)]
        rcases hc with rfl | hc
        · exact .inl ⟨rfl, hreturned⟩
        · exact .inr (ih hrest hc)
      · rw [if_pos hreturned]
        exact .inr herror

/-- **A turn of `GPRS_4G_Init`** runs the three routines as long as they return 0; an error leads to the
next turn, with the flags reset. -/
theorem gprs4GInitLoop_succ (time : ℕ) (error : UInt8) :
    gprs4GInitLoop (time + 1) ⟨false, false, false, error⟩ =
      gprsInit.bind fun returned =>
        if returned ≠ 0 then gprs4GInitLoop time ⟨false, false, false, returned⟩
        else gprsNetConfig.bind fun returned =>
          if returned ≠ 0 then gprs4GInitLoop time ⟨false, false, false, returned⟩
          else gprsConnect.bind fun returned =>
            if returned ≠ 0 then gprs4GInitLoop time ⟨false, false, false, returned⟩
            else .done 0 := by
  rw [gprs4GInitLoop]
  simp only [runIf, Bool.not_false, Bool.and_self, if_true, Script.bind_assoc, Script.done_bind]
  congr 1
  funext returned
  by_cases h : returned = 0
  · simp only [h, if_true, ne_eq, not_true_eq_false, if_false, Bool.not_false, Bool.and_self,
      Script.bind_assoc, Script.done_bind]
    congr 1
    funext returned
    by_cases h : returned = 0
    · simp only [h, if_true, not_true_eq_false, if_false, Bool.not_false, Bool.and_self,
        Script.bind_assoc, Script.done_bind]
      congr 1
      funext returned
      by_cases h : returned = 0 <;> simp [h, errProcess]
    · simp [h, errProcess]
  · simp [h, errProcess]

theorem needsAck_gprs4GInitLoop {c : AtCommand} (hc : c ∈ GprsCall.fourGInit.commands) (time : ℕ)
    (error : UInt8) : (gprs4GInitLoop time ⟨false, false, false, error⟩).NeedsAck c := by
  induction time generalizing error with
  | zero =>
      show ¬ (-1 : ℤ) = 0
      decide
  | succ time ih =>
      have hretry : ∀ (returned : UInt8) (p : AtScript ℤ), p.NeedsAck c →
          (if returned ≠ 0 then gprs4GInitLoop time ⟨false, false, false, returned⟩ else p).NeedsAck c := by
        intro returned p hp
        split
        · exact ih returned
        · exact hp
      have hfailed : ∀ (returned : UInt8) (p : AtScript ℤ), returned ≠ 0 →
          (if returned ≠ 0 then gprs4GInitLoop time ⟨false, false, false, returned⟩ else p).NeedsAck c := by
        intro returned p hreturned
        rw [if_pos hreturned]
        exact ih returned
      rw [gprs4GInitLoop_succ]
      simp only [GprsCall.commands, List.map_append, List.mem_append] at hc
      rcases hc with (hc | hc) | hc
      · exact Script.demands_bind_left (needsAck_inOrder (by decide) hc) fun returned h => hfailed _ _ h
      · refine Script.demands_bind_right _ fun returned => hretry _ _ ?_
        exact Script.demands_bind_left (needsAck_inOrder (by decide) hc) fun returned h => hfailed _ _ h
      · refine Script.demands_bind_right _ fun returned => hretry _ _ ?_
        refine Script.demands_bind_right _ fun returned => hretry _ _ ?_
        exact Script.demands_bind_left (needsAck_inOrder (by decide) hc) fun returned h => hfailed _ _ h

/-- **Success needs every command**: no call returns 0 without a 0 for each of its commands. -/
theorem needsAck_script (g : GprsCall) {c : AtCommand} (hc : c ∈ g.commands) : g.script.NeedsAck c := by
  have hvalue : ∀ {p : AtScript UInt8}, p.NeedsAck c →
      AtScript.NeedsAck c (p.bind fun returned => (.done returned.toNat : AtScript ℤ)) := by
    intro p hp
    refine Script.demands_bind_left hp fun returned hne => fun hzero : (returned.toNat : ℤ) = 0 => hne ?_
    exact UInt8.toNat_inj.mp (by exact_mod_cast hzero)
  cases g with
  | sendCmd c' =>
      obtain rfl := List.mem_singleton.mp hc
      exact hvalue (p := .send c .done) fun returned => (Classical.em (returned = 0)).imp (⟨rfl, ·⟩) id
  | init => exact hvalue (needsAck_inOrder (by decide) hc)
  | netConfig => exact hvalue (needsAck_inOrder (by decide) hc)
  | connect => exact hvalue (needsAck_inOrder (by decide) hc)
  | fourGInit => exact needsAck_gprs4GInitLoop hc 3 0

/-! ## `gprs_send_cmd` and the bursts -/

/-- `DMA_Rec_Len`. -/
def dmaRecLen : ℕ := 200

/-- What one burst of the module brings to the buffer: its own received length is `bytes.length`. -/
structure ModuleBurst where
  bytes : List UInt8
  le : bytes.length ≤ dmaRecLen

/-- Where `gprs_send_cmd` stands: before `gprs_send_string` for the `i`th time, before the test of
`timeout_value` and the flag, before the flag is cleared, before `strstr`, before `memset`, and in the
delay. -/
inductive SendPhase
  | send (i : ℕ)
  | test (i timeoutValue : ℕ)
  | clearFlag (i timeoutValue : ℕ)
  | search (i timeoutValue : ℕ)
  | wipe
  | delay (i timeoutValue : ℕ)

/-- The task: a call has returned, or a command is being sent, with what the script does on its reply and
the bursts that have come since. -/
inductive GprsControl
  | returned (value : ℤ)
  | sending (c : AtCommand) (next : UInt8 → AtScript ℤ) (phase : SendPhase) (bursts : List ModuleBurst)

/-- A command that has returned, with the bursts that came while it ran. -/
structure SentCommand where
  command : AtCommand
  returned : UInt8
  bursts : List ModuleBurst

/-- `DMA_usart2_Buf`, the memory behind it, `g_usart2_receive_stat`, the task, the last call, and its
commands so far, the last one first. -/
structure GprsState where
  dmaUsart2Buf : List UInt8
  behind : List UInt8
  gUsart2ReceiveStat : Bool
  control : GprsControl
  call : Option GprsCall
  log : List SentCommand

/-- A call begins; the task makes a step; a burst ends; the memory behind the buffer changes; another task
takes the flag. -/
inductive GprsEvent
  | call (g : GprsCall)
  | task
  | burst (b : ModuleBurst)
  | memory (behind : List UInt8)
  | takeFlag

/-- The task at the beginning of a script. -/
def GprsControl.ofScript : AtScript ℤ → GprsControl
  | .done value => .returned value
  | .send c next => .sending c next (.send 0) []

/-- The command returns. -/
def GprsState.ret (s : GprsState) (c : AtCommand) (next : UInt8 → AtScript ℤ)
    (bursts : List ModuleBurst) (returned : UInt8) : GprsState :=
  { s with control := .ofScript (next returned), log := ⟨c, returned, bursts⟩ :: s.log }

/-- What `strstr` looks for is found in these bytes. -/
def AtCommand.Shown (c : AtCommand) (text : List UInt8) : Prop := (strstr c.ack text).isSome = true

instance (c : AtCommand) (text : List UInt8) : Decidable (c.Shown text) := by
  unfold AtCommand.Shown
  infer_instance

/-- A step of `gprs_send_cmd`. -/
def GprsState.sendStep (s : GprsState) (c : AtCommand) (next : UInt8 → AtScript ℤ)
    (bursts : List ModuleBurst) : SendPhase → GprsState
  | .send i =>
      if i < c.retime then
        -- the first transmission: only bursts from here on can be answers
        { s with control := .sending c next (.test i c.timeout) (if i = 0 then [] else bursts) }
      else s.ret c next bursts 1
  | .test i 0 => { s with control := .sending c next (.send (i + 1)) bursts }
  | .test i (v + 1) =>
      if s.gUsart2ReceiveStat then { s with control := .sending c next (.clearFlag i v) bursts }
      else { s with control := .sending c next (.delay i v) bursts }
  | .clearFlag i v =>
      { s with gUsart2ReceiveStat := false, control := .sending c next (.search i v) bursts }
  | .search i v =>
      if c.Shown (s.dmaUsart2Buf ++ s.behind) then { s with control := .sending c next .wipe bursts }
      else { s with control := .sending c next (.delay i v) bursts }
  | .wipe => { s with dmaUsart2Buf := List.replicate dmaRecLen 0 }.ret c next bursts 0
  | .delay i v => { s with control := .sending c next (.test i v) bursts }

/-- A step of the task. -/
def GprsState.task (s : GprsState) : GprsState :=
  match s.control with
  | .returned _ => s
  | .sending c next phase bursts => s.sendStep c next bursts phase

/-- A burst: DMA has written it over the front of the buffer, and `USART2_IRQHandler` sets the flag by its
length. -/
def GprsState.burst (s : GprsState) (b : ModuleBurst) : GprsState :=
  { s with
    dmaUsart2Buf := b.bytes ++ s.dmaUsart2Buf.drop b.bytes.length
    gUsart2ReceiveStat := decide (0 < b.bytes.length)
    control :=
      match s.control with
      | .returned value => .returned value
      | .sending c next phase bursts => .sending c next phase (bursts ++ [b]) }

/-- One event. -/
def GprsState.step (s : GprsState) : GprsEvent → Option GprsState
  | .call g =>
      match s.control with
      | .returned _ => some { s with control := .ofScript g.script, call := some g, log := [] }
      | .sending .. => none
  | .task => some s.task
  | .burst b => some (s.burst b)
  | .memory behind => some { s with behind }
  | .takeFlag => some { s with gUsart2ReceiveStat := false }

/-- Before the first call, with anything in the buffer and the flag. -/
def GprsState.start (dmaUsart2Buf behind : List UInt8) (gUsart2ReceiveStat : Bool) : GprsState :=
  ⟨dmaUsart2Buf, behind, gUsart2ReceiveStat, .returned 0, none, []⟩

/-! ## The law and its condition -/

/-- One of these bursts contains the expected text. -/
def AtCommand.AnsweredBy (c : AtCommand) (bursts : List ModuleBurst) : Prop :=
  ∃ b ∈ bursts, c.ack <:+: b.bytes

instance (c : AtCommand) (bursts : List ModuleBurst) : Decidable (c.AnsweredBy bursts) := by
  unfold AtCommand.AnsweredBy
  infer_instance

/-- **Commands are acknowledged by their own answers**: a command that returned 0 was answered, and where a
call has returned 0, each of its commands was. -/
structure GprsState.OwnAnswers (s : GprsState) : Prop where
  /-- Each command by itself. -/
  command : ∀ e ∈ s.log, e.returned = 0 → e.command.AnsweredBy e.bursts
  /-- All commands of a call. -/
  call : s.control = .returned 0 → ∀ g ∈ s.call, ∀ c ∈ g.commands,
    ∃ e ∈ s.log, e.command = c ∧ e.returned = 0 ∧ c.AnsweredBy e.bursts

/-- The command will search the buffer, with the flag as it is, if nothing else happens. -/
def SendPhase.Searches (c : AtCommand) (gUsart2ReceiveStat : Bool) : SendPhase → Prop
  | .send i => gUsart2ReceiveStat = true ∧ i < c.retime ∧ 0 < c.timeout
  | .test i v | .delay i v =>
      gUsart2ReceiveStat = true ∧ (0 < v ∨ i + 1 < c.retime ∧ 0 < c.timeout)
  | .clearFlag _ _ | .search _ _ => True
  | .wipe => False

instance (c : AtCommand) (b : Bool) (phase : SendPhase) : Decidable (phase.Searches c b) := by
  cases phase <;> (unfold SendPhase.Searches; infer_instance)

/-- **When an event does no harm.** When a command is sent, the flag is not set with the expected text in
the buffer. While it runs, a text that it finds after a burst lies inside the bytes of this burst, and one that
it finds after the memory behind the buffer has changed lies inside the buffer, unless a burst before, since the
command was sent, held the text. -/
def AnswerIsOwn (s : GprsState) (e : GprsEvent) : Prop :=
  match s.control, e with
  | .returned _, _ => True
  | .sending c _ (.send 0) _, .task =>
      ¬ ((SendPhase.send 0).Searches c s.gUsart2ReceiveStat ∧ c.Shown (s.dmaUsart2Buf ++ s.behind))
  | .sending _ _ (.send 0) _, _ => True
  | .sending c _ phase bursts, .burst b =>
      phase.Searches c (decide (0 < b.bytes.length)) →
        c.Shown (b.bytes ++ s.dmaUsart2Buf.drop b.bytes.length ++ s.behind) →
          c.Shown b.bytes ∨ ∃ earlier ∈ bursts, c.ack <:+: earlier.bytes
  | .sending c _ phase bursts, .memory behind =>
      phase.Searches c s.gUsart2ReceiveStat → c.Shown (s.dmaUsart2Buf ++ behind) →
        c.Shown s.dmaUsart2Buf ∨ ∃ earlier ∈ bursts, c.ack <:+: earlier.bytes
  | _, _ => True

/-! ## Runs -/

/-- A command that was sent will find the expected text although no burst has brought it. -/
def GprsState.Deceived (s : GprsState) : Prop :=
  match s.control with
  | .returned _ | .sending _ _ (.send 0) _ => False
  | .sending c _ phase bursts =>
      phase.Searches c s.gUsart2ReceiveStat ∧ c.Shown (s.dmaUsart2Buf ++ s.behind) ∧
        ¬ c.AnsweredBy bursts

/-- The rest of the task needs a 0 for the command to return 0. -/
def GprsControl.NeedsAck (c : AtCommand) : GprsControl → Prop
  | .returned value => value ≠ 0
  | .sending c' next _ _ => AtScript.NeedsAck c (.send c' next)

/-- The invariant. -/
structure GprsState.Inv (s : GprsState) : Prop where
  /-- The law holds of each command. -/
  command : ∀ e ∈ s.log, e.returned = 0 → e.command.AnsweredBy e.bursts
  /-- No command is deceived. -/
  undeceived : ¬ s.Deceived
  /-- One that has found its text was answered. -/
  found : ∀ c next bursts, s.control = .sending c next .wipe bursts → c.AnsweredBy bursts
  /-- Each command of the call has been acknowledged, or has to be. -/
  needs : ∀ g ∈ s.call, ∀ c ∈ g.commands,
    (∃ e ∈ s.log, e.command = c ∧ e.returned = 0) ∨ s.control.NeedsAck c

/-- The invariant implies the law. -/
theorem GprsState.Inv.ownAnswers {s : GprsState} (hinv : s.Inv) : s.OwnAnswers := by
  refine ⟨hinv.command, fun hreturned g hg c hc => ?_⟩
  rcases hinv.needs g hg c hc with ⟨e, he, rfl, hzero⟩ | hneeds
  · exact ⟨e, he, rfl, hzero, hinv.command e he hzero⟩
  · rw [hreturned] at hneeds
    exact absurd rfl hneeds

theorem GprsState.inv_start (dmaUsart2Buf behind : List UInt8) (gUsart2ReceiveStat : Bool) :
    (start dmaUsart2Buf behind gUsart2ReceiveStat).Inv :=
  ⟨nofun, id, nofun, nofun⟩

/-- What a script needs, the task at its beginning needs. -/
theorem GprsControl.needsAck_ofScript {c : AtCommand} {p : AtScript ℤ} (h : p.NeedsAck c) :
    (GprsControl.ofScript p).NeedsAck c := by
  cases p <;> exact h

/-- At the beginning of a script no command is being sent. -/
theorem GprsControl.ofScript_cases (p : AtScript ℤ) :
    (∃ value, GprsControl.ofScript p = .returned value) ∨
      ∃ c next, GprsControl.ofScript p = .sending c next (.send 0) [] := by
  cases p with
  | done value => exact .inl ⟨value, rfl⟩
  | send c next => exact .inr ⟨c, next, rfl⟩

theorem GprsState.not_deceived_of_returned {s : GprsState} {value : ℤ} (hs : s.control = .returned value) :
    ¬ s.Deceived := by
  unfold Deceived
  rw [hs]
  exact id

section Sending

variable {s : GprsState} {c : AtCommand} {next : UInt8 → AtScript ℤ} {phase : SendPhase}
  {bursts : List ModuleBurst}

/-- What it is for a command to be deceived. -/
theorem GprsState.deceived_iff (hs : s.control = .sending c next phase bursts) :
    s.Deceived ↔ phase ≠ .send 0 ∧ phase.Searches c s.gUsart2ReceiveStat ∧
      c.Shown (s.dmaUsart2Buf ++ s.behind) ∧ ¬ c.AnsweredBy bursts := by
  unfold Deceived
  rw [hs]
  rcases phase with (_ | i) | _ | _ | _ | _ | _ <;> simp

/-- What it is for a burst to do no harm. -/
theorem answerIsOwn_burst_iff (hs : s.control = .sending c next phase bursts)
    (b : ModuleBurst) :
    AnswerIsOwn s (.burst b) ↔ (phase ≠ .send 0 → phase.Searches c (decide (0 < b.bytes.length)) →
      c.Shown (b.bytes ++ s.dmaUsart2Buf.drop b.bytes.length ++ s.behind) →
        c.Shown b.bytes ∨ c.AnsweredBy bursts) := by
  unfold AnswerIsOwn
  rw [hs]
  rcases phase with (_ | i) | _ | _ | _ | _ | _ <;> simp [AtCommand.AnsweredBy]

theorem answerIsOwn_memory_iff (hs : s.control = .sending c next phase bursts)
    (behind : List UInt8) :
    AnswerIsOwn s (.memory behind) ↔ (phase ≠ .send 0 → phase.Searches c s.gUsart2ReceiveStat →
      c.Shown (s.dmaUsart2Buf ++ behind) → c.Shown s.dmaUsart2Buf ∨ c.AnsweredBy bursts) := by
  unfold AnswerIsOwn
  rw [hs]
  rcases phase with (_ | i) | _ | _ | _ | _ | _ <;> simp [AtCommand.AnsweredBy]

end Sending

/-- **A step within a command** keeps the invariant when it does not deceive the command. -/
theorem GprsState.Inv.move {s s' : GprsState} (hinv : s.Inv) {c : AtCommand}
    {next : UInt8 → AtScript ℤ} {phase phase' : SendPhase} {bursts bursts' : List ModuleBurst}
    (hs : s.control = .sending c next phase bursts) (hs' : s'.control = .sending c next phase' bursts')
    (hlog : s'.log = s.log) (hcall : s'.call = s.call) (hundeceived : ¬ s'.Deceived)
    (hfound : phase' = .wipe → c.AnsweredBy bursts') : s'.Inv := by
  refine ⟨by rw [hlog]; exact hinv.command, hundeceived, ?_, ?_⟩
  · intro c₁ next₁ bursts₁ h
    rw [hs'] at h
    injection h with hc _ hphase hbursts
    subst hc hbursts
    exact hfound hphase
  · rw [hcall, hlog, hs']
    have hneeds := hinv.needs
    rw [hs] at hneeds
    exact hneeds

/-- **At the beginning of a script** no command is deceived, and none has found its text. -/
theorem GprsState.undeceived_ofScript {s : GprsState} {p : AtScript ℤ} (hs : s.control = .ofScript p) :
    ¬ s.Deceived ∧ ∀ c next bursts, s.control ≠ .sending c next .wipe bursts := by
  rcases GprsControl.ofScript_cases p with ⟨value, h⟩ | ⟨c, next, h⟩ <;> rw [h] at hs
  · exact ⟨not_deceived_of_returned hs, by simp [hs]⟩
  · exact ⟨by simp [deceived_iff hs], by simp [hs]⟩

/-- **The return of a command** keeps it when a 0 comes with an answer. -/
theorem GprsState.inv_ret {s : GprsState} {c : AtCommand} {next : UInt8 → AtScript ℤ}
    {bursts : List ModuleBurst} {returned : UInt8}
    (hcommand : ∀ e ∈ s.log, e.returned = 0 → e.command.AnsweredBy e.bursts)
    (hneeds : ∀ g ∈ s.call, ∀ c' ∈ g.commands,
      (∃ e ∈ s.log, e.command = c' ∧ e.returned = 0) ∨ AtScript.NeedsAck c' (.send c next))
    (hreturned : returned = 0 → c.AnsweredBy bursts) : (s.ret c next bursts returned).Inv := by
  refine ⟨?_, ?_, ?_, ?_⟩
  · rintro e he
    rcases List.mem_cons.mp he with rfl | he
    · exact hreturned
    · exact hcommand e he
  · exact (undeceived_ofScript rfl).1
  · intro c₁ next₁ bursts₁ h
    exact absurd h ((undeceived_ofScript rfl).2 c₁ next₁ bursts₁)
  · intro g hg c' hc'
    rcases hneeds g hg c' hc' with ⟨e, he, hsent⟩ | hneeds
    · exact .inl ⟨e, List.mem_cons_of_mem _ he, hsent⟩
    · rcases hneeds returned with ⟨rfl, hzero⟩ | hrest
      · exact .inl ⟨_, List.mem_cons_self, rfl, hzero⟩
      · exact .inr (GprsControl.needsAck_ofScript hrest)

section Task

variable {s : GprsState} {c : AtCommand} {next : UInt8 → AtScript ℤ} {bursts : List ModuleBurst} {i v : ℕ}

/-- **A transmission** that finds no old text keeps the invariant, and so does the end of the tries. -/
theorem GprsState.Inv.send (hinv : s.Inv) (hs : s.control = .sending c next (.send i) bursts)
    (hown : AnswerIsOwn s .task) : (s.sendStep c next bursts (.send i)).Inv := by
  unfold GprsState.sendStep
  dsimp only
  by_cases hi : i < c.retime
  · rw [if_pos hi]
    refine hinv.move hs rfl rfl rfl ?_ nofun
    rw [deceived_iff rfl]
    rintro ⟨-, ⟨hflag, hleft⟩, hshown, hunanswered⟩
    have htimeout : 0 < c.timeout := hleft.elim id And.right
    rcases i with - | i
    · -- the first transmission: the flag and the text are old
      unfold AnswerIsOwn at hown
      rw [hs] at hown
      exact hown ⟨⟨hflag, hi, htimeout⟩, hshown⟩
    · exact hinv.undeceived
        ((deceived_iff hs).mpr ⟨by simp, ⟨hflag, hi, htimeout⟩, hshown, hunanswered⟩)
  · have hneeds := hinv.needs
    rw [hs] at hneeds
    rw [if_neg hi]
    exact inv_ret hinv.command hneeds fun h => absurd h (by decide)

/-- **A test** keeps it, whether time is left and the flag is set or not. -/
theorem GprsState.Inv.test (hinv : s.Inv) (hs : s.control = .sending c next (.test i v) bursts) :
    (s.sendStep c next bursts (.test i v)).Inv := by
  have hquiet := mt (deceived_iff hs).mpr hinv.undeceived
  rcases v with - | v
  · refine hinv.move hs rfl rfl rfl ?_ nofun
    rw [deceived_iff rfl]
    rintro ⟨-, ⟨hflag, hlt⟩, hdeceived⟩
    exact hquiet ⟨by simp, ⟨hflag, .inr hlt⟩, hdeceived⟩
  · unfold GprsState.sendStep
    dsimp only
    by_cases hflag : s.gUsart2ReceiveStat = true
    · rw [if_pos hflag]
      refine hinv.move hs rfl rfl rfl ?_ nofun
      rw [deceived_iff rfl]
      rintro ⟨-, -, hdeceived⟩
      exact hquiet ⟨by simp, ⟨hflag, .inl (Nat.succ_pos v)⟩, hdeceived⟩
    · rw [if_neg hflag]
      refine hinv.move hs rfl rfl rfl ?_ nofun
      rw [deceived_iff rfl]
      rintro ⟨-, ⟨h, -⟩, -⟩
      exact hflag h

/-- **The search** finds the text only where a burst has brought it. -/
theorem GprsState.Inv.search (hinv : s.Inv) (hs : s.control = .sending c next (.search i v) bursts) :
    (s.sendStep c next bursts (.search i v)).Inv := by
  unfold GprsState.sendStep
  dsimp only
  by_cases hshown : c.Shown (s.dmaUsart2Buf ++ s.behind)
  · rw [if_pos hshown]
    refine hinv.move hs rfl rfl rfl ?_ fun _ => ?_
    · rw [deceived_iff rfl]
      exact fun h => h.2.1
    · by_contra hunanswered
      exact hinv.undeceived ((deceived_iff hs).mpr ⟨by simp, trivial, hshown, hunanswered⟩)
  · rw [if_neg hshown]
    refine hinv.move hs rfl rfl rfl ?_ nofun
    rw [deceived_iff rfl]
    rintro ⟨-, -, h, -⟩
    exact hshown h

end Task

/-- **Every step of the task that does no harm keeps the invariant.** -/
theorem GprsState.Inv.task {s : GprsState} (hinv : s.Inv) (hown : AnswerIsOwn s .task) : s.task.Inv := by
  unfold GprsState.task
  rcases hs : s.control with value | ⟨c, next, phase, bursts⟩
  · exact hinv
  · dsimp only
    cases phase with
    | send i => exact hinv.send hs hown
    | test i v => exact hinv.test hs
    | clearFlag i v =>
        refine hinv.move hs rfl rfl rfl ?_ nofun
        rw [deceived_iff rfl]
        rintro ⟨-, -, hdeceived⟩
        exact hinv.undeceived ((deceived_iff hs).mpr ⟨by simp, trivial, hdeceived⟩)
    | search i v => exact hinv.search hs
    | wipe =>
        have hneeds := hinv.needs
        rw [hs] at hneeds
        exact inv_ret hinv.command hneeds fun _ => hinv.found c next bursts hs
    | delay i v =>
        refine hinv.move hs rfl rfl rfl ?_ nofun
        rw [deceived_iff rfl]
        rintro ⟨-, hdeceived⟩
        exact hinv.undeceived ((deceived_iff hs).mpr ⟨by simp, hdeceived⟩)

/-- **A new call** keeps it: it needs an acknowledgement of each of its commands. -/
theorem GprsState.inv_call (s : GprsState) (g : GprsCall) :
    ({ s with control := .ofScript g.script, call := some g, log := [] } : GprsState).Inv := by
  refine ⟨nofun, ?_, ?_, ?_⟩
  · exact (undeceived_ofScript rfl).1
  · intro c next bursts h
    exact absurd h ((undeceived_ofScript rfl).2 c next bursts)
  · rintro g' hg c hc
    obtain rfl : g = g' := by simpa using hg
    exact .inr (GprsControl.needsAck_ofScript (needsAck_script g hc))

/-- More bursts answer no less. -/
theorem AtCommand.AnsweredBy.append {c : AtCommand} {bursts : List ModuleBurst} (h : c.AnsweredBy bursts)
    (bursts' : List ModuleBurst) : c.AnsweredBy (bursts ++ bursts') := by
  obtain ⟨b, hb, hanswer⟩ := h
  exact ⟨b, List.mem_append_left _ hb, hanswer⟩

/-- Nothing is needed but what was needed before, when neither the log nor the script changes. -/
theorem GprsState.Inv.idle {s s' : GprsState} (hinv : s.Inv) {value : ℤ}
    (hs : s.control = .returned value) (hs' : s'.control = .returned value) (hlog : s'.log = s.log)
    (hcall : s'.call = s.call) : s'.Inv := by
  refine ⟨by rw [hlog]; exact hinv.command, ?_, ?_, ?_⟩
  · exact not_deceived_of_returned hs'
  · intro c next bursts h
    simp [hs'] at h
  · rw [hcall, hlog, hs', ← hs]
    exact hinv.needs

/-- **A burst that does no harm keeps the invariant.** -/
theorem GprsState.Inv.burst {s : GprsState} {b : ModuleBurst} (hinv : s.Inv)
    (hown : AnswerIsOwn s (.burst b)) : (s.burst b).Inv := by
  rcases hs : s.control with value | ⟨c, next, phase, bursts⟩
  · exact hinv.idle hs (by simp [GprsState.burst, hs]) rfl rfl
  · have hcontrol : (s.burst b).control = .sending c next phase (bursts ++ [b]) := by
      simp [GprsState.burst, hs]
    refine hinv.move hs hcontrol rfl rfl ?_ ?_
    · rw [deceived_iff hcontrol]
      rintro ⟨hphase, hsearches, hshown, hunanswered⟩
      rcases (answerIsOwn_burst_iff hs b).mp hown hphase hsearches hshown with hburst | hearlier
      · exact hunanswered ⟨b, List.mem_append_right _ List.mem_cons_self, isInfix_of_strstr hburst⟩
      · exact hunanswered (hearlier.append [b])
    · rintro rfl
      exact (hinv.found c next bursts hs).append [b]

/-- **So does a change behind the buffer.** -/
theorem GprsState.Inv.memory {s : GprsState} {behind : List UInt8} (hinv : s.Inv)
    (hown : AnswerIsOwn s (.memory behind)) : ({ s with behind } : GprsState).Inv := by
  rcases hs : s.control with value | ⟨c, next, phase, bursts⟩
  · exact hinv.idle hs rfl rfl rfl
  · refine hinv.move hs rfl rfl rfl ?_ ?_
    · rw [deceived_iff rfl]
      rintro ⟨hphase, hsearches, hshown, hunanswered⟩
      rcases (answerIsOwn_memory_iff hs behind).mp hown hphase hsearches hshown with hbuffer | hearlier
      · -- the memory before would have shown the text as well
        exact hinv.undeceived
          ((deceived_iff hs).mpr ⟨hphase, hsearches, strstr_append hbuffer s.behind, hunanswered⟩)
      · exact hunanswered hearlier
    · rintro rfl
      exact hinv.found c next bursts hs

/-- Without the flag a command searches no more than with it. -/
theorem SendPhase.Searches.mono {c : AtCommand} {phase : SendPhase} {flag : Bool}
    (h : phase.Searches c false) : phase.Searches c flag := by
  cases phase <;> simp_all [Searches]

/-- **Another task that takes the flag** deceives nobody. -/
theorem GprsState.Inv.takeFlag {s : GprsState} (hinv : s.Inv) :
    ({ s with gUsart2ReceiveStat := false } : GprsState).Inv := by
  rcases hs : s.control with value | ⟨c, next, phase, bursts⟩
  · exact hinv.idle hs rfl rfl rfl
  · refine hinv.move hs rfl rfl rfl ?_ ?_
    · rw [deceived_iff rfl]
      rintro ⟨hphase, hsearches, hdeceived⟩
      exact hinv.undeceived ((deceived_iff hs).mpr ⟨hphase, hsearches.mono, hdeceived⟩)
    · rintro rfl
      exact hinv.found c next bursts hs

/-- **Every event that does no harm keeps the invariant.** -/
theorem GprsState.Inv.step {s s' : GprsState} {e : GprsEvent} (hinv : s.Inv) (hown : AnswerIsOwn s e)
    (hstep : s.step e = some s') : s'.Inv := by
  cases e with
  | call g =>
      rcases hs : s.control with value | ⟨c, next, phase, bursts⟩ <;>
        simp only [GprsState.step, hs, reduceCtorEq] at hstep
      obtain rfl := Option.some.inj hstep
      exact s.inv_call g
  | task =>
      obtain rfl := Option.some.inj hstep
      exact hinv.task hown
  | burst b =>
      obtain rfl := Option.some.inj hstep
      exact hinv.burst hown
  | memory behind =>
      obtain rfl := Option.some.inj hstep
      exact hinv.memory hown
  | takeFlag =>
      obtain rfl := Option.some.inj hstep
      exact hinv.takeFlag

/-- **Commands are acknowledged by their own answers** in the runs whose events all do no harm. -/
theorem atCommands (dmaUsart2Buf behind : List UInt8) (gUsart2ReceiveStat : Bool)
    (events : List GprsEvent)
    (h : StepsMeet GprsState.step AnswerIsOwn (.start dmaUsart2Buf behind gUsart2ReceiveStat) events) :
    AllReached GprsState.step GprsState.OwnAnswers (.start dmaUsart2Buf behind gUsart2ReceiveStat)
      events :=
  (allReached_of_stepsMeet (fun _ _ _ hinv hown hstep => hinv.step hown hstep)
    (GprsState.inv_start dmaUsart2Buf behind gUsart2ReceiveStat) h).mono fun _ hinv => hinv.ownAnswers

instance (s : GprsState) (e : GprsEvent) : Decidable (AnswerIsOwn s e) := by
  unfold AnswerIsOwn
  split <;> infer_instance

/-- `DMA_usart2_Buf` as it is cleared. -/
def clearedUsart2Buf : List UInt8 := List.replicate dmaRecLen 0

/-- The burst `"\r\nOK\r\n"`. -/
def okBurst : ModuleBurst := ⟨ascii "\r\nOK\r\n", by decide⟩

/-- The first command of `gprs_init`. -/
def atCommand : AtCommand := ⟨ascii "AT\r\n", ascii "OK", 500, 5⟩

/-- The command is sent, the answer comes, and the command finds it. -/
def answeredRun : List GprsEvent :=
  [.call (.sendCmd atCommand), .task, .burst okBurst, .task, .task, .task, .task]

theorem answeredRun_ownAnswers :
    AllReached GprsState.step GprsState.OwnAnswers (.start clearedUsart2Buf [] false) answeredRun :=
  atCommands clearedUsart2Buf [] false answeredRun (by decide)

/-- An answer that comes before the command is sent, to an earlier one say, and no other burst. -/
def lateAnswerRun : List GprsEvent :=
  [.burst okBurst, .call (.sendCmd atCommand), .task, .task, .task, .task, .task]

/-- **The late answer of an earlier command acknowledges the next one.** -/
theorem lateAnswerRun_not_ownAnswers :
    ¬ AllReached GprsState.step GprsState.OwnAnswers (.start clearedUsart2Buf [] false)
      lateAnswerRun := by
  intro h
  have hcommand := h.mono fun _ hown => hown.command
  revert hcommand
  decide

/-! ## The harm of the other runs -/

/-- The task alone leads to a command that is acknowledged by no answer of its own. -/
def GprsState.LeadsWrong (s : GprsState) : Prop := ∃ k, ¬ (task^[k] s).OwnAnswers

theorem GprsState.LeadsWrong.of_task {s : GprsState} (h : s.task.LeadsWrong) : s.LeadsWrong := by
  obtain ⟨k, hk⟩ := h
  exact ⟨k + 1, hk⟩

/-- A command with the expected text in the buffer, and no burst that brought it. -/
structure GprsState.OldText (s : GprsState) (c : AtCommand) (next : UInt8 → AtScript ℤ)
    (phase : SendPhase) (bursts : List ModuleBurst) : Prop where
  control : s.control = .sending c next phase bursts
  shown : c.Shown (s.dmaUsart2Buf ++ s.behind)
  unanswered : ¬ c.AnsweredBy bursts

section OldText

variable {s : GprsState} {c : AtCommand} {next : UInt8 → AtScript ℤ} {bursts : List ModuleBurst}
  {i v : ℕ}

theorem GprsState.OldText.task_eq {phase : SendPhase} (h : s.OldText c next phase bursts) :
    s.task = s.sendStep c next bursts phase := by
  unfold GprsState.task
  rw [h.control]

/-- The search finds the text, and the command returns 0. -/
theorem GprsState.OldText.search (h : s.OldText c next (.search i v) bursts) : s.LeadsWrong := by
  have hfound : s.task = { s with control := .sending c next .wipe bursts } := by
    rw [h.task_eq, sendStep, if_pos h.shown]
  refine .of_task (.of_task ⟨0, fun hown => h.unanswered ?_⟩)
  rw [hfound] at hown
  exact hown.command ⟨c, 0, bursts⟩ List.mem_cons_self rfl

theorem GprsState.OldText.clearFlag (h : s.OldText c next (.clearFlag i v) bursts) : s.LeadsWrong := by
  have hnext : s.task.OldText c next (.search i v) bursts := by
    rw [h.task_eq]
    exact ⟨rfl, h.shown, h.unanswered⟩
  exact .of_task hnext.search

/-- A test that is not the last one sees the flag. -/
theorem GprsState.OldText.test_succ (h : s.OldText c next (.test i (v + 1)) bursts)
    (hflag : s.gUsart2ReceiveStat = true) : s.LeadsWrong := by
  have hnext : s.task.OldText c next (.clearFlag i v) bursts := by
    rw [h.task_eq, sendStep, if_pos hflag]
    exact ⟨rfl, h.shown, h.unanswered⟩
  exact .of_task hnext.clearFlag

/-- Another transmission leads to such a test. -/
theorem GprsState.OldText.send (h : s.OldText c next (.send (i + 1)) bursts)
    (hflag : s.gUsart2ReceiveStat = true) (hi : i + 1 < c.retime) (htimeout : 0 < c.timeout) :
    s.LeadsWrong := by
  have htask : s.task = { s with control := .sending c next (.test (i + 1) c.timeout) bursts } := by
    rw [h.task_eq, sendStep, if_pos hi, if_neg (Nat.succ_ne_zero i)]
  obtain ⟨v, hv⟩ := Nat.exists_eq_succ_of_ne_zero (Nat.pos_iff_ne_zero.mp htimeout)
  rw [hv] at htask
  have hnext : s.task.OldText c next (.test (i + 1) (v + 1)) bursts := by
    rw [htask]
    exact ⟨rfl, h.shown, h.unanswered⟩
  have hflag' : s.task.gUsart2ReceiveStat = true := by
    rw [htask]
    exact hflag
  exact .of_task (hnext.test_succ hflag')

theorem GprsState.OldText.test (h : s.OldText c next (.test i v) bursts)
    (hflag : s.gUsart2ReceiveStat = true) (hleft : 0 < v ∨ i + 1 < c.retime ∧ 0 < c.timeout) :
    s.LeadsWrong := by
  rcases v with - | v
  · obtain ⟨hi, htimeout⟩ := hleft.resolve_left (lt_irrefl 0)
    have hnext : s.task.OldText c next (.send (i + 1)) bursts := by
      rw [h.task_eq]
      exact ⟨rfl, h.shown, h.unanswered⟩
    have hflag' : s.task.gUsart2ReceiveStat = true := by
      rw [h.task_eq]
      exact hflag
    exact .of_task (hnext.send hflag' hi htimeout)
  · exact h.test_succ hflag

theorem GprsState.OldText.delay (h : s.OldText c next (.delay i v) bursts)
    (hflag : s.gUsart2ReceiveStat = true) (hleft : 0 < v ∨ i + 1 < c.retime ∧ 0 < c.timeout) :
    s.LeadsWrong := by
  have hnext : s.task.OldText c next (.test i v) bursts := by
    rw [h.task_eq]
    exact ⟨rfl, h.shown, h.unanswered⟩
  have hflag' : s.task.gUsart2ReceiveStat = true := by
    rw [h.task_eq]
    exact hflag
  exact .of_task (hnext.test hflag' hleft)

end OldText

/-- **A deceived command goes wrong** if only the task goes on. -/
theorem GprsState.Deceived.leadsWrong {s : GprsState} (h : s.Deceived) : s.LeadsWrong := by
  unfold Deceived at h
  rcases hs : s.control with value | ⟨c, next, phase, bursts⟩
  · rw [hs] at h
    exact h.elim
  · rw [hs] at h
    rcases phase with (_ | i) | ⟨i, v⟩ | ⟨i, v⟩ | ⟨i, v⟩ | _ | ⟨i, v⟩
    · exact h.elim
    · obtain ⟨⟨hflag, hi, htimeout⟩, hshown, hunanswered⟩ := h
      exact OldText.send ⟨hs, hshown, hunanswered⟩ hflag hi htimeout
    · obtain ⟨⟨hflag, hleft⟩, hshown, hunanswered⟩ := h
      exact OldText.test ⟨hs, hshown, hunanswered⟩ hflag hleft
    · exact OldText.clearFlag ⟨hs, h.2.1, h.2.2⟩
    · exact OldText.search ⟨hs, h.2.1, h.2.2⟩
    · exact h.1.elim
    · obtain ⟨⟨hflag, hleft⟩, hshown, hunanswered⟩ := h
      exact OldText.delay ⟨hs, hshown, hunanswered⟩ hflag hleft

/-- A first transmission with the flag set and the text in the buffer deceives the command. -/
theorem GprsState.deceived_task {s : GprsState} (h : ¬ AnswerIsOwn s .task) : s.task.Deceived := by
  unfold AnswerIsOwn at h
  rcases hs : s.control with value | ⟨c, next, phase, bursts⟩ <;> rw [hs] at h
  · exact absurd trivial h
  · rcases phase with (_ | i) | _ | _ | _ | _ | _
    · obtain ⟨⟨hflag, hretime, htimeout⟩, hshown⟩ := not_not.mp h
      unfold GprsState.task
      rw [hs]
      unfold GprsState.sendStep
      dsimp only
      rw [if_pos hretime, if_pos rfl]
      exact ⟨⟨hflag, .inl htimeout⟩, hshown, by simp [AtCommand.AnsweredBy]⟩
    all_goals exact absurd trivial h

/-- No event does harm when no command is being sent. -/
theorem answerIsOwn_of_returned {s : GprsState} {value : ℤ} (hs : s.control = .returned value)
    (e : GprsEvent) : AnswerIsOwn s e := by
  unfold AnswerIsOwn
  rw [hs]
  trivial

/-- A burst that lets the command find its text, where no burst contains it, deceives it. -/
theorem GprsState.deceived_burst {s : GprsState} {b : ModuleBurst} (hinv : s.Inv)
    (h : ¬ AnswerIsOwn s (.burst b)) : (s.burst b).Deceived := by
  rcases hs : s.control with value | ⟨c, next, phase, bursts⟩
  · exact absurd (answerIsOwn_of_returned hs _) h
  · have hcontrol : (s.burst b).control = .sending c next phase (bursts ++ [b]) := by
      simp [burst, hs]
    simp only [answerIsOwn_burst_iff hs, Classical.not_imp, not_or] at h
    obtain ⟨hphase, hsearches, hshown, hburst, hearlier⟩ := h
    refine (deceived_iff hcontrol).mpr ⟨hphase, hsearches, hshown, ?_⟩
    rintro ⟨b', hb', hin⟩
    rcases List.mem_append.mp hb' with hb' | hb'
    · exact hearlier ⟨b', hb', hin⟩
    · obtain rfl := List.mem_singleton.mp hb'
      by_cases hne : b'.bytes = []
      · -- a burst of no bytes shows nothing that was not shown before
        rw [hne] at hsearches hshown
        exact hinv.undeceived ((deceived_iff hs).mpr ⟨hphase, hsearches.mono, hshown, hearlier⟩)
      · rw [List.append_assoc] at hshown
        exact hburst (strstr_of_append hne hin hshown)

theorem GprsState.deceived_memory {s : GprsState} {behind : List UInt8}
    (h : ¬ AnswerIsOwn s (.memory behind)) : ({ s with behind } : GprsState).Deceived := by
  rcases hs : s.control with value | ⟨c, next, phase, bursts⟩
  · exact absurd (answerIsOwn_of_returned hs _) h
  · simp only [answerIsOwn_memory_iff hs, Classical.not_imp, not_or] at h
    obtain ⟨hphase, hsearches, hshown, -, hearlier⟩ := h
    exact (deceived_iff rfl).mpr ⟨hphase, hsearches, hshown, hearlier⟩

/-- The beginning of a call and the loss of the flag do no harm. -/
theorem answerIsOwn_call (s : GprsState) (g : GprsCall) : AnswerIsOwn s (.call g) := by
  unfold AnswerIsOwn
  split <;> simp_all

theorem answerIsOwn_takeFlag (s : GprsState) : AnswerIsOwn s .takeFlag := by
  unfold AnswerIsOwn
  split <;> simp_all

/-- **An event that does harm deceives the command.** -/
theorem GprsState.deceived_step {s s' : GprsState} {e : GprsEvent} (hinv : s.Inv)
    (h : ¬ AnswerIsOwn s e) (hstep : s.step e = some s') : s'.Deceived := by
  cases e with
  | call g => exact absurd (answerIsOwn_call s g) h
  | task =>
      obtain rfl := Option.some.inj hstep
      exact deceived_task h
  | burst b =>
      obtain rfl := Option.some.inj hstep
      exact deceived_burst hinv h
  | memory behind =>
      obtain rfl := Option.some.inj hstep
      exact deceived_memory h
  | takeFlag => exact absurd (answerIsOwn_takeFlag s) h

/-- **The condition is exact**: a run that does not meet it can go on so that a command returns 0 without
an answer, the task alone stepping on. -/
theorem exists_not_atCommands (dmaUsart2Buf behind : List UInt8) (gUsart2ReceiveStat : Bool)
    (events : List GprsEvent)
    (h : ¬ StepsMeet GprsState.step AnswerIsOwn (.start dmaUsart2Buf behind gUsart2ReceiveStat) events) :
    ∃ events' k, events' <+: events ∧
      ¬ AllReached GprsState.step GprsState.OwnAnswers (.start dmaUsart2Buf behind gUsart2ReceiveStat)
        (events' ++ List.replicate k .task) := by
  refine exists_not_allReached (I := GprsState.Inv)
    (fun _ _ _ hinv hown hstep => hinv.step hown hstep) ?_ (GprsState.inv_start _ _ _) h
  intro s e s' hinv hC hstep
  obtain ⟨k, hk⟩ := (GprsState.deceived_step hinv hC hstep).leadsWrong
  exact ⟨k, fun hall => hk (hall.iterate (f := GprsState.task) fun _ => rfl)⟩

end RtuShuiwen
