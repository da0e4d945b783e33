import RtuShuiwen.Library.TransitionSystem
import Mathlib.Data.List.Infix
import Mathlib.Logic.Function.Basic

/-! # Response mode, normal mode and stop mode

The tasks of `thread.c` as the calls they make to the operating system, one at a time and in any
interleaving: `receive_command` executes mode commands, `stopmode_task` stops the processor and wakes
the station up, `gprs_task` and `basic_message_task` ask for the stop, and the clock interrupt
`EXTI0` ends it. A suspended task makes no calls. `backToReporting` says that normal mode brings
reporting back in every run in which each `ENTER_NORMAL_MODE` finds the reporting task running, or a
resume of it still to come. -/

namespace RtuShuiwen

open Function

/-! ## Tasks, messages and calls -/

/-- The tasks that are suspended and resumed; the first two are those of the network stack, with the
priorities 5 and 6. -/
inductive Task
  | lwip
  | dm9000Input
  | ftp
  | gprs
  | basicMessage
  | receiveCommand
  | bluetooth
  | stopmode
  deriving DecidableEq, Repr

/-- The messages of `Message_Q`. -/
inductive Message
  | enterStopMode
  | wakeUpMode
  deriving DecidableEq, Repr

/-- The mode commands. -/
inductive Mode
  | response
  | normal
  deriving DecidableEq, Repr

/-- What a task does between two points at which others may run. -/
inductive Call
  | suspend (t : Task)
  | resume (t : Task)
  | post (m : Message)
  | semPost
  | setStopModeFlag
  | enterStop
  deriving DecidableEq, Repr

/-- The calls of `stopmode_task` for `ENTER_STOP_MODE`, after its wait of twenty seconds; the last
two are those of `enter_stop_mode`. -/
def enterStopCalls : List Call :=
  [.suspend .lwip, .suspend .dm9000Input, .suspend .basicMessage, .suspend .receiveCommand,
    .suspend .bluetooth, .suspend .ftp, .setStopModeFlag, .enterStop]

/-- The calls of `stopmode_task` for `WAKE_UP_MODE`. -/
def wakeUpCalls : List Call :=
  [.resume .lwip, .resume .dm9000Input, .resume .basicMessage, .resume .receiveCommand,
    .resume .bluetooth]

/-- The calls of `stopmode_task` for a message. -/
def stopmodeCalls : Message → List Call
  | .enterStopMode => enterStopCalls
  | .wakeUpMode => wakeUpCalls

/-- `ENTER_RESPONSE_MODE`. -/
def enterResponseMode : UInt8 := 0x01

/-- `ENTER_NORMAL_MODE`. -/
def enterNormalMode : UInt8 := 0x02

/-- The calls of `receive_command` for a frame. -/
def receiveCalls (funId : UInt8) : List Call :=
  if funId = enterResponseMode then [.suspend .stopmode, .suspend .basicMessage]
  else if funId = enterNormalMode then [.resume .stopmode]
  else []

/-- The calls of `gprs_task` once it has the semaphore. -/
def gprsCalls : List Call :=
  [.suspend .receiveCommand, .resume .receiveCommand, .post .enterStopMode]

/-- The calls at the end of a poll that `basic_message_task` handles: without a picture, with one that
is stored in time, or with one that is not. -/
def pollCalls : Option Bool → List Call
  | none => [.post .enterStopMode]
  | some true => [.resume .ftp, .suspend .ftp, .semPost]
  | some false => [.resume .ftp, .post .enterStopMode]

/-! ## The device -/

/-- `N_MESSAGE`, the capacity of the queue. -/
def nMessage : ℕ := 5

/-- The state of the device: which tasks are suspended, the calls each has still to make for what it
is doing, the queue, the semaphore `gprs_task_en`, `g_stop_mode_flag`, whether the processor is
stopped, and the mode command executed last. -/
structure Device where
  suspended : Task → Bool
  calls : Task → List Call
  queue : List Message
  gprsTaskEn : ℕ
  stopModeFlag : Bool
  stopped : Bool
  lastMode : Option Mode

/-- What happens: a task makes its next call, `receive_command` takes a frame from the serial line,
`stopmode_task` takes a message, `gprs_task` takes the semaphore, `basic_message_task` handles a poll,
the clock interrupts, or the rain gauge does. -/
inductive Event
  | call (t : Task)
  | frame (funId : UInt8)
  | pend
  | semPend
  | poll (picture : Option Bool)
  | exti0
  | exti1
  deriving DecidableEq, Repr

namespace Device

/-- After the start: the FTP task is suspended, all others wait. -/
def initial : Device where
  suspended t := t = .ftp
  calls _ := []
  queue := []
  gprsTaskEn := 0
  stopModeFlag := false
  stopped := false
  lastMode := none

/-- `OSQPost`: a full queue refuses the message. -/
def post (d : Device) (m : Message) : Device :=
  if d.queue.length < nMessage then { d with queue := d.queue ++ [m] } else d

/-- The effect of a call. A mode command counts as executed with its call on `stopmode_task`, which no
other task makes. -/
def exec (d : Device) : Call → Device
  | .suspend t =>
      { d with
        suspended := update d.suspended t true
        lastMode := if t = .stopmode then some .response else d.lastMode }
  | .resume t =>
      { d with
        suspended := update d.suspended t false
        lastMode := if t = .stopmode then some .normal else d.lastMode }
  | .post m => d.post m
  | .semPost => { d with gprsTaskEn := d.gprsTaskEn + 1 }
  | .setStopModeFlag => { d with stopModeFlag := true }
  | .enterStop => { d with stopped := true }

/-- A task can run. -/
def Runs (d : Device) (t : Task) : Prop := d.stopped = false ∧ d.suspended t = false

instance (d : Device) (t : Task) : Decidable (d.Runs t) := by unfold Runs; infer_instance

/-- A task starts on the calls for what it has received. -/
def begin (d : Device) (t : Task) (calls : List Call) : Device :=
  { d with calls := update d.calls t calls }

/-- One step, if it is possible. -/
def step (d : Device) : Event → Option Device
  | .call t =>
      match d.calls t with
      | c :: calls => if d.Runs t then some ((d.begin t calls).exec c) else none
      | [] => none
  | .frame funId =>
      if d.Runs .receiveCommand ∧ d.calls .receiveCommand = [] then
        some (d.begin .receiveCommand (receiveCalls funId))
      else none
  | .pend =>
      match d.queue with
      | m :: queue =>
          if d.Runs .stopmode ∧ d.calls .stopmode = [] then
            some ({ d with queue := queue }.begin .stopmode (stopmodeCalls m))
          else none
      | [] => none
  | .semPend =>
      if d.Runs .gprs ∧ d.calls .gprs = [] ∧ 0 < d.gprsTaskEn then
        some ({ d with gprsTaskEn := d.gprsTaskEn - 1 }.begin .gprs gprsCalls)
      else none
  | .poll picture =>
      if d.Runs .basicMessage ∧ d.calls .basicMessage = [] then
        some (d.begin .basicMessage (pollCalls picture))
      else none
  | .exti0 =>
      let d := { d with stopped := false }
      some (if d.stopModeFlag then { d with stopModeFlag := false }.post .wakeUpMode else d)
  | .exti1 => some { d with stopped := false }

/-! ## The property -/

/-- The device is on the stop path: a message is queued or `stopmode_task` is handling one, or stop
mode has been entered and not yet left, which is read as `g_stop_mode_flag`. The flag stays set when
EXTI1 ends the stop mode of the processor. -/
def OnStopPath (d : Device) : Prop :=
  d.queue ≠ [] ∨ d.calls .stopmode ≠ [] ∨ d.stopModeFlag = true

/-- **Normal mode brings reporting back**: after `ENTER_NORMAL_MODE` the reporting task is not
suspended unless the device is on the stop path. -/
def BackToReporting (d : Device) : Prop :=
  d.lastMode = some .normal → d.suspended .basicMessage = true → d.OnStopPath

/-- A resume of the reporting task is still to come: a message is queued, stop mode has been entered
and not left, or `stopmode_task` has still to enter it or to make the resume. -/
def ResumeOwed (d : Device) : Prop :=
  d.queue ≠ [] ∨ d.stopModeFlag = true ∨ .setStopModeFlag ∈ d.calls .stopmode ∨
    .resume .basicMessage ∈ d.calls .stopmode

/-- The condition on steps: where `receive_command` executes `ENTER_NORMAL_MODE`, the reporting task is
not suspended or its resume is still to come. -/
def NormalOk (d : Device) (e : Event) : Prop :=
  e = .call .receiveCommand → (d.calls .receiveCommand).head? = some (.resume .stopmode) →
    d.suspended .basicMessage = true → d.ResumeOwed

/-! ## The calls of each task -/

/-- What each task may be in the middle of. -/
def programs : Task → List (List Call)
  | .stopmode => [enterStopCalls, wakeUpCalls]
  | .receiveCommand => [[.suspend .stopmode, .suspend .basicMessage], [.resume .stopmode], []]
  | .gprs => [gprsCalls]
  | .basicMessage => [pollCalls none, pollCalls (some true), pollCalls (some false)]
  | _ => [[]]

/-- What a frame starts is among the programs. -/
theorem receiveCalls_mem (funId : UInt8) : receiveCalls funId ∈ programs .receiveCommand := by
  rw [receiveCalls, programs]
  split
  · simp
  · split <;> simp

/-- Every task is in the middle of one of its programs. -/
def Shaped (d : Device) : Prop := ∀ t, ∃ p ∈ programs t, d.calls t <:+ p

/-- The effect of a call does not touch what other calls are to be made. -/
@[simp] theorem calls_exec (d : Device) (c : Call) : (d.exec c).calls = d.calls := by
  cases c with
  | post m =>
      simp only [exec, post]
      split <;> rfl
  | _ => rfl

/-- The calls of the task that starts. -/
@[simp] theorem calls_begin_self (d : Device) (t : Task) (calls : List Call) :
    (d.begin t calls).calls t = calls := update_self ..

/-- The calls of the other tasks. -/
theorem calls_begin_of_ne (d : Device) {t u : Task} (calls : List Call) (hu : u ≠ t) :
    (d.begin t calls).calls u = d.calls u := update_of_ne hu ..

/-- Starting a suffix of a program keeps the shape. -/
theorem Shaped.begin {d : Device} (h : d.Shaped) {t : Task} {calls p : List Call}
    (hp : p ∈ programs t) (hsuffix : calls <:+ p) : (d.begin t calls).Shaped := by
  intro u
  by_cases hu : u = t
  · subst hu
    exact ⟨p, hp, by rwa [calls_begin_self]⟩
  · obtain ⟨q, hq, hsuffix'⟩ := h u
    exact ⟨q, hq, by rwa [calls_begin_of_ne d calls hu]⟩

/-- `stopmode_task` suspends the reporting task only when it is to enter stop mode. -/
theorem setStopModeFlag_mem_of_suspend : ∀ p ∈ programs .stopmode, ∀ l ∈ p.tails,
    l.head? = some (.suspend .basicMessage) → .setStopModeFlag ∈ l.tail := by
  decide

/-- Only `stopmode_task` and `receive_command` suspend the reporting task. -/
theorem task_of_suspend_basic : ∀ t, ∀ p ∈ programs t, .suspend .basicMessage ∈ p →
    t = .stopmode ∨ t = .receiveCommand := by
  intro t
  cases t <;> decide

/-- Only `receive_command` makes calls on `stopmode_task`. -/
theorem task_of_call_stopmode : ∀ t, ∀ p ∈ programs t,
    .suspend .stopmode ∈ p ∨ .resume .stopmode ∈ p → t = .receiveCommand := by
  intro t
  cases t <;> decide

/-- `receive_command` suspends the reporting task last, right after `stopmode_task`. -/
theorem receive_suspend_basic : ∀ p ∈ programs .receiveCommand, ∀ l ∈ p.tails,
    (.suspend .basicMessage ∈ l.tail → l.head? = some (.suspend .stopmode)) ∧
      (l.head? = some (.suspend .basicMessage) → .suspend .stopmode ∉ l) := by
  decide

/-! ## The invariant -/

/-- **What carries the property through a run.** -/
structure Inv (d : Device) : Prop where
  /-- The tasks are in their programs. -/
  shaped : d.Shaped
  /-- While a response command has the reporting task still to suspend, it counts as executed once
  `stopmode_task` is suspended. -/
  response : .suspend .basicMessage ∈ d.calls .receiveCommand →
    .suspend .stopmode ∉ d.calls .receiveCommand → d.lastMode = some .response
  /-- In normal mode a suspended reporting task has a resume to come. -/
  owed : d.lastMode = some .normal → d.suspended .basicMessage = true → d.ResumeOwed

/-- The start satisfies it. -/
theorem inv_initial : initial.Inv where
  shaped t := by
    cases t <;> exact ⟨_, List.mem_cons_self, List.nil_suffix⟩
  response h := by cases h
  owed h := by cases h

/-- A resume to come puts the device on the stop path. -/
theorem ResumeOwed.onStopPath {d : Device} (h : d.ResumeOwed) : d.OnStopPath := by
  rcases h with hqueue | hflag | hcall | hcall
  · exact .inl hqueue
  · exact .inr (.inr hflag)
  · exact .inr (.inl (List.ne_nil_of_mem hcall))
  · exact .inr (.inl (List.ne_nil_of_mem hcall))

/-- The property follows from the invariant. -/
theorem Inv.onStopPath {d : Device} (h : d.Inv) : d.BackToReporting :=
  fun hmode hsuspended => (h.owed hmode hsuspended).onStopPath

/-- **A call takes no resume away but by making it.** -/
theorem ResumeOwed.call {d : Device} (h : d.ResumeOwed) {t : Task} {c : Call} {calls : List Call}
    (hcalls : d.calls t = c :: calls) (hc : c ≠ .resume .basicMessage) :
    ((d.begin t calls).exec c).ResumeOwed := by
  -- a call that is still to come stays to come, unless it is the one made now
  have hmem : ∀ c', c' ∈ d.calls .stopmode → c' ≠ c → c' ∈ (d.begin t calls).calls .stopmode := by
    intro c' hc' hne
    by_cases ht : t = .stopmode
    · subst ht
      rw [hcalls] at hc'
      rw [calls_begin_self]
      exact List.mem_of_ne_of_mem hne hc'
    · rwa [calls_begin_of_ne d calls (Ne.symm ht)]
  -- queue, flag, the setting of the flag, and the resume itself
  rcases h with hqueue | hflag | hset | hresume
  · left
    cases c with
    | post m =>
        simp only [exec, post]
        split
        · simp [Device.begin]
        · exact hqueue
    | _ => exact hqueue
  · right
    left
    cases c with
    | post m =>
        simp only [exec, post]
        split <;> exact hflag
    | setStopModeFlag => rfl
    | _ => exact hflag
  · by_cases hcase : c = .setStopModeFlag
    · subst hcase
      exact .inr (.inl rfl)
    · exact .inr (.inr (.inl ((calls_exec _ c).symm ▸ hmem _ hset (Ne.symm hcase))))
  · exact .inr (.inr (.inr ((calls_exec _ c).symm ▸ hmem _ hresume (Ne.symm hc))))

/-- Other calls than its suspension and resume leave a task suspended or not. -/
theorem suspended_exec {d : Device} {c : Call} {t : Task} (hs : c ≠ .suspend t) (hr : c ≠ .resume t) :
    (d.exec c).suspended t = d.suspended t := by
  cases c with
  | suspend u => exact update_of_ne (fun h : t = u => hs (by rw [h])) ..
  | resume u => exact update_of_ne (fun h : t = u => hr (by rw [h])) ..
  | post m =>
      simp only [exec, post]
      split <;> rfl
  | _ => rfl

/-- Calls on other tasks than `stopmode_task` execute no mode command. -/
theorem lastMode_exec {d : Device} {c : Call} (hs : c ≠ .suspend .stopmode)
    (hr : c ≠ .resume .stopmode) : (d.exec c).lastMode = d.lastMode := by
  cases c with
  | suspend u => exact if_neg fun h : u = .stopmode => hs (by rw [h])
  | resume u => exact if_neg fun h : u = .stopmode => hr (by rw [h])
  | post m =>
      simp only [exec, post]
      split <;> rfl
  | _ => rfl

/-- **A call keeps the invariant**, under the condition on `ENTER_NORMAL_MODE`. -/
theorem Inv.call {d : Device} (h : d.Inv) {t : Task} {c : Call} {calls : List Call}
    (hcalls : d.calls t = c :: calls) (hok : d.NormalOk (.call t)) :
    ((d.begin t calls).exec c).Inv := by
  -- what is left of a task is a suffix of one of its programs
  obtain ⟨p, hp, hsuffix⟩ := h.shaped t
  rw [hcalls] at hsuffix
  have hmem : c ∈ p := hsuffix.subset List.mem_cons_self
  have hrest : calls <:+ p := (List.suffix_cons c calls).trans hsuffix
  refine ⟨?_, ?_, ?_⟩
  · intro u
    rw [calls_exec]
    exact h.shaped.begin hp hrest u
  · rw [calls_exec]
    intro hbasic hstop
    -- only `receive_command` suspends the reporting task and `stopmode_task` together
    by_cases ht : t = .receiveCommand
    · subst ht
      rw [calls_begin_self] at hbasic
      obtain rfl : c = .suspend .stopmode := Option.some.inj ((receive_suspend_basic p hp _
        ((List.mem_tails _ _).mpr hsuffix)).1 hbasic)
      rfl
    · rw [calls_begin_of_ne d calls (Ne.symm ht)] at hbasic hstop
      have hother : c ≠ .suspend .stopmode ∧ c ≠ .resume .stopmode := by
        constructor
        · rintro rfl
          exact ht (task_of_call_stopmode t p hp (.inl hmem))
        · rintro rfl
          exact ht (task_of_call_stopmode t p hp (.inr hmem))
      rw [lastMode_exec hother.1 hother.2]
      exact h.response hbasic hstop
  · intro hmode hsuspended
    by_cases hresume : c = .resume .basicMessage
    · subst hresume
      exact absurd hsuspended (by simp [exec])
    by_cases hsuspend : c = .suspend .basicMessage
    · subst hsuspend
      rcases task_of_suspend_basic t p hp hmem with rfl | rfl
      · -- stop mode is still to be entered
        right; right; left
        rw [calls_exec, calls_begin_self]
        exact setStopModeFlag_mem_of_suspend p hp _ ((List.mem_tails _ _).mpr hsuffix) rfl
      · -- the last command is the response command
        have hstop := (receive_suspend_basic p hp _ ((List.mem_tails _ _).mpr hsuffix)).2 rfl
        have hresponse := h.response (by rw [hcalls]; exact List.mem_cons_self) (by rwa [hcalls])
        exact absurd (hmode.symm.trans hresponse) (by decide)
    -- any other call leaves the reporting task as it was; then it was owed before
    have hsame := suspended_exec (d := d.begin t calls) hsuspend hresume
    have hbefore : d.suspended .basicMessage = true := hsame.symm.trans hsuspended
    by_cases hstop : c = .suspend .stopmode
    · subst hstop
      exact absurd hmode (by simp [exec])
    by_cases hstart : c = .resume .stopmode
    · subst hstart
      obtain rfl := task_of_call_stopmode t p hp (.inr hmem)
      exact (hok rfl (by rw [hcalls]; rfl) hbefore).call hcalls hresume
    · rw [lastMode_exec hstop hstart] at hmode
      exact (h.owed hmode hbefore).call hcalls hresume

/-- **Starting a program keeps the invariant.** -/
theorem Inv.begin {d : Device} (h : d.Inv) {t : Task} (hidle : d.calls t = []) {p : List Call}
    (hp : p ∈ programs t) : (d.begin t p).Inv := by
  refine ⟨h.shaped.begin hp p.suffix_refl, ?_, ?_⟩
  · intro hbasic hstop
    by_cases ht : t = .receiveCommand
    · subst ht
      rw [calls_begin_self] at hbasic hstop
      -- its programs suspend both tasks or neither
      have hboth : ∀ p ∈ programs .receiveCommand,
          .suspend .basicMessage ∈ p → .suspend .stopmode ∈ p := by decide
      exact absurd (hboth p hp hbasic) hstop
    · rw [calls_begin_of_ne d p (Ne.symm ht)] at hbasic hstop
      exact h.response hbasic hstop
  · intro hmode hsuspended
    by_cases ht : t = .stopmode
    · subst ht
      -- an idle `stopmode_task` owes nothing by its own calls
      rcases h.owed hmode hsuspended with hqueue | hflag | hcall | hcall
      · exact .inl hqueue
      · exact .inr (.inl hflag)
      all_goals
        rw [hidle] at hcall
        cases hcall
    · rw [ResumeOwed, calls_begin_of_ne d p (Ne.symm ht)]
      exact h.owed hmode hsuspended

/-- **Taking a message keeps the invariant**: whatever it is, a resume is to come. -/
theorem Inv.pend {d : Device} (h : d.Inv) (m : Message) (queue : List Message) :
    ({ d with queue := queue }.begin .stopmode (stopmodeCalls m)).Inv := by
  have hp : stopmodeCalls m ∈ programs .stopmode := by cases m <;> simp [stopmodeCalls, programs]
  have hshaped : Shaped { d with queue := queue } := h.shaped
  refine ⟨hshaped.begin hp (List.suffix_refl _), ?_, fun _ _ => ?_⟩
  · rw [calls_begin_of_ne _ _ (by decide)]
    exact h.response
  · right; right
    rw [calls_begin_self]
    cases m <;> decide

/-- **The clock interrupt keeps the invariant**: where it clears the flag a message is queued. -/
theorem Inv.exti0 {d : Device} (h : d.Inv) :
    (if d.stopModeFlag then { d with stopped := false, stopModeFlag := false }.post .wakeUpMode
      else { d with stopped := false }).Inv := by
  split
  · -- the message is queued, or the queue was full
    have hqueue : ({ d with stopped := false, stopModeFlag := false }.post .wakeUpMode).queue ≠ [] := by
      rw [post]
      split
      · exact List.append_ne_nil_of_right_ne_nil _ (List.cons_ne_nil _ _)
      · next hfull =>
          intro hnil
          have hlen : 0 < nMessage := by decide
          rw [hnil] at hfull
          exact hfull hlen
    have hsame : ({ d with stopped := false, stopModeFlag := false }.post .wakeUpMode).calls =
          d.calls ∧
        ({ d with stopped := false, stopModeFlag := false }.post .wakeUpMode).lastMode =
          d.lastMode := by
      rw [post]
      split <;> exact ⟨rfl, rfl⟩
    refine ⟨?_, ?_, fun _ _ => .inl hqueue⟩
    · rw [Shaped, hsame.1]
      exact h.shaped
    · rw [hsame.1, hsame.2]
      exact h.response
  · exact ⟨h.shaped, h.response, h.owed⟩

/-- **A step keeps the invariant**, under the condition on `ENTER_NORMAL_MODE`. -/
theorem Inv.step {d d' : Device} {e : Event} (h : d.Inv) (hok : d.NormalOk e)
    (hstep : d.step e = some d') : d'.Inv := by
  cases e with
  | call t =>
      simp only [Device.step] at hstep
      split at hstep
      · next c calls hcalls =>
          split at hstep
          · exact Option.some.inj hstep ▸ h.call hcalls hok
          · cases hstep
      · cases hstep
  | frame funId =>
      simp only [Device.step] at hstep
      split at hstep
      · next hidle => exact Option.some.inj hstep ▸ h.begin hidle.2 (receiveCalls_mem funId)
      · cases hstep
  | pend =>
      simp only [Device.step] at hstep
      split at hstep
      · next m queue hqueue =>
          split at hstep
          · exact Option.some.inj hstep ▸ h.pend m queue
          · cases hstep
      · cases hstep
  | semPend =>
      simp only [Device.step] at hstep
      split at hstep
      · next hidle =>
          -- the semaphore plays no role for the invariant
          have htaken : Inv { d with gprsTaskEn := d.gprsTaskEn - 1 } :=
            ⟨h.shaped, h.response, h.owed⟩
          exact Option.some.inj hstep ▸ htaken.begin hidle.2.1 List.mem_cons_self
      · cases hstep
  | poll picture =>
      simp only [Device.step] at hstep
      split at hstep
      · next hidle =>
          have hp : pollCalls picture ∈ programs .basicMessage := by
            cases picture with
            | none => simp [programs]
            | some stored => cases stored <;> simp [programs]
          exact Option.some.inj hstep ▸ h.begin hidle.2 hp
      · cases hstep
  | exti0 => exact Option.some.inj hstep ▸ h.exti0
  | exti1 =>
      obtain rfl := Option.some.inj hstep
      exact ⟨h.shaped, h.response, h.owed⟩

/-- **Normal mode brings reporting back** in every state of every run in which each
`ENTER_NORMAL_MODE` finds the reporting task running or its resume still to come. -/
theorem backToReporting (es : List Event)
    (hmeet : TransitionSystem.StepsMeet step NormalOk initial es) :
    TransitionSystem.AllReached step BackToReporting initial es :=
  (TransitionSystem.allReached_of_stepsMeet (fun _ _ _ h hok hstep => h.step hok hstep) inv_initial
    hmeet).mono fun _ h => h.onStopPath

instance (d : Device) : Decidable d.BackToReporting := by
  unfold BackToReporting OnStopPath
  infer_instance

instance (d : Device) (e : Event) : Decidable (d.NormalOk e) := by
  unfold NormalOk ResumeOwed
  infer_instance

/-- A response and a normal command. -/
def responseThenNormal : List Event :=
  [.frame enterResponseMode, .call .receiveCommand, .call .receiveCommand,
    .frame enterNormalMode, .call .receiveCommand]

/-- When the two commands arrive while `stopmode_task` waits out the twenty seconds, the run meets the
condition. -/
theorem backToReporting_during_wait :
    TransitionSystem.AllReached step BackToReporting initial
      ([.poll none, .call .basicMessage, .pend] ++ responseThenNormal) :=
  backToReporting _ (by decide)

/-- When they arrive at the idle device, normal mode leaves the reporting task suspended with nothing
on the way to resume it. -/
theorem not_backToReporting_of_idle :
    ¬ TransitionSystem.AllReached step BackToReporting initial responseThenNormal := by
  decide

end Device

end RtuShuiwen
