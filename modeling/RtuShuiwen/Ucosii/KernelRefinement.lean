import RtuShuiwen.Library.Refinement
import RtuShuiwen.Ucosii.TaskTables

/-! # The kernel refines its purpose

* **`kernel_refines`**: whatever tasks, interrupts and the clock do, the tables and bitmaps of the kernel go
  through the steps of the abstract machine, and the task it runs is the one that should run;
* **`messages_fifo`**: so the messages that `OSQPost` accepts are those that `OSQPend` delivers, in the order
  in which tasks take them, and those in the ring, and no task sleeps while the ring holds a message. -/

namespace RtuShuiwen

open Function PriorityBitmap TransitionSystem

variable {α : Type}

/-! ## The system -/

/-- The kernel, which tasks are between the halves of `OSQPend`, and as the history the messages accepted and
received. -/
structure Kernel (α : Type) where
  os : Os α
  inPend : ℕ → Bool
  posted : List (Option α)
  received : ℕ → List (Option α)

namespace Kernel

variable (k : Kernel α)

/-- A task has received a message. -/
def receive (p : ℕ) (pmsg : Option α) : Kernel α :=
  { k with received := update k.received p (k.received p ++ [pmsg]) }

/-- One event. What a task does is done by the one that `OS_Sched` switches to. The idle task must not be
suspended, which the kernel does not check, and there is no priority beyond its own. -/
def step : OsEvent α → Option (Kernel α)
  | .post pmsg =>
      let answer := osQPost pmsg k.os
      some { k with
        os := answer.2
        posted := if answer.1 = .none then k.posted ++ [pmsg] else k.posted }
  | .pend timeout =>
      let cur := osSchedNew k.os
      if cur = osLowestPrio ∨ k.inPend cur = true then none
      else
        match osQPendEnter cur timeout k.os with
        | (some pmsg, os) => some ({ k with os := os }.receive cur pmsg)
        | (none, os) => some { k with os := os, inPend := update k.inPend cur true }
  | .leave =>
      let cur := osSchedNew k.os
      if k.inPend cur = true then
        let answer := osQPendLeave cur k.os
        let k := { k with os := answer.2, inPend := update k.inPend cur false }
        some (if answer.1.2 = .none then k.receive cur answer.1.1 else k)
      else none
  | .delay ticks =>
      let cur := osSchedNew k.os
      if cur = osLowestPrio ∨ k.inPend cur = true then none
      else some { k with os := osTimeDly cur ticks k.os }
  | .suspend prio => if prio < osLowestPrio then some { k with os := osTaskSuspend prio k.os } else none
  | .resume prio => if prio ≤ osLowestPrio then some { k with os := osTaskResume prio k.os } else none
  | .tick => some { k with os := osTimeTick k.os }

end Kernel

/-- No tasks. -/
def noTasks : PriorityBitmap 8 := PriorityBitmap.empty

/-- The kernel at the start: every task is ready, and the queue is new. -/
def Kernel.start (tasks : TcbList) (storage : CellMemory (Option α)) (size : UInt16) : Kernel α where
  os :=
    { osTcbList := tasks
      osTcbPrioTbl := fun _ => ⟨osStatRdy, .pendOk, 0, none⟩
      osRdy := tasks.prios.foldl PriorityBitmap.insert (noTasks.insert osLowestPrio)
      osEvent := noTasks
      osQ := osQCreate storage size
      osTime := 0 }
  inPend _ := false
  posted := []
  received _ := []

/-! ## The refinement -/

namespace Kernel

/-- The tables of the kernel show the state of the abstract machine. -/
structure Shows (k : Kernel α) (a : AbstractKernel α) : Prop where
  tasks : TasksAre k.os a.phase a.suspended
  present : ∀ p < 63, (a.phase p).present = true ↔ p ∈ k.os.osTcbList.prios
  idle : a.phase 63 = .running ∧ a.suspended 63 = false
  inPend : ∀ p < 64, k.inPend p = (a.phase p).inPend
  queue : k.os.osQ.Holds a.queue
  size : k.os.osQ.osqSize = a.size
  posted : k.posted = a.posted
  received : k.received = a.received

variable {k : Kernel α} {a : AbstractKernel α}

namespace Shows

/-- The tasks that can be suspended are those on the list. -/
theorem suspendable_iff (h : k.Shows a) (p : ℕ) : a.suspendable p = true ↔ p ∈ k.os.osTcbList.prios := by
  rw [AbstractKernel.suspendable, Bool.and_eq_true, decide_eq_true_iff]
  constructor
  · rintro ⟨hp, hpresent⟩
    exact (h.present p hp).mp hpresent
  · intro hmem
    have hp := k.os.osTcbList.lt p hmem
    exact ⟨hp, (h.present p hp).mpr hmem⟩

/-- One task changes its phase, and nothing else happens but that it may receive a message. -/
theorem setPhase (h : k.Shows a) {os : Os α} (hkeeps : Keeps k.os os) {p : ℕ} (hp : p ≠ 63)
    {phase : TaskPhase α} (hpresent : phase.present = (a.phase p).present)
    (htasks : TasksAre os (update a.phase p phase) a.suspended) {inPend : ℕ → Bool}
    (hpend : ∀ q < 64, inPend q = (update a.phase p phase q).inPend) :
    Shows { k with os := os, inPend := inPend } { a with phase := update a.phase p phase } where
  tasks := htasks
  present q hq := by
    change (update a.phase p phase q).present = true ↔ q ∈ os.osTcbList.prios
    rw [hkeeps.2, ← h.present q hq]
    by_cases hsame : q = p
    · rw [hsame, update_self, hpresent]
    · rw [update_of_ne hsame]
  idle := by
    change update a.phase p phase 63 = .running ∧ a.suspended 63 = false
    rw [update_of_ne (Ne.symm hp)]
    exact h.idle
  inPend := hpend
  queue := by
    change os.osQ.Holds a.queue
    rw [hkeeps.1]
    exact h.queue
  size := by
    change os.osQ.osqSize = a.size
    rw [hkeeps.1]
    exact h.size
  posted := h.posted
  received := h.received

/-- A task receives a message. -/
theorem receive (h : k.Shows a) (p : ℕ) (pmsg : Option α) : (k.receive p pmsg).Shows (a.receive p pmsg) where
  tasks := h.tasks
  present := h.present
  idle := h.idle
  inPend := h.inPend
  queue := h.queue
  size := h.size
  posted := h.posted
  received := by
    change update k.received p (k.received p ++ [pmsg]) = update a.received p (a.received p ++ [pmsg])
    rw [h.received]

/-- The flags of a task that goes into `OSQPend` or comes out of it. -/
theorem inPend_update (h : k.Shows a) {p : ℕ} {phase : TaskPhase α} {b : Bool} (hb : phase.inPend = b) :
    ∀ q < 64, update k.inPend p b q = (update a.phase p phase q).inPend := by
  intro q hq
  by_cases hsame : q = p
  · rw [hsame, update_self, update_self, hb]
  · rw [update_of_ne hsame, update_of_ne hsame, h.inPend q hq]

/-- The task that runs. -/
theorem cur_eq (h : k.Shows a) : osSchedNew k.os = a.current := h.tasks.osSchedNew_eq h.idle

/-- It is inside `OSQPend` when the abstract task is. -/
theorem inPend_current (h : k.Shows a) : k.inPend a.current = (a.phase a.current).inPend :=
  h.inPend _ AbstractKernel.current_lt

/-- It is not suspended. -/
theorem current_active (h : k.Shows a) :
    (a.phase a.current).runnable = true ∧ a.suspended a.current = false := by
  have hidle : ((a.phase 63).runnable && !a.suspended 63) = true := by
    rw [h.idle.1, h.idle.2]
    rfl
  rw [AbstractKernel.current]
  cases hfind : (List.range 64).find? fun p => (a.phase p).runnable && !a.suspended p with
  -- the idle task can always run
  | none => exact absurd hidle (List.find?_eq_none.mp hfind 63 (by decide))
  | some p =>
      have hp := List.find?_some (p := fun p => (a.phase p).runnable && !a.suspended p) hfind
      rwa [Bool.and_eq_true, Bool.not_eq_true'] at hp

/-- When it is not inside `OSQPend` it does what it likes. -/
theorem current_running (h : k.Shows a) (hout : ¬ (a.phase a.current).inPend = true) :
    a.phase a.current = .running := by
  obtain ⟨hrunnable, -⟩ := h.current_active
  cases hphase : a.phase a.current with
  | running => rfl
  | absent | delayed =>
      rw [hphase] at hrunnable
      exact absurd hrunnable Bool.false_ne_true
  | waiting | timedOut | handed =>
      rw [hphase] at hout
      exact absurd rfl hout

/-- `OSQPost` gives the message to a waiting task. -/
theorem postGive (h : k.Shows a) {p : ℕ} (hp : a.firstWaiter = some p) (pmsg : Option α) :
    Shows { k with os := osEventTaskRdy pmsg osStatQ .pendOk k.os, posted := k.posted ++ [pmsg] }
      (a.give p pmsg) := by
  obtain ⟨hlt, hlisted⟩ := AbstractKernel.firstWaiter_eq_some hp
  have hfirst : k.os.osEvent.first osUnMap = p := by
    have heq := h.tasks.firstWaiter_eq
    rw [hp] at heq
    split at heq
    · exact (Option.some.inj heq).symm
    · cases heq
  -- the idle task never waits
  have hne : p ≠ 63 := by
    rintro rfl
    rw [h.idle.1] at hlisted
    exact Bool.false_ne_true hlisted
  have hsame : (a.phase p).present = true ∧ (a.phase p).inPend = true := by
    cases hphase : a.phase p with
    | waiting | timedOut => exact ⟨rfl, rfl⟩
    | absent | running | delayed | handed =>
        rw [hphase] at hlisted
        exact absurd hlisted Bool.false_ne_true
  have hpend : ∀ q < 64, k.inPend q = (update a.phase p (.handed pmsg) q).inPend := by
    intro q hq
    rw [h.inPend q hq]
    by_cases heq : q = p
    · rw [heq, update_self, hsame.2]
      rfl
    · rw [update_of_ne heq]
  have hkeeps : Keeps k.os (osEventTaskRdy pmsg osStatQ .pendOk k.os) := ⟨rfl, rfl⟩
  have hpresent : (TaskPhase.handed pmsg).present = (a.phase p).present := hsame.1.symm
  have hset := h.setPhase hkeeps hne hpresent (h.tasks.eventTaskRdy hlt hfirst pmsg) hpend
  exact ⟨hset.tasks, hset.present, hset.idle, hset.inPend, hset.queue, hset.size,
    congrArg (· ++ [pmsg]) h.posted, hset.received⟩

/-- `OSQPost`. -/
theorem post (h : k.Shows a) (pmsg : Option α) :
    ∃ k' a', k.step (.post pmsg) = some k' ∧ a.step (.post pmsg) = some a' ∧ k'.Shows a' := by
  have hwaiter := h.tasks.firstWaiter_eq
  rw [Kernel.step, AbstractKernel.step, osQPost]
  by_cases hgrp : k.os.osEvent.grp ≠ 0#8
  · rw [if_pos hgrp] at hwaiter
    rw [if_pos hgrp, hwaiter]
    exact ⟨_, _, rfl, rfl, h.postGive hwaiter pmsg⟩
  · rw [if_neg hgrp] at hwaiter
    rw [if_neg hgrp, hwaiter]
    have hroom := h.queue.entries_lt_iff
    rw [h.size] at hroom
    by_cases hfull : k.os.osQ.osqEntries ≥ k.os.osQ.osqSize
    · -- a full queue does not take the message
      have hnot : ¬ a.queue.length < a.size.toNat := by
        rw [← hroom, ← h.size]
        exact UInt16.not_lt.mpr hfull
      rw [if_pos hfull, if_neg hnot]
      exact ⟨_, _, rfl, rfl, h⟩
    · have hlt : a.queue.length < a.size.toNat := by
        rw [← hroom, ← h.size]
        exact UInt16.not_le.mp hfull
      rw [if_neg hfull]
      dsimp only
      rw [if_pos hlt]
      refine ⟨_, _, rfl, rfl, h.tasks.of_eq rfl rfl rfl, h.present, h.idle, h.inPend, ?_, h.size,
        congrArg (· ++ [pmsg]) h.posted, h.received⟩
      exact h.queue.insertIn (by rwa [h.size]) pmsg

/-- `OSQPend` up to the wait. -/
theorem pend (h : k.Shows a) (timeout : UInt32) {k' : Kernel α} (hstep : k.step (.pend timeout) = some k') :
    ∃ a', a.step (.pend timeout) = some a' ∧ k'.Shows a' := by
  rw [Kernel.step, h.cur_eq, h.inPend_current] at hstep
  rw [AbstractKernel.step]
  split at hstep
  · cases hstep
  · next hout =>
      have hout : ¬ (a.current = 63 ∨ (a.phase a.current).inPend = true) := hout
      rw [if_neg hout]
      have hne : a.current ≠ 63 := (not_or.mp hout).1
      have hnot := (not_or.mp hout).2
      cases hqueue : a.queue with
      | nil =>
          have hempty : ¬ k.os.osQ.osqEntries > 0 := by
            rw [h.queue.entries_pos_iff, not_not]
            exact hqueue
          rw [osQPendEnter, if_neg hempty] at hstep
          obtain rfl := Option.some.inj hstep
          refine ⟨_, rfl, ?_⟩
          rw [← hqueue]
          refine h.setPhase ?_ hne ?_ (h.tasks.pendWait AbstractKernel.current_lt timeout)
            (h.inPend_update rfl)
          · exact ⟨rfl, rfl⟩
          · rw [h.current_running hnot]
            rfl
      | cons pmsg queue =>
          have hholds := h.queue
          rw [hqueue] at hholds
          have hpos : k.os.osQ.osqEntries > 0 := hholds.entries_pos_iff.mpr (List.cons_ne_nil _ _)
          obtain ⟨hfirst, hrest⟩ := hholds.extractOut
          rw [osQPendEnter, if_pos hpos, hfirst] at hstep
          obtain rfl := Option.some.inj hstep
          refine ⟨_, rfl, Shows.receive ?_ _ _⟩
          exact ⟨h.tasks.of_eq rfl rfl rfl, h.present, h.idle, h.inPend, hrest, h.size, h.posted, h.received⟩

/-- `OSQPend` behind the wait. -/
theorem leave (h : k.Shows a) {k' : Kernel α} (hstep : k.step .leave = some k') :
    ∃ a', a.step .leave = some a' ∧ k'.Shows a' := by
  obtain ⟨hrunnable, hactive⟩ := h.current_active
  rw [Kernel.step, h.cur_eq, h.inPend_current] at hstep
  rw [AbstractKernel.step]
  have hne : a.phase a.current ≠ .running → a.current ≠ 63 := fun hother h63 => hother (h63 ▸ h.idle.1)
  -- a task that runs and is inside `OSQPend` has been given a message, or its time has passed
  cases hphase : a.phase a.current with
  | absent | delayed | waiting =>
      rw [hphase] at hrunnable
      exact absurd hrunnable Bool.false_ne_true
  | running =>
      rw [hphase] at hstep
      cases hstep
  | handed pmsg =>
      have hkeeps := keeps_osQPendLeave k.os a.current
      obtain ⟨hanswer, htasks⟩ := h.tasks.leaveHanded AbstractKernel.current_lt hphase hactive
      rw [hphase, if_pos (show (TaskPhase.handed pmsg).inPend = true from rfl)] at hstep
      dsimp only at hstep
      rw [hanswer, if_pos rfl] at hstep
      obtain rfl := Option.some.inj hstep
      have hset := h.setPhase hkeeps (hne (by rw [hphase]; exact fun h => by cases h)) (by rw [hphase]; rfl) htasks
        (h.inPend_update rfl)
      exact ⟨_, rfl, ⟨hset.tasks, hset.present, hset.idle, hset.inPend, hset.queue, hset.size, hset.posted,
        (h.receive a.current pmsg).received⟩⟩
  | timedOut =>
      have hkeeps := keeps_osQPendLeave k.os a.current
      obtain ⟨hanswer, htasks⟩ := h.tasks.leaveTimedOut AbstractKernel.current_lt hphase hactive
      rw [hphase, if_pos (show (TaskPhase.timedOut : TaskPhase α).inPend = true from rfl)] at hstep
      dsimp only at hstep
      rw [hanswer, if_neg (fun h => by cases h)] at hstep
      obtain rfl := Option.some.inj hstep
      exact ⟨_, rfl, h.setPhase hkeeps (hne (by rw [hphase]; exact fun h => by cases h)) (by rw [hphase]; rfl) htasks
        (h.inPend_update rfl)⟩

/-- `OSTimeDly`. -/
theorem delay (h : k.Shows a) (ticks : UInt32) {k' : Kernel α} (hstep : k.step (.delay ticks) = some k') :
    ∃ a', a.step (.delay ticks) = some a' ∧ k'.Shows a' := by
  rw [Kernel.step, h.cur_eq, h.inPend_current] at hstep
  rw [AbstractKernel.step]
  split at hstep
  · cases hstep
  · next hout =>
      have hout : ¬ (a.current = 63 ∨ (a.phase a.current).inPend = true) := hout
      rw [if_neg hout]
      obtain rfl := Option.some.inj hstep
      refine ⟨_, rfl, ?_⟩
      obtain ⟨hne, hnot⟩ := not_or.mp hout
      have hrunning := h.current_running hnot
      have hkeeps := keeps_osTimeDly k.os a.current ticks
      by_cases hticks : ticks > 0
      · rw [if_pos hticks]
        refine h.setPhase hkeeps hne (by rw [hrunning]; rfl)
          (h.tasks.timeDly AbstractKernel.current_lt hrunning hticks) fun q hq => ?_
        rw [h.inPend q hq]
        by_cases hsame : q = a.current
        · rw [hsame, update_self, hrunning]
          rfl
        · rw [update_of_ne hsame]
      · -- a delay of no ticks returns at once
        rw [if_neg hticks, osTimeDly, if_neg hticks]
        exact h

/-- Only the flag of a task that is suspended changes. -/
theorem setSuspended (h : k.Shows a) {os : Os α} (hkeeps : Keeps k.os os) {p : ℕ} (hp : p ≠ 63) {b : Bool}
    (htasks : TasksAre os a.phase (update a.suspended p b)) :
    Shows { k with os := os } { a with suspended := update a.suspended p b } where
  tasks := htasks
  present q hq := by
    change _ ↔ q ∈ os.osTcbList.prios
    rw [hkeeps.2]
    exact h.present q hq
  idle := by
    change a.phase 63 = .running ∧ update a.suspended p b 63 = false
    rw [update_of_ne (Ne.symm hp)]
    exact h.idle
  inPend := h.inPend
  queue := by
    change os.osQ.Holds a.queue
    rw [hkeeps.1]
    exact h.queue
  size := by
    change os.osQ.osqSize = a.size
    rw [hkeeps.1]
    exact h.size
  posted := h.posted
  received := h.received

/-- `OSTaskSuspend`. -/
theorem suspend (h : k.Shows a) {p : ℕ} {k' : Kernel α} (hstep : k.step (.suspend p) = some k') :
    ∃ a', a.step (.suspend p) = some a' ∧ k'.Shows a' := by
  rw [Kernel.step] at hstep
  split at hstep
  · next hp =>
      obtain rfl := Option.some.inj hstep
      refine ⟨_, if_pos hp, ?_⟩
      by_cases hmem : p ∈ k.os.osTcbList.prios
      · rw [if_pos ((h.suspendable_iff p).mpr hmem)]
        exact h.setSuspended (keeps_osTaskSuspend k.os p) (Nat.ne_of_lt hp)
          (h.tasks.taskSuspend hmem (Nat.lt_succ_of_lt hp))
      · have hnone : ¬ k.os.HasTcb p := not_or.mpr ⟨hmem, Nat.ne_of_lt hp⟩
        rw [if_neg (mt (h.suspendable_iff p).mp hmem), osTaskSuspend, if_neg hnone]
        exact h
  · cases hstep

/-- `OSTaskResume`. -/
theorem resume (h : k.Shows a) {p : ℕ} {k' : Kernel α} (hstep : k.step (.resume p) = some k') :
    ∃ a', a.step (.resume p) = some a' ∧ k'.Shows a' := by
  rw [Kernel.step] at hstep
  split at hstep
  · next hle =>
      obtain rfl := Option.some.inj hstep
      refine ⟨_, if_pos hle, ?_⟩
      by_cases hmem : p ∈ k.os.osTcbList.prios
      · have hp : p < 63 := k.os.osTcbList.lt p hmem
        have hpresent := (h.present p hp).mpr hmem
        rw [if_pos ((h.suspendable_iff p).mpr hmem)]
        exact h.setSuspended (keeps_osTaskResume k.os p) (Nat.ne_of_lt hp)
          (h.tasks.taskResume hmem (Nat.lt_succ_of_lt hp) hpresent)
      · rw [if_neg (mt (h.suspendable_iff p).mp hmem)]
        by_cases hidle : p = 63
        · -- the idle task is never suspended
          have htcb := (h.tasks p (Nat.lt_succ_of_le hle)).1
          rw [hidle, h.idle.2, ← hidle] at htcb
          rw [htcb.taskResume_eq]
          exact h
        · have hnone : ¬ k.os.HasTcb p := not_or.mpr ⟨hmem, hidle⟩
          rw [osTaskResume, if_neg hnone]
          exact h
  · cases hstep

/-- `OSTimeTick`. -/
theorem tick (h : k.Shows a) :
    ∃ k' a', k.step .tick = some k' ∧ a.step .tick = some a' ∧ k'.Shows a' := by
  refine ⟨_, _, rfl, rfl, ?_⟩
  obtain ⟨hqueue, hlist⟩ := keeps_osTimeTick k.os
  have hlt : ∀ p ∈ k.os.osTcbList.prios, p < 64 :=
    fun p hp => Nat.lt_trans (k.os.osTcbList.lt p hp) (by decide)
  have hbegin : TasksAre { k.os with osTime := k.os.osTime + 1 } a.phase a.suspended :=
    h.tasks.of_eq rfl rfl rfl
  have hticked := hbegin.tickTasks k.os.osTcbList.nodup hlt
  -- the tasks that are not on the list are the idle task and those that do not exist
  have hothers : ∀ p < 64, p ∉ k.os.osTcbList.prios → (a.phase p).tick = a.phase p := by
    intro p hp hmem
    by_cases h63 : p = 63
    · rw [h63, h.idle.1]
      rfl
    · have habsent : ¬ (a.phase p).present = true := mt (h.present p (by omega)).mp hmem
      cases hphase : a.phase p with
      | absent => rfl
      | running | delayed | waiting | timedOut | handed =>
          rw [hphase] at habsent
          exact absurd rfl habsent
  refine ⟨fun p hp => ?_, fun p hp => ?_, ?_, fun p hp => ?_, ?_, ?_, h.posted, h.received⟩
  · have htask : TaskIs (osTimeTick k.os) p
        (if p ∈ k.os.osTcbList.prios then (a.phase p).tick else a.phase p) (a.suspended p) := hticked p hp
    split at htask
    · exact htask
    · next hmem =>
        change TaskIs (osTimeTick k.os) p (a.phase p).tick (a.suspended p)
        rw [hothers p hp hmem]
        exact htask
  · change (a.phase p).tick.present = true ↔ p ∈ (osTimeTick k.os).osTcbList.prios
    rw [TaskPhase.present_tick, hlist, h.present p hp]
  · change (a.phase 63).tick = .running ∧ a.suspended 63 = false
    rw [h.idle.1]
    exact ⟨rfl, h.idle.2⟩
  · change k.inPend p = (a.phase p).tick.inPend
    rw [TaskPhase.inPend_tick, h.inPend p hp]
  · change (osTimeTick k.os).osQ.Holds a.queue
    rw [hqueue]
    exact h.queue
  · change (osTimeTick k.os).osQ.osqSize = a.size
    rw [hqueue]
    exact h.size

/-- **Every step of the kernel is one of the abstract machine.** -/
theorem step (h : k.Shows a) {e : OsEvent α} {k' : Kernel α} (hstep : k.step e = some k') :
    ∃ a', a.step e = some a' ∧ k'.Shows a' := by
  have hdone : (∃ k'' a', k.step e = some k'' ∧ a.step e = some a' ∧ k''.Shows a') →
      ∃ a', a.step e = some a' ∧ k'.Shows a' := by
    rintro ⟨k'', a', hk, ha, hshows⟩
    obtain rfl := Option.some.inj (hk.symm.trans hstep)
    exact ⟨a', ha, hshows⟩
  cases e with
  | post pmsg => exact hdone (h.post pmsg)
  | pend timeout => exact h.pend timeout hstep
  | leave => exact h.leave hstep
  | delay ticks => exact h.delay ticks hstep
  | suspend prio => exact h.suspend hstep
  | resume prio => exact h.resume hstep
  | tick => exact hdone h.tick

end Shows

/-- The tasks that are ready at the start. -/
theorem mem_foldl_insert {p : ℕ} (hp : p < 64) (tasks : List ℕ) (b : PriorityBitmap 8) :
    (tasks.foldl PriorityBitmap.insert b).Mem p ↔ p ∈ tasks ∨ b.Mem p := by
  induction tasks generalizing b with
  | nil => simp
  | cons q tasks ih =>
      rw [List.foldl_cons, ih, mem_insert b hp, List.mem_cons, ← or_assoc, or_comm (b := p = q)]

/-- The start of the kernel shows the start of the abstract machine. -/
theorem shows_start (tasks : TcbList) (storage : CellMemory (Option α)) (size : UInt16) :
    (start tasks storage size).Shows (.start tasks.prios size) where
  tasks p hp := by
    have hmem : (start tasks storage size).os.osRdy.Mem p ↔ p ∈ tasks.prios ∨ p = 63 := by
      refine (mem_foldl_insert hp _ _).trans (or_congr_right ((mem_insert _ hp).trans ?_))
      exact or_iff_left (not_mem_empty p)
    have hlisted : ¬ (start tasks storage size).os.osEvent.Mem p := not_mem_empty p
    change TaskIs _ p (if p ∈ tasks.prios ∨ p = 63 then .running else .absent) false
    split
    · next hthere =>
        exact ⟨⟨(by decide : osStatRdy = statOf false false), rfl, rfl, nofun, nofun⟩,
          iff_of_false hlisted Bool.false_ne_true, iff_of_true (hmem.mpr hthere) ⟨rfl, rfl⟩⟩
    · next hnot =>
        exact ⟨⟨(by decide : osStatRdy = statOf false false), rfl, rfl, nofun, nofun⟩,
          iff_of_false hlisted Bool.false_ne_true, iff_of_false (mt hmem.mp hnot) (by nofun)⟩
  present p hp := by
    change (if p ∈ tasks.prios ∨ p = 63 then TaskPhase.running else TaskPhase.absent).present = true ↔
      p ∈ tasks.prios
    split
    · next hthere => exact iff_of_true rfl (hthere.resolve_right (by omega))
    · next hnot => exact iff_of_false Bool.false_ne_true (not_or.mp hnot).1
  idle := ⟨if_pos (.inr rfl), rfl⟩
  inPend p hp := by
    change false = (if p ∈ tasks.prios ∨ p = 63 then TaskPhase.running else TaskPhase.absent).inPend
    split <;> rfl
  queue := OsQ.Holds.create storage size
  size := rfl
  posted := rfl
  received := rfl

end Kernel

/-- **The kernel refines the abstract machine**: in any run of posts, requests, delays, timeouts, suspensions and
ticks its tables show, step for step, what the abstract machine does. -/
theorem kernel_refines (tasks : TcbList) (storage : CellMemory (Option α)) (size : UInt16)
    (events : List (OsEvent α)) :
    Refines Kernel.step AbstractKernel.step Kernel.Shows (.start tasks storage size) (.start tasks.prios size)
      events :=
  refines_of_step (fun _ _ _ _ h hstep => h.step hstep) (Kernel.shows_start tasks storage size) events

/-! ## Messages -/

/-- The messages in the ring. -/
def OsQ.messages (q : OsQ α) : List (Option α) :=
  RingQueue.contents q.storage q.osqSize.toNat q.osqOut q.osqEntries.toNat

namespace Kernel

variable (k : Kernel α)

/-- The message that task `p` was given while it waited, before it comes back. -/
def inHand (p : ℕ) : List (Option α) :=
  if k.inPend p = true ∧ ¬ k.os.osEvent.Mem p then [(k.os.osTcbPrioTbl p).osTcbMsg] else []

/-- What is always true of the kernel: the accepted messages are those the tasks took, in the order in which
they took them, and those in the ring; every task has received what it took, but for what it was given a moment
ago; nobody waits while the ring holds a message; the task that runs is the first of those that are neither
suspended nor waiting nor asleep. -/
structure Sound : Prop where
  fifo : ∃ assigned : List (ℕ × Option α), k.posted = assigned.map Prod.snd ++ k.os.osQ.messages ∧
    ∀ p < 64, k.received p ++ k.inHand p = AbstractKernel.givenTo assigned p
  idle : k.os.osQ.osqEntries > 0 → k.os.osEvent.grp = 0#8
  room : k.os.osQ.osqEntries ≤ k.os.osQ.osqSize
  ready : ∀ p ∈ k.os.osTcbList.prios, k.os.osRdy.Mem p ↔
    (k.os.osTcbPrioTbl p).osTcbStat = osStatRdy ∧ (k.os.osTcbPrioTbl p).osTcbDly = 0
  first : k.os.osRdy.Mem (osSchedNew k.os) ∧ ∀ p < 64, k.os.osRdy.Mem p → osSchedNew k.os ≤ p

variable {k} {a : AbstractKernel α}

/-- The message in a task's hand is in the hand of the abstract task. -/
theorem Shows.inHand_eq (h : k.Shows a) {p : ℕ} (hp : p < 64) : k.inHand p = (a.phase p).inHand := by
  obtain ⟨htcb, hlisted, -⟩ := h.tasks p hp
  have hhand : (k.inPend p = true ∧ ¬ k.os.osEvent.Mem p) ↔
      (a.phase p).inPend = true ∧ ¬ (a.phase p).listed = true := by
    rw [h.inPend p hp, hlisted]
  refine (if_congr hhand rfl rfl).trans ?_
  cases hphase : a.phase p with
  | handed pmsg =>
      rw [if_pos ⟨rfl, Bool.false_ne_true⟩, htcb.msg pmsg hphase]
      rfl
  | absent | running | delayed => exact if_neg fun hand => Bool.false_ne_true hand.1
  | waiting | timedOut => exact if_neg fun hand => hand.2 rfl

/-- A task on the list is ready just when its control block says so. -/
theorem Shows.ready_iff (h : k.Shows a) {p : ℕ} (hmem : p ∈ k.os.osTcbList.prios) : k.os.osRdy.Mem p ↔
    (k.os.osTcbPrioTbl p).osTcbStat = osStatRdy ∧ (k.os.osTcbPrioTbl p).osTcbDly = 0 := by
  have hp : p < 63 := k.os.osTcbList.lt p hmem
  obtain ⟨htcb, -, hready⟩ := h.tasks p (by omega)
  have hrunnable := htcb.runnable_iff ((h.present p hp).mpr hmem)
  have hstat : statOf (a.phase p).pending (a.suspended p) = osStatRdy ↔
      (a.phase p).pending = false ∧ a.suspended p = false := by
    cases (a.phase p).pending <;> cases a.suspended p <;> decide
  rw [hready, ← hrunnable, htcb.stat, htcb.dly, hstat]
  exact and_right_comm

/-- **What the abstract machine keeps the kernel keeps.** -/
theorem Shows.sound (h : k.Shows a) (hfifo : a.Fifo) : k.Sound where
  fifo := by
    refine ⟨a.assigned, ?_, fun p hp => ?_⟩
    · rw [h.posted, hfifo.posted, OsQ.messages, h.queue.contents]
    · rw [h.received, h.inHand_eq hp, hfifo.received]
  idle hpos := by
    by_contra hgrp
    obtain ⟨p, hp, hmem⟩ := (grp_ne_zero_iff findsLowest_osUnMap).mp hgrp
    have hlisted := (h.tasks p hp).listed.mp hmem
    rw [hfifo.idle (h.queue.entries_pos_iff.mp hpos) p hp] at hlisted
    exact Bool.false_ne_true hlisted
  room := UInt16.le_iff_toNat_le.mpr h.queue.entries_le
  ready _ hmem := h.ready_iff hmem
  first := by
    have hcur : k.os.osRdy.Mem (osSchedNew k.os) := by
      rw [h.cur_eq]
      exact (h.tasks _ AbstractKernel.current_lt).ready.mpr h.current_active
    exact ⟨hcur, fun p hp hmem => first_le findsLowest_osUnMap hp hmem⟩

end Kernel

/-- **Messages are neither lost nor doubled nor reordered, nobody sleeps over a message, and the right task
runs**, in every run of the kernel. -/
theorem messages_fifo (tasks : TcbList) (storage : CellMemory (Option α)) (size : UInt16)
    (events : List (OsEvent α)) :
    AllReached Kernel.step Kernel.Sound (.start tasks storage size) events := by
  have hrefines : Refines Kernel.step AbstractKernel.step Kernel.Shows (.start tasks storage size)
      (.start tasks.prios size) events :=
    refines_of_step (fun _ _ _ _ h hstep => h.step hstep) (Kernel.shows_start tasks storage size) events
  exact hrefines.allReached (fun _ _ h hfifo => h.sound hfifo) (AbstractKernel.fifo tasks.prios size events)

end RtuShuiwen
