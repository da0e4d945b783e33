import RtuShuiwen.Library.TransitionSystem
import Mathlib.Logic.Function.Basic

/-! # What the operating system is for

Tasks run, wait for a message, or sleep, and may be suspended besides; messages go to the tasks that wait, or
into a list. `AbstractKernel.fifo` is about this machine alone: the messages that were accepted are those that
were given to a task, in this order, and the ones in the list. -/

namespace RtuShuiwen

open Function TransitionSystem

variable {α : Type}

/-! ## Tasks -/

/-- What a task is doing: not there, running or ready to, sleeping for some ticks, waiting for a message (for
some ticks; 0 is for ever), about to find out that it waited too long, or that it was given a message. -/
inductive TaskPhase (α : Type)
  | absent
  | running
  | delayed (ticks : UInt32)
  | waiting (ticks : UInt32)
  | timedOut
  | handed (pmsg : Option α)

namespace TaskPhase

/-- The task exists. -/
def present : TaskPhase α → Bool
  | .absent => false
  | _ => true

/-- It could go on. -/
def runnable : TaskPhase α → Bool
  | .running | .timedOut | .handed _ => true
  | _ => false

/-- It is on the wait list. -/
def listed : TaskPhase α → Bool
  | .waiting _ | .timedOut => true
  | _ => false

/-- It is inside `OSQPend`. -/
def inPend : TaskPhase α → Bool
  | .waiting _ | .timedOut | .handed _ => true
  | _ => false

/-- The ticks it sleeps or waits. -/
def ticks : TaskPhase α → UInt32
  | .delayed ticks | .waiting ticks => ticks
  | _ => 0

/-- The messages it was given and does not know of yet. -/
def inHand : TaskPhase α → List (Option α)
  | .handed pmsg => [pmsg]
  | _ => []

/-- A tick. -/
def tick : TaskPhase α → TaskPhase α
  | .delayed ticks => if ticks = 0 then .delayed 0 else if ticks - 1 = 0 then .running else .delayed (ticks - 1)
  | .waiting ticks => if ticks = 0 then .waiting 0 else if ticks - 1 = 0 then .timedOut else .waiting (ticks - 1)
  | phase => phase

/-- A tick takes nobody from the wait list. -/
@[simp] theorem listed_tick (phase : TaskPhase α) : phase.tick.listed = phase.listed := by
  cases phase <;> simp only [tick] <;> (repeat' split) <;> rfl

/-- It takes nobody's message. -/
@[simp] theorem inHand_tick (phase : TaskPhase α) : phase.tick.inHand = phase.inHand := by
  cases phase <;> simp only [tick] <;> (repeat' split) <;> rfl

/-- It neither lets a task into `OSQPend` nor out of it. -/
@[simp] theorem inPend_tick (phase : TaskPhase α) : phase.tick.inPend = phase.inPend := by
  cases phase <;> simp only [tick] <;> (repeat' split) <;> rfl

/-- And no task comes or goes. -/
@[simp] theorem present_tick (phase : TaskPhase α) : phase.tick.present = phase.present := by
  cases phase <;> simp only [tick] <;> (repeat' split) <;> rfl

end TaskPhase

/-! ## The machine -/

/-- The tasks, the list of the messages and how many it takes; and, as its history, the messages that were
accepted, which task was given which, and what every task has received. -/
structure AbstractKernel (α : Type) where
  phase : ℕ → TaskPhase α
  suspended : ℕ → Bool
  queue : List (Option α)
  size : UInt16
  posted : List (Option α)
  assigned : List (ℕ × Option α)
  received : ℕ → List (Option α)

/-- What happens: a task or an interrupt posts a message, the running task asks for one, comes back from asking,
or sleeps, a task other than the idle one is suspended, a task is resumed, and the clock ticks. -/
inductive OsEvent (α : Type)
  | post (pmsg : Option α)
  | pend (timeout : UInt32)
  | leave
  | delay (ticks : UInt32)
  | suspend (prio : ℕ)
  | resume (prio : ℕ)
  | tick

namespace AbstractKernel

variable (a : AbstractKernel α)

/-- The waiting task with the highest priority. -/
def firstWaiter : Option ℕ := (List.range 64).find? fun p => (a.phase p).listed

/-- The task that runs: the one with the highest priority of those that can; 63 is the idle task. -/
def current : ℕ := ((List.range 64).find? fun p => (a.phase p).runnable && !a.suspended p).getD 63

/-- The tasks that can be suspended and resumed: those that exist, but for the idle task. -/
def suspendable (p : ℕ) : Bool := p < 63 && (a.phase p).present

/-- A task is given a message. -/
def give (p : ℕ) (pmsg : Option α) : AbstractKernel α :=
  { a with
    phase := update a.phase p (.handed pmsg)
    posted := a.posted ++ [pmsg]
    assigned := a.assigned ++ [(p, pmsg)] }

/-- A task has received a message. -/
def receive (p : ℕ) (pmsg : Option α) : AbstractKernel α :=
  { a with received := update a.received p (a.received p ++ [pmsg]) }

/-- One event. -/
def step : OsEvent α → Option (AbstractKernel α)
  | .post pmsg =>
      match a.firstWaiter with
      | some p => some (a.give p pmsg)
      | none =>
          if a.queue.length < a.size.toNat then
            some { a with queue := a.queue ++ [pmsg], posted := a.posted ++ [pmsg] }
          else some a
  | .pend timeout =>
      if a.current = 63 ∨ (a.phase a.current).inPend = true then none
      else
        match a.queue with
        | pmsg :: queue =>
            some ({ a with queue := queue, assigned := a.assigned ++ [(a.current, pmsg)] }.receive
              a.current pmsg)
        | [] => some { a with phase := update a.phase a.current (.waiting timeout) }
  | .leave =>
      match a.phase a.current with
      | .handed pmsg => some ({ a with phase := update a.phase a.current .running }.receive a.current pmsg)
      | .timedOut => some { a with phase := update a.phase a.current .running }
      | _ => none
  | .delay ticks =>
      if a.current = 63 ∨ (a.phase a.current).inPend = true then none
      else some (if ticks > 0 then { a with phase := update a.phase a.current (.delayed ticks) } else a)
  | .suspend prio =>
      if prio < 63 then
        some (if a.suspendable prio then { a with suspended := update a.suspended prio true } else a)
      else none
  | .resume prio =>
      if prio ≤ 63 then
        some (if a.suspendable prio then { a with suspended := update a.suspended prio false } else a)
      else none
  | .tick => some { a with phase := fun p => (a.phase p).tick }

/-- The machine at the start: the tasks are ready to run and there are no messages. -/
def start (prios : List ℕ) (size : UInt16) : AbstractKernel α where
  phase p := if p ∈ prios ∨ p = 63 then .running else .absent
  suspended _ := false
  queue := []
  size := size
  posted := []
  assigned := []
  received _ := []

/-! ## Nothing is lost -/

/-- The messages that task `p` was given. -/
def givenTo (assigned : List (ℕ × Option α)) (p : ℕ) : List (Option α) :=
  (assigned.filter fun x => x.1 = p).map Prod.snd

/-- One more message is given. -/
theorem givenTo_append (assigned : List (ℕ × Option α)) (p q : ℕ) (pmsg : Option α) :
    givenTo (assigned ++ [(p, pmsg)]) q = givenTo assigned q ++ if p = q then [pmsg] else [] := by
  rw [givenTo, List.filter_append, List.map_append, givenTo]
  by_cases hsame : p = q
  · simp [hsame]
  · simp [hsame]

/-- The accepted messages are those that were given to a task and those in the list; every task has received
those it was given, but for the one it does not know of yet; and no task waits while there are messages. -/
structure Fifo : Prop where
  posted : a.posted = a.assigned.map Prod.snd ++ a.queue
  received : ∀ p, a.received p ++ (a.phase p).inHand = givenTo a.assigned p
  idle : a.queue ≠ [] → ∀ p < 64, (a.phase p).listed = false
  room : a.queue.length ≤ a.size.toNat

variable {a}

/-- The running task is one of the 64. -/
theorem current_lt : a.current < 64 := by
  rw [current]
  cases hfind : (List.range 64).find? fun p => (a.phase p).runnable && !a.suspended p with
  | none => decide
  | some p => exact List.mem_range.mp (List.mem_of_find?_eq_some hfind)

/-- A waiting task is found. -/
theorem firstWaiter_eq_some {p : ℕ} (hp : a.firstWaiter = some p) : p < 64 ∧ (a.phase p).listed = true :=
  ⟨List.mem_range.mp (List.mem_of_find?_eq_some hp), List.find?_some (p := fun p => (a.phase p).listed) hp⟩

/-- There is none. -/
theorem firstWaiter_eq_none (hnone : a.firstWaiter = none) {p : ℕ} (hp : p < 64) :
    (a.phase p).listed = false := by
  have hall := List.find?_range_eq_none.mp hnone p hp
  rwa [Bool.not_eq_true'] at hall

/-- A task on the wait list holds no message. -/
theorem inHand_of_listed {phase : TaskPhase α} (hlisted : phase.listed = true) : phase.inHand = [] := by
  cases phase with
  | waiting | timedOut => rfl
  | absent | running | delayed | handed => exact absurd hlisted Bool.false_ne_true

/-- A task that is not inside `OSQPend` holds none either. -/
theorem inHand_of_not_inPend {phase : TaskPhase α} (hout : ¬ phase.inPend = true) : phase.inHand = [] := by
  cases phase with
  | absent | running | delayed => rfl
  | waiting | timedOut | handed => exact absurd rfl hout

/-- The phases of the other tasks. -/
theorem inHand_update {p : ℕ} {phase : TaskPhase α} (q : ℕ) :
    (update a.phase p phase q).inHand = if q = p then phase.inHand else (a.phase q).inHand := by
  rw [update_apply]
  split <;> rfl

/-- A task that holds no message before it changes its phase and none behind it. -/
theorem inHand_update_same {p : ℕ} {phase : TaskPhase α} (hsame : phase.inHand = (a.phase p).inHand) (q : ℕ) :
    (update a.phase p phase q).inHand = (a.phase q).inHand := by
  rw [inHand_update]
  split
  · next heq => rw [heq, hsame]
  · rfl

/-- A task leaves the wait list or stays off it. -/
theorem listed_update {p : ℕ} {phase : TaskPhase α} (hoff : phase.listed = false) {q : ℕ}
    (hq : (a.phase q).listed = false) : (update a.phase p phase q).listed = false := by
  rw [update_apply]
  split
  · exact hoff
  · exact hq

/-- A task changes its phase, and neither holds a message nor waits behind that. -/
theorem Fifo.setPhase (h : a.Fifo) {p : ℕ} {phase : TaskPhase α} (hhand : phase.inHand = (a.phase p).inHand)
    (hoff : phase.listed = false) : ({ a with phase := update a.phase p phase } : AbstractKernel α).Fifo where
  posted := h.posted
  received q := by
    rw [← h.received q]
    exact congrArg (a.received q ++ ·) (inHand_update_same hhand q)
  idle hne q hq := listed_update hoff (h.idle hne q hq)
  room := h.room

/-- A message is given to a task that waits. -/
theorem Fifo.give (h : a.Fifo) {p : ℕ} (hp : p < 64) (hlisted : (a.phase p).listed = true) (pmsg : Option α) :
    (a.give p pmsg).Fifo where
  posted := by
    have hempty : a.queue = [] := by
      by_contra hne
      exact absurd hlisted (by rw [h.idle hne p hp]; exact Bool.false_ne_true)
    change a.posted ++ [pmsg] = (a.assigned ++ [(p, pmsg)]).map Prod.snd ++ a.queue
    rw [h.posted, hempty, List.append_nil, List.append_nil, List.map_append]
    rfl
  received q := by
    change a.received q ++ (update a.phase p (.handed pmsg) q).inHand = givenTo (a.assigned ++ [(p, pmsg)]) q
    rw [givenTo_append, inHand_update, ← h.received q]
    by_cases hsame : q = p
    · subst hsame
      rw [if_pos rfl, if_pos rfl, inHand_of_listed hlisted, List.append_nil]
      rfl
    · rw [if_neg hsame, if_neg (Ne.symm hsame), List.append_nil]
  idle hne q hq := listed_update rfl (h.idle hne q hq)
  room := h.room

/-- A message is accepted into the list. -/
theorem Fifo.insert (h : a.Fifo) (hnone : a.firstWaiter = none) (hroom : a.queue.length < a.size.toNat)
    (pmsg : Option α) :
    ({ a with queue := a.queue ++ [pmsg], posted := a.posted ++ [pmsg] } : AbstractKernel α).Fifo where
  posted := by
    change a.posted ++ [pmsg] = a.assigned.map Prod.snd ++ (a.queue ++ [pmsg])
    rw [h.posted, List.append_assoc]
  received := h.received
  idle _ q hq := firstWaiter_eq_none hnone hq
  room := by
    change (a.queue ++ [pmsg]).length ≤ a.size.toNat
    rw [List.length_append, List.length_singleton]
    exact hroom

/-- The oldest message of the list is received by a task that is not inside `OSQPend`. -/
theorem Fifo.extract (h : a.Fifo) {p : ℕ} (hout : ¬ (a.phase p).inPend = true) {pmsg : Option α}
    {queue : List (Option α)} (hqueue : a.queue = pmsg :: queue) :
    (({ a with queue := queue, assigned := a.assigned ++ [(p, pmsg)] } : AbstractKernel α).receive
      p pmsg).Fifo where
  posted := by
    change a.posted = (a.assigned ++ [(p, pmsg)]).map Prod.snd ++ queue
    rw [h.posted, hqueue, List.map_append, List.append_assoc]
    rfl
  received q := by
    change update a.received p (a.received p ++ [pmsg]) q ++ (a.phase q).inHand =
      givenTo (a.assigned ++ [(p, pmsg)]) q
    rw [givenTo_append, ← h.received q, update_apply]
    by_cases hsame : q = p
    · subst hsame
      rw [if_pos rfl, if_pos rfl, inHand_of_not_inPend hout, List.append_nil, List.append_nil]
    · rw [if_neg hsame, if_neg (Ne.symm hsame), List.append_nil]
  idle _ q hq := by
    have hne : a.queue ≠ [] := by
      rw [hqueue]
      exact List.cons_ne_nil _ _
    exact h.idle hne q hq
  room := by
    have hlength := h.room
    rw [hqueue, List.length_cons] at hlength
    exact Nat.le_of_succ_le hlength

/-- A task receives the message it was given. -/
theorem Fifo.leave (h : a.Fifo) {p : ℕ} {pmsg : Option α} (hphase : a.phase p = .handed pmsg) :
    (({ a with phase := update a.phase p .running } : AbstractKernel α).receive p pmsg).Fifo where
  posted := h.posted
  received q := by
    change update a.received p (a.received p ++ [pmsg]) q ++ (update a.phase p .running q).inHand =
      givenTo a.assigned q
    rw [inHand_update, ← h.received q, update_apply]
    by_cases hsame : q = p
    · subst hsame
      rw [if_pos rfl, if_pos rfl, hphase]
      exact List.append_nil _
    · rw [if_neg hsame, if_neg hsame]
  idle hne q hq := listed_update rfl (h.idle hne q hq)
  room := h.room

/-- A task that asks finds the list empty, and waits. -/
theorem Fifo.wait (h : a.Fifo) {p : ℕ} (hout : ¬ (a.phase p).inPend = true) (hempty : a.queue = [])
    (timeout : UInt32) : ({ a with phase := update a.phase p (.waiting timeout) } : AbstractKernel α).Fifo where
  posted := h.posted
  received q := by
    have hhand : (TaskPhase.waiting timeout).inHand = (a.phase p).inHand := (inHand_of_not_inPend hout).symm
    rw [← h.received q]
    exact congrArg (a.received q ++ ·) (inHand_update_same hhand q)
  idle hne := absurd hempty hne
  room := h.room

/-- **Every event keeps it.** -/
theorem Fifo.step (h : a.Fifo) {e : OsEvent α} {a' : AbstractKernel α} (hstep : a.step e = some a') : a'.Fifo := by
  cases e with
  | post pmsg =>
      rw [AbstractKernel.step] at hstep
      split at hstep
      · next p hp =>
          obtain rfl := Option.some.inj hstep
          exact h.give (firstWaiter_eq_some hp).1 (firstWaiter_eq_some hp).2 pmsg
      · next hnone =>
          split at hstep
          · next hroom =>
              obtain rfl := Option.some.inj hstep
              exact h.insert hnone hroom pmsg
          · obtain rfl := Option.some.inj hstep
            exact h
  | pend timeout =>
      rw [AbstractKernel.step] at hstep
      split at hstep
      · cases hstep
      · next hcur =>
          split at hstep
          · next pmsg queue hqueue =>
              obtain rfl := Option.some.inj hstep
              exact h.extract (not_or.mp hcur).2 hqueue
          · next hempty =>
              obtain rfl := Option.some.inj hstep
              exact h.wait (not_or.mp hcur).2 hempty timeout
  | leave =>
      rw [AbstractKernel.step] at hstep
      split at hstep
      · next pmsg hphase =>
          obtain rfl := Option.some.inj hstep
          exact h.leave hphase
      · next hphase =>
          obtain rfl := Option.some.inj hstep
          exact h.setPhase (by rw [hphase]; rfl) rfl
      · cases hstep
  | delay ticks =>
      rw [AbstractKernel.step] at hstep
      split at hstep
      · cases hstep
      · next hcur =>
          obtain rfl := Option.some.inj hstep
          split
          · exact h.setPhase (inHand_of_not_inPend (not_or.mp hcur).2).symm rfl
          · exact h
  | suspend prio | resume prio =>
      rw [AbstractKernel.step] at hstep
      split at hstep
      · obtain rfl := Option.some.inj hstep
        split
        · exact ⟨h.posted, h.received, h.idle, h.room⟩
        · exact h
      · cases hstep
  | tick =>
      obtain rfl := Option.some.inj hstep
      refine ⟨h.posted, fun p => ?_, fun hne p hp => ?_, h.room⟩
      · change a.received p ++ (a.phase p).tick.inHand = _
        rw [TaskPhase.inHand_tick, h.received]
      · change (a.phase p).tick.listed = false
        rw [TaskPhase.listed_tick, h.idle hne p hp]

/-- It holds at the start. -/
theorem fifo_start (prios : List ℕ) (size : UInt16) : (start prios size : AbstractKernel α).Fifo where
  posted := rfl
  received p := by
    change [] ++ (if p ∈ prios ∨ p = 63 then TaskPhase.running else TaskPhase.absent).inHand = []
    split <;> rfl
  idle hne := absurd rfl hne
  room := Nat.zero_le _

/-- **Messages are neither lost nor doubled nor reordered**, in any run. -/
theorem fifo (prios : List ℕ) (size : UInt16) (events : List (OsEvent α)) :
    AllReached AbstractKernel.step Fifo (start prios size) events :=
  allReached_of_step (fun _ _ _ h hstep => h.step hstep) (fifo_start prios size) events

end AbstractKernel

end RtuShuiwen
