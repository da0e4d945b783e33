import RtuShuiwen.Ucosii.KernelRefinement

/-! # Mailboxes of the network stack

`sys_arch.c` makes a mailbox of a queue of the operating system: at most 20 messages, and the address of a
constant in the place of the message `NULL`. `mailbox_refines` is about a mailbox that one task reads, as the
`recvmbox` of a connection, and reads without a timeout: whatever the other tasks, the interrupts and the clock
do to the kernel, the mailbox is the list that `Mailbox` says, and it is valid for `sys_mbox_valid` just when
there is room. -/

namespace RtuShuiwen

open Function TransitionSystem

variable {β : Type}

/-! ## The functions -/

/-- `MAX_QUEUE_ENTRIES`. -/
def maxQueueEntries : UInt16 := 20

/-- A pointer in the queue of a mailbox: to a message, or `&pvNullPointer`. -/
inductive QueuePtr (β : Type)
  | pvNullPointer
  | msg (msg : β)

/-- What `sys_mbox_post` and `sys_mbox_trypost` make of a message; `none` is `NULL`. -/
def toQueue : Option β → QueuePtr β
  | none => .pvNullPointer
  | some msg => .msg msg

/-- What `sys_arch_mbox_fetch` makes of the answer of the queue. -/
def fromQueue : Option (QueuePtr β) → Option β
  | some (.msg msg) => some msg
  | some .pvNullPointer => none
  | none => none

/-- The message comes out as it went in, `NULL` too. -/
@[simp] theorem fromQueue_toQueue (msg : Option β) : fromQueue (some (toQueue msg)) = msg := by
  cases msg <;> rfl

/-- `sys_mbox_valid`. -/
def sysMboxValid (os : Os (QueuePtr β)) : Bool := (osQQuery os).1 < (osQQuery os).2

/-- What happens: a message is posted with `sys_mbox_trypost`, the reader calls `sys_arch_mbox_fetch` without a
timeout, or comes back from waiting in it; and a task sleeps, is suspended or resumed, or the clock ticks. -/
inductive MboxEvent (β : Type)
  | trypost (msg : Option β)
  | fetch
  | wake
  | delay (ticks : UInt32)
  | suspend (prio : ℕ)
  | resume (prio : ℕ)
  | tick

/-- What that is for the kernel. -/
def MboxEvent.os : MboxEvent β → OsEvent (QueuePtr β)
  | .trypost msg => .post (some (toQueue msg))
  | .fetch => .pend 0
  | .wake => .leave
  | .delay ticks => .delay ticks
  | .suspend prio => .suspend prio
  | .resume prio => .resume prio
  | .tick => .tick

/-- An event that only the reader brings about. -/
def MboxEvent.byReader : MboxEvent β → Bool
  | .fetch | .wake => true
  | _ => false

/-- One event, with the reader at priority `reader`. -/
def mboxStep (reader : ℕ) (k : Kernel (QueuePtr β)) (e : MboxEvent β) : Option (Kernel (QueuePtr β)) :=
  if e.byReader = true ∧ osSchedNew k.os ≠ reader then none else k.step e.os

/-! ## What a mailbox is for -/

/-- The only reader: not in `sys_arch_mbox_fetch`, waiting in it, or given a message while it waited. -/
inductive MboxReader (β : Type)
  | away
  | waiting
  | handed (msg : Option β)

/-- A mailbox: the messages, the reader, and the messages it has received. -/
structure Mailbox (β : Type) where
  queue : List (Option β)
  reader : MboxReader β
  received : List (Option β)

namespace Mailbox

/-- A new mailbox. -/
def new : Mailbox β := ⟨[], .away, []⟩

/-- There is room. -/
def valid (m : Mailbox β) : Bool := m.queue.length < maxQueueEntries.toNat

/-- A message is posted: it is lost when there is neither a waiting reader nor room. -/
def trypost (m : Mailbox β) (msg : Option β) : Bool × Mailbox β :=
  match m.reader with
  | .waiting => (true, { m with reader := .handed msg })
  | _ => if m.valid then (true, { m with queue := m.queue ++ [msg] }) else (false, m)

/-- The reader takes the oldest message, or waits for one. -/
def fetch (m : Mailbox β) : Option (Option β) × Mailbox β :=
  match m.queue with
  | msg :: queue => (some msg, { m with queue := queue, received := m.received ++ [msg] })
  | [] => (none, { m with reader := .waiting })

/-- The reader comes back from waiting. -/
def wake (m : Mailbox β) : Option (Option β × Mailbox β) :=
  match m.reader with
  | .handed msg => some (msg, { m with reader := .away, received := m.received ++ [msg] })
  | _ => none

/-- One event; what the other tasks and the clock do is nothing to the mailbox. -/
def step (m : Mailbox β) : MboxEvent β → Option (Mailbox β)
  | .trypost msg => some (m.trypost msg).2
  | .fetch =>
      match m.reader with
      | .away => some m.fetch.2
      | _ => none
  | .wake => m.wake.map Prod.snd
  | .delay _ | .suspend _ | .resume _ | .tick => some m

end Mailbox

/-! ## Its messages -/

namespace Mailbox

/-- The messages that were posted and not received: the one that was given to the waiting reader, and those in
the mailbox. -/
def messages (m : Mailbox β) : List (Option β) :=
  match m.reader with
  | .handed msg => msg :: m.queue
  | _ => m.queue

/-- There are at most 20 messages in it, and none while the reader waits. -/
structure Ok (m : Mailbox β) : Prop where
  room : m.queue.length ≤ maxQueueEntries.toNat
  waiting : m.reader = .waiting → m.queue = []

variable {m : Mailbox β}

/-- While the reader is away all the messages are in the mailbox. -/
theorem messages_of_away (haway : m.reader = .away) : m.messages = m.queue := by rw [messages, haway]

/-- No message is lost from sight. -/
theorem length_queue_le : m.queue.length ≤ m.messages.length := by
  rw [messages]
  split
  · exact Nat.le_succ _
  · exact Nat.le_refl _

/-- A new mailbox has none. -/
theorem ok_new : (new : Mailbox β).Ok := ⟨Nat.zero_le _, nofun⟩

/-- While the reader waits there is room. -/
theorem Ok.valid_of_waiting (h : m.Ok) (hwaiting : m.reader = .waiting) : m.valid = true := by
  rw [valid, h.waiting hwaiting]
  rfl

/-- Unless the reader waits, a message that finds room goes to the end of the mailbox. -/
theorem trypost_valid (hreader : m.reader ≠ .waiting) (hvalid : m.valid = true) (msg : Option β) :
    m.trypost msg = (true, { m with queue := m.queue ++ [msg] }) := by
  cases hreader' : m.reader with
  | waiting => exact absurd hreader' hreader
  | away | handed =>
      rw [trypost, hreader']
      exact if_pos hvalid

/-- **A message that finds room** is the last one. -/
theorem Ok.trypost (h : m.Ok) (hvalid : m.valid = true) (msg : Option β) :
    (m.trypost msg).1 = true ∧ (m.trypost msg).2.Ok ∧ (m.trypost msg).2.messages = m.messages ++ [msg] ∧
      ((m.trypost msg).2.reader = .away ↔ m.reader = .away) := by
  have hlt : m.queue.length < maxQueueEntries.toNat := of_decide_eq_true hvalid
  have hroom : (m.queue ++ [msg]).length ≤ maxQueueEntries.toNat := by
    rw [List.length_append]
    exact hlt
  cases hreader : m.reader with
  | waiting =>
      have hempty := h.waiting hreader
      have hpost : m.trypost msg = (true, { m with reader := .handed msg }) := by rw [Mailbox.trypost, hreader]
      have hmessages : m.messages = m.queue := by rw [messages, hreader]
      rw [hpost, hmessages]
      refine ⟨rfl, ⟨h.room, nofun⟩, ?_, iff_of_false nofun nofun⟩
      change msg :: m.queue = m.queue ++ [msg]
      rw [hempty]
      rfl
  | away | handed =>
      rw [trypost_valid (by rw [hreader]; nofun) hvalid]
      refine ⟨rfl, ⟨hroom, fun hwaiting => absurd (hreader.symm.trans hwaiting) nofun⟩, ?_, ?_⟩
      · simp only [messages, hreader, List.cons_append]
      · rw [← hreader]

/-- A message that finds no room is lost. -/
theorem Ok.trypost_full (h : m.Ok) (hfull : m.valid = false) (msg : Option β) : m.trypost msg = (false, m) := by
  cases hreader : m.reader with
  | waiting => exact absurd (h.valid_of_waiting hreader) (by rw [hfull]; exact Bool.false_ne_true)
  | away | handed =>
      rw [Mailbox.trypost, hreader]
      exact if_neg (by rw [hfull]; exact Bool.false_ne_true)

/-- What becomes of the mailbox when some messages are posted. -/
def posts (m : Mailbox β) (msgs : List (Option β)) : Mailbox β := msgs.foldl (fun m msg => (m.trypost msg).2) m

/-- First some, then others. -/
theorem posts_append (m : Mailbox β) (msgs msgs' : List (Option β)) :
    m.posts (msgs ++ msgs') = (m.posts msgs).posts msgs' := List.foldl_append

/-- A message more makes the mailbox one longer at most. -/
theorem length_queue_trypost (m : Mailbox β) (msg : Option β) :
    (m.trypost msg).2.queue.length ≤ m.queue.length + 1 := by
  rw [trypost]
  split
  · exact Nat.le_succ _
  · split
    · exact (List.length_append).le
    · exact Nat.le_succ _

/-- While there is room nothing is lost. -/
theorem Ok.posts_room (h : m.Ok) {msgs : List (Option β)}
    (hroom : m.queue.length + msgs.length ≤ maxQueueEntries.toNat) :
    (m.posts msgs).messages = m.messages ++ msgs := by
  induction msgs generalizing m with
  | nil => exact (List.append_nil _).symm
  | cons msg msgs ih =>
      rw [List.length_cons] at hroom
      obtain ⟨-, hok, hmessages, -⟩ := h.trypost (decide_eq_true (by omega)) msg
      have hlength := m.length_queue_trypost msg
      rw [posts, List.foldl_cons, ← posts, ih hok (by omega), hmessages, List.append_assoc]
      rfl

/-- A full mailbox keeps nothing. -/
theorem Ok.posts_of_full (h : m.Ok) (hfull : m.valid = false) (msgs : List (Option β)) : m.posts msgs = m := by
  induction msgs with
  | nil => rfl
  | cons msg msgs ih =>
      rw [posts, List.foldl_cons, h.trypost_full hfull, ← posts]
      exact ih

/-- In any case the first ones are kept, and the mailbox stays as it must be. -/
theorem Ok.posts (h : m.Ok) (msgs : List (Option β)) :
    (m.posts msgs).Ok ∧ (∃ posted, posted <+: msgs ∧ (m.posts msgs).messages = m.messages ++ posted) ∧
      ((m.posts msgs).reader = .away ↔ m.reader = .away) := by
  induction msgs generalizing m with
  | nil => exact ⟨h, ⟨[], List.prefix_rfl, (List.append_nil _).symm⟩, Iff.rfl⟩
  | cons msg msgs ih =>
      cases hvalid : m.valid with
      | true =>
          obtain ⟨-, hok, hmessages, haway⟩ := h.trypost hvalid msg
          obtain ⟨hok', ⟨posted, hprefix, hposted⟩, haway'⟩ := ih hok
          rw [Mailbox.posts, List.foldl_cons, ← Mailbox.posts]
          refine ⟨hok', ⟨msg :: posted, List.cons_prefix_cons.mpr ⟨rfl, hprefix⟩, ?_⟩, haway'.trans haway⟩
          rw [hposted, hmessages, List.append_assoc]
          rfl
      | false =>
          rw [h.posts_of_full hvalid]
          exact ⟨h, ⟨[], List.nil_prefix, (List.append_nil _).symm⟩, Iff.rfl⟩

/-- Without room for all of them some are lost. -/
theorem Ok.posts_lost (h : m.Ok) (hreader : m.reader ≠ .waiting) {msgs : List (Option β)}
    (hroom : maxQueueEntries.toNat < m.queue.length + msgs.length) :
    (m.posts msgs).messages ≠ m.messages ++ msgs := by
  induction msgs generalizing m with
  | nil => exact absurd h.room (Nat.not_le.mpr hroom)
  | cons msg msgs ih =>
      cases hvalid : m.valid with
      | true =>
          obtain ⟨-, hok, hmessages, -⟩ := h.trypost hvalid msg
          rw [trypost_valid hreader hvalid] at hok hmessages
          have hroom' : maxQueueEntries.toNat < (m.queue ++ [msg]).length + msgs.length := by
            rw [List.length_append, List.length_singleton]
            rw [List.length_cons] at hroom
            omega
          have hlost := ih hok hreader hroom'
          rwa [hmessages, List.append_assoc, ← trypost_valid hreader hvalid] at hlost
      | false =>
          rw [h.posts_of_full hvalid]
          intro hsame
          have hlength := congrArg List.length hsame
          rw [List.length_append, List.length_cons] at hlength
          omega

/-- The reader takes the first message. -/
theorem Ok.fetch_some (h : m.Ok) (haway : m.reader = .away) {msg : Option β} (hsome : m.fetch.1 = some msg) :
    m.messages = msg :: m.fetch.2.messages ∧ m.fetch.2.Ok ∧ m.fetch.2.reader = .away := by
  have hroom := h.room
  rw [messages_of_away haway]
  cases hqueue : m.queue with
  | nil =>
      rw [fetch, hqueue] at hsome
      cases hsome
  | cons first queue =>
      have hfetch : m.fetch = (some first, { m with queue := queue, received := m.received ++ [first] }) := by
        rw [fetch, hqueue]
      rw [hfetch] at hsome ⊢
      rw [hqueue] at hroom
      obtain rfl := Option.some.inj hsome
      refine ⟨?_, ⟨Nat.le_of_succ_le hroom, fun hwaiting => absurd (haway.symm.trans hwaiting) nofun⟩, haway⟩
      rw [messages_of_away]
      exact haway

/-- The reader finds no message, and waits. -/
theorem fetch_none (haway : m.reader = .away) (hnone : m.fetch.1 = none) :
    m.messages = [] ∧ m.fetch.2.messages = [] ∧ m.fetch.2.Ok := by
  rw [messages_of_away haway]
  cases hqueue : m.queue with
  | nil =>
      have hfetch : m.fetch = (none, { m with reader := .waiting }) := by rw [fetch, hqueue]
      rw [hfetch]
      exact ⟨rfl, hqueue, ⟨by simp [hqueue], fun _ => hqueue⟩⟩
  | cons first queue =>
      rw [fetch, hqueue] at hnone
      cases hnone

/-- The reader comes back with the first message. -/
theorem Ok.wake (h : m.Ok) {msg : Option β} {m' : Mailbox β} (hwake : m.wake = some (msg, m')) :
    m.messages = msg :: m'.messages ∧ m'.Ok ∧ m'.reader = .away := by
  rw [Mailbox.wake] at hwake
  cases hreader : m.reader with
  | away | waiting =>
      rw [hreader] at hwake
      cases hwake
  | handed old =>
      rw [hreader] at hwake
      cases hwake
      exact ⟨by rw [messages, hreader]; rfl, ⟨h.room, nofun⟩, rfl⟩

end Mailbox

/-! ## The mailbox of a kernel -/

/-- What the abstract kernel shows of the reader. -/
def readerOf : TaskPhase (QueuePtr β) → MboxReader β
  | .waiting _ => .waiting
  | .handed pmsg => .handed (fromQueue pmsg)
  | _ => .away

/-- A kernel of which only the task `reader` asks for messages, and always without a timeout, is a mailbox. -/
structure MailboxIs (reader : ℕ) (a : AbstractKernel (QueuePtr β)) (m : Mailbox β) : Prop where
  queue : m.queue = a.queue.map fromQueue
  reader_eq : m.reader = readerOf (a.phase reader)
  received : m.received = (a.received reader).map fromQueue
  size : a.size = maxQueueEntries
  only : ∀ p < 64, p ≠ reader → (a.phase p).inPend = false
  forever : a.phase reader ≠ .timedOut ∧ ∀ ticks, a.phase reader = .waiting ticks → ticks = 0
  reader_lt : reader < 64

namespace MailboxIs

variable {reader : ℕ} {a : AbstractKernel (QueuePtr β)} {m : Mailbox β}

/-- A task on the wait list is inside `OSQPend`. -/
theorem inPend_of_listed {phase : TaskPhase (QueuePtr β)} (hlisted : phase.listed = true) :
    phase.inPend = true := by
  cases phase with
  | waiting | timedOut => rfl
  | absent | running | delayed | handed => exact absurd hlisted Bool.false_ne_true

/-- Somebody waits just when the reader does. -/
theorem firstWaiter_eq (h : MailboxIs reader a m) :
    a.firstWaiter = match m.reader with
      | .waiting => some reader
      | _ => none := by
  have hreader := h.reader_eq
  cases hfirst : a.firstWaiter with
  | some p =>
      obtain ⟨hp, hlisted⟩ := AbstractKernel.firstWaiter_eq_some hfirst
      -- whoever waits is inside `OSQPend`, and only the reader ever is
      have hsame : p = reader := by
        by_contra hne
        have hout := h.only p hp hne
        rw [inPend_of_listed hlisted] at hout
        exact Bool.noConfusion hout
      rw [hsame] at hlisted
      cases hphase : a.phase reader with
      | waiting ticks =>
          rw [hreader, hphase, hsame]
          rfl
      | timedOut => exact absurd hphase h.forever.1
      | absent | running | delayed | handed =>
          rw [hphase] at hlisted
          exact absurd hlisted Bool.false_ne_true
  | none =>
      have hlisted := AbstractKernel.firstWaiter_eq_none hfirst h.reader_lt
      rw [hreader]
      cases hphase : a.phase reader with
      | waiting ticks =>
          rw [hphase] at hlisted
          exact Bool.noConfusion hlisted
      | absent | running | delayed | timedOut | handed => rfl

/-- A task that does not wait does not wait for a time. -/
theorem forever_of_not_listed {phase : TaskPhase (QueuePtr β)} (hnot : phase.listed = false) :
    phase ≠ .timedOut ∧ ∀ ticks, phase = .waiting ticks → ticks = 0 := by
  refine ⟨fun hphase => ?_, fun ticks hphase => ?_⟩
  · rw [hphase] at hnot
    exact Bool.noConfusion hnot
  · rw [hphase] at hnot
    exact Bool.noConfusion hnot

/-- One that waits without a timeout does not either. -/
theorem forever_waiting : (TaskPhase.waiting 0 : TaskPhase (QueuePtr β)) ≠ .timedOut ∧
    ∀ ticks, (TaskPhase.waiting 0 : TaskPhase (QueuePtr β)) = .waiting ticks → ticks = 0 :=
  ⟨(fun h => by cases h), fun _ h => (TaskPhase.waiting.inj h).symm⟩

/-- A change of phases that the mailbox does not notice. -/
theorem setPhase (h : MailboxIs reader a m) {p : ℕ} {phase : TaskPhase (QueuePtr β)}
    (hout : (a.phase p).inPend = false) (hout' : phase.inPend = false) :
    MailboxIs reader { a with phase := update a.phase p phase } m := by
  have haway : ∀ phase : TaskPhase (QueuePtr β), phase.inPend = false → readerOf phase = .away ∧
      phase ≠ .timedOut ∧ ∀ ticks, phase = .waiting ticks → ticks = 0 := by
    intro phase hphase
    cases phase with
    | absent | running | delayed => exact ⟨rfl, forever_of_not_listed rfl⟩
    | waiting | timedOut | handed => exact Bool.noConfusion hphase
  refine ⟨h.queue, ?_, h.received, h.size, fun q hq hne => ?_, ?_, h.reader_lt⟩
  · change m.reader = readerOf (update a.phase p phase reader)
    by_cases hsame : reader = p
    · rw [hsame, update_self, (haway _ hout').1, h.reader_eq, hsame, (haway _ hout).1]
    · rw [update_of_ne hsame, h.reader_eq]
  · change (update a.phase p phase q).inPend = false
    by_cases hsame : q = p
    · rw [hsame, update_self, hout']
    · rw [update_of_ne hsame, h.only q hq hne]
  · change update a.phase p phase reader ≠ .timedOut ∧ ∀ ticks, update a.phase p phase reader = .waiting ticks → _
    by_cases hsame : reader = p
    · rw [hsame, update_self]
      exact (haway _ hout').2
    · rw [update_of_ne hsame]
      exact h.forever

/-- A change of the reader's phase, which the mailbox shows. -/
theorem setReader (h : MailboxIs reader a m) {phase : TaskPhase (QueuePtr β)}
    (hforever : phase ≠ .timedOut ∧ ∀ ticks, phase = .waiting ticks → ticks = 0) {a' : AbstractKernel (QueuePtr β)}
    {m' : Mailbox β} (hphase : a'.phase = update a.phase reader phase) (hsize : a'.size = a.size)
    (hqueue : m'.queue = a'.queue.map fromQueue) (hreader : m'.reader = readerOf phase)
    (hreceived : m'.received = (a'.received reader).map fromQueue) : MailboxIs reader a' m' := by
  refine ⟨hqueue, ?_, hreceived, hsize.trans h.size, fun q hq hne => ?_, ?_, h.reader_lt⟩
  · rw [hphase, update_self, hreader]
  · rw [hphase, update_of_ne hne, h.only q hq hne]
  · rw [hphase, update_self]
    exact hforever

/-- Only flags change. -/
theorem setSuspended (h : MailboxIs reader a m) (suspended : ℕ → Bool) :
    MailboxIs reader { a with suspended := suspended } m :=
  ⟨h.queue, h.reader_eq, h.received, h.size, h.only, h.forever, h.reader_lt⟩

/-- `sys_mbox_trypost`. -/
theorem trypost (h : MailboxIs reader a m) (msg : Option β) {a' : AbstractKernel (QueuePtr β)}
    (hstep : a.step (.post (some (toQueue msg))) = some a') : MailboxIs reader a' (m.trypost msg).2 := by
  have hfirst := h.firstWaiter_eq
  have hroom : a.queue.length < a.size.toNat ↔ m.valid = true := by
    rw [Mailbox.valid, h.queue, h.size, List.length_map, decide_eq_true_iff]
  rw [AbstractKernel.step] at hstep
  rw [Mailbox.trypost]
  cases hreader : m.reader with
  | waiting =>
      rw [hreader] at hfirst
      rw [hfirst] at hstep
      obtain rfl := Option.some.inj hstep
      have hhanded : MboxReader.handed msg = readerOf (.handed (some (toQueue msg))) := by
        rw [readerOf, fromQueue_toQueue]
      exact h.setReader (forever_of_not_listed rfl) rfl rfl h.queue hhanded h.received
  | away | handed =>
      rw [hreader] at hfirst
      rw [hfirst] at hstep
      dsimp only at hstep ⊢
      split at hstep
      · next hlt =>
          obtain rfl := Option.some.inj hstep
          rw [if_pos (hroom.mp hlt)]
          refine ⟨?_, hreader.symm.trans h.reader_eq, h.received, h.size, h.only, h.forever, h.reader_lt⟩
          change m.queue ++ [msg] = (a.queue ++ [some (toQueue msg)]).map fromQueue
          rw [h.queue, List.map_append, List.map_singleton, fromQueue_toQueue]
      · next hfull =>
          obtain rfl := Option.some.inj hstep
          rw [if_neg (mt hroom.mpr hfull)]
          exact h

/-- The reader calls `sys_arch_mbox_fetch`. -/
theorem fetch (h : MailboxIs reader a m) (hcur : a.current = reader) {a' : AbstractKernel (QueuePtr β)}
    (hstep : a.step (.pend 0) = some a') : ∃ m', m.step .fetch = some m' ∧ MailboxIs reader a' m' := by
  rw [AbstractKernel.step, hcur] at hstep
  split at hstep
  · cases hstep
  · next hout =>
      have haway : m.reader = .away := by
        have hnot := (not_or.mp hout).2
        rw [h.reader_eq]
        cases hphase : a.phase reader with
        | absent | running | delayed => rfl
        | waiting | timedOut | handed =>
            rw [hphase] at hnot
            exact absurd rfl hnot
      have hqueue := h.queue
      rw [Mailbox.step, haway]
      refine ⟨_, rfl, ?_⟩
      rw [Mailbox.fetch]
      split at hstep
      · next pmsg queue hcons =>
          obtain rfl := Option.some.inj hstep
          rw [hcons, List.map_cons] at hqueue
          rw [hqueue]
          refine ⟨rfl, h.reader_eq, ?_, h.size, h.only, h.forever, h.reader_lt⟩
          change m.received ++ [fromQueue pmsg] =
            (update a.received reader (a.received reader ++ [pmsg]) reader).map fromQueue
          rw [update_self, List.map_append, h.received]
          rfl
      · next hnil =>
          obtain rfl := Option.some.inj hstep
          rw [hnil, List.map_nil] at hqueue
          rw [hqueue]
          have hempty : ([] : List (Option β)) = a.queue.map fromQueue := by rw [hnil, List.map_nil]
          exact h.setReader forever_waiting rfl rfl hempty rfl h.received

/-- The reader comes back from waiting. -/
theorem wake (h : MailboxIs reader a m) (hcur : a.current = reader) {a' : AbstractKernel (QueuePtr β)}
    (hstep : a.step .leave = some a') : ∃ m', m.step .wake = some m' ∧ MailboxIs reader a' m' := by
  rw [AbstractKernel.step, hcur] at hstep
  split at hstep
  · next pmsg hphase =>
      obtain rfl := Option.some.inj hstep
      have hreader : m.reader = .handed (fromQueue pmsg) := by
        rw [h.reader_eq, hphase]
        rfl
      rw [Mailbox.step, Mailbox.wake, hreader]
      refine ⟨_, rfl, h.setReader (forever_of_not_listed rfl) rfl rfl h.queue rfl ?_⟩
      change m.received ++ [fromQueue pmsg] =
        (update a.received reader (a.received reader ++ [pmsg]) reader).map fromQueue
      rw [update_self, List.map_append, h.received]
      rfl
  -- without a timeout nothing ends the waiting but a message
  · next hphase => exact absurd hphase h.forever.1
  · cases hstep

/-- A tick. -/
theorem tick (h : MailboxIs reader a m) : MailboxIs reader { a with phase := fun p => (a.phase p).tick } m := by
  have hsame : readerOf (a.phase reader).tick = readerOf (a.phase reader) ∧
      (a.phase reader).tick ≠ .timedOut ∧ ∀ ticks, (a.phase reader).tick = .waiting ticks → ticks = 0 := by
    obtain ⟨hnot, hforever⟩ := h.forever
    cases hphase : a.phase reader with
    | timedOut => exact absurd hphase hnot
    | absent | running | handed => exact ⟨rfl, forever_of_not_listed rfl⟩
    | waiting ticks =>
        obtain rfl := hforever ticks hphase
        exact ⟨rfl, forever_waiting⟩
    | delayed ticks =>
        rw [TaskPhase.tick]
        (repeat' split) <;> exact ⟨rfl, forever_of_not_listed rfl⟩
  refine ⟨h.queue, h.reader_eq.trans hsame.1.symm, h.received, h.size, fun q hq hne => ?_, hsame.2,
    h.reader_lt⟩
  exact (TaskPhase.inPend_tick _).trans (h.only q hq hne)

end MailboxIs

/-! ## The refinement -/

/-- The kernel shows a machine that is a mailbox. -/
def ShowsMailbox (reader : ℕ) (k : Kernel (QueuePtr β)) (m : Mailbox β) : Prop :=
  ∃ a, k.Shows a ∧ MailboxIs reader a m

namespace ShowsMailbox

variable {reader : ℕ} {k : Kernel (QueuePtr β)} {m : Mailbox β}

/-- `sys_mbox_valid` says whether there is room. -/
theorem sysMboxValid_eq (h : ShowsMailbox reader k m) : sysMboxValid k.os = m.valid := by
  obtain ⟨a, hshows, hmailbox⟩ := h
  have hlt := hshows.queue.entries_lt_iff
  rw [hshows.size, hmailbox.size] at hlt
  rw [sysMboxValid, osQQuery, Mailbox.valid, hmailbox.queue, List.length_map, hshows.size, hmailbox.size,
    Bool.decide_congr hlt]

/-- **Every event of the kernel is one of the mailbox, or nothing to it.** -/
theorem step (h : ShowsMailbox reader k m) {e : MboxEvent β} {k' : Kernel (QueuePtr β)}
    (hstep : mboxStep reader k e = some k') : ∃ m', m.step e = some m' ∧ ShowsMailbox reader k' m' := by
  obtain ⟨a, hshows, hmailbox⟩ := h
  rw [mboxStep] at hstep
  split at hstep
  · cases hstep
  · next hguard =>
      obtain ⟨a', ha', hshows'⟩ := hshows.step hstep
      have hcur : e.byReader = true → a.current = reader := by
        intro hby
        by_contra hne
        exact hguard ⟨hby, by rwa [hshows.cur_eq]⟩
      cases e with
      | trypost msg => exact ⟨_, rfl, a', hshows', hmailbox.trypost msg ha'⟩
      | fetch =>
          obtain ⟨m', hm', hmailbox'⟩ := hmailbox.fetch (hcur rfl) ha'
          exact ⟨m', hm', a', hshows', hmailbox'⟩
      | wake =>
          obtain ⟨m', hm', hmailbox'⟩ := hmailbox.wake (hcur rfl) ha'
          exact ⟨m', hm', a', hshows', hmailbox'⟩
      | delay ticks =>
          refine ⟨m, rfl, a', hshows', ?_⟩
          rw [MboxEvent.os, AbstractKernel.step] at ha'
          split at ha'
          · cases ha'
          · next hout =>
              obtain rfl := Option.some.inj ha'
              have hnot := (not_or.mp hout).2
              split
              · exact hmailbox.setPhase (Bool.not_eq_true _ ▸ hnot) rfl
              · exact hmailbox
      | suspend prio | resume prio =>
          refine ⟨m, rfl, a', hshows', ?_⟩
          rw [MboxEvent.os, AbstractKernel.step] at ha'
          split at ha'
          · obtain rfl := Option.some.inj ha'
            split
            · exact hmailbox.setSuspended _
            · exact hmailbox
          · cases ha'
      | tick =>
          refine ⟨m, rfl, a', hshows', ?_⟩
          obtain rfl := Option.some.inj ha'
          exact hmailbox.tick

end ShowsMailbox

/-- **A queue that one task reads is a mailbox**: in any run, whatever the other tasks and the clock do, the
reader, whose fetches have no timeout, receives the messages that were posted, in their order and `NULL` as
`NULL`; one is lost only when nobody waits and twenty are there already; and `sys_mbox_valid` says whether there
is room. -/
theorem mailbox_refines {reader : ℕ} (hreader : reader < 64) (tasks : TcbList)
    (storage : CellMemory (Option (QueuePtr β))) (events : List (MboxEvent β)) :
    Refines (mboxStep reader) Mailbox.step
      (fun k m => ShowsMailbox reader k m ∧ sysMboxValid k.os = m.valid)
      (.start tasks storage maxQueueEntries) .new events := by
  have hstart : ShowsMailbox reader (.start tasks storage maxQueueEntries) (.new : Mailbox β) := by
    refine ⟨_, Kernel.shows_start tasks storage maxQueueEntries, rfl, ?_, rfl, rfl, fun p _ _ => ?_, ?_, hreader⟩
    · change MboxReader.away = readerOf (if reader ∈ tasks.prios ∨ reader = 63 then .running else .absent)
      split <;> rfl
    · change (if p ∈ tasks.prios ∨ p = 63 then TaskPhase.running else .absent).inPend = false
      split <;> rfl
    · change (if reader ∈ tasks.prios ∨ reader = 63 then TaskPhase.running else .absent) ≠ .timedOut ∧
        ∀ ticks, (if reader ∈ tasks.prios ∨ reader = 63 then TaskPhase.running else .absent) = .waiting ticks → _
      split <;> exact ⟨nofun, nofun⟩
  refine refines_of_step (fun k m e k' h hstep => ?_) ⟨hstart, hstart.sysMboxValid_eq⟩ events
  obtain ⟨m', hm', hshows⟩ := h.1.step hstep
  exact ⟨m', hm', hshows, hshows.sysMboxValid_eq⟩

/-- The FTP task reads. -/
theorem mailbox_refines_ftp :
    Refines (mboxStep 9) Mailbox.step (fun k m => ShowsMailbox 9 k m ∧ sysMboxValid k.os = m.valid)
      (.start ⟨[5, 9], by decide, by decide⟩ (fun _ => none) maxQueueEntries) (.new : Mailbox Unit)
      [.delay 2, .fetch, .tick, .tick, .trypost none, .delay 1, .wake] :=
  mailbox_refines (by decide) _ _ _

end RtuShuiwen
