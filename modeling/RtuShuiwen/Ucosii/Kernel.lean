import RtuShuiwen.Library.PriorityBitmap
import RtuShuiwen.Library.RingQueue

/-! # The operating system: tasks, delays and a message queue

uC/OS-II as far as `thread.c` and the mailboxes of the network stack use it: the list of the tasks that are
ready, delays and timeouts, suspending and resuming, and a message queue with the list of the tasks that wait
for it. A task is its priority. -/

namespace RtuShuiwen

open Function RingQueue

variable {α : Type}

/-! ## Data -/

/-- `OSUnMapTbl`: the lowest bit of a byte. -/
def osUnMapTbl : List ℕ :=
  [0, 0, 1, 0, 2, 0, 1, 0, 3, 0, 1, 0, 2, 0, 1, 0,
   4, 0, 1, 0, 2, 0, 1, 0, 3, 0, 1, 0, 2, 0, 1, 0,
   5, 0, 1, 0, 2, 0, 1, 0, 3, 0, 1, 0, 2, 0, 1, 0,
   4, 0, 1, 0, 2, 0, 1, 0, 3, 0, 1, 0, 2, 0, 1, 0,
   6, 0, 1, 0, 2, 0, 1, 0, 3, 0, 1, 0, 2, 0, 1, 0,
   4, 0, 1, 0, 2, 0, 1, 0, 3, 0, 1, 0, 2, 0, 1, 0,
   5, 0, 1, 0, 2, 0, 1, 0, 3, 0, 1, 0, 2, 0, 1, 0,
   4, 0, 1, 0, 2, 0, 1, 0, 3, 0, 1, 0, 2, 0, 1, 0,
   7, 0, 1, 0, 2, 0, 1, 0, 3, 0, 1, 0, 2, 0, 1, 0,
   4, 0, 1, 0, 2, 0, 1, 0, 3, 0, 1, 0, 2, 0, 1, 0,
   5, 0, 1, 0, 2, 0, 1, 0, 3, 0, 1, 0, 2, 0, 1, 0,
   4, 0, 1, 0, 2, 0, 1, 0, 3, 0, 1, 0, 2, 0, 1, 0,
   6, 0, 1, 0, 2, 0, 1, 0, 3, 0, 1, 0, 2, 0, 1, 0,
   4, 0, 1, 0, 2, 0, 1, 0, 3, 0, 1, 0, 2, 0, 1, 0,
   5, 0, 1, 0, 2, 0, 1, 0, 3, 0, 1, 0, 2, 0, 1, 0,
   4, 0, 1, 0, 2, 0, 1, 0, 3, 0, 1, 0, 2, 0, 1, 0]

/-- Looking a byte up. -/
def osUnMap (d : BitVec 8) : ℕ := osUnMapTbl.getD d.toNat 0

/-- `OS_LOWEST_PRIO`, the priority of the idle task. -/
def osLowestPrio : ℕ := 63

/-- `OS_STAT_Q`. -/
def osStatQ : BitVec 8 := 0x04#8

/-- `OS_STAT_SUSPEND`. -/
def osStatSuspend : BitVec 8 := 0x08#8

/-- `OS_STAT_PEND_ANY`. -/
def osStatPendAny : BitVec 8 := 0x37#8

/-- `OS_STAT_RDY`. -/
def osStatRdy : BitVec 8 := 0#8

/-- `OS_STAT_PEND_OK` and `OS_STAT_PEND_TO`. -/
inductive StatPend
  | pendOk
  | pendTo
  deriving DecidableEq, Repr

/-- The error codes of the queue. -/
inductive OsErr
  | none
  | timeout
  | qFull
  deriving DecidableEq, Repr

/-- `OS_TCB`. A message is a pointer, and `none` the pointer `NULL`. -/
structure OsTcb (α : Type) where
  osTcbStat : BitVec 8
  osTcbStatPend : StatPend
  osTcbDly : UInt32
  osTcbMsg : Option α

/-- `OS_Q`. The pointers into the storage are the numbers of its cells. -/
structure OsQ (α : Type) where
  storage : CellMemory (Option α)
  osqIn : ℕ
  osqOut : ℕ
  osqSize : UInt16
  osqEntries : UInt16

/-- The tasks on `OSTCBList`, but for the idle task at its end. -/
structure TcbList where
  prios : List ℕ
  nodup : prios.Nodup
  lt : ∀ p ∈ prios, p < osLowestPrio

/-- The kernel: the ready list, the task control blocks, and the queue with its wait list. -/
structure Os (α : Type) where
  osTcbList : TcbList
  osTcbPrioTbl : ℕ → OsTcb α
  osRdy : PriorityBitmap 8
  osEvent : PriorityBitmap 8
  osQ : OsQ α
  osTime : UInt32

/-- `OSTCBPrioTbl` has a task control block for the priority; the idle task has one too. -/
def Os.HasTcb (s : Os α) (prio : ℕ) : Prop := prio ∈ s.osTcbList.prios ∨ prio = osLowestPrio

instance (s : Os α) (prio : ℕ) : Decidable (s.HasTcb prio) :=
  inferInstanceAs (Decidable (prio ∈ s.osTcbList.prios ∨ prio = osLowestPrio))

/-! ## The ready list -/

/-- `OS_SchedNew`. -/
def osSchedNew (s : Os α) : ℕ := s.osRdy.first osUnMap

/-- `OSTimeDly`. -/
def osTimeDly (cur : ℕ) (ticks : UInt32) (s : Os α) : Os α :=
  if ticks > 0 then
    { s with
      osRdy := s.osRdy.erase cur
      osTcbPrioTbl := update s.osTcbPrioTbl cur { s.osTcbPrioTbl cur with osTcbDly := ticks } }
  else s

/-- `OSTaskSuspend`, for a priority up to `OS_LOWEST_PRIO`. `OS_ARG_CHK_EN` is 0, so it does not refuse the idle
task. -/
def osTaskSuspend (prio : ℕ) (s : Os α) : Os α :=
  let ptcb := s.osTcbPrioTbl prio
  if s.HasTcb prio then
    { s with
      osRdy := s.osRdy.erase prio
      osTcbPrioTbl :=
        update s.osTcbPrioTbl prio { ptcb with osTcbStat := ptcb.osTcbStat ||| osStatSuspend } }
  else s

/-- `OSTaskResume`, for a priority up to `OS_LOWEST_PRIO`. -/
def osTaskResume (prio : ℕ) (s : Os α) : Os α :=
  let ptcb := s.osTcbPrioTbl prio
  if s.HasTcb prio then
    if ptcb.osTcbStat &&& osStatSuspend ≠ osStatRdy then
      let ptcb := { ptcb with osTcbStat := ptcb.osTcbStat &&& ~~~osStatSuspend }
      { s with
        osTcbPrioTbl := update s.osTcbPrioTbl prio ptcb
        osRdy := if ptcb.osTcbStat = osStatRdy ∧ ptcb.osTcbDly = 0 then s.osRdy.insert prio else s.osRdy }
    else s
  else s

/-- What `OSTimeTick` does for one task. -/
def osTickTask (s : Os α) (prio : ℕ) : Os α :=
  let ptcb := s.osTcbPrioTbl prio
  if ptcb.osTcbDly ≠ 0 then
    let ptcb := { ptcb with osTcbDly := ptcb.osTcbDly - 1 }
    if ptcb.osTcbDly = 0 then
      let ptcb :=
        -- a task that still waits for something does so no longer
        if ptcb.osTcbStat &&& osStatPendAny ≠ osStatRdy then
          { ptcb with osTcbStat := ptcb.osTcbStat &&& ~~~osStatPendAny, osTcbStatPend := .pendTo }
        else { ptcb with osTcbStatPend := .pendOk }
      { s with
        osTcbPrioTbl := update s.osTcbPrioTbl prio ptcb
        osRdy := if ptcb.osTcbStat &&& osStatSuspend = osStatRdy then s.osRdy.insert prio else s.osRdy }
    else { s with osTcbPrioTbl := update s.osTcbPrioTbl prio ptcb }
  else s

/-- `OSTimeTick`. -/
def osTimeTick (s : Os α) : Os α :=
  s.osTcbList.prios.foldl osTickTask { s with osTime := s.osTime + 1 }

/-! ## The wait list -/

/-- `OS_EventTaskRdy`. -/
def osEventTaskRdy (pmsg : Option α) (msk : BitVec 8) (pendStat : StatPend) (s : Os α) : Os α :=
  let prio := s.osEvent.first osUnMap
  let ptcb := s.osTcbPrioTbl prio
  let ptcb : OsTcb α := ⟨ptcb.osTcbStat &&& ~~~msk, pendStat, 0, pmsg⟩
  { s with
    osTcbPrioTbl := update s.osTcbPrioTbl prio ptcb
    osRdy := if ptcb.osTcbStat &&& osStatSuspend = osStatRdy then s.osRdy.insert prio else s.osRdy
    osEvent := s.osEvent.erase prio }

/-- `OS_EventTaskWait`. -/
def osEventTaskWait (cur : ℕ) (s : Os α) : Os α :=
  { s with osEvent := s.osEvent.insert cur, osRdy := s.osRdy.erase cur }

/-- `OS_EventTaskRemove`. -/
def osEventTaskRemove (prio : ℕ) (s : Os α) : Os α := { s with osEvent := s.osEvent.erase prio }

/-! ## The queue -/

/-- `OSQCreate`, with storage for `size` messages. -/
def osQCreate (storage : CellMemory (Option α)) (size : UInt16) : OsQ α := ⟨storage, 0, 0, size, 0⟩

/-- Inserting a message into the storage. -/
def OsQ.insertIn (q : OsQ α) (pmsg : Option α) : OsQ α :=
  { q with
    storage := update q.storage q.osqIn pmsg
    osqEntries := q.osqEntries + 1
    osqIn := next q.osqSize.toNat q.osqIn }

/-- Extracting the oldest message from the storage. -/
def OsQ.extractOut (q : OsQ α) : Option α × OsQ α :=
  (q.storage q.osqOut,
    { q with osqEntries := q.osqEntries - 1, osqOut := next q.osqSize.toNat q.osqOut })

/-- `OSQPost`. -/
def osQPost (pmsg : Option α) (s : Os α) : OsErr × Os α :=
  -- a task that waits gets the message past the ring
  if s.osEvent.grp ≠ 0#8 then (.none, osEventTaskRdy pmsg osStatQ .pendOk s)
  else if s.osQ.osqEntries ≥ s.osQ.osqSize then (.qFull, s)
  else (.none, { s with osQ := s.osQ.insertIn pmsg })

/-- `OSQPend` up to the point at which the task waits: the message, when there is one. -/
def osQPendEnter (cur : ℕ) (timeout : UInt32) (s : Os α) : Option (Option α) × Os α :=
  if s.osQ.osqEntries > 0 then
    (some s.osQ.extractOut.1, { s with osQ := s.osQ.extractOut.2 })
  else
    let tcb := s.osTcbPrioTbl cur
    let tcb : OsTcb α := ⟨tcb.osTcbStat ||| osStatQ, .pendOk, timeout, tcb.osTcbMsg⟩
    (none, osEventTaskWait cur { s with osTcbPrioTbl := update s.osTcbPrioTbl cur tcb })

/-- `OSQPend` from that point on: the message and the error. -/
def osQPendLeave (cur : ℕ) (s : Os α) : (Option α × OsErr) × Os α :=
  let tcb := s.osTcbPrioTbl cur
  let answer : (Option α × OsErr) × Os α :=
    match tcb.osTcbStatPend with
    | .pendOk => ((tcb.osTcbMsg, .none), s)
    | .pendTo => ((none, .timeout), osEventTaskRemove cur s)
  (answer.1, { answer.2 with
    osTcbPrioTbl := update s.osTcbPrioTbl cur ⟨osStatRdy, .pendOk, tcb.osTcbDly, none⟩ })

/-- `OSQQuery`: `OSNMsgs` and `OSQSize`. -/
def osQQuery (s : Os α) : UInt16 × UInt16 := (s.osQ.osqEntries, s.osQ.osqSize)

/-! ## Searching a byte -/

/-- **The table finds the lowest bit.** -/
theorem findsLowest_osUnMap : PriorityBitmap.FindsLowest osUnMap := by
  have hall : ∀ d : BitVec 8, d ≠ 0#8 → d.getLsbD (osUnMap d) = true ∧
      ∀ j < 8, d.getLsbD j = true → osUnMap d ≤ j := by
    decide +kernel
  intro d hd
  obtain ⟨hbit, hleast⟩ := hall d hd
  exact ⟨hbit, fun j hj => hleast j (BitVec.lt_of_getLsbD hj) hj⟩

end RtuShuiwen
