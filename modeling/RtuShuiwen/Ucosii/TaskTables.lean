import RtuShuiwen.Ucosii.Kernel
import RtuShuiwen.Ucosii.Tasks

/-! # What the tables of the kernel show

The ring of the queue holds a list of messages (`OsQ.Holds`), and the task control blocks, the ready list and
the wait list show every task in a phase (`TasksAre`). For each function of the kernel one lemma says which task
goes into which phase. -/

namespace RtuShuiwen

open Function RingQueue PriorityBitmap

variable {α : Type}

/-! ## The queue as a list -/

/-- The ring holds the messages of a list. -/
structure OsQ.Holds (q : OsQ α) (l : List (Option α)) : Prop where
  out_lt : 0 < q.osqSize.toNat → q.osqOut < q.osqSize.toNat
  in_eq : 0 < q.osqSize.toNat → q.osqIn = (q.osqOut + q.osqEntries.toNat) % q.osqSize.toNat
  entries_le : q.osqEntries.toNat ≤ q.osqSize.toNat
  contents : RingQueue.contents q.storage q.osqSize.toNat q.osqOut q.osqEntries.toNat = l

namespace OsQ.Holds

variable {q : OsQ α} {l : List (Option α)}

/-- How many there are. -/
theorem length_eq (h : q.Holds l) : l.length = q.osqEntries.toNat := by
  rw [← h.contents, length_contents]

/-- A new queue is empty. -/
theorem create (storage : CellMemory (Option α)) (size : UInt16) : (osQCreate storage size).Holds [] where
  out_lt hsize := hsize
  in_eq _ := (Nat.zero_mod _).symm
  entries_le := Nat.zero_le _
  contents := rfl

/-- There are messages just when the counter says so. -/
theorem entries_pos_iff (h : q.Holds l) : q.osqEntries > 0 ↔ l ≠ [] := by
  rw [← List.length_pos_iff, h.length_eq]
  exact UInt16.lt_iff_toNat_lt

/-- There is room just when the counter says so. -/
theorem entries_lt_iff (h : q.Holds l) : q.osqEntries < q.osqSize ↔ l.length < q.osqSize.toNat := by
  rw [h.length_eq]
  exact UInt16.lt_iff_toNat_lt

/-- **A message is inserted.** -/
theorem insertIn (h : q.Holds l) (hroom : l.length < q.osqSize.toNat) (pmsg : Option α) :
    (q.insertIn pmsg).Holds (l ++ [pmsg]) := by
  rw [h.length_eq] at hroom
  have hpos : 0 < q.osqSize.toNat := Nat.zero_lt_of_lt hroom
  have hsize := q.osqSize.toNat_lt
  have hentries : (q.osqEntries + 1).toNat = q.osqEntries.toNat + 1 := by
    rw [UInt16.toNat_add]
    exact Nat.mod_eq_of_lt (by change q.osqEntries.toNat + 1 < _; omega)
  have hin := h.in_eq hpos
  refine ⟨h.out_lt, fun _ => ?_, ?_, ?_⟩
  · change next q.osqSize.toNat q.osqIn = (q.osqOut + (q.osqEntries + 1).toNat) % q.osqSize.toNat
    rw [next_eq (by rw [hin]; exact Nat.mod_lt _ hpos), hin, Nat.mod_add_mod, hentries, Nat.add_assoc]
  · change (q.osqEntries + 1).toNat ≤ _
    rw [hentries]
    exact hroom
  · change RingQueue.contents (update q.storage q.osqIn pmsg) q.osqSize.toNat q.osqOut
      (q.osqEntries + 1).toNat = _
    rw [hentries, hin, contents_push _ _ _ hroom, h.contents]

/-- **The oldest message is extracted.** -/
theorem extractOut {pmsg : Option α} (h : q.Holds (pmsg :: l)) :
    q.extractOut.1 = pmsg ∧ q.extractOut.2.Holds l := by
  have hlength := h.length_eq
  have hle := h.entries_le
  rw [List.length_cons] at hlength
  have hpos : 0 < q.osqSize.toNat := by omega
  have hout := h.out_lt hpos
  have hentries : (q.osqEntries - 1).toNat = l.length := by
    rw [UInt16.toNat_sub_of_le _ _ (UInt16.le_iff_toNat_le.mpr (by change 1 ≤ _; omega))]
    change q.osqEntries.toNat - 1 = _
    omega
  have hcontents := h.contents
  rw [← hlength, contents_succ _ hout] at hcontents
  obtain ⟨hfirst, hrest⟩ := List.cons.inj hcontents
  refine ⟨hfirst, fun _ => next_lt hout, fun _ => ?_, ?_, ?_⟩
  · change q.osqIn = (next q.osqSize.toNat q.osqOut + (q.osqEntries - 1).toNat) % q.osqSize.toNat
    rw [h.in_eq hpos, next_eq hout, hentries, Nat.mod_add_mod, ← hlength]
    exact congrArg (· % q.osqSize.toNat) (by omega)
  · change (q.osqEntries - 1).toNat ≤ q.osqSize.toNat
    omega
  · change RingQueue.contents q.storage q.osqSize.toNat (next q.osqSize.toNat q.osqOut)
      (q.osqEntries - 1).toNat = l
    rw [hentries, hrest]

end OsQ.Holds

/-! ## The tables of a task -/

namespace TaskPhase

/-- The bit `OS_STAT_Q` of a phase. -/
def pending : TaskPhase α → Bool
  | .waiting _ => true
  | _ => false

/-- `OSTCBStatPend` of a phase. -/
def statPend : TaskPhase α → StatPend
  | .timedOut => .pendTo
  | _ => .pendOk

end TaskPhase

/-- `OSTCBStat` of a task. -/
def statOf (pending suspended : Bool) : BitVec 8 :=
  (if pending then osStatQ else osStatRdy) ||| (if suspended then osStatSuspend else osStatRdy)

@[simp] theorem statOf_or_q (pending suspended : Bool) :
    statOf pending suspended ||| osStatQ = statOf true suspended := by
  cases pending <;> cases suspended <;> decide

@[simp] theorem statOf_and_not_q (pending suspended : Bool) :
    statOf pending suspended &&& ~~~osStatQ = statOf false suspended := by
  cases pending <;> cases suspended <;> decide

@[simp] theorem statOf_or_suspend (pending suspended : Bool) :
    statOf pending suspended ||| osStatSuspend = statOf pending true := by
  cases pending <;> cases suspended <;> decide

@[simp] theorem statOf_and_not_suspend (pending suspended : Bool) :
    statOf pending suspended &&& ~~~osStatSuspend = statOf pending false := by
  cases pending <;> cases suspended <;> decide

@[simp] theorem statOf_and_not_pendAny (pending suspended : Bool) :
    statOf pending suspended &&& ~~~osStatPendAny = statOf false suspended := by
  cases pending <;> cases suspended <;> decide

@[simp] theorem statOf_and_suspend (pending suspended : Bool) :
    statOf pending suspended &&& osStatSuspend = osStatRdy ↔ suspended = false := by
  cases pending <;> cases suspended <;> decide

@[simp] theorem statOf_and_pendAny (pending suspended : Bool) :
    statOf pending suspended &&& osStatPendAny = osStatRdy ↔ pending = false := by
  cases pending <;> cases suspended <;> decide

@[simp] theorem statOf_eq_rdy (pending : Bool) : statOf pending false = osStatRdy ↔ pending = false := by
  cases pending <;> decide

/-- A task control block of a task in a phase. -/
structure TcbIs (tcb : OsTcb α) (phase : TaskPhase α) (suspended : Bool) : Prop where
  stat : tcb.osTcbStat = statOf phase.pending suspended
  statPend : tcb.osTcbStatPend = phase.statPend
  dly : tcb.osTcbDly = phase.ticks
  msg : ∀ pmsg, phase = .handed pmsg → tcb.osTcbMsg = pmsg
  sleeps : ∀ ticks, phase = .delayed ticks → ticks ≠ 0

/-- The tables of the kernel show a task in a phase. -/
structure TaskIs (os : Os α) (p : ℕ) (phase : TaskPhase α) (suspended : Bool) : Prop where
  tcb : TcbIs (os.osTcbPrioTbl p) phase suspended
  listed : os.osEvent.Mem p ↔ phase.listed = true
  ready : os.osRdy.Mem p ↔ phase.runnable = true ∧ suspended = false

/-- They do so for every task. -/
def TasksAre (os : Os α) (phase : ℕ → TaskPhase α) (suspended : ℕ → Bool) : Prop :=
  ∀ p < 64, TaskIs os p (phase p) (suspended p)

/-- A bitmap that changed in one element at most. -/
def OnlyElement (p : ℕ) (b b' : PriorityBitmap 8) : Prop := b' = b ∨ b' = b.insert p ∨ b' = b.erase p

/-- The others are in it or not, as before. -/
theorem OnlyElement.mem_iff {p q : ℕ} {b b' : PriorityBitmap 8} (h : OnlyElement p b b') (hq : q < 64)
    (hne : q ≠ p) : b'.Mem q ↔ b.Mem q := by
  rcases h with rfl | rfl | rfl
  · exact Iff.rfl
  · exact (mem_insert b hq).trans (or_iff_right hne)
  · exact (mem_erase b hq).trans (and_iff_right hne)

/-- An element that is put in, or not. -/
theorem onlyElement_ite (p : ℕ) (b : PriorityBitmap 8) (c : Prop) [Decidable c] :
    OnlyElement p b (if c then b.insert p else b) := by
  split
  · exact .inr (.inl rfl)
  · exact .inl rfl

/-- The element itself. -/
theorem mem_ite_insert {p : ℕ} (hp : p < 64) (b : PriorityBitmap 8) (c : Prop) [Decidable c] :
    (if c then b.insert p else b).Mem p ↔ c ∨ b.Mem p := by
  split
  · next hc => exact iff_of_true ((mem_insert b hp).mpr (.inl rfl)) (.inl hc)
  · next hc => exact (or_iff_right hc).symm

/-- An element that was taken out. -/
theorem not_mem_erase_self {p : ℕ} (hp : p < 64) (b : PriorityBitmap 8) : ¬ (b.erase p).Mem p :=
  fun hmem => ((mem_erase b hp).mp hmem).1 rfl

section tasks

variable {os os' : Os α} {phase : ℕ → TaskPhase α} {suspended : ℕ → Bool} {p : ℕ}

/-- **One task changes**, with its control block and its bits; the others do not notice. -/
theorem TasksAre.set (h : TasksAre os phase suspended) {tcb : OsTcb α}
    (htbl : os'.osTcbPrioTbl = update os.osTcbPrioTbl p tcb) (hrdy : OnlyElement p os.osRdy os'.osRdy)
    (hevent : OnlyElement p os.osEvent os'.osEvent) {phase' : TaskPhase α} {suspended' : Bool}
    (htcb : TcbIs tcb phase' suspended') (hlisted : os'.osEvent.Mem p ↔ phase'.listed = true)
    (hready : os'.osRdy.Mem p ↔ phase'.runnable = true ∧ suspended' = false) :
    TasksAre os' (update phase p phase') (update suspended p suspended') := by
  intro q hq
  by_cases hsame : q = p
  · subst hsame
    rw [update_self, update_self]
    exact ⟨by rwa [htbl, update_self], hlisted, hready⟩
  · rw [update_of_ne hsame, update_of_ne hsame]
    obtain ⟨hold, hlisted, hready⟩ := h q hq
    exact ⟨by rwa [htbl, update_of_ne hsame], (hevent.mem_iff hq hsame).trans hlisted,
      (hrdy.mem_iff hq hsame).trans hready⟩

/-- A task that changes its phase only. -/
theorem TasksAre.setPhase (h : TasksAre os phase suspended) {tcb : OsTcb α}
    (htbl : os'.osTcbPrioTbl = update os.osTcbPrioTbl p tcb) (hrdy : OnlyElement p os.osRdy os'.osRdy)
    (hevent : OnlyElement p os.osEvent os'.osEvent) {phase' : TaskPhase α}
    (htcb : TcbIs tcb phase' (suspended p)) (hlisted : os'.osEvent.Mem p ↔ phase'.listed = true)
    (hready : os'.osRdy.Mem p ↔ phase'.runnable = true ∧ suspended p = false) :
    TasksAre os' (update phase p phase') suspended := by
  have hset := h.set htbl hrdy hevent htcb hlisted hready
  rwa [update_eq_self] at hset

/-- A task that is suspended or resumed only. -/
theorem TasksAre.setSuspended (h : TasksAre os phase suspended) {tcb : OsTcb α}
    (htbl : os'.osTcbPrioTbl = update os.osTcbPrioTbl p tcb) (hrdy : OnlyElement p os.osRdy os'.osRdy)
    (hevent : os'.osEvent = os.osEvent) {suspended' : Bool} (hp : p < 64)
    (htcb : TcbIs tcb (phase p) suspended')
    (hready : os'.osRdy.Mem p ↔ (phase p).runnable = true ∧ suspended' = false) :
    TasksAre os' phase (update suspended p suspended') := by
  have hlisted : os'.osEvent.Mem p ↔ (phase p).listed = true := by
    rw [hevent]
    exact (h p hp).listed
  have hset := h.set htbl hrdy (.inl hevent) htcb hlisted hready
  rwa [update_eq_self] at hset

/-- The rest of the kernel does not matter. -/
theorem TasksAre.of_eq (h : TasksAre os phase suspended) (htbl : os'.osTcbPrioTbl = os.osTcbPrioTbl)
    (hrdy : os'.osRdy = os.osRdy) (hevent : os'.osEvent = os.osEvent) : TasksAre os' phase suspended := by
  intro q hq
  obtain ⟨htcb, hlisted, hready⟩ := h q hq
  exact ⟨by rwa [htbl], by rwa [hevent], by rwa [hrdy]⟩

/-! ## What the functions do to the tasks -/

/-- `OSTimeDly`. -/
theorem TasksAre.timeDly (h : TasksAre os phase suspended) (hp : p < 64) (hphase : phase p = .running)
    {ticks : UInt32} (hticks : ticks > 0) :
    TasksAre (osTimeDly p ticks os) (update phase p (.delayed ticks)) suspended := by
  obtain ⟨htcb, hlisted, -⟩ := h p hp
  rw [hphase] at htcb hlisted
  rw [osTimeDly, if_pos hticks]
  have htcb' : TcbIs { os.osTcbPrioTbl p with osTcbDly := ticks } (.delayed ticks) (suspended p) := by
    refine ⟨htcb.stat, htcb.statPend, rfl, nofun, fun ticks' hsame => ?_⟩
    rw [← TaskPhase.delayed.inj hsame]
    exact (UInt32.ne_of_lt hticks).symm
  refine h.setPhase ?_ ?_ ?_ htcb' ?_ ?_
  exacts [rfl, .inr (.inr rfl), .inl rfl, hlisted, iff_of_false (not_mem_erase_self hp _) (by nofun)]

/-- `OSTaskSuspend`. -/
theorem TasksAre.taskSuspend (h : TasksAre os phase suspended) (hmem : p ∈ os.osTcbList.prios) (hp : p < 64) :
    TasksAre (osTaskSuspend p os) phase (update suspended p true) := by
  obtain ⟨htcb, -, -⟩ := h p hp
  rw [osTaskSuspend, if_pos (show os.HasTcb p from .inl hmem)]
  have htcb' : TcbIs { os.osTcbPrioTbl p with osTcbStat := (os.osTcbPrioTbl p).osTcbStat ||| osStatSuspend }
      (phase p) true :=
    ⟨by rw [htcb.stat, statOf_or_suspend], htcb.statPend, htcb.dly, htcb.msg, htcb.sleeps⟩
  refine h.setSuspended ?_ ?_ ?_ hp htcb' ?_
  exacts [rfl, .inr (.inr rfl), rfl, iff_of_false (not_mem_erase_self hp _) (by nofun)]

/-- A task that exists can go on just when it neither waits nor sleeps. -/
theorem TcbIs.runnable_iff {tcb : OsTcb α} {phase : TaskPhase α} {suspended : Bool}
    (htcb : TcbIs tcb phase suspended) (hpresent : phase.present = true) :
    phase.pending = false ∧ phase.ticks = 0 ↔ phase.runnable = true := by
  cases phase with
  | absent => exact absurd hpresent Bool.false_ne_true
  | running | timedOut | handed => exact iff_of_true ⟨rfl, rfl⟩ rfl
  | waiting => exact iff_of_false (by nofun) Bool.false_ne_true
  | delayed ticks => exact iff_of_false (fun hzero => htcb.sleeps ticks rfl hzero.2) Bool.false_ne_true

/-- To resume a task that is not suspended does nothing. -/
theorem TcbIs.taskResume_eq {phase : TaskPhase α} (htcb : TcbIs (os.osTcbPrioTbl p) phase false) : osTaskResume p os = os := by
  rw [osTaskResume]
  split
  · rw [if_neg (by rw [htcb.stat, not_not, statOf_and_suspend])]
  · rfl

/-- `OSTaskResume`. -/
theorem TasksAre.taskResume (h : TasksAre os phase suspended) (hmem : p ∈ os.osTcbList.prios) (hp : p < 64)
    (hpresent : (phase p).present = true) :
    TasksAre (osTaskResume p os) phase (update suspended p false) := by
  obtain ⟨htcb, hlisted, hready⟩ := h p hp
  cases hsuspended : suspended p with
  | false =>
      rw [hsuspended] at htcb
      rw [htcb.taskResume_eq, ← hsuspended, update_eq_self]
      exact h
  | true =>
      rw [osTaskResume, if_pos (show os.HasTcb p from .inl hmem)]
      have hstat := htcb.stat
      rw [hsuspended] at hstat hready
      rw [if_pos (by rw [hstat, Ne, statOf_and_suspend]; nofun)]
      have hstat' : (os.osTcbPrioTbl p).osTcbStat &&& ~~~osStatSuspend = statOf (phase p).pending false := by
        rw [hstat, statOf_and_not_suspend]
      have htcb' : TcbIs
          { os.osTcbPrioTbl p with osTcbStat := (os.osTcbPrioTbl p).osTcbStat &&& ~~~osStatSuspend }
          (phase p) false :=
        ⟨hstat', htcb.statPend, htcb.dly, htcb.msg, htcb.sleeps⟩
      -- it is ready again unless it waits or sleeps
      have hwakes : ((os.osTcbPrioTbl p).osTcbStat &&& ~~~osStatSuspend = osStatRdy ∧
          (os.osTcbPrioTbl p).osTcbDly = 0) ∨ os.osRdy.Mem p ↔
          (phase p).runnable = true ∧ false = false := by
        have hnot : ¬ os.osRdy.Mem p := fun hin => absurd (hready.mp hin).2 (by nofun)
        rw [or_iff_left hnot, and_iff_left rfl, ← htcb.runnable_iff hpresent, hstat', statOf_eq_rdy, htcb.dly]
      refine h.setSuspended ?_ ?_ ?_ hp htcb' ?_
      exacts [rfl, onlyElement_ite _ _ _, rfl, (mem_ite_insert hp _ _).trans hwakes]

/-- `OS_EventTaskRdy` gives the message to the first task of the wait list. -/
theorem TasksAre.eventTaskRdy (h : TasksAre os phase suspended) (hp : p < 64)
    (hfirst : os.osEvent.first osUnMap = p) (pmsg : Option α) :
    TasksAre (osEventTaskRdy pmsg osStatQ .pendOk os) (update phase p (.handed pmsg)) suspended := by
  obtain ⟨htcb, -, hready⟩ := h p hp
  have hstat : (os.osTcbPrioTbl p).osTcbStat &&& ~~~osStatQ = statOf false (suspended p) := by
    rw [htcb.stat, statOf_and_not_q]
  have htcb' : TcbIs ⟨(os.osTcbPrioTbl p).osTcbStat &&& ~~~osStatQ, .pendOk, 0, pmsg⟩ (.handed pmsg)
      (suspended p) :=
    ⟨hstat, rfl, rfl, fun _ hsame => TaskPhase.handed.inj hsame, nofun⟩
  -- a task that is suspended as well gets the message, but is not ready yet
  have hwakes : (os.osTcbPrioTbl p).osTcbStat &&& ~~~osStatQ &&& osStatSuspend = osStatRdy ∨ os.osRdy.Mem p ↔
      (TaskPhase.handed pmsg).runnable = true ∧ suspended p = false := by
    rw [hstat, statOf_and_suspend, hready]
    exact (or_iff_left_of_imp And.right).trans (and_iff_right rfl).symm
  subst hfirst
  refine h.setPhase ?_ ?_ ?_ htcb' ?_ ?_
  exacts [rfl, onlyElement_ite _ _ _, .inr (.inr rfl), iff_of_false (not_mem_erase_self hp _) (by nofun),
    (mem_ite_insert hp _ _).trans hwakes]

/-- `OSQPend` puts the running task on the wait list. -/
theorem TasksAre.pendWait (h : TasksAre os phase suspended) (hp : p < 64) (timeout : UInt32) :
    TasksAre (osEventTaskWait p { os with
        osTcbPrioTbl := update os.osTcbPrioTbl p
          ⟨(os.osTcbPrioTbl p).osTcbStat ||| osStatQ, .pendOk, timeout, (os.osTcbPrioTbl p).osTcbMsg⟩ })
      (update phase p (.waiting timeout)) suspended := by
  obtain ⟨htcb, -, -⟩ := h p hp
  have htcb' : TcbIs ⟨(os.osTcbPrioTbl p).osTcbStat ||| osStatQ, .pendOk, timeout,
      (os.osTcbPrioTbl p).osTcbMsg⟩ (.waiting timeout) (suspended p) :=
    ⟨by rw [htcb.stat, statOf_or_q]; rfl, rfl, rfl, nofun, nofun⟩
  refine h.setPhase ?_ ?_ ?_ htcb' ?_ ?_
  exacts [rfl, .inr (.inr rfl), .inr (.inl rfl), iff_of_true ((mem_insert _ hp).mpr (.inl rfl)) rfl,
    iff_of_false (not_mem_erase_self hp _) (by nofun)]

/-- The control block behind `OSQPend`. -/
theorem TcbIs.leave {tcb : OsTcb α} {old : TaskPhase α} (htcb : TcbIs tcb old false) (hticks : old.ticks = 0) :
    TcbIs ⟨osStatRdy, .pendOk, tcb.osTcbDly, none⟩ (.running : TaskPhase α) false :=
  ⟨(by decide : osStatRdy = statOf false false), rfl, htcb.dly.trans hticks, nofun, nofun⟩

/-- `OSQPend` comes back with a message. -/
theorem TasksAre.leaveHanded (h : TasksAre os phase suspended) (hp : p < 64) {pmsg : Option α}
    (hphase : phase p = .handed pmsg) (hactive : suspended p = false) :
    (osQPendLeave p os).1 = (pmsg, .none) ∧
      TasksAre (osQPendLeave p os).2 (update phase p .running) suspended := by
  obtain ⟨htcb, hlisted, hready⟩ := h p hp
  rw [hphase, hactive] at htcb
  rw [hphase] at hlisted hready
  have hpend : (os.osTcbPrioTbl p).osTcbStatPend = .pendOk := htcb.statPend
  rw [osQPendLeave, hpend]
  refine ⟨Prod.ext (htcb.msg pmsg rfl) rfl, ?_⟩
  have htcb' := htcb.leave rfl
  rw [← hactive] at htcb'
  refine h.setPhase ?_ ?_ ?_ htcb' ?_ ?_
  exacts [rfl, .inl rfl, .inl rfl, hlisted, hready]

/-- It comes back without one. -/
theorem TasksAre.leaveTimedOut (h : TasksAre os phase suspended) (hp : p < 64)
    (hphase : phase p = .timedOut) (hactive : suspended p = false) :
    (osQPendLeave p os).1 = (none, .timeout) ∧
      TasksAre (osQPendLeave p os).2 (update phase p .running) suspended := by
  obtain ⟨htcb, -, hready⟩ := h p hp
  rw [hphase, hactive] at htcb
  rw [hphase] at hready
  have hpend : (os.osTcbPrioTbl p).osTcbStatPend = .pendTo := htcb.statPend
  rw [osQPendLeave, hpend]
  refine ⟨rfl, ?_⟩
  have htcb' := htcb.leave rfl
  rw [← hactive] at htcb'
  refine h.setPhase ?_ ?_ ?_ htcb' ?_ ?_
  exacts [rfl, .inl rfl, .inr (.inr rfl), iff_of_false (not_mem_erase_self hp _) (by nofun), hready]

/-! ## Ticks -/

/-- A task that neither sleeps nor waits for a time does not notice a tick. -/
theorem TaskPhase.tick_of_ticks_eq_zero {phase : TaskPhase α} (hzero : phase.ticks = 0) :
    phase.tick = phase := by
  cases phase with
  | absent | running | timedOut | handed => rfl
  | delayed ticks | waiting ticks =>
      obtain rfl : ticks = 0 := hzero
      rfl

/-- A task that is ready behind the last tick, unless it is suspended. -/
theorem ready_tick {stat : BitVec 8} {pending susp : Bool} (hstat : stat = statOf pending susp)
    {phase' : TaskPhase α} (hrunnable : phase'.runnable = true) {b : PriorityBitmap 8} (hp : p < 64)
    (hnot : ¬ b.Mem p) : (if stat &&& osStatSuspend = osStatRdy then b.insert p else b).Mem p ↔
      phase'.runnable = true ∧ susp = false := by
  rw [mem_ite_insert hp, or_iff_left hnot, hstat, statOf_and_suspend, and_iff_right hrunnable]

/-- A tick of a task that sleeps. -/
theorem TasksAre.tickDelayed (h : TasksAre os phase suspended) (hp : p < 64) {ticks : UInt32}
    (hphase : phase p = .delayed ticks) (hticks : ticks ≠ 0) :
    TasksAre (osTickTask os p) (update phase p (phase p).tick) suspended := by
  obtain ⟨htcb, hlisted, hready⟩ := h p hp
  rw [hphase] at htcb hlisted hready
  have hdly : (os.osTcbPrioTbl p).osTcbDly = ticks := htcb.dly
  have hnot : ¬ os.osRdy.Mem p := fun hin => absurd (hready.mp hin).1 Bool.false_ne_true
  rw [osTickTask, hdly, if_pos hticks, hphase, TaskPhase.tick, if_neg hticks]
  -- the task wakes with the last tick, which clears no flag because none says that it waits
  by_cases hlast : ticks - 1 = 0
  · have hclear : ¬ (os.osTcbPrioTbl p).osTcbStat &&& osStatPendAny ≠ osStatRdy := by
      rw [htcb.stat, ne_eq, not_not, statOf_and_pendAny]
      rfl
    have htcb' : TcbIs { os.osTcbPrioTbl p with osTcbDly := ticks - 1, osTcbStatPend := .pendOk }
        (.running : TaskPhase α) (suspended p) :=
      ⟨htcb.stat, rfl, hlast, (fun _ h => by cases h), fun _ h => by cases h⟩
    dsimp only
    rw [if_pos hlast, if_neg hclear, if_pos hlast]
    refine h.setPhase ?_ ?_ ?_ htcb' ?_ ?_
    exacts [rfl, onlyElement_ite _ _ _, .inl rfl, hlisted, ready_tick htcb.stat rfl hp hnot]
  · have htcb' : TcbIs { os.osTcbPrioTbl p with osTcbDly := ticks - 1 } (.delayed (ticks - 1) : TaskPhase α)
        (suspended p) :=
      ⟨htcb.stat, htcb.statPend, rfl, (fun _ h => by cases h), fun _ hsame => TaskPhase.delayed.inj hsame ▸ hlast⟩
    dsimp only
    rw [if_neg hlast, if_neg hlast]
    refine h.setPhase ?_ ?_ ?_ htcb' ?_ ?_
    exacts [rfl, .inl rfl, .inl rfl, hlisted, hready]

/-- A tick of a task that waits for a time. -/
theorem TasksAre.tickWaiting (h : TasksAre os phase suspended) (hp : p < 64) {ticks : UInt32}
    (hphase : phase p = .waiting ticks) (hticks : ticks ≠ 0) :
    TasksAre (osTickTask os p) (update phase p (phase p).tick) suspended := by
  obtain ⟨htcb, hlisted, hready⟩ := h p hp
  rw [hphase] at htcb hlisted hready
  have hdly : (os.osTcbPrioTbl p).osTcbDly = ticks := htcb.dly
  have hnot : ¬ os.osRdy.Mem p := fun hin => absurd (hready.mp hin).1 Bool.false_ne_true
  rw [osTickTask, hdly, if_pos hticks, hphase, TaskPhase.tick, if_neg hticks]
  -- with the last tick the time has passed: the flag that says what it waits for is cleared
  by_cases hlast : ticks - 1 = 0
  · have hset : (os.osTcbPrioTbl p).osTcbStat &&& osStatPendAny ≠ osStatRdy := by
      rw [htcb.stat, ne_eq, statOf_and_pendAny]
      exact Bool.noConfusion
    have hstat : (os.osTcbPrioTbl p).osTcbStat &&& ~~~osStatPendAny = statOf false (suspended p) := by
      rw [htcb.stat, statOf_and_not_pendAny]
    have htcb' : TcbIs ⟨(os.osTcbPrioTbl p).osTcbStat &&& ~~~osStatPendAny, .pendTo, ticks - 1,
        (os.osTcbPrioTbl p).osTcbMsg⟩ (.timedOut : TaskPhase α) (suspended p) :=
      ⟨hstat, rfl, hlast, (fun _ h => by cases h), fun _ h => by cases h⟩
    dsimp only
    rw [if_pos hlast, if_pos hset, if_pos hlast]
    refine h.setPhase ?_ ?_ ?_ htcb' ?_ ?_
    exacts [rfl, onlyElement_ite _ _ _, .inl rfl, hlisted, ready_tick hstat rfl hp hnot]
  · have htcb' : TcbIs { os.osTcbPrioTbl p with osTcbDly := ticks - 1 } (.waiting (ticks - 1) : TaskPhase α)
        (suspended p) :=
      ⟨htcb.stat, htcb.statPend, rfl, (fun _ h => by cases h), fun _ h => by cases h⟩
    dsimp only
    rw [if_neg hlast, if_neg hlast]
    refine h.setPhase ?_ ?_ ?_ htcb' ?_ ?_
    exacts [rfl, .inl rfl, .inl rfl, hlisted, hready]

/-- **A tick of one task.** -/
theorem TasksAre.tickTask (h : TasksAre os phase suspended) (hp : p < 64) :
    TasksAre (osTickTask os p) (update phase p (phase p).tick) suspended := by
  by_cases hzero : (phase p).ticks = 0
  · rw [osTickTask, (h p hp).tcb.dly, hzero, if_neg (not_not.mpr rfl), TaskPhase.tick_of_ticks_eq_zero hzero,
      update_eq_self]
    exact h
  · cases hphase : phase p with
    | absent | running | timedOut | handed => exact absurd (by rw [hphase]; rfl) hzero
    | delayed ticks =>
        rw [← hphase]
        exact h.tickDelayed hp hphase fun hticks => hzero (by rw [hphase]; exact hticks)
    | waiting ticks =>
        rw [← hphase]
        exact h.tickWaiting hp hphase fun hticks => hzero (by rw [hphase]; exact hticks)

/-- A tick of several tasks, each of them once. -/
theorem TasksAre.tickTasks {tasks : List ℕ} (hnodup : tasks.Nodup) (hlt : ∀ p ∈ tasks, p < 64)
    (h : TasksAre os phase suspended) :
    TasksAre (tasks.foldl osTickTask os) (fun p => if p ∈ tasks then (phase p).tick else phase p) suspended := by
  -- the tick of a task changes that task only, so the phases of those still to come are the old ones
  induction tasks generalizing os phase with
  | nil => exact h
  | cons q tasks ih =>
      rw [List.nodup_cons] at hnodup
      have hstep := h.tickTask (hlt q List.mem_cons_self)
      have hrest := ih hnodup.2 (fun p hp => hlt p (List.mem_cons_of_mem _ hp)) hstep
      have hsame : (fun p => if p ∈ tasks then (update phase q (phase q).tick p).tick
          else update phase q (phase q).tick p) = fun p => if p ∈ q :: tasks then (phase p).tick else phase p := by
        funext p
        by_cases hp : p = q
        · subst hp
          rw [if_neg hnodup.1, if_pos List.mem_cons_self, update_self]
        · have hmem : p ∈ q :: tasks ↔ p ∈ tasks := List.mem_cons.trans (or_iff_right hp)
          rw [update_of_ne hp]
          exact if_congr hmem.symm rfl rfl
      rwa [hsame] at hrest

/-! ## Who runs and who waits -/

/-- `OS_SchedNew` finds the task that should run. -/
theorem TasksAre.osSchedNew_eq {a : AbstractKernel α} (h : TasksAre os a.phase a.suspended)
    (hidle : a.phase 63 = .running ∧ a.suspended 63 = false) : osSchedNew os = a.current := by
  have hready : ∀ p < 8 * 8, os.osRdy.Mem p ↔ ((a.phase p).runnable && !a.suspended p) = true := by
    intro p hp
    rw [(h p hp).ready, Bool.and_eq_true, Bool.not_eq_true']
  have hgrp : os.osRdy.grp ≠ 0#8 := by
    refine (grp_ne_zero_iff findsLowest_osUnMap).mpr ⟨63, by decide, (hready 63 (by decide)).mpr ?_⟩
    rw [hidle.1, hidle.2]
    rfl
  have hfind := find?_range findsLowest_osUnMap hready
  rw [if_pos hgrp] at hfind
  exact (congrArg (Option.getD · 63) hfind).symm

/-- The wait list finds the task that should be given a message. -/
theorem TasksAre.firstWaiter_eq {a : AbstractKernel α} (h : TasksAre os a.phase a.suspended) :
    a.firstWaiter = if os.osEvent.grp ≠ 0#8 then some (os.osEvent.first osUnMap) else none :=
  find?_range findsLowest_osUnMap fun p hp => (h p hp).listed

end tasks

/-! ## What the functions leave alone -/

/-- The queue and the list of the tasks stay. -/
def Keeps (os os' : Os α) : Prop := os'.osQ = os.osQ ∧ os'.osTcbList = os.osTcbList

section frame

variable (os : Os α)

/-- `OSTimeDly`. -/
theorem keeps_osTimeDly (p : ℕ) (ticks : UInt32) : Keeps os (osTimeDly p ticks os) := by
  rw [osTimeDly]
  split <;> exact ⟨rfl, rfl⟩

/-- `OSTaskSuspend`. -/
theorem keeps_osTaskSuspend (p : ℕ) : Keeps os (osTaskSuspend p os) := by
  rw [osTaskSuspend]
  split <;> exact ⟨rfl, rfl⟩

/-- `OSTaskResume`. -/
theorem keeps_osTaskResume (p : ℕ) : Keeps os (osTaskResume p os) := by
  rw [osTaskResume]
  split
  · dsimp only
    split <;> exact ⟨rfl, rfl⟩
  · exact ⟨rfl, rfl⟩

/-- `OSQPend`, when it comes back. -/
theorem keeps_osQPendLeave (p : ℕ) : Keeps os (osQPendLeave p os).2 := by
  rw [osQPendLeave]
  split <;> exact ⟨rfl, rfl⟩

/-- A tick of a task. -/
theorem keeps_osTickTask (p : ℕ) : Keeps os (osTickTask os p) := by
  rw [osTickTask]
  split
  · dsimp only
    split <;> exact ⟨rfl, rfl⟩
  · exact ⟨rfl, rfl⟩

/-- `OSTimeTick`. -/
theorem keeps_osTimeTick : Keeps os (osTimeTick os) := by
  have hall : ∀ (tasks : List ℕ) (os' : Os α), Keeps os os' → Keeps os (tasks.foldl osTickTask os') := by
    intro tasks
    induction tasks with
    | nil => exact fun _ hkeeps => hkeeps
    | cons p tasks ih =>
        intro os' hkeeps
        have hstep := keeps_osTickTask os' p
        exact ih _ ⟨hstep.1.trans hkeeps.1, hstep.2.trans hkeeps.2⟩
  exact hall _ _ ⟨rfl, rfl⟩

end frame

end RtuShuiwen
