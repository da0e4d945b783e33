import RtuShuiwen.Thread.ReceiveCommand

/-! # The command loop and the receive interrupt

The interrupt restarts the buffer of `RS232_3` at its front for every burst, also while
`receive_command` is in the middle of a frame: the loop and the interrupt share the buffer and its
length, and nothing else. Here one turn of the loop is a run of small steps, between any two of which
bursts may come, and each cell of the buffer knows which burst wrote it.

* **`taskStep_poll`**: a turn that no burst interrupts does what `receiveCommand` says;
* **`commandsWhole_of_stepsMeet`**: the runs in which no command is torn and no frame is lost;
* **`exists_not_commandsWhole`**: in other runs the loop needs only to go on for one of these to
  happen. -/

namespace RtuShuiwen

open TransitionSystem

/-! ## The shared state -/

/-- A byte that the loop has read, and the burst that it came from, if it came from one. -/
structure ReadCell where
  byte : UInt8
  burst : Option ℕ

/-- An execution: the code, the fields read so far, and the places of those still to be read. -/
structure Reading where
  funId : UInt8
  code : ReadCell
  fields : List ReadCell
  todo : List ℕ

/-- Where the loop stands. -/
inductive Phase
  | testLength
  | search
  | readFunId
  | execute (r : Reading)
  | respond (funId : UInt8)
  | reset

/-- The channels, the burst that wrote each cell of the `RS232_3` buffer, the number of bursts so far,
whether a complete frame has come since a function code was last read, and the place of the loop. -/
structure SharedState extends ReceiveState where
  cellBurst : ℕ → Option ℕ
  bursts : ℕ
  frameWaiting : Bool
  phase : Phase

/-- A cell of the buffer as the loop reads it. -/
def SharedState.cell (s : SharedState) (i : ℕ) : ReadCell := ⟨s.rs232Recv.getD i 0, s.cellBurst i⟩

/-- An execution that begins: its code is read from the front of the buffer. -/
def SharedState.reading (s : SharedState) : Reading :=
  let funId := getDownFrameFunId s.rs232Recv
  ⟨funId, s.cell 10, [], readOffsets funId⟩

/-- The burst holds a whole frame. -/
def carriesFrame (burst : List UInt8) : Bool :=
  ((frameStart burst).bind fun start => frontFrame (burst.drop start)).isSome

/-- The interrupt, in whatever phase it comes. -/
def interrupt (b : Burst) (s : SharedState) : SharedState where
  toReceiveState := receiveBurst b s.toReceiveState
  cellBurst i := if i < b.bytes.length then some s.bursts else s.cellBurst i
  bursts := s.bursts + 1
  frameWaiting := s.frameWaiting || carriesFrame b.bytes
  phase := s.phase

/-- One step of `receive_command`. -/
def taskStep (s : SharedState) : SharedState :=
  match s.phase with
  | .testLength =>
      if s.rs232RecvAddress ≠ 0 then { s with phase := .search }
      else { s with toReceiveState := (receiveCommand s.toReceiveState).2 }
  | .search =>
      if (strstr frameMark s.rs232Recv).isSome then { s with phase := .readFunId }
      else { s with phase := .testLength }
  | .readFunId => { s with frameWaiting := false, phase := .execute s.reading }
  | .execute ⟨funId, code, fields, i :: todo⟩ =>
      { s with phase := .execute ⟨funId, code, fields ++ [s.cell i], todo⟩ }
  | .execute ⟨funId, _, _, []⟩ => { s with phase := .respond funId }
  -- the response reads nothing of the frame
  | .respond _ => { s with phase := .reset }
  | .reset => { s with rs232RecvAddress := 0, phase := .testLength }

/-- What happens in an interleaving. -/
inductive SharedEvent
  | interrupt (b : Burst)
  | gprs (dmaUsart2Buf : List UInt8)
  | task

/-- One event. -/
def SharedState.step (s : SharedState) : SharedEvent → Option SharedState
  | .interrupt b => some (interrupt b s)
  | .gprs dmaUsart2Buf => some { s with dmaUsart2Buf, gUsart2ReceiveStat := true }
  | .task => some (taskStep s)

/-- Before the first burst, whatever lies in memory. -/
def SharedState.start (rs232Recv dmaUsart2Buf : List UInt8) : SharedState where
  toReceiveState := .start rs232Recv dmaUsart2Buf
  cellBurst _ := none
  bursts := 0
  frameWaiting := false
  phase := .testLength

/-! ## The law and its condition -/

/-- An execution reads its code and all its fields from one and the same burst. -/
def Phase.FromOneBurst : Phase → Prop
  | .execute r => r.code.burst.isSome ∧ ∀ c ∈ r.fields, c.burst = r.code.burst
  | _ => True

/-- **No command is torn and no frame is lost.** -/
structure SharedState.CommandsWhole (s : SharedState) : Prop where
  /-- What is executed comes from one burst. -/
  whole : s.phase.FromOneBurst
  /-- A complete frame that came while another was executed is still announced by the length. -/
  kept : s.frameWaiting = true → s.rs232RecvAddress ≠ 0

/-- **When a step does no harm.** When the loop reads a function code, the code and all fields that it
will read lie in cells that one burst wrote; and a burst that comes during an execution overwrites no
field that is still to be read and carries no whole frame. -/
def Harmless (s : SharedState) : SharedEvent → Prop
  | .task =>
      match s.phase with
      | .readFunId => (s.cellBurst 10).isSome ∧
          ∀ i ∈ s.reading.todo, s.cellBurst i = s.cellBurst 10
      | _ => True
  | .interrupt b =>
      match s.phase with
      | .execute r => carriesFrame b.bytes = false ∧ ∀ i ∈ r.todo, b.bytes.length ≤ i
      | .respond _ => carriesFrame b.bytes = false
      | .reset => carriesFrame b.bytes = false
      | _ => True
  | .gprs _ => True

/-! ## What a step of the loop does -/

/-- **The steps of the loop**, each with what it has found. -/
inductive TaskMove (s : SharedState) : SharedState → Prop
  | otherChannel (hphase : s.phase = .testLength) (haddr : s.rs232RecvAddress = 0) :
      TaskMove s
        { s with toReceiveState := (receiveCommand s.toReceiveState).2, phase := .testLength }
  | newData (hphase : s.phase = .testLength) (haddr : s.rs232RecvAddress ≠ 0) :
      TaskMove s { s with phase := .search }
  | found (hphase : s.phase = .search) (hmark : (strstr frameMark s.rs232Recv).isSome) :
      TaskMove s { s with phase := .readFunId }
  | notFound (hphase : s.phase = .search) (hmark : ¬ (strstr frameMark s.rs232Recv).isSome) :
      TaskMove s { s with phase := .testLength }
  | readCode (hphase : s.phase = .readFunId) :
      TaskMove s { s with frameWaiting := false, phase := .execute s.reading }
  | readField {funId : UInt8} {code : ReadCell} {fields : List ReadCell} {i : ℕ} {todo : List ℕ}
      (hphase : s.phase = .execute ⟨funId, code, fields, i :: todo⟩) :
      TaskMove s { s with phase := .execute ⟨funId, code, fields ++ [s.cell i], todo⟩ }
  | executed {funId : UInt8} {code : ReadCell} {fields : List ReadCell}
      (hphase : s.phase = .execute ⟨funId, code, fields, []⟩) :
      TaskMove s { s with phase := .respond funId }
  | responded {funId : UInt8} (hphase : s.phase = .respond funId) :
      TaskMove s { s with phase := .reset }
  | released (hphase : s.phase = .reset) :
      TaskMove s { s with rs232RecvAddress := 0, phase := .testLength }

/-- Every step is one of these. -/
theorem taskStep_move (s : SharedState) : TaskMove s (taskStep s) := by
  unfold taskStep
  cases hphase : s.phase with
  | testLength =>
      by_cases haddr : s.rs232RecvAddress = 0
      · rw [if_neg (not_not.mpr haddr)]
        exact .otherChannel hphase haddr
      · rw [if_pos haddr]
        exact .newData hphase haddr
  | search =>
      by_cases hmark : (strstr frameMark s.rs232Recv).isSome
      · rw [if_pos hmark]
        exact .found hphase hmark
      · rw [if_neg hmark]
        exact .notFound hphase hmark
  | readFunId => exact .readCode hphase
  | execute r =>
      obtain ⟨funId, code, fields, todo⟩ := r
      cases todo with
      | nil => exact .executed hphase
      | cons i todo => exact .readField hphase
  | respond funId => exact .responded hphase
  | reset => exact .released hphase

/-! ## A turn without interruption -/

/-- The fields still to be read are read one after the other. -/
theorem taskStep_execute (s : SharedState) (funId : UInt8) (code : ReadCell) (fields : List ReadCell)
    (todo : List ℕ) (hphase : s.phase = .execute ⟨funId, code, fields, todo⟩) :
    taskStep^[todo.length] s =
      { s with phase := .execute ⟨funId, code, fields ++ todo.map s.cell, []⟩ } := by
  -- the induction is on the fields still to be read; those read before are kept in front
  induction todo generalizing s fields with
  | nil =>
      rw [List.map_nil, List.append_nil, ← hphase]
      rfl
  | cons i todo ih =>
      have hstep : taskStep s =
          { s with phase := .execute ⟨funId, code, fields ++ [s.cell i], todo⟩ } := by
        rw [taskStep, hphase]
      rw [List.length_cons, Function.iterate_succ_apply, hstep, ih _ _ rfl, List.map_cons,
        List.append_assoc]
      rfl

/-- An execution that is left alone ends with the release of the buffer. -/
theorem taskStep_finish (s : SharedState) (r : Reading) (hphase : s.phase = .execute r) :
    taskStep^[r.todo.length + 3] s = { s with rs232RecvAddress := 0, phase := .testLength } := by
  rw [Nat.add_comm, Function.iterate_add_apply, taskStep_execute s _ _ _ _ hphase]
  rfl

/-- **A turn that no burst interrupts is one poll of the loop.** -/
theorem taskStep_poll (s : SharedState) (hphase : s.phase = .testLength) :
    ∃ n, (taskStep^[n] s).phase = .testLength ∧
      (taskStep^[n] s).toReceiveState = (receiveCommand s.toReceiveState).2 := by
  obtain ⟨haddr, hfound, hpoll⟩ | ⟨haddr, hnone, hpoll⟩ | ⟨haddr, -⟩ | ⟨haddr, -⟩ :=
    receiveCommand_cases s.toReceiveState
  · -- with a mark in the buffer the turn goes through search, code and execution
    have hsearch : taskStep^[2] s = { s with phase := .readFunId } := by
      show taskStep (taskStep s) = _
      have htest : taskStep s = { s with phase := .search } := by
        rw [taskStep, hphase]
        exact if_pos haddr
      rw [htest]
      exact if_pos hfound
    have hfinish := taskStep_finish (taskStep { s with phase := .readFunId }) s.reading rfl
    refine ⟨s.reading.todo.length + 3 + 1 + 2, ?_⟩
    rw [Function.iterate_add_apply, hsearch, Function.iterate_succ_apply, hfinish, hpoll]
    exact ⟨rfl, rfl⟩
  · -- without one it ends with the search
    refine ⟨2, ?_⟩
    show (taskStep (taskStep s)).phase = _ ∧ (taskStep (taskStep s)).toReceiveState = _
    have htest : taskStep s = { s with phase := .search } := by
      rw [taskStep, hphase]
      exact if_pos haddr
    have hsearch : taskStep { s with phase := .search } = { s with phase := .testLength } :=
      if_neg (by rw [hnone]; decide)
    rw [htest, hsearch, hpoll]
    exact ⟨rfl, rfl⟩
  all_goals
    -- with the length zero it is one step
    refine ⟨1, ?_⟩
    show (taskStep s).phase = _ ∧ (taskStep s).toReceiveState = _
    have htest : taskStep s = { s with toReceiveState := (receiveCommand s.toReceiveState).2 } := by
      rw [taskStep, hphase]
      exact if_neg (not_not.mpr haddr)
    rw [htest]
    exact ⟨hphase, rfl⟩

/-! ## Runs whose steps do no harm -/

/-- A phase between the read of the function code and the release of the buffer. -/
def Phase.Executing : Phase → Prop
  | .execute _ | .respond _ | .reset => True
  | _ => False

/-- The fields that are still to be read lie in cells that the burst of the code wrote. -/
def SharedState.TodoFromOneBurst (s : SharedState) : Prop :=
  match s.phase with
  | .execute r => ∀ i ∈ r.todo, s.cellBurst i = r.code.burst
  | _ => True

/-- The invariant. -/
structure SharedState.Inv (s : SharedState) : Prop where
  /-- The law holds. -/
  whole : s.CommandsWhole
  /-- What is still to be read is of the same burst. -/
  todo : s.TodoFromOneBurst
  /-- During an execution no complete frame has come. -/
  quiet : s.phase.Executing → s.frameWaiting = false

/-- A burst leaves the length different from zero. -/
theorem interrupt_address_ne_zero (b : Burst) (s : SharedState) :
    (interrupt b s).rs232RecvAddress ≠ 0 :=
  fun hlen => b.ne_nil (List.length_eq_zero_iff.mp hlen)

/-- A harmless burst keeps the invariant. -/
theorem inv_interrupt {b : Burst} {s : SharedState} (hinv : s.Inv)
    (hharmless : Harmless s (.interrupt b)) : (interrupt b s).Inv := by
  refine ⟨⟨hinv.whole.whole, fun _ => interrupt_address_ne_zero b s⟩, ?_, ?_⟩
  · -- a field still to be read lies behind the end of the burst
    have htodo := hinv.todo
    unfold SharedState.TodoFromOneBurst at htodo ⊢
    show match s.phase with | .execute r => _ | _ => True
    unfold Harmless at hharmless
    cases hphase : s.phase with
    | execute r =>
        rw [hphase] at htodo hharmless
        intro i hi
        exact (if_neg (Nat.not_lt.mpr (hharmless.2 i hi))).trans (htodo i hi)
    | _ => trivial
  · -- what comes during an execution is no frame
    intro hexecuting
    have hquiet : s.frameWaiting = false := hinv.quiet hexecuting
    have hnoFrame : carriesFrame b.bytes = false := by
      have hexecuting : s.phase.Executing := hexecuting
      unfold Harmless at hharmless
      cases hphase : s.phase with
      | execute r =>
          rw [hphase] at hharmless
          exact hharmless.1
      | respond funId =>
          rw [hphase] at hharmless
          exact hharmless
      | reset =>
          rw [hphase] at hharmless
          exact hharmless
      | _ =>
          rw [hphase] at hexecuting
          exact hexecuting.elim
    show (s.frameWaiting || carriesFrame b.bytes) = false
    rw [hquiet, hnoFrame]
    rfl

/-- A harmless step of the loop keeps the invariant. -/
theorem inv_taskStep {s : SharedState} (hinv : s.Inv) (hharmless : Harmless s .task) :
    (taskStep s).Inv := by
  obtain ⟨⟨hwhole, hkept⟩, htodo, hquiet⟩ := hinv
  unfold SharedState.TodoFromOneBurst at htodo
  unfold Harmless at hharmless
  have hmove := taskStep_move s
  generalize taskStep s = s' at hmove
  cases hmove with
  | otherChannel hphase haddr =>
      -- with the length zero no frame waits, and the other channel does not change that
      exact ⟨⟨trivial, fun hwaiting => absurd haddr (hkept hwaiting)⟩, trivial, False.elim⟩
  | newData hphase haddr => exact ⟨⟨trivial, fun _ => haddr⟩, trivial, False.elim⟩
  | found hphase hmark => exact ⟨⟨trivial, hkept⟩, trivial, False.elim⟩
  | notFound hphase hmark => exact ⟨⟨trivial, hkept⟩, trivial, False.elim⟩
  | readCode hphase =>
      -- the condition is about the cells that this execution will read
      rw [hphase] at hharmless
      exact ⟨⟨⟨hharmless.1, nofun⟩, nofun⟩, hharmless.2, fun _ => rfl⟩
  | @readField funId code fields i todo hphase =>
      rw [hphase] at hwhole htodo hquiet
      have hfields : ∀ c ∈ fields ++ [s.cell i], c.burst = code.burst := by
        intro c hc
        obtain hc | hc := List.mem_append.mp hc
        · exact hwhole.2 c hc
        · rw [List.mem_singleton.mp hc]
          exact htodo i List.mem_cons_self
      exact ⟨⟨⟨hwhole.1, hfields⟩, hkept⟩, fun j hj => htodo j (List.mem_cons_of_mem _ hj),
        fun _ => hquiet trivial⟩
  | executed hphase =>
      rw [hphase] at hquiet
      exact ⟨⟨trivial, hkept⟩, trivial, fun _ => hquiet trivial⟩
  | responded hphase =>
      rw [hphase] at hquiet
      exact ⟨⟨trivial, hkept⟩, trivial, fun _ => hquiet trivial⟩
  | released hphase =>
      -- the length is set to zero: no frame may be waiting
      rw [hphase] at hquiet
      have hnone : s.frameWaiting = false := hquiet trivial
      exact ⟨⟨trivial, fun hwaiting => nomatch hnone.symm.trans hwaiting⟩, trivial, False.elim⟩

/-- **In a run whose steps all do no harm, no command is torn and no frame is lost.** -/
theorem commandsWhole_of_stepsMeet (rs232Recv dmaUsart2Buf : List UInt8) (events : List SharedEvent)
    (hharmless : StepsMeet SharedState.step Harmless (.start rs232Recv dmaUsart2Buf) events) :
    AllReached SharedState.step SharedState.CommandsWhole (.start rs232Recv dmaUsart2Buf) events := by
  have hstart : (SharedState.start rs232Recv dmaUsart2Buf).Inv :=
    ⟨⟨trivial, nofun⟩, trivial, False.elim⟩
  refine (allReached_of_stepsMeet ?_ hstart hharmless).mono fun s hinv => hinv.whole
  intro s e s' hinv hmeets hstep
  cases e with
  | interrupt b =>
      obtain rfl := Option.some.inj hstep
      exact inv_interrupt hinv hmeets
  | gprs dmaUsart2Buf =>
      obtain rfl := Option.some.inj hstep
      exact ⟨⟨hinv.whole.whole, hinv.whole.kept⟩, hinv.todo, hinv.quiet⟩
  | task =>
      obtain rfl := Option.some.inj hstep
      exact inv_taskStep hinv hmeets

/-- A clock frame whose time is read whole before anything else comes. -/
theorem commandsWhole_clockBurst :
    AllReached SharedState.step SharedState.CommandsWhole (.start [] [])
      [.interrupt clockBurst, .task, .task, .task, .task] := by
  refine commandsWhole_of_stepsMeet [] [] _ ?_
  intro s hs
  obtain rfl := Option.some.inj hs
  refine ⟨trivial, fun s hs => ?_⟩
  obtain rfl := Option.some.inj hs
  refine ⟨trivial, fun s hs => ?_⟩
  obtain rfl := Option.some.inj hs
  refine ⟨trivial, fun s hs => ?_⟩
  obtain rfl := Option.some.inj hs
  refine ⟨⟨rfl, by decide⟩, fun s hs => ?_⟩
  obtain rfl := Option.some.inj hs
  exact ⟨trivial, trivial⟩

/-- A second clock frame comes when the year of the first has been read: the month is that of the
second. -/
theorem clockBursts_not_commandsWhole :
    ¬ AllReached SharedState.step SharedState.CommandsWhole (.start [] [])
      [.interrupt clockBurst, .task, .task, .task, .task, .interrupt clockBurst, .task] := by
  intro h
  have hlast := ((((((h.2 _ rfl).2 _ rfl).2 _ rfl).2 _ rfl).2 _ rfl).2 _ rfl).2 _ rfl
  have hmonth := hlast.whole.2 ⟨0x05, some 1⟩ (.tail _ (.head _))
  exact nomatch hmonth

/-! ## Runs with a step that does harm -/

/-- The bursts are counted: those that are known are earlier than the next. -/
structure SharedState.Counted (s : SharedState) : Prop where
  /-- The burst of a cell. -/
  cells : ∀ i n, s.cellBurst i = some n → n < s.bursts
  /-- The burst of a code. -/
  code : ∀ r n, s.phase = .execute r → r.code.burst = some n → n < s.bursts

/-- A field of another burst that is still to be read will be read. -/
theorem torn_of_todo {s : SharedState} {r : Reading} (hphase : s.phase = .execute r) {i : ℕ}
    (hi : i ∈ r.todo) (hother : s.cellBurst i ≠ r.code.burst) :
    ∃ k, ¬ AllReached SharedState.step SharedState.CommandsWhole s (List.replicate k .task) := by
  refine ⟨r.todo.length, fun h => ?_⟩
  have hread := (h.iterate (f := taskStep) fun _ => rfl).whole
  rw [taskStep_execute s r.funId r.code r.fields r.todo hphase] at hread
  exact hother (hread.2 (s.cell i) (List.mem_append_right _ (List.mem_map_of_mem hi)))

/-- A frame that came during an execution will be erased. -/
theorem lost_of_executing {s : SharedState} (hexecuting : s.phase.Executing)
    (hwaiting : s.frameWaiting = true) :
    ∃ k, ¬ AllReached SharedState.step SharedState.CommandsWhole s (List.replicate k .task) := by
  -- every phase of an execution leads to the reset
  obtain ⟨k, hk⟩ : ∃ k, taskStep^[k] s = { s with rs232RecvAddress := 0, phase := .testLength } := by
    cases hphase : s.phase with
    | execute r => exact ⟨r.todo.length + 3, taskStep_finish s r hphase⟩
    | respond funId =>
        refine ⟨2, ?_⟩
        show taskStep (taskStep s) = _
        have hreset : taskStep s = { s with phase := .reset } := by rw [taskStep, hphase]
        rw [hreset]
        rfl
    | reset =>
        refine ⟨1, ?_⟩
        show taskStep s = _
        rw [taskStep, hphase]
    | _ =>
        rw [hphase] at hexecuting
        exact hexecuting.elim
  refine ⟨k, fun h => ?_⟩
  have hkept := (h.iterate (f := taskStep) fun _ => rfl).kept
  rw [hk] at hkept
  exact hkept hwaiting rfl

/-- What a burst does to the cells. -/
theorem cellBurst_interrupt {b : Burst} {s : SharedState} {i : ℕ} (hi : i < b.bytes.length) :
    (interrupt b s).cellBurst i = some s.bursts := if_pos hi

/-- A burst keeps the count. -/
theorem counted_interrupt {s : SharedState} (h : s.Counted) (b : Burst) :
    (interrupt b s).Counted := by
  constructor
  case cells =>
    intro i n hn
    by_cases hi : i < b.bytes.length
    · rw [cellBurst_interrupt hi] at hn
      exact (Option.some.inj hn) ▸ Nat.lt_succ_self _
    · have hold : (interrupt b s).cellBurst i = s.cellBurst i := if_neg hi
      exact (h.cells i n (hold ▸ hn)).trans (Nat.lt_succ_self _)
  case code => exact fun r n hphase hn => (h.code r n hphase hn).trans (Nat.lt_succ_self _)

/-- A step of the loop keeps the count. -/
theorem counted_taskStep {s : SharedState} (h : s.Counted) : (taskStep s).Counted := by
  have hmove := taskStep_move s
  generalize taskStep s = s' at hmove
  cases hmove with
  | readCode hphase =>
      refine ⟨h.cells, fun r n hr hn => ?_⟩
      obtain rfl : s.reading = r := Phase.execute.inj hr
      exact h.cells 10 n hn
  | readField hphase =>
      refine ⟨h.cells, fun r n hr hn => ?_⟩
      obtain rfl := Phase.execute.inj hr
      exact h.code _ n hphase hn
  | _ => exact ⟨h.cells, nofun⟩

/-- **A step that does harm shows**: left alone, the loop comes to execute a torn command or to erase
the frame. -/
theorem harm_shows {s s' : SharedState} {e : SharedEvent} (hcounted : s.Counted)
    (hharm : ¬ Harmless s e) (hstep : s.step e = some s') :
    ∃ k, ¬ AllReached SharedState.step SharedState.CommandsWhole s' (List.replicate k .task) := by
  unfold Harmless at hharm
  cases e with
  | gprs dmaUsart2Buf => exact absurd trivial hharm
  | task =>
      obtain rfl := Option.some.inj hstep
      cases hphase : s.phase with
      | readFunId =>
          rw [hphase] at hharm
          have hread : taskStep s = { s with frameWaiting := false, phase := .execute s.reading } := by
            rw [taskStep, hphase]
          rw [hread]
          by_cases hcode : (s.cellBurst 10).isSome
          · -- some field is of another burst than the code
            have hfield : ¬ ∀ i ∈ s.reading.todo, s.cellBurst i = s.cellBurst 10 :=
              fun hall => hharm ⟨hcode, hall⟩
            push Not at hfield
            obtain ⟨i, hi, hother⟩ := hfield
            exact torn_of_todo rfl hi hother
          · exact ⟨0, fun h => hcode h.whole.1⟩
      | _ =>
          rw [hphase] at hharm
          exact absurd trivial hharm
  | interrupt b =>
      obtain rfl := Option.some.inj hstep
      have hlost : s.phase.Executing → carriesFrame b.bytes = true →
          ∃ k, ¬ AllReached SharedState.step SharedState.CommandsWhole (interrupt b s)
            (List.replicate k .task) := by
        intro hexecuting hframe
        refine lost_of_executing hexecuting ?_
        show (s.frameWaiting || carriesFrame b.bytes) = true
        rw [hframe, Bool.or_true]
      cases hphase : s.phase with
      | execute r =>
          rw [hphase] at hharm hlost
          by_cases hframe : carriesFrame b.bytes = true
          · exact hlost trivial hframe
          · -- some field that is still to be read is overwritten
            have hfield : ¬ ∀ i ∈ r.todo, b.bytes.length ≤ i :=
              fun hall => hharm ⟨Bool.eq_false_iff.mpr hframe, hall⟩
            push Not at hfield
            obtain ⟨i, hi, hlt⟩ := hfield
            refine torn_of_todo (s := interrupt b s) hphase hi ?_
            rw [cellBurst_interrupt hlt]
            intro hsame
            exact absurd (hcounted.code r s.bursts hphase hsame.symm) (lt_irrefl _)
      | respond funId =>
          rw [hphase] at hharm hlost
          exact hlost trivial (Bool.eq_true_of_not_eq_false hharm)
      | reset =>
          rw [hphase] at hharm hlost
          exact hlost trivial (Bool.eq_true_of_not_eq_false hharm)
      | _ =>
          rw [hphase] at hharm
          exact absurd trivial hharm

/-- **The condition leaves nothing out**: a run with a step that does harm has a beginning after which
the loop, left alone, executes a torn command or erases a frame. -/
theorem exists_not_commandsWhole (rs232Recv dmaUsart2Buf : List UInt8) (events : List SharedEvent)
    (h : ¬ StepsMeet SharedState.step Harmless (.start rs232Recv dmaUsart2Buf) events) :
    ∃ events' k, events' <+: events ∧ ¬ AllReached SharedState.step SharedState.CommandsWhole
      (.start rs232Recv dmaUsart2Buf) (events' ++ List.replicate k .task) := by
  have hstart : (SharedState.start rs232Recv dmaUsart2Buf).Counted := ⟨nofun, nofun⟩
  refine exists_not_allReached ?_ ?_ hstart h
  · intro s e s' hcounted _ hstep
    cases e with
    | interrupt b =>
        obtain rfl := Option.some.inj hstep
        exact counted_interrupt hcounted b
    | gprs dmaUsart2Buf =>
        obtain rfl := Option.some.inj hstep
        exact ⟨hcounted.cells, hcounted.code⟩
    | task =>
        obtain rfl := Option.some.inj hstep
        exact counted_taskStep hcounted
  · exact fun s e s' => harm_shows

end RtuShuiwen
