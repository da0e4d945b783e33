import RtuShuiwen.Ftp.Store
import RtuShuiwen.Library.TransitionSystem

/-! # What a `STOR` reports

A `STOR` that is kept ends by setting `g_save_picture_flag`, which `basic_message_task` waits for, and by
advancing `Figure_num`; one that is given up only advances `g_picture_count`. Here runs of `STOR`s are
followed turn by turn, with any outcome of `f_open`, `f_write`, `select` and `recv`.

* **`storReports_iff`**: in which runs a `STOR` says truly whether it has stored a picture, and leaves no
  file open and the next `STOR` as after power-up where it fails. -/

namespace RtuShuiwen

open MarkedStream TransitionSystem

/-- How a `STOR` has ended: its variables at the end, the way out of the loop, whether it was one that is
kept, and whether it has set `g_save_picture_flag` and advanced `Figure_num`. -/
structure StorReport where
  stor : Receiving
  exit : Exit
  kept : Bool
  saved : Bool

/-- The global variables, the files that are open, the `STOR` that is running and the report of the last
one when none is. -/
structure FtpState where
  gPictureCount : UInt8
  gSavePictureFlag : Bool
  figureNum : UInt32
  openFiles : ℕ
  stor : Option Receiving
  report : Option StorReport

/-- A `STOR` request that has passed its permission check, with the result that `f_open` gives if it is
called and what lies in `sbuf`; a turn of its loop; and `basic_message_task` taking the flag. -/
inductive FtpEvent
  | stor (opened : FResult) (sbuf : ℤ → UInt8)
  | turn (t : Turn)
  | takeFlag

/-- The end of a `STOR` that has left the loop. -/
def FtpState.finish (s : FtpState) (r : Receiving) : Exit → FtpState
  | .recvError =>
      -- returns at once: the file, if there is one, stays open
      { s with
        stor := none
        report := some ⟨r, .recvError, s.gPictureCount == selectPictureCount, false⟩ }
  | exit =>
      if s.gPictureCount = selectPictureCount then
        { s with
          openFiles := if r.opened = .ok then s.openFiles - 1 else s.openFiles
          figureNum := s.figureNum + 1
          gPictureCount := 1
          gSavePictureFlag := true
          stor := none
          report := some ⟨r, exit, true, true⟩ }
      else
        { s with
          gPictureCount := s.gPictureCount + 1
          stor := none
          report := some ⟨r, exit, false, false⟩ }

/-- One event. -/
def FtpState.step (s : FtpState) : FtpEvent → Option FtpState
  | .stor opened sbuf =>
      match s.stor with
      | some _ => none
      | none =>
          some { s with
            openFiles :=
              if s.gPictureCount = selectPictureCount ∧ opened = .ok then s.openFiles + 1
              else s.openFiles
            stor := some (.start opened sbuf)
            report := none }
  | .turn t =>
      match s.stor with
      | none => none
      | some r =>
          match r.turn s.gPictureCount t with
          | (r', none) => some { s with stor := some r' }
          | (r', some exit) => some (s.finish r' exit)
  | .takeFlag => some { s with gSavePictureFlag := false }

/-- After power-up. -/
def FtpState.start : FtpState := ⟨1, false, 1, 0, none, none⟩

/-! ## The law and its condition -/

/-- The bytes received so far. -/
def Receiving.stream (r : Receiving) : List UInt8 := streamOf (r.received.map Prod.fst)

/-- A picture was stored: the file was opened, a start mark has come, and all bytes from it on are in the
file, written without error. -/
def StorReport.PictureStored (p : StorReport) : Prop :=
  p.stor.opened = .ok ∧ [0xFF, 0xD8] <:+: p.stor.stream ∧
    p.stor.file = fromPair 0xFF 0xD8 p.stor.stream ∧ p.stor.clean = true

/-- The failing paths: `f_open` fails, `select` gives up with nothing received, `recv` fails. -/
def StorReport.Failed (p : StorReport) : Prop :=
  (p.kept = true ∧ p.stor.opened ≠ .ok) ∨ (p.exit = .gaveUp ∧ p.stor.received = []) ∨
    p.exit = .recvError

/-- **Success and failure are reported truly**: the flag is set and the number advanced only for a
stored picture, and a `STOR` that fails leaves no file open and the next one as after power-up. -/
def FtpState.Truthful (s : FtpState) : Prop :=
  ∀ p ∈ s.report, (p.saved = true → p.PictureStored) ∧
    (p.Failed → s.openFiles = 0 ∧ s.gPictureCount = 1)

/-- The received chunks from the first one on with which `sbuf` begins with the start mark, when the
chunks come into this `sbuf`. -/
def shownChunks : (ℤ → UInt8) → List (Chunk × WriteResult) → List (Chunk × WriteResult)
  | _, [] => []
  | sbuf, (c, w) :: rest =>
      if startTest (recvInto sbuf c) then (c, w) :: rest else shownChunks (recvInto sbuf c) rest

/-- What came in was good: `f_open` succeeded, a start mark has come, the first one stands at the front
of the first chunk with which `sbuf` begins with it, and every `f_write` from there on took its chunk
without error. -/
def Receiving.InputsGood (r : Receiving) : Prop :=
  let shown := shownChunks r.firstSbuf r.received
  r.opened = .ok ∧ [0xFF, 0xD8] <:+: r.stream ∧
    fromPair 0xFF 0xD8 r.stream = streamOf (shown.map Prod.fst) ∧ ∀ cw ∈ shown, cw.2.Full cw.1

/-- **When the end of a `STOR` does no harm.** One that is kept ends with what came in being good, and not
by a failure of `recv`; one that is given up does not end by `select` giving up on nothing received. -/
def StorEndsWell (s : FtpState) (e : FtpEvent) : Prop :=
  match s.stor, e with
  | some r, .turn t =>
      match r.turn s.gPictureCount t with
      | (_, none) => True
      | (r', some exit) =>
          if s.gPictureCount = selectPictureCount then exit ≠ .recvError ∧ r'.InputsGood
          else ¬ (exit = .gaveUp ∧ r'.received = [])
  | _, _ => True

/-! ## A kept `STOR` follows what comes in -/

/-- The buffer after some chunks. -/
def sbufAfter (sbuf : ℤ → UInt8) (received : List (Chunk × WriteResult)) : ℤ → UInt8 :=
  received.foldl (fun sbuf cw => recvInto sbuf cw.1) sbuf

/-- One more chunk counts when the mark was shown before or is shown with it. -/
theorem shownChunks_concat (sbuf : ℤ → UInt8) (received : List (Chunk × WriteResult)) (c : Chunk)
    (w : WriteResult) :
    shownChunks sbuf (received ++ [(c, w)]) =
      if shownChunks sbuf received = [] then
        if startTest (recvInto (sbufAfter sbuf received) c) then [(c, w)] else []
      else shownChunks sbuf received ++ [(c, w)] := by
  induction received generalizing sbuf with
  | nil => by_cases h : startTest (recvInto sbuf c) <;> simp [shownChunks, sbufAfter, h]
  | cons cw received ih =>
      obtain ⟨d, v⟩ := cw
      rw [List.cons_append, shownChunks, shownChunks]
      split
      · simp
      · exact ih _

/-- The variables of a kept `STOR` are what the chunks received so far make them. -/
structure Receiving.Follows (r : Receiving) : Prop where
  /-- `sbuf` holds the last chunk, and behind it what the ones before left. -/
  sbuf : r.sbuf = sbufAfter r.firstSbuf r.received
  /-- The picture has begun when the mark has been shown. -/
  begun : r.startRecvOnePic = true ↔ shownChunks r.firstSbuf r.received ≠ []
  /-- The file holds what `f_write` took of the chunks from there on. -/
  file : r.opened = .ok →
    r.file = (shownChunks r.firstSbuf r.received).flatMap fun cw => cw.1.bytes.take cw.2.bw
  /-- All these writes were full ones, if `clean` says so. -/
  clean : r.clean = true ↔ ∀ cw ∈ shownChunks r.firstSbuf r.received, cw.2.Full cw.1

/-- So it is at the beginning. -/
theorem Receiving.follows_start (opened : FResult) (sbuf : ℤ → UInt8) :
    (Receiving.start opened sbuf).Follows := by
  constructor <;> simp [start, sbufAfter, shownChunks]

theorem Receiving.chunk_inputs (n : UInt8) (r : Receiving) (c : Chunk) (w : WriteResult) :
    (r.chunk n c w).1.opened = r.opened ∧ (r.chunk n c w).1.firstSbuf = r.firstSbuf ∧
      (r.chunk n c w).1.received = r.received ++ [(c, w)] ∧
      (r.chunk n c w).1.sbuf = recvInto r.sbuf c := by
  unfold chunk
  dsimp only
  split
  · simp
  · split <;> simp

/-- The chunk is written when the mark is shown with it or has been shown before. -/
theorem Receiving.chunk_stored (n : UInt8) (r : Receiving) (c : Chunk) (w : WriteResult) :
    let stored := if startTest (recvInto r.sbuf c) ∨ r.startRecvOnePic then r.store n c w else r
    (r.chunk n c w).1.startRecvOnePic = (startTest (recvInto r.sbuf c) || r.startRecvOnePic) ∧
      (r.chunk n c w).1.file = stored.file ∧ (r.chunk n c w).1.clean = stored.clean := by
  unfold chunk store
  by_cases htest : startTest (recvInto r.sbuf c) <;> by_cases hs : r.startRecvOnePic <;>
    by_cases hn : n = selectPictureCount <;> simp [htest, hs, hn]

/-- And every chunk keeps it so. -/
theorem Receiving.Follows.chunk {r : Receiving} (h : r.Follows) (c : Chunk) (w : WriteResult) :
    (r.chunk selectPictureCount c w).1.Follows := by
  obtain ⟨hopened, hfirst, hreceived, hsbuf⟩ := r.chunk_inputs selectPictureCount c w
  obtain ⟨hstart, hfile, hclean⟩ := r.chunk_stored selectPictureCount c w
  have hshown : shownChunks r.firstSbuf (r.received ++ [(c, w)]) =
      if startTest (recvInto r.sbuf c) ∨ r.startRecvOnePic then
        shownChunks r.firstSbuf r.received ++ [(c, w)]
      else shownChunks r.firstSbuf r.received := by
    rw [shownChunks_concat, ← h.sbuf]
    by_cases hs : shownChunks r.firstSbuf r.received = [] <;> simp [h.begun, hs]
  constructor
  · rw [hsbuf, hfirst, hreceived, sbufAfter, List.foldl_append, h.sbuf]
    rfl
  · rw [hfirst, hreceived, hshown, hstart, Bool.or_eq_true]
    split
    · next hstored => simp [hstored]
    · next hnot => rw [or_iff_right (fun htest => hnot (.inl htest)), h.begun]
  · intro hok
    rw [hopened] at hok
    rw [hfirst, hreceived, hshown, hfile]
    split
    · simp [Receiving.store, hok, h.file hok]
    · exact h.file hok
  · rw [hfirst, hreceived, hshown, hclean]
    split
    · simp only [Receiving.store, if_pos, Bool.and_eq_true, decide_eq_true_eq, h.clean,
        List.forall_mem_append, List.forall_mem_singleton]
    · exact h.clean

/-- So does every turn. -/
theorem Receiving.Follows.turn {r : Receiving} (h : r.Follows) (t : Turn) :
    (r.turn selectPictureCount t).1.Follows := by
  cases t with
  | chunk c w => exact h.chunk c w
  | timeout | selectError | closed | recvError => exact h

theorem Receiving.turn_opened (n : UInt8) (r : Receiving) (t : Turn) :
    (r.turn n t).1.opened = r.opened := by
  cases t with
  | chunk c w => exact (r.chunk_inputs n c w).1
  | timeout | selectError | closed | recvError => rfl

/-- **A stored picture**: the variables say so just when what came in was good. -/
theorem Receiving.Follows.pictureStored_iff {r : Receiving} (h : r.Follows) (exit : Exit) (kept saved : Bool) :
    (StorReport.mk r exit kept saved).PictureStored ↔ r.InputsGood := by
  have hfull : (∀ cw ∈ shownChunks r.firstSbuf r.received, cw.2.Full cw.1) → r.opened = .ok →
      r.file = streamOf ((shownChunks r.firstSbuf r.received).map Prod.fst) := by
    intro hall hok
    rw [h.file hok, streamOf, List.map_map, ← List.flatMap_def]
    refine List.flatMap_congr fun cw hcw => ?_
    rw [(hall cw hcw).2]
    exact List.take_length
  unfold StorReport.PictureStored Receiving.InputsGood
  dsimp only
  rw [h.clean]
  constructor
  · rintro ⟨hok, hmark, hfile, hall⟩
    exact ⟨hok, hmark, by rw [← hfile, hfull hall hok], hall⟩
  · rintro ⟨hok, hmark, hfile, hall⟩
    exact ⟨hok, hmark, by rw [hfile, hfull hall hok], hall⟩

/-! ## Runs -/

/-- The invariant. -/
structure FtpState.Inv (s : FtpState) : Prop where
  /-- The law holds. -/
  truthful : s.Truthful
  /-- The next `STOR` is given up or kept. -/
  count : s.gPictureCount = 1 ∨ s.gPictureCount = selectPictureCount
  /-- No file is open but that of a kept `STOR`. -/
  files : s.openFiles =
    if s.stor.any (fun r => s.gPictureCount == selectPictureCount && r.opened == .ok) then 1 else 0
  /-- A kept `STOR` follows what comes in. -/
  running : s.gPictureCount = selectPictureCount → ∀ r ∈ s.stor, r.Follows

theorem FtpState.finish_of_ne (s : FtpState) (r : Receiving) {exit : Exit} (h : exit ≠ .recvError) :
    s.finish r exit =
      if s.gPictureCount = selectPictureCount then
        { s with
          openFiles := if r.opened = .ok then s.openFiles - 1 else s.openFiles
          figureNum := s.figureNum + 1
          gPictureCount := 1
          gSavePictureFlag := true
          stor := none
          report := some ⟨r, exit, true, true⟩ }
      else
        { s with
          gPictureCount := s.gPictureCount + 1
          stor := none
          report := some ⟨r, exit, false, false⟩ } := by
  cases exit <;> first | rfl | exact absurd rfl h

/-- **The end of a kept `STOR`** keeps the invariant when it does no harm, and breaks the law otherwise. -/
theorem FtpState.Inv.finish_kept {s : FtpState} (hinv : s.Inv)
    (hcount : s.gPictureCount = selectPictureCount) {r r' : Receiving} (hr : s.stor = some r)
    (hopened : r'.opened = r.opened) (hfollows : r'.Follows) (exit : Exit) :
    (exit ≠ .recvError ∧ r'.InputsGood → (s.finish r' exit).Inv) ∧
      (¬ (exit ≠ .recvError ∧ r'.InputsGood) → ¬ (s.finish r' exit).Truthful) := by
  have hfiles := hinv.files
  rw [hr, hcount] at hfiles
  by_cases hexit : exit = .recvError
  · subst hexit
    refine ⟨fun h => absurd rfl h.1, fun _ htruthful => ?_⟩
    have hleft := ((htruthful _ rfl).2 (.inr (.inr rfl))).2
    exact absurd (hcount.symm.trans hleft) (by decide)
  · rw [s.finish_of_ne r' hexit, if_pos hcount]
    have hclosed : (if r'.opened = .ok then s.openFiles - 1 else s.openFiles) = 0 := by
      rw [hfiles, hopened]
      by_cases hok : r.opened = .ok <;> simp [hok]
    constructor
    · rintro ⟨-, hgood⟩
      refine ⟨?_, .inl rfl, hclosed, nofun⟩
      rintro p hp
      obtain rfl := Option.mem_some.mp hp
      exact ⟨fun _ => (hfollows.pictureStored_iff _ _ _).mpr hgood, fun _ => ⟨hclosed, rfl⟩⟩
    · intro hharm htruthful
      exact hharm ⟨hexit, (hfollows.pictureStored_iff _ _ _).mp ((htruthful _ rfl).1 rfl)⟩

/-- **The end of a given-up `STOR`** likewise. -/
theorem FtpState.Inv.finish_givenUp {s : FtpState} (hinv : s.Inv) (hcount : s.gPictureCount = 1)
    {r : Receiving} (hr : s.stor = some r) (r' : Receiving) (exit : Exit) :
    (¬ (exit = .gaveUp ∧ r'.received = []) → (s.finish r' exit).Inv) ∧
      (exit = .gaveUp ∧ r'.received = [] → ¬ (s.finish r' exit).Truthful) := by
  have hfiles : s.openFiles = 0 := by
    have hfiles := hinv.files
    rwa [hr, hcount] at hfiles
  have hne : s.gPictureCount ≠ selectPictureCount := by
    rw [hcount]
    decide
  by_cases hexit : exit = .recvError
  · -- the count stays, as it should after a failure
    subst hexit
    refine ⟨fun _ => ⟨?_, .inl hcount, hfiles, fun h => absurd h hne⟩, nofun⟩
    intro p hp
    obtain rfl := Option.mem_some.mp hp
    exact ⟨nofun, fun _ => ⟨hfiles, hcount⟩⟩
  · rw [s.finish_of_ne r' hexit, if_neg hne]
    constructor
    · intro hharmless
      refine ⟨?_, .inr ?_, hfiles, nofun⟩
      · intro p hp
        obtain rfl := Option.mem_some.mp hp
        refine ⟨nofun, ?_⟩
        rintro (⟨hkept, -⟩ | hgaveUp | hrecv)
        · exact Bool.noConfusion hkept
        · exact absurd hgaveUp hharmless
        · exact absurd hrecv hexit
      · show s.gPictureCount + 1 = 2
        rw [hcount]
        rfl
    · -- a `STOR` in which nothing came is counted
      intro hharm htruthful
      have hleft : s.gPictureCount + 1 = 1 := ((htruthful _ rfl).2 (.inr (.inl hharm))).2
      rw [hcount] at hleft
      exact absurd hleft (by decide)

/-- Power-up. -/
theorem FtpState.inv_start : start.Inv := ⟨nofun, .inl rfl, rfl, nofun⟩

/-- **A turn** keeps the invariant when it does no harm, and breaks the law otherwise. -/
theorem FtpState.Inv.turn {s s' : FtpState} (hinv : s.Inv) {t : Turn}
    (hstep : s.step (.turn t) = some s') :
    (StorEndsWell s (.turn t) → s'.Inv) ∧ (¬ StorEndsWell s (.turn t) → ¬ s'.Truthful) := by
  unfold StorEndsWell
  rcases hr : s.stor with - | r <;> simp only [FtpState.step, hr, reduceCtorEq] at hstep
  dsimp only
  have hopened := r.turn_opened s.gPictureCount t
  have hfollows : s.gPictureCount = selectPictureCount →
      (r.turn s.gPictureCount t).1.Follows := by
    intro hcount
    rw [hcount]
    exact (hinv.running hcount r hr).turn t
  rcases hturn : r.turn s.gPictureCount t with ⟨r', - | exit⟩ <;> rw [hturn] at hstep hopened hfollows <;>
    obtain rfl := Option.some.inj hstep
  · -- the loop goes on
    refine ⟨fun _ => ⟨hinv.truthful, hinv.count, ?_, ?_⟩, fun h => absurd trivial h⟩
    · have hfiles := hinv.files
      have hopened : r'.opened = r.opened := hopened
      rw [hr] at hfiles
      simpa [hopened] using hfiles
    · rintro hcount r₁ hr₁
      obtain rfl := Option.mem_some.mp hr₁
      exact hfollows hcount
  · dsimp only at hopened hfollows ⊢
    rcases hinv.count with hcount | hcount
    · have hne : s.gPictureCount ≠ selectPictureCount := by
        rw [hcount]
        decide
      obtain ⟨hkeep, hbreak⟩ := hinv.finish_givenUp hcount hr r' exit
      rw [if_neg hne]
      exact ⟨hkeep, fun h => hbreak (not_not.mp h)⟩
    · rw [if_pos hcount]
      exact hinv.finish_kept hcount hr hopened (hfollows hcount) exit

/-- **Every step that does no harm keeps the invariant.** -/
theorem FtpState.Inv.step {s s' : FtpState} {e : FtpEvent} (hinv : s.Inv) (hok : StorEndsWell s e)
    (hstep : s.step e = some s') : s'.Inv := by
  cases e with
  | takeFlag =>
      obtain rfl := Option.some.inj hstep
      exact ⟨hinv.truthful, hinv.count, hinv.files, hinv.running⟩
  | stor opened sbuf =>
      rcases hr : s.stor with - | r <;> simp only [FtpState.step, hr, reduceCtorEq] at hstep
      obtain rfl := Option.some.inj hstep
      refine ⟨nofun, hinv.count, ?_, ?_⟩
      · have hfiles := hinv.files
        rw [hr] at hfiles
        simp [hfiles, Receiving.start]
      · rintro - r hr
        obtain rfl := Option.mem_some.mp hr
        exact Receiving.follows_start opened sbuf
  | turn t => exact (hinv.turn hstep).1 hok

/-- **Every other step breaks the law.** -/
theorem FtpState.Inv.step_harm {s s' : FtpState} {e : FtpEvent} (hinv : s.Inv)
    (hharm : ¬ StorEndsWell s e) (hstep : s.step e = some s') : ¬ s'.Truthful := by
  cases e with
  | takeFlag | stor =>
      unfold StorEndsWell at hharm
      cases hr : s.stor <;> rw [hr] at hharm <;> exact absurd trivial hharm
  | turn t => exact (hinv.turn hstep).2 hharm

/-- **When `STOR`s report truly**: in the runs in which every `STOR` that is kept ends with what came in
being good, and not by a failure of `recv`, and no `STOR` that is given up ends by `select` giving up on
nothing received. -/
theorem storReports_iff (events : List FtpEvent) :
    AllReached FtpState.step FtpState.Truthful .start events ↔
      StepsMeet FtpState.step StorEndsWell .start events :=
  allReached_iff_stepsMeet (fun _ hinv => hinv.truthful)
    (fun _ _ _ hinv hok hstep => hinv.step hok hstep)
    (fun _ _ _ hinv hharm hstep => hinv.step_harm hharm hstep) FtpState.inv_start events

/-- A picture is given up, and the file of the next one cannot be opened. -/
def openFailureRun : List FtpEvent :=
  let picture : Chunk := ⟨[0xFF, 0xD8, 0xFF, 0xD9], by decide, by decide⟩
  [.stor .ok fun _ => 0, .turn (.chunk picture ⟨.ok, 4⟩), .turn .closed,
    .stor .failed fun _ => 0, .turn (.chunk picture ⟨.failed, 0⟩), .turn .closed]

/-- **This run breaks the law**: the second `STOR` sets the flag without a file. -/
theorem openFailureRun_not_truthful :
    ¬ AllReached FtpState.step FtpState.Truthful .start openFailureRun := by
  intro hall
  have hend := (((((hall.2 _ rfl).2 _ rfl).2 _ rfl).2 _ rfl).2 _ rfl).2 _ rfl
  have hopened : FResult.failed = .ok := ((hend _ rfl).1 rfl).1
  exact FResult.noConfusion hopened

end RtuShuiwen
