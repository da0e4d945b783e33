import RtuShuiwen.Library.MarkedStream

/-! # Storing a picture sent by FTP

The camera sends its pictures with `STOR`. `ftp_process_request` gives up the first one after power-up
or after a stored one (`g_picture_count` is 1) and keeps the second: it waits with `select`, takes the
data connection chunk by chunk into `sbuf`, and writes to the file from the first chunk on in which
`sbuf` begins with the start mark `FF D8`, until a later chunk ends with the end mark `FF D9`.

* **`storedPicture_iff`**: for which ways of cutting the stream into chunks the picture is stored as it
  was sent. -/

namespace RtuShuiwen

open MarkedStream

/-! ## The receive loop -/

/-- What a call of `recv` puts into the buffer of `FTP_BUFFER_SIZE` bytes. -/
structure Chunk where
  bytes : List UInt8
  pos : 0 < bytes.length
  le : bytes.length ≤ 1024

/-- `FR_OK`, or any other result of the file system. -/
inductive FResult
  | ok
  | failed
  deriving DecidableEq

/-- What `f_write` returns and the number of bytes it took, `bw`. -/
structure WriteResult where
  result : FResult
  bw : ℕ

/-- All bytes of the chunk were written without error. -/
def WriteResult.Full (w : WriteResult) (c : Chunk) : Prop := w.result = .ok ∧ w.bw = c.bytes.length

instance (w : WriteResult) (c : Chunk) : Decidable (w.Full c) := by unfold WriteResult.Full; infer_instance

/-- One turn of the loop: `select` gives up after `tv` or fails, or `recv` takes a chunk, sees that the
connection is closed, or fails. The result of `f_write` goes with the chunk. -/
inductive Turn
  | timeout
  | selectError
  | chunk (c : Chunk) (w : WriteResult)
  | closed
  | recvError

/-- The ways out of the loop. -/
inductive Exit
  | gaveUp
  | endMark
  | peerClosed
  | recvError
  deriving DecidableEq

/-- A `STOR` that is running: `sbuf` with the memory around it, `start_recv_one_pic` and the contents
of the file. Besides, the bytes that were examined, each as an index into `sbuf` beside `numbytes`, and
what came in: the result of `f_open`, what lay in `sbuf` before, and the chunks with the results of
`f_write` on them; `clean` says that every write so far was a full one. -/
structure Receiving where
  sbuf : ℤ → UInt8
  startRecvOnePic : Bool
  file : List UInt8
  examined : List (ℕ × ℤ)
  opened : FResult
  firstSbuf : ℤ → UInt8
  received : List (Chunk × WriteResult)
  clean : Bool

/-- `SELECT_PICTURE_COUNT`. -/
def selectPictureCount : UInt8 := 2

/-- `recv`: the chunk lies at the front of `sbuf`, the rest is what was there. -/
def recvInto (sbuf : ℤ → UInt8) (c : Chunk) (i : ℤ) : UInt8 :=
  if 0 ≤ i ∧ i < c.bytes.length then c.bytes.getD i.toNat 0 else sbuf i

/-- `sbuf[0] == 0xff && sbuf[1] == 0xd8`. -/
def startTest (sbuf : ℤ → UInt8) : Bool := sbuf 0 == 0xFF && sbuf 1 == 0xD8

/-- The bytes this looks at: the second one only behind an `FF`. -/
def startExamined (sbuf : ℤ → UInt8) : List ℤ := if sbuf 0 == 0xFF then [0, 1] else [0]

/-- `sbuf[numbytes - 2] == 0xff && sbuf[numbytes - 1] == 0xd9`. -/
def endTest (sbuf : ℤ → UInt8) (numbytes : ℤ) : Bool :=
  sbuf (numbytes - 2) == 0xFF && sbuf (numbytes - 1) == 0xD9

/-- The bytes this looks at. -/
def endExamined (sbuf : ℤ → UInt8) (numbytes : ℤ) : List ℤ :=
  if sbuf (numbytes - 2) == 0xFF then [numbytes - 2, numbytes - 1] else [numbytes - 2]

/-- Writes the chunk to the file when the picture is kept; where `f_open` failed there is no file. -/
def Receiving.store (gPictureCount : UInt8) (r : Receiving) (c : Chunk) (w : WriteResult) : Receiving :=
  if gPictureCount = selectPictureCount then
    { r with
      file := if r.opened = .ok then r.file ++ c.bytes.take w.bw else r.file
      clean := r.clean && decide (w.Full c) }
  else r

/-- The turn that takes a chunk. -/
def Receiving.chunk (gPictureCount : UInt8) (r : Receiving) (c : Chunk) (w : WriteResult) :
    Receiving × Option Exit :=
  let numbytes := c.bytes.length
  let sbuf := recvInto r.sbuf c
  let r := { r with
    sbuf
    received := r.received ++ [(c, w)]
    examined := r.examined ++ (startExamined sbuf).map (numbytes, ·) }
  if startTest sbuf then
    ({ r with startRecvOnePic := true }.store gPictureCount c w, none)
  else if r.startRecvOnePic then
    ({ r with
        examined := r.examined ++ (endExamined sbuf numbytes).map (numbytes, ·) }.store
          gPictureCount c w,
      if endTest sbuf numbytes then some .endMark else none)
  else (r, none)

/-- One turn, and the way out if it leaves the loop. -/
def Receiving.turn (gPictureCount : UInt8) (r : Receiving) : Turn → Receiving × Option Exit
  | .timeout | .selectError => (r, some .gaveUp)
  | .chunk c w => r.chunk gPictureCount c w
  | .closed => (r, some .peerClosed)
  | .recvError => (r, some .recvError)

/-- The loop over the turns that come. -/
def storLoop (gPictureCount : UInt8) (r : Receiving) : List Turn → Receiving × Option Exit
  | [] => (r, none)
  | t :: ts =>
      match r.turn gPictureCount t with
      | (r', none) => storLoop gPictureCount r' ts
      | (r', some exit) => (r', some exit)

/-- A `STOR` before its first turn; `sbuf` holds the answer `150 Opening …` and what was in the memory
before. -/
def Receiving.start (opened : FResult) (sbuf : ℤ → UInt8) : Receiving :=
  ⟨sbuf, false, [], [], opened, sbuf, [], true⟩

/-! ## The picture in the stream -/

/-- The picture in a stream: from the first `FF D8` through the `FF D9` that ends it, or to the end of
the connection. -/
def picture (stream : List UInt8) : List UInt8 := throughPair 0xFF 0xD9 (fromPair 0xFF 0xD8 stream)

/-- The stream the chunks were cut from. -/
def streamOf (chunks : List Chunk) : List UInt8 := (chunks.map Chunk.bytes).flatten

/-- The turns of a connection that sends these chunks and closes, where every write succeeds. -/
def keptTurns (chunks : List Chunk) : List Turn :=
  chunks.map (fun c => .chunk c ⟨.ok, c.bytes.length⟩) ++ [.closed]

/-- Such a `STOR` that is kept, when it has left the loop. -/
def keptStor (sbuf : ℤ → UInt8) (chunks : List Chunk) : Receiving :=
  (storLoop selectPictureCount (.start .ok sbuf) (keptTurns chunks)).1

/-- Only bytes of the received chunks were examined. -/
def Receiving.ExaminedInside (r : Receiving) : Prop := ∀ e ∈ r.examined, 0 ≤ e.2 ∧ e.2 < e.1

instance (r : Receiving) : Decidable r.ExaminedInside := by
  unfold Receiving.ExaminedInside
  infer_instance

/-- **The stored picture is the one in the stream**, and it was found in what was received. -/
def StoredAsSent (sbuf : ℤ → UInt8) (chunks : List Chunk) : Prop :=
  (keptStor sbuf chunks).file = picture (streamOf chunks) ∧ (keptStor sbuf chunks).ExaminedInside

instance (sbuf : ℤ → UInt8) (chunks : List Chunk) : Decidable (StoredAsSent sbuf chunks) := by
  unfold StoredAsSent
  infer_instance

/-- The chunk begins with the start mark. -/
def Chunk.opens (c : Chunk) : Bool := [0xFF, 0xD8].isPrefixOf c.bytes

/-- The chunk ends with the end mark. -/
def Chunk.ends (c : Chunk) : Bool := [0xFF, 0xD9].isSuffixOf c.bytes

/-- The chunk makes the loop stop once it has begun to store: it ends with the end mark and does not
begin with the start mark. -/
def Chunk.stops (c : Chunk) : Bool := !c.opens && c.ends

/-- The chunks before the first one that begins with the start mark. -/
def skippedChunks (chunks : List Chunk) : List Chunk := chunks.takeWhile fun c => !c.opens

/-- That one and those behind it. -/
def keptChunks (chunks : List Chunk) : List Chunk := chunks.dropWhile fun c => !c.opens

/-- **The stream is cut at its marks**: of the chunks before the first one that begins with the start
mark none is the byte `FF` alone, and from that one on some chunks of two bytes or more make up the
picture; behind these nothing comes, or they are two at least and the last one does not begin with the
start mark. -/
def CutAtMarks (chunks : List Chunk) : Prop :=
  (∀ c ∈ skippedChunks chunks, c.bytes ≠ [0xFF]) ∧
    ∃ stored rest, keptChunks chunks = stored ++ rest ∧
      (∀ c ∈ stored, 2 ≤ c.bytes.length) ∧ picture (streamOf chunks) = streamOf stored ∧
      (rest = [] ∨ ∃ front last, stored = front ++ [last] ∧ front ≠ [] ∧ last.opens = false)

/-! ### What the loop does with the chunks -/

theorem recvInto_of_lt (sbuf : ℤ → UInt8) {c : Chunk} {i : ℤ} (hi : 0 ≤ i) (hlt : i < c.bytes.length) :
    recvInto sbuf c i = c.bytes.getD i.toNat 0 := if_pos ⟨hi, hlt⟩

/-- The start test sees the chunk's own bytes, unless the chunk is the byte `FF` alone. -/
theorem startTest_recvInto (sbuf : ℤ → UInt8) {c : Chunk} (hc : c.bytes ≠ [0xFF]) :
    startTest (recvInto sbuf c) = c.opens := by
  have hpos := c.pos
  have hfirst := recvInto_of_lt sbuf (c := c) (i := 0) (by omega) (by omega)
  rcases hbytes : c.bytes with - | ⟨x, - | ⟨y, rest⟩⟩ <;> rw [hbytes] at hc hpos hfirst
  · simp at hpos
  · have hx : x ≠ 0xFF := by rintro rfl; exact hc rfl
    simp [startTest, hfirst, Chunk.opens, hbytes, hx, List.isPrefixOf]
  · have hsecond := recvInto_of_lt sbuf (c := c) (i := 1) (by omega)
      (by rw [hbytes, List.length_cons, List.length_cons]; omega)
    simp [startTest, hfirst, hsecond, Chunk.opens, hbytes, List.isPrefixOf, Bool.beq_comm]

/-- It looks beyond the chunk just when that is the byte `FF` alone. -/
theorem startExamined_inside (sbuf : ℤ → UInt8) (c : Chunk) :
    (∀ i ∈ startExamined (recvInto sbuf c), 0 ≤ i ∧ i < c.bytes.length) ↔ c.bytes ≠ [0xFF] := by
  have hpos := c.pos
  have hfirst := recvInto_of_lt sbuf (c := c) (i := 0) (by omega) (by omega)
  rcases hbytes : c.bytes with - | ⟨x, - | ⟨y, rest⟩⟩ <;> rw [hbytes] at hpos hfirst
  · simp at hpos
  · by_cases hx : x = 0xFF <;> simp [startExamined, hfirst, hx]
  · by_cases hx : x = 0xFF <;> simp [startExamined, hfirst, hx] <;> omega

/-- The end test sees the last two bytes of a chunk that has two. -/
theorem endTest_recvInto (sbuf : ℤ → UInt8) {c : Chunk} (hc : 2 ≤ c.bytes.length) :
    endTest (recvInto sbuf c) c.bytes.length = c.ends := by
  have hlast := recvInto_of_lt sbuf (c := c) (i := c.bytes.length - 1) (by omega) (by omega)
  have hlast₂ := recvInto_of_lt sbuf (c := c) (i := c.bytes.length - 2) (by omega) (by omega)
  rcases hrev : c.bytes.reverse with - | ⟨y, - | ⟨x, front⟩⟩ <;>
    have hbytes := congrArg List.reverse hrev <;> rw [List.reverse_reverse] at hbytes
  · simp [hbytes] at hc
  · simp [hbytes] at hc
  · have hlength : c.bytes.length = front.length + 2 := by simp [hbytes]
    rw [endTest, hlast, hlast₂, Chunk.ends, List.isSuffixOf, hrev, hlength]
    have hx : ((front.length + 2 : ℕ) - 2 : ℤ).toNat = front.reverse.length := by simp
    have hy : ((front.length + 2 : ℕ) - 1 : ℤ).toNat = front.reverse.length + 1 := by
      rw [List.length_reverse]
      omega
    simp only [hbytes, hx, hy, List.reverse_cons, List.append_assoc]
    simp [List.isPrefixOf, Bool.and_comm, Bool.beq_comm]

/-- It looks beyond the chunk just when that has one byte only. -/
theorem endExamined_inside (sbuf : ℤ → UInt8) (c : Chunk) :
    (∀ i ∈ endExamined sbuf c.bytes.length, 0 ≤ i ∧ i < c.bytes.length) ↔ 2 ≤ c.bytes.length := by
  unfold endExamined
  split
  · -- both bytes are looked at
    simp only [List.forall_mem_cons, List.not_mem_nil, false_implies, implies_true, and_true]
    omega
  · simp only [List.forall_mem_singleton]
    omega

@[simp] theorem Receiving.store_examined (n : UInt8) (r : Receiving) (c : Chunk) (w : WriteResult) :
    (r.store n c w).examined = r.examined := by
  unfold store
  split <;> rfl

@[simp] theorem Receiving.store_start (n : UInt8) (r : Receiving) (c : Chunk) (w : WriteResult) :
    (r.store n c w).startRecvOnePic = r.startRecvOnePic := by
  unfold store
  split <;> rfl

@[simp] theorem Receiving.store_opened (n : UInt8) (r : Receiving) (c : Chunk) (w : WriteResult) :
    (r.store n c w).opened = r.opened := by
  unfold store
  split <;> rfl

@[simp] theorem Receiving.store_sbuf (n : UInt8) (r : Receiving) (c : Chunk) (w : WriteResult) :
    (r.store n c w).sbuf = r.sbuf := by
  unfold store
  split <;> rfl

@[simp] theorem Receiving.store_firstSbuf (n : UInt8) (r : Receiving) (c : Chunk) (w : WriteResult) :
    (r.store n c w).firstSbuf = r.firstSbuf := by
  unfold store
  split <;> rfl

@[simp] theorem Receiving.store_received (n : UInt8) (r : Receiving) (c : Chunk) (w : WriteResult) :
    (r.store n c w).received = r.received := by
  unfold store
  split <;> rfl

/-- Bytes examined before stay examined. -/
theorem forall_examined_append (es : List (ℕ × ℤ)) (n : ℕ) (is : List ℤ) :
    (∀ e ∈ es ++ is.map (n, ·), 0 ≤ e.2 ∧ e.2 < e.1) ↔
      (∀ e ∈ es, 0 ≤ e.2 ∧ e.2 < e.1) ∧ ∀ i ∈ is, 0 ≤ i ∧ i < n := by
  rw [List.forall_mem_append, List.forall_mem_map]

/-- **Where a turn looks**: beyond the chunk when that is the byte `FF` alone, and beyond any chunk of one
byte once the picture has begun. -/
theorem Receiving.chunk_examined (n : UInt8) (r : Receiving) (c : Chunk) (w : WriteResult) :
    (r.chunk n c w).1.ExaminedInside ↔
      r.ExaminedInside ∧ c.bytes ≠ [0xFF] ∧ (r.startRecvOnePic = true → 2 ≤ c.bytes.length) := by
  have hstart := startExamined_inside r.sbuf c
  have hend := endExamined_inside (recvInto r.sbuf c) c
  unfold chunk ExaminedInside
  dsimp only
  split
  · next htest =>
    rw [store_examined, forall_examined_append, hstart]
    refine ⟨fun h => ⟨h.1, h.2, fun _ => ?_⟩, fun h => ⟨h.1, h.2.1⟩⟩
    rw [startTest_recvInto r.sbuf h.2] at htest
    simpa using (List.isPrefixOf_iff_prefix.mp htest).length_le
  · split
    · next hs =>
      rw [store_examined, forall_examined_append, forall_examined_append, hstart, hend]
      simp [hs, and_assoc]
    · next hs =>
      rw [forall_examined_append, hstart]
      simp [hs]

/-- **What a turn does** that looks at nothing but its chunk, when the picture is kept and all is
written. -/
theorem Receiving.chunk_inside {r : Receiving} {c : Chunk} (hopened : r.opened = .ok)
    (hc : c.bytes ≠ [0xFF]) (hlength : r.startRecvOnePic = true → 2 ≤ c.bytes.length) :
    let turn := r.chunk selectPictureCount c ⟨.ok, c.bytes.length⟩
    turn.2 = (if r.startRecvOnePic && c.stops then some .endMark else none) ∧
      turn.1.opened = .ok ∧ turn.1.startRecvOnePic = (r.startRecvOnePic || c.opens) ∧
      turn.1.file = r.file ++ (if r.startRecvOnePic || c.opens then c.bytes else []) := by
  have htest := startTest_recvInto r.sbuf hc
  unfold chunk
  rcases hopens : c.opens with - | - <;> rw [hopens] at htest
  · rcases hs : r.startRecvOnePic with - | -
    · simp [htest, hopened]
    · have hend := endTest_recvInto r.sbuf (hlength hs)
      simp [htest, hend, Chunk.stops, hopens, store, hopened]
  · simp [htest, Chunk.stops, hopens, store, hopened]

@[simp] theorem Receiving.turn_chunk (n : UInt8) (r : Receiving) (c : Chunk) (w : WriteResult) :
    r.turn n (.chunk c w) = r.chunk n c w := rfl

theorem storLoop_of_stays {n : UInt8} {r : Receiving} {t : Turn} (h : (r.turn n t).2 = none)
    (ts : List Turn) : storLoop n r (t :: ts) = storLoop n (r.turn n t).1 ts := by
  rcases hr : r.turn n t with ⟨r', exit⟩
  rw [hr] at h
  obtain rfl := h
  rw [storLoop, hr]

theorem storLoop_of_leaves {n : UInt8} {r : Receiving} {t : Turn} {exit : Exit}
    (h : (r.turn n t).2 = some exit) (ts : List Turn) :
    storLoop n r (t :: ts) = ((r.turn n t).1, some exit) := by
  rcases hr : r.turn n t with ⟨r', exit'⟩
  rw [hr] at h
  obtain rfl := h
  rw [storLoop, hr]

/-- What a turn has examined outside does not come back inside. -/
theorem examinedInside_turn {n : UInt8} {r : Receiving} {t : Turn} {ts : List Turn}
    (h : (storLoop n r (t :: ts)).1.ExaminedInside) : (r.turn n t).1.ExaminedInside := by
  induction ts generalizing r t with
  | nil =>
      rcases hexit : (r.turn n t).2 with - | exit
      · rwa [storLoop_of_stays hexit] at h
      · rwa [storLoop_of_leaves hexit] at h
  | cons t' ts ih =>
      rcases hexit : (r.turn n t).2 with - | exit
      · rw [storLoop_of_stays hexit] at h
        have hnext := ih h
        cases t' with
        | chunk c w => exact (((r.turn n t).1.chunk_examined n c w).mp hnext).1
        | timeout | selectError | closed | recvError => exact hnext
      · rwa [storLoop_of_leaves hexit] at h

theorem keptTurns_cons (c : Chunk) (chunks : List Chunk) :
    keptTurns (c :: chunks) = .chunk c ⟨.ok, c.bytes.length⟩ :: keptTurns chunks := rfl

theorem streamOf_cons (c : Chunk) (chunks : List Chunk) :
    streamOf (c :: chunks) = c.bytes ++ streamOf chunks := rfl

/-- **The loop once the picture has begun** takes the chunks through the first one that stops it. -/
theorem storLoop_started {r : Receiving} (hopened : r.opened = .ok) (hs : r.startRecvOnePic = true)
    (chunks : List Chunk) :
    let r' := (storLoop selectPictureCount r (keptTurns chunks)).1
    let stored := takeThrough Chunk.stops chunks
    (r'.ExaminedInside ↔ r.ExaminedInside ∧ ∀ c ∈ stored, 2 ≤ c.bytes.length) ∧
      ((∀ c ∈ stored, 2 ≤ c.bytes.length) → r'.file = r.file ++ streamOf stored) := by
  induction chunks generalizing r with
  | nil => simp [keptTurns, storLoop, Receiving.turn, takeThrough, streamOf]
  | cons c chunks ih =>
      have hexamined := r.chunk_examined selectPictureCount c ⟨.ok, c.bytes.length⟩
      have hhead : c ∈ takeThrough Chunk.stops (c :: chunks) := by
        rw [takeThrough]
        split <;> simp
      by_cases hlength : 2 ≤ c.bytes.length
      · have hne : c.bytes ≠ [0xFF] := by intro h; simp [h] at hlength
        obtain ⟨hexit, hopened', hs', hfile⟩ := Receiving.chunk_inside hopened hne fun _ => hlength
        rw [hs, Bool.true_and] at hexit
        rw [hs, Bool.true_or] at hs' hfile
        rw [if_pos rfl] at hfile
        rcases hstops : c.stops with - | -
        · -- the loop goes on behind the chunk
          have hexit : (r.turn selectPictureCount (.chunk c ⟨.ok, c.bytes.length⟩)).2 = none := by
            simpa [hstops] using hexit
          obtain ⟨hinside, hrest⟩ := ih hopened' hs'
          dsimp only
          rw [keptTurns_cons, storLoop_of_stays hexit, takeThrough, hstops]
          simp only [Bool.false_eq_true, if_false, List.forall_mem_cons]
          constructor
          · refine hinside.trans ?_
            simp [hexamined, hne, hlength]
          · rintro ⟨-, hall⟩
            rw [streamOf_cons, ← List.append_assoc, ← hfile]
            exact hrest hall
        · have hexit : (r.turn selectPictureCount (.chunk c ⟨.ok, c.bytes.length⟩)).2 = some .endMark := by
            simpa [hstops] using hexit
          dsimp only
          rw [keptTurns_cons, storLoop_of_leaves hexit, takeThrough, hstops]
          simp [hexamined, hne, hlength, hfile, streamOf]
      · -- the end test looks at two bytes of a chunk that has fewer
        have hall : ¬ ∀ d ∈ takeThrough Chunk.stops (c :: chunks), 2 ≤ d.bytes.length :=
          fun hall => hlength (hall c hhead)
        dsimp only
        refine ⟨⟨fun hinside => ?_, fun h => absurd h.2 hall⟩, fun h => absurd h hall⟩
        exact absurd ((hexamined.mp (examinedInside_turn hinside)).2.2 hs) hlength

/-- **The loop before the picture has begun** skips the chunks that do not begin with the start mark. -/
theorem storLoop_waiting {r : Receiving} (hopened : r.opened = .ok) (hs : r.startRecvOnePic = false)
    (chunks : List Chunk) :
    let r' := (storLoop selectPictureCount r (keptTurns chunks)).1
    let stored := takeThrough Chunk.stops (keptChunks chunks)
    (r'.ExaminedInside ↔ r.ExaminedInside ∧ (∀ c ∈ skippedChunks chunks, c.bytes ≠ [0xFF]) ∧
        ∀ c ∈ stored, 2 ≤ c.bytes.length) ∧
      ((∀ c ∈ skippedChunks chunks, c.bytes ≠ [0xFF]) → (∀ c ∈ stored, 2 ≤ c.bytes.length) →
        r'.file = r.file ++ streamOf stored) := by
  induction chunks generalizing r with
  | nil => simp [keptTurns, storLoop, Receiving.turn, takeThrough, streamOf, skippedChunks, keptChunks]
  | cons c chunks ih =>
      have hexamined := r.chunk_examined selectPictureCount c ⟨.ok, c.bytes.length⟩
      by_cases hne : c.bytes = [0xFF]
      · -- the byte `FF` alone: the start test looks behind it
        have hskipped : c ∈ skippedChunks (c :: chunks) := by
          simp [skippedChunks, Chunk.opens, hne, List.isPrefixOf]
        refine ⟨⟨fun hinside => ?_, fun h => absurd hne (h.2.1 c hskipped)⟩,
          fun h => absurd hne (h c hskipped)⟩
        exact absurd hne (hexamined.mp (examinedInside_turn hinside)).2.1
      · obtain ⟨hexit, hopened', hs', hfile⟩ :=
          Receiving.chunk_inside hopened hne (by simp [hs])
        have hexit : (r.turn selectPictureCount (.chunk c ⟨.ok, c.bytes.length⟩)).2 = none := by
          simpa [hs] using hexit
        rw [hs, Bool.false_or] at hs' hfile
        dsimp only
        rw [keptTurns_cons, storLoop_of_stays hexit]
        rcases hopens : c.opens with - | - <;> rw [hopens] at hs' hfile
        · -- skipped
          have hskipped : skippedChunks (c :: chunks) = c :: skippedChunks chunks := by
            simp [skippedChunks, hopens]
          have hkept : keptChunks (c :: chunks) = keptChunks chunks := by simp [keptChunks, hopens]
          obtain ⟨hinside, hrest⟩ := ih hopened' hs'
          rw [hskipped, hkept, List.forall_mem_cons]
          constructor
          · refine hinside.trans ?_
            simp [hexamined, hne, hs]
          · rintro ⟨-, hskip⟩ hall
            simpa [hfile] using hrest hskip hall
        · -- the picture begins
          have hskipped : skippedChunks (c :: chunks) = [] := by simp [skippedChunks, hopens]
          have hkept : keptChunks (c :: chunks) = c :: chunks := by simp [keptChunks, hopens]
          have hlength : 2 ≤ c.bytes.length := by
            simpa using (List.isPrefixOf_iff_prefix.mp hopens).length_le
          have hstops : c.stops = false := by simp [Chunk.stops, hopens]
          obtain ⟨hinside, hrest⟩ := storLoop_started hopened' hs' chunks
          rw [hskipped, hkept, takeThrough, hstops]
          simp only [Bool.false_eq_true, if_false, List.forall_mem_cons]
          constructor
          · refine hinside.trans ?_
            simp [hexamined, hne, hs, hlength]
          · rintro - ⟨-, hall⟩
            rw [streamOf_cons, ← List.append_assoc]
            simpa [hfile] using hrest hall

/-! ### When the stream is cut at its marks -/

@[simp] theorem streamOf_append (chunks chunks' : List Chunk) :
    streamOf (chunks ++ chunks') = streamOf chunks ++ streamOf chunks' := by
  simp [streamOf]

theorem streamOf_eq_nil {chunks : List Chunk} (h : streamOf chunks = []) : chunks = [] := by
  rcases chunks with - | ⟨c, chunks⟩
  · rfl
  · have hc := (List.append_eq_nil_iff.mp h).1
    have hpos := c.pos
    simp [hc] at hpos

/-- A kept `STOR` stores what it should just when the chunks through the first one that stops it are of
two bytes or more and make up the picture, and no chunk before is the byte `FF` alone. -/
theorem storedAsSent_iff (sbuf : ℤ → UInt8) (chunks : List Chunk) :
    StoredAsSent sbuf chunks ↔ (∀ c ∈ skippedChunks chunks, c.bytes ≠ [0xFF]) ∧
      (∀ c ∈ takeThrough Chunk.stops (keptChunks chunks), 2 ≤ c.bytes.length) ∧
      picture (streamOf chunks) = streamOf (takeThrough Chunk.stops (keptChunks chunks)) := by
  obtain ⟨hinside, hfile⟩ := storLoop_waiting (r := .start .ok sbuf) rfl rfl chunks
  have hstart : (Receiving.start .ok sbuf).ExaminedInside := by
    simp [Receiving.start, Receiving.ExaminedInside]
  unfold StoredAsSent keptStor
  rw [hinside]
  constructor
  · rintro ⟨hpicture, -, hskip, hall⟩
    refine ⟨hskip, hall, ?_⟩
    rw [← hpicture, hfile hskip hall]
    rfl
  · rintro ⟨hskip, hall, hpicture⟩
    refine ⟨?_, hstart, hskip, hall⟩
    rw [hpicture, hfile hskip hall]
    rfl

/-- The first kept chunk begins with the start mark. -/
theorem keptChunks_head {chunks : List Chunk} {c : Chunk} {rest : List Chunk}
    (h : keptChunks chunks = c :: rest) : c.opens = true := by
  induction chunks with
  | nil => simp [keptChunks] at h
  | cons d chunks ih =>
      rcases hopens : d.opens with - | -
      · exact ih (by simpa [keptChunks, hopens] using h)
      · obtain ⟨rfl, -⟩ : d = c ∧ chunks = rest := by simpa [keptChunks, hopens] using h
        exact hopens

/-- From the first start mark on the stream is at least as long as the kept chunks. -/
theorem length_keptChunks_le (chunks : List Chunk) :
    (streamOf (keptChunks chunks)).length ≤ (fromPair 0xFF 0xD8 (streamOf chunks)).length := by
  have hsplit : streamOf chunks = streamOf (skippedChunks chunks) ++ streamOf (keptChunks chunks) := by
    rw [← streamOf_append, skippedChunks, keptChunks, List.takeWhile_append_dropWhile]
  rcases hkept : keptChunks chunks with - | ⟨c, rest⟩
  · simp [streamOf]
  · rw [hsplit, hkept]
    refine length_le_fromPair ?_ _
    have hopens := List.isPrefixOf_iff_prefix.mp (keptChunks_head hkept)
    exact hopens.trans (List.prefix_append _ _)

/-- **Chunks that make up the picture are those the loop stores**, when nothing comes behind them or the
last of them can stop it. -/
theorem takeThrough_keptChunks {chunks stored rest : List Chunk}
    (hkept : keptChunks chunks = stored ++ rest) (hall : ∀ c ∈ stored, 2 ≤ c.bytes.length)
    (hpicture : picture (streamOf chunks) = streamOf stored)
    (hend : rest = [] ∨ ∃ front last, stored = front ++ [last] ∧ front ≠ [] ∧ last.opens = false) :
    takeThrough Chunk.stops (keptChunks chunks) = stored := by
  have hprefix : stored <+: keptChunks chunks := ⟨rest, hkept.symm⟩
  rcases List.prefix_or_prefix_of_prefix (takeThrough_isPrefix (p := Chunk.stops) (keptChunks chunks))
    hprefix with ⟨more, hmore⟩ | ⟨more, hmore⟩
  · -- a chunk that stops the loop earlier ends with an end mark inside the picture
    rcases takeThrough_eq_or (p := Chunk.stops) (keptChunks chunks) with hwhole | ⟨front, x, hfront, hx⟩
    · rw [hwhole] at hmore ⊢
      exact hprefix.eq_of_length_le (by rw [← hmore]; simp) |>.symm
    · have hends : x.ends = true := by
        rw [Chunk.stops] at hx
        exact (Bool.and_eq_true_iff.mp hx).2
      obtain ⟨m, hm⟩ := List.isSuffixOf_iff_suffix.mp hends
      have htail : streamOf more = [] := by
        refine throughPair_end (p := streamOf front ++ m) (hpicture.trans ?_)
        rw [← hmore, hfront, streamOf_append, streamOf_append, streamOf_cons, ← hm]
        simp [streamOf]
      rw [← hmore, streamOf_eq_nil htail, List.append_nil]
  · -- behind the picture the loop has stopped
    have hall_rest : rest = [] → takeThrough Chunk.stops (keptChunks chunks) = stored := by
      rintro rfl
      rw [List.append_nil] at hkept
      rw [hkept] at hmore ⊢
      exact (takeThrough_isPrefix stored).eq_of_length_le (by rw [← hmore]; simp)
    rcases hend with hrest | ⟨front, last, rfl, -, hopens⟩
    · exact hall_rest hrest
    · rcases throughPair_eq_or (a := 0xFF) (b := 0xD9) (fromPair 0xFF 0xD8 (streamOf chunks))
        with hwhole | hsuffix
      · -- the picture has no end mark: it goes to the end of the stream
        apply hall_rest
        apply streamOf_eq_nil
        have hlength := length_keptChunks_le chunks
        rw [← hwhole, show throughPair _ _ _ = _ from hpicture, hkept, streamOf_append] at hlength
        simp only [List.length_append] at hlength
        exact List.length_eq_zero_iff.mp (by omega)
      · rw [show throughPair _ _ _ = _ from hpicture, streamOf_append] at hsuffix
        have hlast : last.bytes <:+ streamOf front ++ streamOf [last] := by simp [streamOf]
        have hends : last.ends = true := List.isSuffixOf_iff_suffix.mpr
          (List.suffix_of_suffix_length_le hsuffix hlast (hall last (by simp)))
        have hstops : last.stops = true := by simp [Chunk.stops, hopens, hends]
        have hsplit : takeThrough Chunk.stops (keptChunks chunks) = front ++ last :: more := by
          simp [← hmore]
        rw [hsplit, takeThrough_end hsplit hstops]

/-- **When the picture is stored as it was sent**: whatever lies in and around `sbuf`, just when the
stream is cut at its marks. -/
theorem storedPicture_iff (sbuf : ℤ → UInt8) (chunks : List Chunk) :
    StoredAsSent sbuf chunks ↔ CutAtMarks chunks := by
  rw [storedAsSent_iff]
  constructor
  · rintro ⟨hskip, hall, hpicture⟩
    obtain ⟨rest, hrest⟩ := takeThrough_isPrefix (p := Chunk.stops) (keptChunks chunks)
    refine ⟨hskip, _, rest, hrest.symm, hall, hpicture, ?_⟩
    rcases takeThrough_eq_or (p := Chunk.stops) (keptChunks chunks) with hwhole | ⟨front, x, hfront, hx⟩
    · left
      rw [hwhole] at hrest
      simpa using hrest
    · right
      have hopens : x.opens = false := by
        rw [Chunk.stops] at hx
        simpa using (Bool.and_eq_true_iff.mp hx).1
      refine ⟨front, x, hfront, ?_, hopens⟩
      rintro rfl
      rw [hfront] at hrest
      have := keptChunks_head hrest.symm
      rw [hopens] at this
      exact Bool.noConfusion this
  · rintro ⟨hskip, stored, rest, hkept, hall, hpicture, hend⟩
    rw [takeThrough_keptChunks hkept hall hpicture hend]
    exact ⟨hskip, hall, hpicture⟩

/-- A small picture, with a line end behind it, whose end mark comes in a chunk of its own. -/
def cutBeforeEnd : List Chunk :=
  [⟨[0xFF, 0xD8, 0x01], by decide, by decide⟩, ⟨[0xFF, 0xD9], by decide, by decide⟩,
    ⟨[0x0D, 0x0A], by decide, by decide⟩]

/-- The same stream, with the whole picture in the first chunk. -/
def cutBehindEnd : List Chunk :=
  [⟨[0xFF, 0xD8, 0x01, 0xFF, 0xD9], by decide, by decide⟩, ⟨[0x0D, 0x0A], by decide, by decide⟩]

/-- **The second cutting is stored with the line end**: a chunk with a start mark is not looked at for an
end mark. -/
theorem cutBehindEnd_not_storedAsSent : streamOf cutBeforeEnd = streamOf cutBehindEnd ∧
    StoredAsSent (fun _ => 0) cutBeforeEnd ∧ ¬ StoredAsSent (fun _ => 0) cutBehindEnd := by
  decide

end RtuShuiwen
