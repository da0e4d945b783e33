import RtuShuiwen.Ftp.Request
import RtuShuiwen.Memory.Malloc

/-! # What an FTP request does to the internal pool

`ftp_process_request` takes a block of 1024 bytes from the internal pool for its answers and has some
twenty ways out. **`ftpProcessRequest_heapNeutral`**: on each of them the block has been given back once,
and the pool is as before. -/

namespace RtuShuiwen

open BlockMap ByteLayout CellMemory

/-! ## The pool under a request -/

/-- What an act does to the pool, where `sbuf` has this offset. -/
def FtpAct.onHeap (sbuf : UInt32) (h : Heap) : FtpAct → Option Heap
  | .freeSbuf => h.step .sramin (.free sbuf)
  | .reply _ | .fillSbuf _ | .writeFilename _ | .writeCurrentdir _ | .useParameter _ | .useField _ |
    .opened _ _ | .closesocket _ => some h

/-- The block that `mymalloc` has for a request. -/
def sbufSize : UInt32 := 1024

/-- A call for which `mymalloc` has a block, or has none. -/
def FtpCall.withSbuf (c : FtpCall) (sbuf : Bool) : FtpCall := { c with met := { c.met with sbuf } }

/-- A call with the pool: what `mymalloc` returns decides on `sbuf`, and then come the acts. -/
def FtpCall.processOnHeap (c : FtpCall) (h : Heap) : Option (Heap × FtpResult) :=
  let sbuf := (myMemMalloc .sramin sbufSize h.dev).1
  let r := (c.withSbuf (sbuf != mallocFailed)).ftpProcessRequest
  (h.step .sramin (.malloc sbufSize)).bind fun h => (r.acts.foldlM (FtpAct.onHeap sbuf) h).map (·, r)

/-! ## Every way out -/

/-- `sbuf` is freed, once and at the end. -/
def FtpResult.FreesSbuf (r : FtpResult) : Prop :=
  ∃ front, r.acts = front ++ [.freeSbuf] ∧ .freeSbuf ∉ front

/-- Acts that end with some that free it. -/
theorem FtpResult.FreesSbuf.of_append {r : FtpResult} {front : List FtpAct} (last : List FtpAct)
    (hacts : r.acts = front ++ (last ++ [.freeSbuf])) (hfront : .freeSbuf ∉ front)
    (hlast : .freeSbuf ∉ last) : r.FreesSbuf :=
  ⟨front ++ last, by rw [hacts, List.append_assoc], by simp [hfront, hlast]⟩

namespace FtpCall

variable (c : FtpCall)

theorem freesSbuf_err1 {acts : List FtpAct} (hacts : .freeSbuf ∉ acts) (sockfd : ℤ) (isset : Bool) :
    (c.err1 acts sockfd isset).FreesSbuf := by
  have hfree : .freeSbuf ∉ (if isset ∧ c.block.pasvSockfd = 0 then
      [FtpAct.closesocket c.block.pasvSockfd] else []) := by
    split <;> simp
  exact .of_append [.closesocket sockfd] rfl (by simp [hacts, hfree]) (by simp)

theorem freesSbuf_pasv : c.pasv.FreesSbuf := by
  unfold pasv
  dsimp only
  split_ifs
  · exact c.freesSbuf_err1 (by simp [cannotOpen]) _ _
  · exact c.freesSbuf_err1 (by simp [cannotOpen]) _ _
  · exact freesSbuf_err1 _ (by simp [cannotOpen]) _ _
  · exact ⟨[_, _, _, _], rfl, by simp⟩
  · exact c.freesSbuf_err1 (by simp) _ _

theorem freesSbuf_retr : c.retr.FreesSbuf := by
  unfold retr
  dsimp only
  split_ifs
  · exact ⟨[_, _, _, _], rfl, by simp⟩
  · exact .of_append [_, _] rfl (by simp) (by simp)

theorem freesSbuf_stor : c.stor.FreesSbuf := by
  have hfinished : .freeSbuf ∉ (if c.storReceived.2 = some .peerClosed then
      [FtpAct.reply (ascii "226 Finished.\r\n")] else []) := by
    split <;> simp
  unfold stor
  split_ifs
  · exact ⟨[_], rfl, by simp⟩
  all_goals exact .of_append [.closesocket c.block.pasvSockfd] rfl (by simp [hfinished]) (by simp)

theorem freesSbuf_port : c.port.FreesSbuf := by
  have hfields : .freeSbuf ∉ FtpAct.useParameter c.parameter ::
      (portFields (c.parameter.getD [])).map .useField := by simp
  unfold port
  dsimp only
  split_ifs
  · exact .of_append [_, _] rfl hfields (by simp [cannotOpen])
  · exact .of_append [_, _, _] rfl hfields (by simp [cannotOpen])
  · exact .of_append [_, _] rfl hfields (by simp)

theorem freesSbuf_pathCommand {reply : List UInt8 → List FtpAct} (hreply : ∀ path, .freeSbuf ∉ reply path) :
    (c.pathCommand reply).FreesSbuf := by
  unfold pathCommand
  split
  · exact ⟨[_], rfl, by simp⟩
  · exact ⟨_, rfl, by simp [hreply]⟩

/-- **Every command frees `sbuf`.** -/
theorem freesSbuf_command (verb : FtpVerb) : (c.command verb).FreesSbuf := by
  cases verb
  case user =>
    simp only [command, user]
    split_ifs <;> exact ⟨[_, _], rfl, by simp⟩
  case pass =>
    simp only [command, pass]
    split <;> exact ⟨[_, _], rfl, by simp⟩
  case list | nlst => exact ⟨[_, _, _, _], rfl, by simp⟩
  case pwd | mdtm | syst | quit | other => exact ⟨[_], rfl, by simp⟩
  case type => exact ⟨[_, _], rfl, by simp⟩
  case pasv => exact c.freesSbuf_pasv
  case retr => exact c.freesSbuf_retr
  case stor => exact c.freesSbuf_stor
  case size => exact ⟨[_, _, _], rfl, by simp⟩
  case cwd => exact ⟨[_, _, _, _], rfl, by simp⟩
  case cdup => exact ⟨[_, _, _], rfl, by simp⟩
  case port => exact c.freesSbuf_port
  case rest =>
    simp only [command, rest]
    split
    · exact ⟨[_, _], rfl, by simp⟩
    · exact ⟨[_], rfl, by simp⟩
  case mkd =>
    simp only [command, mkd]
    exact c.freesSbuf_pathCommand fun _ => by simp
  case dele | rmd =>
    simp only [command, dele, rmd]
    exact c.freesSbuf_pathCommand fun _ => by simp

/-- **Every way out of a call** that has a block for `sbuf` frees it. -/
theorem ftpProcessRequest_freesSbuf (hsbuf : c.met.sbuf = true) : c.ftpProcessRequest.FreesSbuf := by
  rw [ftpProcessRequest, if_pos hsbuf]
  exact freesSbuf_command _ _

/-- A call that has none does nothing. -/
theorem acts_of_no_sbuf (hsbuf : c.met.sbuf = false) : c.ftpProcessRequest.acts = [] := by
  rw [ftpProcessRequest, if_neg (by simp [hsbuf])]
  rfl

end FtpCall

/-! ## What is left of the block -/

/-- Acts that do not free `sbuf` leave the pool alone. -/
theorem foldlM_onHeap_of_notMem {acts : List FtpAct} (hacts : .freeSbuf ∉ acts) (sbuf : UInt32)
    (h : Heap) : acts.foldlM (FtpAct.onHeap sbuf) h = some h := by
  induction acts with
  | nil => rfl
  | cons act acts ih =>
      have hact : act.onHeap sbuf h = some h := by
        cases act with
        | freeSbuf => exact absurd List.mem_cons_self hacts
        | _ => rfl
      rw [List.foldlM_cons, hact]
      exact ih fun hmem => hacts (List.mem_cons_of_mem _ hmem)

/-- Cells that were free are free again. -/
theorem setCells_setCells_zero {memmap : CellMemory UInt16} {b : Block} (hfree : ∀ x, b.Has x → memmap x = 0)
    (v : UInt16) : setCells (setCells memmap b v) b 0 = memmap := by
  funext x
  rw [setCells_apply, setCells_apply]
  split
  · next hx => exact (hfree x hx).symm
  · rfl

/-- **A block that is given back at once** leaves the bank as it was found. -/
theorem myMemFree_malloc {memx : SramBank} {dev : MallcoDev} {b : Block} (hready : dev.memrdy = true)
    (hpos : 0 < b.cells) (hinside : b.start + b.cells ≤ memtblsize memx)
    (hfree : ∀ x, b.Has x → dev.memmap x = 0) :
    myMemFree memx (.ofNat (b.start * 32))
        { dev with memmap := setCells dev.memmap b (mapCode b.cells) } = (0, dev) := by
  obtain ⟨hsize, -⟩ := memsize_eq memx
  obtain ⟨hoffset, -⟩ := toNat_offset hpos hinside
  have hindex : b.start * 32 / memblksize = b.start := Nat.mul_div_cancel _ (by decide)
  have hcode : (setCells dev.memmap b (mapCode b.cells) b.start).toNat = b.cells := by
    rw [setCells_apply, if_pos ⟨Nat.le_refl _, by omega⟩, toNat_mapCode memx (by omega)]
  have hlt : b.start * 32 < memsize memx := by omega
  unfold myMemFree
  simp only [hready, Bool.not_true, Bool.false_eq_true, if_false, hoffset, if_pos hlt, hindex, hcode]
  rw [setCells_setCells_zero hfree, ← hready]

/-- A bank that a call has found is in use. -/
theorem memrdy_readyDev (memx : SramBank) (dev : MallcoDev) : (readyDev memx dev).memrdy = true := by
  unfold readyDev
  split
  · assumption
  · rfl

/-- The block of a request, once it is marked. -/
theorem step_malloc_sbuf {h : Heap} {b : Block} (hpos : 0 < b.cells)
    (hinside : b.start + b.cells ≤ memtblsize .sramin)
    (heq : myMemMalloc .sramin sbufSize h.dev = (.ofNat (b.start * 32),
      { readyDev .sramin h.dev with
        memmap := setCells (readyDev .sramin h.dev).memmap b (mapCode b.cells) })) :
    h.step .sramin (.malloc sbufSize) = some
      ⟨{ readyDev .sramin h.dev with
          memmap := setCells (readyDev .sramin h.dev).memmap b (mapCode b.cells) },
        ⟨.ofNat (b.start * 32), blocksFor sbufSize⟩ :: h.live⟩ := by
  rw [Heap.step, heq]
  exact congrArg some (congrArg _ (if_neg (toNat_offset hpos hinside).2))

/-- Giving back the block that was handed out last. -/
theorem step_free_last (memx : SramBank) (dev : MallcoDev) (offset : UInt32) (cells : ℕ)
    (live : List LiveBlock) : Heap.step memx ⟨dev, ⟨offset, cells⟩ :: live⟩ (.free offset) =
      some ⟨(myMemFree memx offset dev).2, live⟩ := by
  simp [Heap.step]

/-- **A request leaves the pool as it was**: whatever it is, and whatever the session and the calls that it
makes, the run ends, `sbuf` has been freed once if `mymalloc` had a block for it, the map is the one that
the call found and the same blocks are live. Only the first call ever initialises the pool. -/
theorem ftpProcessRequest_heapNeutral (c : FtpCall) (h : Heap) :
    ∃ h' r, c.processOnHeap h = some (h', r) ∧
      h'.dev.memmap = (readyDev .sramin h.dev).memmap ∧ h'.live = h.live ∧
      r.acts.count .freeSbuf =
        if (myMemMalloc .sramin sbufSize h.dev).1 = mallocFailed then 0 else 1 := by
  refine ⟨⟨readyDev .sramin h.dev, h.live⟩,
    (c.withSbuf ((myMemMalloc .sramin sbufSize h.dev).1 != mallocFailed)).ftpProcessRequest, ?_, rfl, rfl, ?_⟩
  all_goals
    rcases myMemMalloc_eq .sramin sbufSize h.dev with hfail | ⟨b, hcells, hpos, hinside, hfree, heq⟩
  · -- no block: the request returns at once
    have hacts := (c.withSbuf false).acts_of_no_sbuf rfl
    simp [FtpCall.processOnHeap, hfail, Heap.step, hacts]
  · -- the acts in front of the last leave the pool alone, and the last frees the block
    have hne := (toNat_offset hpos hinside).2
    obtain ⟨front, hacts, hfront⟩ := (c.withSbuf true).ftpProcessRequest_freesSbuf rfl
    have hfreed := myMemFree_malloc (memrdy_readyDev .sramin h.dev) hpos hinside hfree
    have htrue : (UInt32.ofNat (b.start * 32) != mallocFailed) = true := by simpa using hne
    unfold FtpCall.processOnHeap
    dsimp only
    rw [step_malloc_sbuf hpos hinside heq, heq]
    dsimp only
    rw [htrue, hacts, Option.bind_some, List.foldlM_append, foldlM_onHeap_of_notMem hfront,
      Option.bind_eq_bind, Option.bind_some, List.foldlM_cons, FtpAct.onHeap, step_free_last, hfreed]
    rfl
  · rw [hfail]
    simp [(c.withSbuf false).acts_of_no_sbuf rfl]
  · have hne := (toNat_offset hpos hinside).2
    obtain ⟨front, hacts, hfront⟩ := (c.withSbuf true).ftpProcessRequest_freesSbuf rfl
    have htrue : (UInt32.ofNat (b.start * 32) != mallocFailed) = true := by simpa using hne
    rw [heq]
    dsimp only
    rw [htrue, hacts, if_neg hne, List.count_append, List.count_eq_zero.mpr hfront]
    rfl

end RtuShuiwen
