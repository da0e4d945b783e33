import RtuShuiwen.Memory.Malloc

/-! # What is in the blocks of the heap

`mymalloc`, `myfree` and `myrealloc` are the calls by pointer over the block allocator. A block belongs to
whoever got its pointer, and holds what was last written through it:

**`owned_contents`**: in any run of allocations, writes, reallocations and frees every block holds what its
owner left in it, `myrealloc` moves as much of it as was asked for, and `my_mem_perused` is the share of the
cells that are handed out. -/

namespace RtuShuiwen

open BlockMap CellMemory TransitionSystem

/-! ## The calls by pointer -/

/-- Where the pool of a bank lies: behind address 0 and before the end of the address space. -/
structure PoolBase (memx : SramBank) where
  base : UInt32
  base_pos : 0 < base.toNat
  base_le : base.toNat + memsize memx ≤ 2 ^ 32

/-- `mem2base`: the external pool lies at the start of the external bank. -/
def mem2base : PoolBase .sramex := ⟨0x68000000, by decide, by decide⟩

variable {memx : SramBank} (pool : PoolBase memx)

/-- `mymemcpy`, by offsets from the start of the pool. -/
def mymemcpy (des src : ℕ) (n : UInt32) (mem : CellMemory UInt8) : CellMemory UInt8 :=
  copyCells n.toNat des src mem

/-- `mymalloc`: `NULL` is 0. -/
def mymalloc (size : UInt32) (dev : MallcoDev) : UInt32 × MallcoDev :=
  let answer := myMemMalloc memx size dev
  if answer.1 = mallocFailed then (0, answer.2) else (pool.base + answer.1, answer.2)

/-- `myfree`. -/
def myfree (ptr : UInt32) (dev : MallcoDev) : MallcoDev :=
  if ptr = 0 then dev else (myMemFree memx (ptr - pool.base) dev).2

/-- A bank in which `size` bytes are copied from one offset to another. -/
def MallcoDev.copied (des src size : UInt32) (dev : MallcoDev) : MallcoDev :=
  { dev with membase := mymemcpy des.toNat src.toNat size dev.membase }

/-- `myrealloc`. -/
def myrealloc (ptr size : UInt32) (dev : MallcoDev) : UInt32 × MallcoDev :=
  let answer := myMemMalloc memx size dev
  if answer.1 = mallocFailed then (0, answer.2)
  else
    (pool.base + answer.1, myfree pool ptr (answer.2.copied answer.1 (ptr - pool.base) size))

/-- `my_mem_perused`. -/
def myMemPerused (memx : SramBank) (dev : MallcoDev) : UInt8 :=
  let used : UInt32 := (List.range (memtblsize memx)).foldl
    (fun used i => if dev.memmap i ≠ 0 then used + 1 else used) 0
  (used * 100 / .ofNat (memtblsize memx)).toUInt8

/-! ## Owners -/

/-- A block and what its owner left in it. -/
structure OwnedBlock where
  block : LiveBlock
  bytes : List UInt8
  deriving DecidableEq

/-- The pointer its owner has. -/
def OwnedBlock.ptr (o : OwnedBlock) : UInt32 := pool.base + o.block.offset

/-- The length of a block in bytes. -/
def LiveBlock.length (b : LiveBlock) : ℕ := memblksize * b.cells

/-- What the pool holds in a block. -/
def MallcoDev.contents (dev : MallcoDev) (b : LiveBlock) : List UInt8 :=
  slice dev.membase b.offset.toNat b.length

/-- A bank and its owners. -/
structure OwnedHeap where
  dev : MallcoDev
  owned : List OwnedBlock

/-- The calls by pointer, and an owner that writes to its block. -/
inductive OwnerCall
  | malloc (size : UInt32)
  | write (ptr : UInt32) (off : ℕ) (bytes : List UInt8)
  | realloc (ptr size : UInt32)
  | free (ptr : UInt32)

/-- The owner of a pointer. -/
def OwnedHeap.owner (h : OwnedHeap) (ptr : UInt32) : Option OwnedBlock :=
  h.owned.find? (·.ptr pool = ptr)

/-- The block of a pointer that was just handed out. -/
def newBlock (ptr size : UInt32) : LiveBlock := ⟨ptr - pool.base, blocksFor size⟩

/-- A call: only the owner of a pointer uses it, and writes into its block. A new block holds what is there;
a block that `myrealloc` returns begins with what was in the old one, as far as both reach. -/
def OwnedHeap.step (h : OwnedHeap) : OwnerCall → Option OwnedHeap
  | .malloc size =>
      let answer := mymalloc pool size h.dev
      some ⟨answer.2,
        if answer.1 = 0 then h.owned
        else ⟨newBlock pool answer.1 size, answer.2.contents (newBlock pool answer.1 size)⟩ :: h.owned⟩
  | .write ptr off bytes =>
      (h.owner pool ptr).bind fun o =>
        if off + bytes.length ≤ o.block.length then
          some ⟨{ h.dev with membase := patch h.dev.membase ((ptr - pool.base).toNat + off) bytes },
            ⟨o.block, o.bytes.take off ++ bytes ++ o.bytes.drop (off + bytes.length)⟩ :: h.owned.erase o⟩
        else none
  | .realloc ptr size =>
      (h.owner pool ptr).map fun o =>
        let answer := myrealloc pool ptr size h.dev
        ⟨answer.2,
          if answer.1 = 0 then h.owned
          else
            let b := newBlock pool answer.1 size
            let moved := o.bytes.take size.toNat
            ⟨b, moved ++ (answer.2.contents b).drop moved.length⟩ :: h.owned.erase o⟩
  | .free ptr =>
      (h.owner pool ptr).map fun o => ⟨myfree pool ptr h.dev, h.owned.erase o⟩

/-- As `main` leaves a bank. -/
def OwnedHeap.start (memx : SramBank) (dev : MallcoDev) : OwnedHeap := ⟨myMemInit memx dev, []⟩

/-- The heap under the owners. -/
def OwnedHeap.heap (h : OwnedHeap) : Heap := ⟨h.dev, h.owned.map OwnedBlock.block⟩

/-- **What owners rely on.** -/
structure OwnedHeap.Ok (memx : SramBank) (h : OwnedHeap) : Prop where
  /-- The heap under them is safe. -/
  safe : h.heap.Safe memx
  /-- Every block holds what its owner left in it. -/
  contents : ∀ o ∈ h.owned, h.dev.contents o.block = o.bytes
  /-- The usage in percent is that of their cells. -/
  perused : (myMemPerused memx h.dev).toNat =
    (h.owned.map fun o => o.block.cells).sum * 100 / memtblsize memx

/-! ## Pointers -/

/-- A pointer tells its offset. -/
theorem sub_base (offset : UInt32) : pool.base + offset - pool.base = offset := by
  rw [UInt32.add_comm, UInt32.add_sub_cancel]

/-- No block of the pool lies at `NULL`. -/
theorem ptr_ne_zero {offset : UInt32} (hinside : offset.toNat < memsize memx) : pool.base + offset ≠ 0 := by
  intro hzero
  have hpos := pool.base_pos
  have hle := pool.base_le
  have htoNat := congrArg UInt32.toNat hzero
  rw [UInt32.toNat_add, Nat.mod_eq_of_lt (by omega)] at htoNat
  change _ = 0 at htoNat
  omega

variable {pool} {h : OwnedHeap}

/-- The owner of a pointer. -/
theorem owner_eq_some {ptr : UInt32} {o : OwnedBlock} (howner : h.owner pool ptr = some o) :
    o ∈ h.owned ∧ ptr - pool.base = o.block.offset ∧ ptr = o.ptr pool := by
  have hmem : o ∈ h.owned := List.mem_of_find?_eq_some howner
  obtain rfl : o.ptr pool = ptr :=
    of_decide_eq_true (List.find?_some (p := fun c : OwnedBlock => decide (c.ptr pool = ptr)) howner)
  exact ⟨hmem, sub_base pool _, rfl⟩

/-! ## The invariant -/

/-- The invariant: the books of the heap are right, and the contents are those of the owners. -/
structure OwnedHeap.Inv (memx : SramBank) (h : OwnedHeap) : Prop where
  heap : h.heap.Inv memx
  contents : ∀ o ∈ h.owned, h.dev.contents o.block = o.bytes

/-- Blocks of a safe heap lie in the pool. -/
theorem Heap.Inv.inside {h : Heap} (hinv : h.Inv memx) {b : LiveBlock} (hb : b ∈ h.live) :
    b.offset.toNat + b.length ≤ memsize memx := hinv.safe.inside b hb

/-- They are not empty. -/
theorem Heap.Inv.length_pos {h : Heap} (hinv : h.Inv memx) {b : LiveBlock} (hb : b ∈ h.live) :
    0 < b.length := by
  have hpos : 0 < b.cells := hinv.records.pos _ (List.mem_map_of_mem hb)
  show 0 < 32 * b.cells
  omega

/-- Two of them do not meet. -/
theorem Heap.Inv.disjoint {h : Heap} (hinv : h.Inv memx) {b c : LiveBlock} (hb : b ∈ h.live)
    (hc : c ∈ h.live) (hne : b ≠ c) :
    b.offset.toNat + b.length ≤ c.offset.toNat ∨ c.offset.toNat + c.length ≤ b.offset.toNat := by
  have hapart := (hinv.records.eq_or_apart (List.mem_map_of_mem hb) (List.mem_map_of_mem hc)).resolve_left
    fun hblock => hne (hinv.eq_of_block hb hc hblock)
  have hboffset := LiveBlock.offset_eq (hinv.aligned b hb)
  have hcoffset := LiveBlock.offset_eq (hinv.aligned c hc)
  change b.block.start + b.cells ≤ c.block.start ∨ c.block.start + c.cells ≤ b.block.start at hapart
  show _ + 32 * b.cells ≤ _ ∨ _ + 32 * c.cells ≤ _
  omega

/-- No block has two owners. -/
theorem OwnedHeap.Inv.eq_of_block (hinv : h.Inv memx) {o o' : OwnedBlock} (ho : o ∈ h.owned)
    (ho' : o' ∈ h.owned) (hblock : o.block = o'.block) : o = o' := by
  have hbytes : o.bytes = o'.bytes := by
    rw [← hinv.contents o ho, ← hinv.contents o' ho', hblock]
  cases o
  cases o'
  exact congrArg₂ OwnedBlock.mk hblock hbytes

/-- The blocks of the other owners are the other blocks. -/
theorem OwnedHeap.Inv.map_erase (hinv : h.Inv memx) {o : OwnedBlock} (ho : o ∈ h.owned) :
    (h.owned.erase o).map OwnedBlock.block = (h.owned.map OwnedBlock.block).erase o.block := by
  have hinj : ∀ o' ∈ h.owned, o'.block = o.block → o' = o := fun o' ho' heq => hinv.eq_of_block ho' ho heq
  clear ho
  revert hinj
  -- the two lists lose their elements at the same place, as no earlier owner has that block
  induction h.owned with
  | nil => exact fun _ => rfl
  | cons o' os ih =>
      intro hinj
      by_cases heq : o' = o
      · rw [heq, List.erase_cons_head, List.map_cons, List.erase_cons_head]
      · have hne : ¬ (o'.block == o.block) = true := by
          rw [beq_iff_eq]
          exact fun hblock => heq (hinj o' List.mem_cons_self hblock)
        rw [List.erase_cons_tail (by simpa using heq), List.map_cons, List.map_cons,
          List.erase_cons_tail hne, ih fun o'' ho'' => hinj o'' (List.mem_cons_of_mem _ ho'')]

/-- Writing outside of a block leaves it alone. -/
theorem contents_congr {dev dev' : MallcoDev} {b : LiveBlock}
    (hsame : ∀ x, b.offset.toNat ≤ x → x < b.offset.toNat + b.length → dev'.membase x = dev.membase x) :
    dev'.contents b = dev.contents b :=
  slice_congr fun _ hi => hsame _ (Nat.le_add_right _ _) (Nat.add_lt_add_left hi _)

/-- A new block meets no live one. -/
theorem Heap.Inv.newBlock_disjoint {h : Heap} (hinv : h.Inv memx) (size : UInt32)
    (hok : (myMemMalloc memx size h.dev).1 ≠ mallocFailed) :
    Heap.Inv memx ⟨(myMemMalloc memx size h.dev).2,
      ⟨(myMemMalloc memx size h.dev).1, blocksFor size⟩ :: h.live⟩ ∧
    (myMemMalloc memx size h.dev).2.membase = h.dev.membase ∧
    ∀ b ∈ h.live, b ≠ ⟨(myMemMalloc memx size h.dev).1, blocksFor size⟩ := by
  have hstep : h.step memx (.malloc size) = some ⟨(myMemMalloc memx size h.dev).2,
      ⟨(myMemMalloc memx size h.dev).1, blocksFor size⟩ :: h.live⟩ := by
    rw [Heap.step, if_neg hok]
  have hinv' := hinv.malloc size hstep
  refine ⟨hinv', ?_, fun b hb heq => ?_⟩
  · rcases myMemMalloc_cases hinv size with hfail | ⟨b, -, -, -, -, heq⟩
    · exact absurd (congrArg Prod.fst hfail) hok
    · rw [heq]
  · have hnodup : (⟨(myMemMalloc memx size h.dev).1, blocksFor size⟩ :: h.live).Nodup :=
      List.Nodup.of_map _ hinv'.records.nodup
    exact (List.nodup_cons.mp hnodup).1 (heq ▸ hb)

/-- A call that fails changes nothing. -/
theorem Heap.Inv.myMemMalloc_failed {h : Heap} (hinv : h.Inv memx) (size : UInt32)
    (hfail : (myMemMalloc memx size h.dev).1 = mallocFailed) : (myMemMalloc memx size h.dev).2 = h.dev := by
  rcases myMemMalloc_cases hinv size with heq | ⟨b, -, hpos, hinside, -, heq⟩
  · rw [heq]
  · rw [heq] at hfail
    exact absurd hfail (toNat_offset hpos hinside).2

namespace OwnedHeap

variable (pool) in
/-- What `mymalloc` returns. -/
theorem Inv.mymalloc_eq (hinv : h.Inv memx) (size : UInt32) :
    (mymalloc pool size h.dev = (0, h.dev)) ∨
    ∃ offset, (mymalloc pool size h.dev).1 = pool.base + offset ∧ pool.base + offset ≠ 0 ∧
      offset ≠ mallocFailed ∧ myMemMalloc memx size h.dev = (offset, (mymalloc pool size h.dev).2) := by
  by_cases hfail : (myMemMalloc memx size h.dev).1 = mallocFailed
  · refine .inl ?_
    rw [mymalloc, if_pos hfail]
    exact congrArg (Prod.mk 0) (hinv.heap.myMemMalloc_failed size hfail)
  · obtain ⟨hinv', -, -⟩ := hinv.heap.newBlock_disjoint size hfail
    have hmem : (⟨(myMemMalloc memx size h.dev).1, blocksFor size⟩ : LiveBlock) ∈
        ⟨(myMemMalloc memx size h.dev).1, blocksFor size⟩ :: h.heap.live := List.mem_cons_self
    have hinside := hinv'.inside hmem
    have hpos := hinv'.length_pos hmem
    change (myMemMalloc memx size h.dev).1.toNat + _ ≤ _ at hinside
    refine .inr ⟨(myMemMalloc memx size h.dev).1, ?_, ptr_ne_zero pool (by omega), hfail, ?_⟩
    · rw [mymalloc, if_neg hfail]
    · rw [mymalloc, if_neg hfail]

/-- **An allocation** keeps what the owners left. -/
theorem Inv.malloc (hinv : h.Inv memx) (size : UInt32) {h' : OwnedHeap}
    (hstep : h.step pool (.malloc size) = some h') : h'.Inv memx := by
  obtain rfl := Option.some.inj hstep
  rcases hinv.mymalloc_eq pool size with hfail | ⟨offset, hptr, hne, hok, hmalloc⟩
  · rw [hfail]
    exact hinv
  · have hoffset : newBlock pool (mymalloc pool size h.dev).1 size = ⟨offset, blocksFor size⟩ := by
      rw [newBlock, hptr, sub_base]
    have hok' : (myMemMalloc memx size h.heap.dev).1 ≠ mallocFailed := by
      show (myMemMalloc memx size h.dev).1 ≠ _
      rw [hmalloc]
      exact hok
    obtain ⟨hheap, hmem, -⟩ := hinv.heap.newBlock_disjoint size hok'
    change Heap.Inv memx ⟨(myMemMalloc memx size h.dev).2, ⟨(myMemMalloc memx size h.dev).1, _⟩ :: _⟩ at hheap
    change (myMemMalloc memx size h.dev).2.membase = h.dev.membase at hmem
    rw [hmalloc] at hheap hmem
    rw [if_neg (by rw [hptr]; exact hne), hoffset]
    refine ⟨hheap, List.forall_mem_cons.mpr ⟨rfl, fun o ho => ?_⟩⟩
    exact (contents_congr fun x _ _ => congrFun hmem x).trans (hinv.contents o ho)

/-- **A write** through a pointer changes the block of its owner only. -/
theorem Inv.write (hinv : h.Inv memx) {ptr : UInt32} {off : ℕ} {bytes : List UInt8} {h' : OwnedHeap}
    (hstep : h.step pool (.write ptr off bytes) = some h') : h'.Inv memx := by
  obtain ⟨o, howner, hstep⟩ := Option.bind_eq_some_iff.mp hstep
  obtain ⟨hmem, hoffset, -⟩ := owner_eq_some howner
  by_cases hfit : off + bytes.length ≤ o.block.length
  · rw [if_pos hfit, hoffset] at hstep
    obtain rfl := Option.some.inj hstep
    have hperm : (h.owned.map OwnedBlock.block).Perm (o.block :: (h.owned.erase o).map OwnedBlock.block) :=
      (List.perm_cons_erase hmem).map OwnedBlock.block
    refine ⟨⟨hinv.heap.ready, fun b hb => hinv.heap.aligned b (hperm.mem_iff.mpr hb),
      hinv.heap.records.perm (hperm.map _)⟩, List.forall_mem_cons.mpr ⟨?_, fun o' ho' => ?_⟩⟩
    · show slice (patch h.dev.membase (o.block.offset.toNat + off) bytes) o.block.offset.toNat _ = _
      rw [slice_patch_within _ _ hfit, ← hinv.contents o hmem]
      rfl
    · -- the block of another owner is another block, and lies apart
      have ho'' := List.mem_of_mem_erase ho'
      have hne : o.block ≠ o'.block := by
        intro hblock
        obtain rfl := hinv.eq_of_block hmem ho'' hblock
        have hnodup : (h.owned.map OwnedBlock.block).Nodup := List.Nodup.of_map _ hinv.heap.records.nodup
        exact (List.Nodup.not_mem_erase hnodup.of_map) ho'
      have hapart := hinv.heap.disjoint (List.mem_map_of_mem hmem) (List.mem_map_of_mem ho'') hne
      rw [← hinv.contents o' ho'']
      refine contents_congr fun x hlow hhigh => ?_
      rcases hapart with hbelow | habove
      · exact patch_of_ge _ _ (by omega)
      · exact patch_of_lt _ _ (by omega)
  · rw [if_neg hfit] at hstep
    cases hstep

variable (pool) in
/-- Giving a block back takes it off the books and leaves the pool alone. -/
theorem Inv.myfree_eq (hinv : h.Inv memx) {o : OwnedBlock} (ho : o ∈ h.owned) :
    Inv memx ⟨myfree pool (o.ptr pool) h.dev, h.owned.erase o⟩ ∧
      (myfree pool (o.ptr pool) h.dev).membase = h.dev.membase := by
  have hlive : o.block ∈ h.heap.live := List.mem_map_of_mem ho
  have hlt : o.block.offset.toNat < memsize memx :=
    Nat.lt_of_lt_of_le (Nat.lt_add_of_pos_right (hinv.heap.length_pos hlive)) (hinv.heap.inside hlive)
  have hfree : myfree pool (o.ptr pool) h.dev = (myMemFree memx o.block.offset h.dev).2 := by
    rw [myfree, OwnedBlock.ptr, if_neg (ptr_ne_zero pool hlt), sub_base]
  -- the block that starts there is this one
  have hfind : h.heap.live.find? (·.offset = o.block.offset) = some o.block := by
    cases hfound : h.heap.live.find? (·.offset = o.block.offset) with
    | none =>
        have hmiss := List.find?_eq_none.mp hfound _ hlive
        exact absurd (decide_eq_true rfl) hmiss
    | some b =>
        have hb : b ∈ h.heap.live := List.mem_of_find?_eq_some hfound
        have hoffset : b.offset = o.block.offset :=
          of_decide_eq_true (List.find?_some (p := fun c : LiveBlock => decide (c.offset = o.block.offset)) hfound)
        by_contra hne
        have hapart := hinv.heap.disjoint hb hlive fun heq => hne (congrArg some heq)
        have hposb := hinv.heap.length_pos hb
        have hpos := hinv.heap.length_pos hlive
        rw [hoffset] at hapart
        omega
  have hstep : h.heap.step memx (.free o.block.offset) =
      some ⟨(myMemFree memx o.block.offset h.dev).2, h.heap.live.erase o.block⟩ := by
    rw [Heap.step, hfind]
    rfl
  have hheap := hinv.heap.free o.block.offset hstep
  have hmem : (myMemFree memx o.block.offset h.dev).2.membase = h.dev.membase := by
    have heq : myMemFree memx o.block.offset h.dev = _ := hinv.heap.myMemFree_eq hlive
    rw [heq]
    rfl
  rw [hfree]
  refine ⟨⟨?_, fun o' ho' => ?_⟩, hmem⟩
  · show Heap.Inv memx ⟨_, (h.owned.erase o).map OwnedBlock.block⟩
    rw [hinv.map_erase ho]
    exact hheap
  · exact (contents_congr fun x _ _ => congrFun hmem x).trans
      (hinv.contents o' (List.mem_of_mem_erase ho'))

/-- **A free** takes the block and nothing else. -/
theorem Inv.free (hinv : h.Inv memx) {ptr : UInt32} {h' : OwnedHeap}
    (hstep : h.step pool (.free ptr) = some h') : h'.Inv memx := by
  obtain ⟨o, howner, rfl⟩ := Option.map_eq_some_iff.mp hstep
  obtain ⟨hmem, -, rfl⟩ := owner_eq_some howner
  exact (hinv.myfree_eq pool hmem).1

/-- A block is long enough for what was asked for. -/
theorem le_length_blocksFor (size offset : UInt32) :
    size.toNat ≤ (⟨offset, blocksFor size⟩ : LiveBlock).length := by
  show size.toNat ≤ 32 * (size.toNat / 32 + if size.toNat % 32 = 0 then 0 else 1)
  split <;> omega

/-- The copy of `myrealloc`: the new block begins with the old contents, and the other blocks keep theirs. -/
theorem Inv.copied (hinv : h.Inv memx) {o : OwnedBlock} (ho : o ∈ h.owned) {size offset : UInt32}
    {dev : MallcoDev} (hmalloc : myMemMalloc memx size h.dev = (offset, dev)) (hok : offset ≠ mallocFailed) :
    let b : LiveBlock := ⟨offset, blocksFor size⟩
    let moved := o.bytes.take size.toNat
    Inv memx ⟨dev.copied offset o.block.offset size,
      ⟨b, moved ++ ((dev.copied offset o.block.offset size).contents b).drop moved.length⟩ :: h.owned⟩ ∧
      ∀ o' ∈ h.owned, o'.block ≠ b := by
  intro b moved
  have hnew := hinv.heap.newBlock_disjoint size
  change (myMemMalloc memx size h.dev).1 ≠ _ → Heap.Inv memx ⟨(myMemMalloc memx size h.dev).2,
    ⟨(myMemMalloc memx size h.dev).1, _⟩ :: _⟩ ∧ (myMemMalloc memx size h.dev).2.membase = h.dev.membase ∧
    ∀ b ∈ h.heap.live, b ≠ ⟨(myMemMalloc memx size h.dev).1, _⟩ at hnew
  rw [hmalloc] at hnew
  obtain ⟨hheap, hsame, hnew⟩ := hnew hok
  have hb : b ∈ b :: h.heap.live := List.mem_cons_self
  have hlive : ∀ o' ∈ h.owned, o'.block ∈ b :: h.heap.live := fun o' ho' =>
    List.mem_cons_of_mem _ (List.mem_map_of_mem ho')
  have hother : ∀ o' ∈ h.owned, o'.block ≠ b := fun o' ho' => hnew _ (List.mem_map_of_mem ho')
  have hapart : ∀ o' ∈ h.owned, o'.block.offset.toNat + o'.block.length ≤ offset.toNat ∨
      offset.toNat + b.length ≤ o'.block.offset.toNat :=
    fun o' ho' => hheap.disjoint (hlive o' ho') hb (hother o' ho')
  have hsize : size.toNat ≤ b.length := le_length_blocksFor size offset
  have hlength : o.bytes.length = o.block.length := by
    rw [← hinv.contents o ho, MallcoDev.contents, length_slice]
  -- `mymemcpy` reads on behind a block that is shorter than `size`; what it finds there is no part of `moved`
  have hmoved : ((dev.copied offset o.block.offset size).contents b).take moved.length = moved := by
    have hlen : moved.length = min size.toNat o.block.length := by
      rw [List.length_take, hlength]
    apply List.ext_getElem
    · rw [List.length_take, MallcoDev.contents, length_slice]
      omega
    · intro i hi hi'
      have hio : i < o.bytes.length := by
        rw [hlength]
        omega
      have hold : o.bytes[i] = h.dev.membase (o.block.offset.toNat + i) := by
        have hget := List.getElem_of_eq (hinv.contents o ho) (i := i)
          (by rw [MallcoDev.contents, length_slice]; omega)
        rw [← hget]
        exact getElem_slice _ _ _ _ _
      have hcopy : (dev.copied offset o.block.offset size).membase (offset.toNat + i) =
          h.dev.membase (o.block.offset.toNat + i) := by
        have hapart := hapart o ho
        rw [← hsame]
        exact copyCells_add dev.membase (k := o.block.length) (by omega) (by omega) (by omega)
      rw [List.getElem_take, List.getElem_take, hold, ← hcopy]
      exact getElem_slice _ _ _ _ _
  refine ⟨⟨⟨hheap.ready, hheap.aligned, hheap.records⟩, List.forall_mem_cons.mpr ⟨?_, fun o' ho' => ?_⟩⟩, hother⟩
  · show MallcoDev.contents _ b = moved ++ (MallcoDev.contents _ b).drop moved.length
    conv_lhs => rw [← List.take_append_drop moved.length (MallcoDev.contents _ b), hmoved]
  · have hapart := hapart o' ho'
    rw [← hinv.contents o' ho']
    refine contents_congr fun x hlow hhigh => ?_
    rw [← hsame]
    exact copyCells_of_outside _ _ (by omega)

/-- **A reallocation** moves the block. -/
theorem Inv.realloc (hinv : h.Inv memx) {ptr size : UInt32} {h' : OwnedHeap}
    (hstep : h.step pool (.realloc ptr size) = some h') : h'.Inv memx := by
  obtain ⟨o, howner, rfl⟩ := Option.map_eq_some_iff.mp hstep
  obtain ⟨hmem, hoffset, rfl⟩ := owner_eq_some howner
  rcases hmalloc : myMemMalloc memx size h.dev with ⟨offset, dev⟩
  by_cases hfail : offset = mallocFailed
  · have hsame := hinv.heap.myMemMalloc_failed size
    change (myMemMalloc memx size h.dev).1 = _ → (myMemMalloc memx size h.dev).2 = h.dev at hsame
    rw [hmalloc] at hsame
    rw [myrealloc, hmalloc, if_pos hfail, hsame hfail]
    exact hinv
  · -- the old block is given back when the new one has been taken and filled, so that they never meet
    obtain ⟨hcopied, hother⟩ := hinv.copied hmem hmalloc hfail
    have hnewblock : (⟨offset, blocksFor size⟩ : LiveBlock) ∈ _ :=
      List.mem_cons_self (a := (⟨offset, blocksFor size⟩ : LiveBlock)) (l := h.heap.live)
    have hinside := hcopied.heap.inside hnewblock
    have hpos := hcopied.heap.length_pos hnewblock
    change offset.toNat + _ ≤ _ at hinside
    obtain ⟨hfreed, hsame⟩ := hcopied.myfree_eq pool (List.mem_cons_of_mem _ hmem)
    have hne : ∀ bytes, ¬ ((⟨⟨offset, blocksFor size⟩, bytes⟩ : OwnedBlock) == o) = true := by
      intro bytes
      rw [beq_iff_eq]
      exact fun heq => hother o hmem (congrArg OwnedBlock.block heq).symm
    have hcontents : ∀ b, (myfree pool (o.ptr pool) (dev.copied offset o.block.offset size)).contents b =
        (dev.copied offset o.block.offset size).contents b :=
      fun b => contents_congr fun x _ _ => congrFun hsame x
    rw [List.erase_cons_tail (hne _)] at hfreed
    rw [myrealloc, hmalloc, if_neg hfail, hoffset]
    dsimp only
    rw [if_neg (ptr_ne_zero pool (by omega)), newBlock, sub_base, hcontents]
    exact hfreed

/-- **Every call keeps the invariant.** -/
theorem Inv.step (hinv : h.Inv memx) {call : OwnerCall} {h' : OwnedHeap}
    (hstep : h.step pool call = some h') : h'.Inv memx := by
  cases call with
  | malloc size => exact hinv.malloc size hstep
  | write ptr off bytes => exact hinv.write hstep
  | realloc ptr size => exact hinv.realloc hstep
  | free ptr => exact hinv.free hstep

end OwnedHeap

/-! ## The share in use -/

/-- The counter of `my_mem_perused`. -/
theorem usedLoop_eq (memmap : CellMemory UInt16) (n : ℕ) :
    (List.range n).foldl (fun (used : UInt32) i => if memmap i ≠ 0 then used + 1 else used) 0 =
      .ofNat (Nat.count (fun x => memmap x ≠ 0) n) := by
  induction n with
  | zero => rfl
  | succ n ih =>
      rw [List.range_succ, List.foldl_append, ih, List.foldl_cons, List.foldl_nil, Nat.count_succ]
      split
      · exact (UInt32.ofNat_add _ 1).symm
      · rfl

/-- **`my_mem_perused` counts the cells of the owners.** -/
theorem OwnedHeap.Inv.toNat_myMemPerused (hinv : h.Inv memx) : (myMemPerused memx h.dev).toNat =
    (h.owned.map fun o => o.block.cells).sum * 100 / memtblsize memx := by
  have hcount : Nat.count (fun x => h.dev.memmap x ≠ 0) (memtblsize memx) =
      (h.owned.map fun o => o.block.cells).sum := by
    have hused := hinv.heap.records.count_used (mapCode_ne_zero memx)
    rwa [OwnedHeap.heap, List.map_map, List.map_map] at hused
  have hle : Nat.count (fun x => h.dev.memmap x ≠ 0) (memtblsize memx) ≤ memtblsize memx := Nat.count_le _
  -- with at most 30720 cells neither the product nor the percentage wraps around
  have hsize : 0 < memtblsize memx ∧ memtblsize memx ≤ 30720 := by cases memx <;> decide
  have hshare : Nat.count (fun x => h.dev.memmap x ≠ 0) (memtblsize memx) * 100 / memtblsize memx ≤ 100 :=
    Nat.div_le_of_le_mul (Nat.mul_le_mul_right 100 hle)
  rw [myMemPerused, usedLoop_eq, ← hcount, UInt32.toNat_toUInt8, UInt32.toNat_div, UInt32.toNat_mul,
    UInt32.toNat_ofNat_of_lt' (show _ < 2 ^ 32 by omega), UInt32.toNat_ofNat_of_lt' (show _ < 2 ^ 32 by omega)]
  change _ * 100 % 2 ^ 32 / _ % 2 ^ 8 = _
  rw [Nat.mod_eq_of_lt (show _ < 2 ^ 32 by omega), Nat.mod_eq_of_lt (show _ < 2 ^ 8 by omega)]

/-- **Every owner finds in its block what it left there**, after any run of calls in which pointers are used by
their owners only. -/
theorem owned_contents (pool : PoolBase memx) (dev : MallcoDev) (calls : List OwnerCall) :
    AllReached (OwnedHeap.step pool) (OwnedHeap.Ok memx) (.start memx dev) calls := by
  have hstart : (OwnedHeap.start memx dev).Inv memx := ⟨Heap.inv_start memx dev, nofun⟩
  have hrun : AllReached (OwnedHeap.step pool) (OwnedHeap.Inv memx) (.start memx dev) calls :=
    allReached_of_step (fun h call h' hinv hstep => OwnedHeap.Inv.step hinv hstep) hstart calls
  exact hrun.mono fun h hinv => ⟨hinv.heap.safe, hinv.contents, hinv.toNat_myMemPerused⟩

end RtuShuiwen
