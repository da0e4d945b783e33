import Mathlib.Algebra.Group.Nat.Defs
import Mathlib.Data.List.Nodup
import RtuShuiwen.Library.BlockMap
import RtuShuiwen.Library.TransitionSystem

/-! # The block allocator

`malloc.c` hands out runs of 32-byte blocks of two memory banks. The only record of a run is its
length, written to the map cell of each of its blocks: `my_mem_malloc` looks for free cells from the top
of the map down, `my_mem_free` reads the length back and clears as many cells. **`heapSafe`** is what
holds after any sequence of calls in which only what was handed out is given back. -/

namespace RtuShuiwen

open BlockMap CellMemory TransitionSystem

/-! ## The allocator -/

/-- The memory banks: `SRAMIN` and `SRAMEX`. -/
inductive SramBank
  | sramin
  | sramex
  deriving DecidableEq, Repr

/-- `memblksize`, the same for both banks. -/
def memblksize : ℕ := 32

/-- `memsize`. -/
def memsize : SramBank → ℕ
  | .sramin => 35 * 1024
  | .sramex => 960 * 1024

/-- `memtblsize`. -/
def memtblsize (memx : SramBank) : ℕ := memsize memx / memblksize

/-- What `mallco_dev` holds of one bank: the pool, the map and whether they are initialised. -/
structure MallcoDev where
  membase : CellMemory UInt8
  memmap : CellMemory UInt16
  memrdy : Bool

/-- `my_mem_init`: map and pool are zeroed. -/
def myMemInit (memx : SramBank) (dev : MallcoDev) : MallcoDev where
  membase := patch dev.membase 0 (List.replicate (memsize memx) 0)
  memmap := patch dev.memmap 0 (List.replicate (memtblsize memx) 0)
  memrdy := true

/-- The error answer of `my_mem_malloc`. -/
def mallocFailed : UInt32 := 0xffffffff

/-- The number of blocks for `size` bytes. -/
def blocksFor (size : UInt32) : ℕ :=
  size.toNat / memblksize + if size.toNat % memblksize = 0 then 0 else 1

/-- The search of `my_mem_malloc`: the cells below `offset` have still to be looked at, and the
`cmemb` cells from `offset` on are free. -/
def searchFree (memmap : CellMemory UInt16) (nmemb : ℕ) : (offset cmemb : ℕ) → Option ℕ
  | 0, _ => none
  | offset + 1, cmemb =>
      let cmemb' := if memmap offset = 0 then cmemb + 1 else 0
      if cmemb' = nmemb then some offset else searchFree memmap nmemb offset cmemb'

/-- The bank as a call finds it: initialised on its first use. -/
def readyDev (memx : SramBank) (dev : MallcoDev) : MallcoDev :=
  if dev.memrdy then dev else myMemInit memx dev

/-- `my_mem_malloc`: the offset of the run and the bank with its cells marked. -/
def myMemMalloc (memx : SramBank) (size : UInt32) (dev : MallcoDev) : UInt32 × MallcoDev :=
  let dev := readyDev memx dev
  if size = 0 then (mallocFailed, dev)
  else
    let nmemb := blocksFor size
    match searchFree dev.memmap nmemb (memtblsize memx) 0 with
    | some offset =>
        (.ofNat (offset * memblksize),
          { dev with memmap := setCells dev.memmap ⟨offset, nmemb⟩ (.ofNat nmemb) })
    | none => (mallocFailed, dev)

/-- `my_mem_free`: 0 for success, 1 for a bank not initialised, 2 for an offset outside the pool. -/
def myMemFree (memx : SramBank) (offset : UInt32) (dev : MallcoDev) : UInt8 × MallcoDev :=
  if !dev.memrdy then (1, myMemInit memx dev)
  else if offset.toNat < memsize memx then
    let index := offset.toNat / memblksize
    let nmemb := (dev.memmap index).toNat
    (0, { dev with memmap := setCells dev.memmap ⟨index, nmemb⟩ 0 })
  else (2, dev)

/-! ## Runs -/

/-- A run that was handed out and not given back: its offset and its number of cells. -/
structure LiveBlock where
  offset : UInt32
  cells : ℕ
  deriving DecidableEq

/-- The cells of a live block. -/
def LiveBlock.block (b : LiveBlock) : Block := ⟨b.offset.toNat / memblksize, b.cells⟩

/-- A bank and what is live in it. -/
structure Heap where
  dev : MallcoDev
  live : List LiveBlock

/-- The calls. -/
inductive HeapCall
  | malloc (size : UInt32)
  | free (offset : UInt32)

/-- A call; only the offset of a live block is given back. -/
def Heap.step (memx : SramBank) (h : Heap) : HeapCall → Option Heap
  | .malloc size =>
      let answer := myMemMalloc memx size h.dev
      some ⟨answer.2,
        if answer.1 = mallocFailed then h.live else ⟨answer.1, blocksFor size⟩ :: h.live⟩
  | .free offset =>
      (h.live.find? (·.offset = offset)).map fun b =>
        ⟨(myMemFree memx offset h.dev).2, h.live.erase b⟩

/-- As `main` leaves a bank, whatever it held before. -/
def Heap.start (memx : SramBank) (dev : MallcoDev) : Heap := ⟨myMemInit memx dev, []⟩

/-- **Heap safety.** -/
structure Heap.Safe (memx : SramBank) (h : Heap) : Prop where
  /-- Live blocks start at multiples of 32. -/
  aligned : ∀ b ∈ h.live, b.offset.toNat % 32 = 0
  /-- They lie in the pool. -/
  inside : ∀ b ∈ h.live, b.offset.toNat + 32 * b.cells ≤ memsize memx
  /-- They are pairwise disjoint. -/
  disjoint : h.live.Pairwise fun b c => b.offset.toNat + 32 * b.cells ≤ c.offset.toNat ∨
    c.offset.toNat + 32 * c.cells ≤ b.offset.toNat
  /-- The cells of a block of `k` cells hold `k`. -/
  marked : ∀ b ∈ h.live, ∀ x, b.block.Has x → (h.dev.memmap x).toNat = b.cells
  /-- All other cells hold 0. -/
  unused : ∀ x < memtblsize memx, (∀ b ∈ h.live, ¬ b.block.Has x) → h.dev.memmap x = 0
  /-- Freeing a block succeeds, zeroes its own cells and changes nothing else. -/
  freed : ∀ b ∈ h.live, myMemFree memx b.offset h.dev =
    (0, { h.dev with memmap := fun x => if b.block.Has x then 0 else h.dev.memmap x })

/-! ## The search -/

/-- **What the search finds**: as many free cells as asked for, all of them in the map. -/
theorem searchFree_spec {memmap : CellMemory UInt16} {nmemb size : ℕ} {offset cmemb found : ℕ}
    (hfree : ∀ x, offset ≤ x → x < offset + cmemb → memmap x = 0) (hsize : offset + cmemb ≤ size)
    (hfound : searchFree memmap nmemb offset cmemb = some found) :
    found + nmemb ≤ size ∧ ∀ x, (⟨found, nmemb⟩ : Block).Has x → memmap x = 0 := by
  -- the induction is on the cells still to be looked at; those above are free and in the map
  induction offset generalizing cmemb with
  | zero => cases hfound
  | succ offset ih =>
      rw [searchFree] at hfound
      have hfree' : ∀ x, offset ≤ x → x < offset + (if memmap offset = 0 then cmemb + 1 else 0) →
          memmap x = 0 := by
        intro x hx hlt
        split at hlt
        · next hzero =>
            rcases Nat.eq_or_lt_of_le hx with rfl | hgt
            · exact hzero
            · exact hfree x hgt (by omega)
        · omega
      have hsize' : offset + (if memmap offset = 0 then cmemb + 1 else 0) ≤ size := by
        split <;> omega
      by_cases hcount : (if memmap offset = 0 then cmemb + 1 else 0) = nmemb
      · rw [if_pos hcount] at hfound
        obtain rfl := Option.some.inj hfound
        rw [hcount] at hfree' hsize'
        exact ⟨hsize', fun x hx => hfree' x hx.1 hx.2⟩
      · rw [if_neg hcount] at hfound
        exact ih hfree' hsize' hfound

/-! ## The invariant -/

/-- The map cell of a block of `k` cells. -/
def mapCode (k : ℕ) : UInt16 := .ofNat k

/-- The count of a block fits its map cell. -/
theorem toNat_mapCode (memx : SramBank) {k : ℕ} (h : k ≤ memtblsize memx) : (mapCode k).toNat = k := by
  have hsize : memtblsize memx < 2 ^ 16 := by cases memx <;> decide
  exact UInt16.toNat_ofNat_of_lt' (show _ < 2 ^ 16 by omega)

/-- So it is not the mark of a free cell. -/
theorem mapCode_ne_zero (memx : SramBank) (k : ℕ) (hpos : 0 < k) (hk : k ≤ memtblsize memx) :
    mapCode k ≠ 0 := by
  intro hzero
  have hcode := toNat_mapCode memx hk
  rw [hzero] at hcode
  exact absurd hcode.symm (Nat.ne_of_gt hpos)

/-- The pool is as long as the map says, and short enough for every offset to fit its word. -/
theorem memsize_eq (memx : SramBank) : memsize memx = memtblsize memx * 32 ∧ memsize memx < 2 ^ 32 := by
  cases memx <;> decide

/-- The invariant: the map is the record of the live blocks. -/
structure Heap.Inv (memx : SramBank) (h : Heap) : Prop where
  /-- The bank is initialised. -/
  ready : h.dev.memrdy = true
  /-- Offsets are those of whole blocks. -/
  aligned : ∀ b ∈ h.live, b.offset.toNat % 32 = 0
  /-- The books are right. -/
  records : Records 0 mapCode (memtblsize memx) h.dev.memmap (h.live.map LiveBlock.block)

variable {memx : SramBank} {h : Heap}

/-- The blocks of a list of live blocks. -/
theorem forall_mem_blocks {P : Block → Prop} (hP : ∀ b ∈ h.live.map LiveBlock.block, P b) :
    ∀ b ∈ h.live, P b.block := fun _ hb => hP _ (List.mem_map_of_mem hb)

/-- The offset of a live block is its cell times the size of a cell. -/
theorem LiveBlock.offset_eq {b : LiveBlock} (h : b.offset.toNat % 32 = 0) :
    b.offset.toNat = 32 * b.block.start := by
  show _ = 32 * (b.offset.toNat / 32)
  omega

/-- A live block is told by its cells. -/
theorem Heap.Inv.eq_of_block (hinv : h.Inv memx) {b c : LiveBlock} (hb : b ∈ h.live)
    (hc : c ∈ h.live) (hblock : b.block = c.block) : b = c := by
  have hboffset := LiveBlock.offset_eq (hinv.aligned b hb)
  have hcoffset := LiveBlock.offset_eq (hinv.aligned c hc)
  have hoffset : b.offset = c.offset := by
    rw [← UInt32.toNat_inj, hboffset, hcoffset, hblock]
  have hcells : b.cells = c.cells := congrArg Block.cells hblock
  cases b
  cases c
  exact congrArg₂ LiveBlock.mk hoffset hcells

/-- **What freeing a live block does.** -/
theorem Heap.Inv.myMemFree_eq (hinv : h.Inv memx) {b : LiveBlock} (hb : b ∈ h.live) :
    myMemFree memx b.offset h.dev =
      (0, { h.dev with memmap := setCells h.dev.memmap b.block 0 }) := by
  have hb' : b.block ∈ h.live.map LiveBlock.block := List.mem_map_of_mem hb
  have hpos := hinv.records.pos _ hb'
  have hinside := hinv.records.inside _ hb'
  have hoffset := LiveBlock.offset_eq (hinv.aligned b hb)
  have hpool : b.offset.toNat < memsize memx := by
    have hsize := (memsize_eq memx).1
    omega
  -- the count is read from the first cell of the block
  have hcount : (h.dev.memmap b.block.start).toNat = b.block.cells := by
    rw [hinv.records.marked _ hb' b.block.start ⟨Nat.le_refl _, by omega⟩,
      toNat_mapCode memx (by omega)]
  have hread : (⟨b.offset.toNat / memblksize, (h.dev.memmap (b.offset.toNat / memblksize)).toNat⟩ :
      Block) = b.block := by
    show (⟨b.block.start, (h.dev.memmap b.block.start).toNat⟩ : Block) = b.block
    rw [hcount]
  have hready : ¬ (!h.dev.memrdy) = true := by
    rw [hinv.ready]
    decide
  rw [myMemFree, if_neg hready, if_pos hpool]
  dsimp only
  rw [hread]

/-- **The invariant is heap safety.** -/
theorem Heap.Inv.safe (hinv : h.Inv memx) : h.Safe memx := by
  have hsize := (memsize_eq memx).1
  constructor
  case aligned => exact hinv.aligned
  case inside =>
    intro b hb
    have hinside : b.block.start + b.cells ≤ memtblsize memx :=
      forall_mem_blocks hinv.records.inside b hb
    have hoffset := LiveBlock.offset_eq (hinv.aligned b hb)
    omega
  case disjoint =>
    have hapart := List.pairwise_map.mp hinv.records.apart
    refine hapart.imp_of_mem fun {b c} hb hc hbc => ?_
    have hboffset := LiveBlock.offset_eq (hinv.aligned b hb)
    have hcoffset := LiveBlock.offset_eq (hinv.aligned c hc)
    have hbc : b.block.start + b.cells ≤ c.block.start ∨ c.block.start + c.cells ≤ b.block.start := hbc
    omega
  case marked =>
    intro b hb x hx
    have hinside : b.block.start + b.cells ≤ memtblsize memx :=
      forall_mem_blocks hinv.records.inside b hb
    rw [hinv.records.marked _ (List.mem_map_of_mem hb) x hx]
    exact toNat_mapCode memx (by show b.cells ≤ _; omega)
  case unused =>
    intro x hx hnone
    exact hinv.records.unused x hx (List.forall_mem_map.mpr hnone)
  case freed =>
    intro b hb
    have hcells : setCells h.dev.memmap b.block 0 =
        fun x => if b.block.Has x then 0 else h.dev.memmap x :=
      funext fun x => setCells_apply _ _ _ x
    rw [hinv.myMemFree_eq hb, hcells]

/-! ## The calls keep it -/

/-- The start. -/
theorem Heap.inv_start (memx : SramBank) (dev : MallcoDev) : (Heap.start memx dev).Inv memx := by
  refine ⟨rfl, nofun, Records.nil fun x hx => ?_⟩
  have hpatch := patch_add dev.memmap 0 (List.replicate (memtblsize memx) 0) x
    (by rw [List.length_replicate]; exact hx)
  rw [Nat.zero_add, List.getElem_replicate] at hpatch
  exact hpatch

/-- A request that is not for nothing is for some blocks. -/
theorem blocksFor_pos {size : UInt32} (h : size ≠ 0) : 0 < blocksFor size := by
  have hsize : size.toNat ≠ 0 := fun hzero => h (UInt32.toNat_inj.mp hzero)
  show 0 < size.toNat / 32 + if size.toNat % 32 = 0 then 0 else 1
  split <;> omega

/-- **What `my_mem_malloc` does**: either it fails, or it marks a run of free cells of the length asked
for; the bank is initialised before. -/
theorem myMemMalloc_eq (memx : SramBank) (size : UInt32) (dev : MallcoDev) :
    myMemMalloc memx size dev = (mallocFailed, readyDev memx dev) ∨
    ∃ b : Block, b.cells = blocksFor size ∧ 0 < b.cells ∧ b.start + b.cells ≤ memtblsize memx ∧
      (∀ x, b.Has x → (readyDev memx dev).memmap x = 0) ∧
      myMemMalloc memx size dev = (.ofNat (b.start * 32),
        { readyDev memx dev with memmap := setCells (readyDev memx dev).memmap b (mapCode b.cells) }) := by
  by_cases hzero : size = 0
  · refine .inl ?_
    rw [myMemMalloc]
    exact if_pos hzero
  cases hsearch : searchFree (readyDev memx dev).memmap (blocksFor size) (memtblsize memx) 0 with
  | none =>
      refine .inl ?_
      rw [myMemMalloc]
      dsimp only
      rw [if_neg hzero, hsearch]
  | some found =>
      have hinside : memtblsize memx + 0 ≤ memtblsize memx := Nat.le_refl _
      obtain ⟨hinside, hfree⟩ := searchFree_spec (fun x hx hlt => by omega) hinside hsearch
      refine .inr ⟨⟨found, blocksFor size⟩, rfl, blocksFor_pos hzero, hinside, hfree, ?_⟩
      rw [myMemMalloc]
      dsimp only
      rw [if_neg hzero, hsearch]
      rfl

/-- On a bank in use a call that fails changes nothing. -/
theorem myMemMalloc_cases (hinv : h.Inv memx) (size : UInt32) :
    myMemMalloc memx size h.dev = (mallocFailed, h.dev) ∨
    ∃ b : Block, b.cells = blocksFor size ∧ 0 < b.cells ∧ b.start + b.cells ≤ memtblsize memx ∧
      (∀ x, b.Has x → h.dev.memmap x = 0) ∧
      myMemMalloc memx size h.dev = (.ofNat (b.start * 32),
        { h.dev with memmap := setCells h.dev.memmap b (mapCode b.cells) }) := by
  have hready : readyDev memx h.dev = h.dev := if_pos hinv.ready
  have heq := myMemMalloc_eq memx size h.dev
  rwa [hready] at heq

/-- The offset of a run in the pool is no error answer and tells its first cell. -/
theorem toNat_offset {b : Block} (hpos : 0 < b.cells) (hinside : b.start + b.cells ≤ memtblsize memx) :
    (UInt32.ofNat (b.start * 32)).toNat = b.start * 32 ∧ UInt32.ofNat (b.start * 32) ≠ mallocFailed := by
  obtain ⟨hsize, hlt⟩ := memsize_eq memx
  have htoNat : (UInt32.ofNat (b.start * 32)).toNat = b.start * 32 :=
    UInt32.toNat_ofNat_of_lt' (show _ < 2 ^ 32 by omega)
  refine ⟨htoNat, fun hfailed => ?_⟩
  rw [hfailed] at htoNat
  have hmultiple : mallocFailed.toNat % 32 = 31 := by decide
  omega

/-- An allocation keeps the books. -/
theorem Heap.Inv.malloc (hinv : h.Inv memx) (size : UInt32) {h' : Heap}
    (hstep : h.step memx (.malloc size) = some h') : h'.Inv memx := by
  obtain rfl := Option.some.inj hstep
  rcases myMemMalloc_cases hinv size with hfail | ⟨b, hcells, hpos, hinside, hfree, heq⟩
  · show Inv memx ⟨(myMemMalloc memx size h.dev).2, if (myMemMalloc memx size h.dev).1 = _ then _ else _⟩
    rw [hfail, if_pos rfl]
    exact hinv
  · obtain ⟨htoNat, hne⟩ := toNat_offset hpos hinside
    have hblock : (⟨.ofNat (b.start * 32), blocksFor size⟩ : LiveBlock).block = b := by
      rw [LiveBlock.block, htoNat, ← hcells, memblksize, Nat.mul_div_cancel _ (by decide)]
    show Inv memx ⟨(myMemMalloc memx size h.dev).2, if (myMemMalloc memx size h.dev).1 = _ then _ else _⟩
    rw [heq, if_neg hne]
    refine ⟨hinv.ready, ?_, ?_⟩
    · refine List.forall_mem_cons.mpr ⟨?_, hinv.aligned⟩
      rw [htoNat]
      exact Nat.mul_mod_left _ _
    · rw [List.map_cons, hblock]
      exact hinv.records.mark (mapCode_ne_zero memx) hpos hinside hfree

/-- Giving a live block back keeps them. -/
theorem Heap.Inv.free (hinv : h.Inv memx) (offset : UInt32) {h' : Heap}
    (hstep : h.step memx (.free offset) = some h') : h'.Inv memx := by
  obtain ⟨b, hfind, rfl⟩ := Option.map_eq_some_iff.mp hstep
  have hb : b ∈ h.live := List.mem_of_find?_eq_some hfind
  obtain rfl : b.offset = offset :=
    of_decide_eq_true (List.find?_some (p := fun c : LiveBlock => decide (c.offset = offset)) hfind)
  have hb' : b.block ∈ h.live.map LiveBlock.block := List.mem_map_of_mem hb
  rw [hinv.myMemFree_eq hb]
  refine ⟨hinv.ready, fun c hc => hinv.aligned c (List.mem_of_mem_erase hc), ?_⟩
  have hnodup : h.live.Nodup := List.Nodup.of_map _ hinv.records.nodup
  refine hinv.records.clear hb' (List.erase_sublist.map _) ?_ ?_
  · rintro _ hmem hne
    obtain ⟨c, hc, rfl⟩ := List.mem_map.mp hmem
    refine List.mem_map_of_mem (hnodup.mem_erase_iff.mpr ⟨?_, hc⟩)
    rintro rfl
    exact hne rfl
  · intro hmem
    obtain ⟨c, hc, hblock⟩ := List.mem_map.mp hmem
    obtain ⟨hne, hc⟩ := hnodup.mem_erase_iff.mp hc
    exact hne (hinv.eq_of_block hc hb hblock)

/-- **Heap safety holds after any sequence of calls** in which only live blocks are freed, on either bank
and from any contents before the initialisation. -/
theorem heapSafe (memx : SramBank) (dev : MallcoDev) (calls : List HeapCall) :
    AllReached (Heap.step memx) (Heap.Safe memx) (.start memx dev) calls := by
  have hrun : AllReached (Heap.step memx) (Heap.Inv memx) (.start memx dev) calls := by
    refine allReached_of_step ?_ (Heap.inv_start memx dev) calls
    intro h call h' hinv hstep
    cases call with
    | malloc size => exact hinv.malloc size hstep
    | free offset => exact hinv.free offset hstep
  exact hrun.mono fun h hinv => hinv.safe

end RtuShuiwen
