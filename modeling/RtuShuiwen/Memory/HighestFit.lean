import RtuShuiwen.Memory.Malloc

/-! # When an allocation succeeds

`my_mem_malloc` goes through the map once, from the top down, and counts free cells. That is enough to
find a run of free cells whenever there is one, and the one it finds is the highest: `Allocates` is what
a call does, and it does so on every map that any calls lead to, also calls that free what was never
handed out. -/

namespace RtuShuiwen

open BlockMap CellMemory TransitionSystem

/-- A call on a bank, whether what it frees is live or not. -/
def bankStep (memx : SramBank) (dev : MallcoDev) : HeapCall → Option MallcoDev
  | .malloc size => some (myMemMalloc memx size dev).2
  | .free offset => some (myMemFree memx offset dev).2

/-- There is room for `size` bytes: a run of as many free cells as they need. -/
def HasRoom (memx : SramBank) (dev : MallcoDev) (size : UInt32) : Prop :=
  ∃ b : Block, b.cells = (size.toNat + 31) / 32 ∧ FreeRun 0 (memtblsize memx) dev.memmap b

/-- **What `my_mem_malloc` of `size` bytes does on a bank.** -/
structure Allocates (memx : SramBank) (dev : MallcoDev) (size : UInt32) : Prop where
  /-- It fails just when nothing is asked for or there is no room. -/
  fails_iff : (myMemMalloc memx size dev).1 = mallocFailed ↔ size = 0 ∨ ¬ HasRoom memx dev size
  /-- A call that fails changes nothing. -/
  unchanged : (myMemMalloc memx size dev).1 = mallocFailed → (myMemMalloc memx size dev).2 = dev
  /-- Another one returns the offset of the highest run and marks its cells and no others. -/
  marks : (myMemMalloc memx size dev).1 ≠ mallocFailed →
    ∃ b : Block, b.cells = (size.toNat + 31) / 32 ∧ HighestFree 0 (memtblsize memx) dev.memmap b ∧
      (myMemMalloc memx size dev).1.toNat = 32 * b.start ∧
      (myMemMalloc memx size dev).2 =
        { dev with memmap := fun x => if b.Has x then .ofNat b.cells else dev.memmap x }

/-! ## The search -/

/-- **The search misses no run**: from a cell above its start it finds the run or a higher one. -/
theorem searchFree_of_freeRun {memmap : CellMemory UInt16} {nmemb size offset cmemb : ℕ}
    (hcount : cmemb < nmemb) (hend : offset + cmemb = size ∨ memmap (offset + cmemb) ≠ 0) {b : Block}
    (hcells : b.cells = nmemb) (hrun : FreeRun 0 size memmap b) (hbelow : b.start < offset) :
    ∃ found, searchFree memmap nmemb offset cmemb = some found ∧ b.start ≤ found := by
  -- the count never lags behind: the cell above the counted ones is not free or not in the map
  induction offset generalizing cmemb with
  | zero => exact absurd hbelow (Nat.not_lt_zero _)
  | succ offset ih =>
      obtain ⟨hinside, hfree⟩ := hrun
      have hend' : offset + (if memmap offset = 0 then cmemb + 1 else 0) = size ∨
          memmap (offset + (if memmap offset = 0 then cmemb + 1 else 0)) ≠ 0 := by
        split
        · have hnext : offset + (cmemb + 1) = offset + 1 + cmemb := by omega
          rw [hnext]
          exact hend
        · next hused => exact .inr hused
      rw [searchFree]
      by_cases hfound : (if memmap offset = 0 then cmemb + 1 else 0) = nmemb
      · rw [if_pos hfound]
        exact ⟨offset, rfl, Nat.le_of_lt_succ hbelow⟩
      · rw [if_neg hfound]
        have hle : (if memmap offset = 0 then cmemb + 1 else 0) ≤ nmemb := by
          split <;> omega
        have hcount' := Nat.lt_of_le_of_ne hle hfound
        refine ih hcount' hend' ?_
        refine Nat.lt_of_le_of_ne (Nat.le_of_lt_succ hbelow) fun hstart => ?_
        have hzero : memmap offset = 0 := hfree offset ⟨by omega, by omega⟩
        rw [if_pos hzero] at hcount' hend'
        rcases hend' with hsize | hused
        · omega
        · exact hused (hfree _ ⟨by omega, by omega⟩)

/-- **The whole search**: it finds the highest run of its length, and fails only when there is none. -/
theorem searchFree_iff {memmap : CellMemory UInt16} {nmemb size : ℕ} (hpos : 0 < nmemb) :
    (∀ found, searchFree memmap nmemb size 0 = some found →
      HighestFree 0 size memmap ⟨found, nmemb⟩) ∧
    (searchFree memmap nmemb size 0 = none → ∀ b : Block, b.cells = nmemb →
      ¬ FreeRun 0 size memmap b) := by
  have hmiss : ∀ b : Block, b.cells = nmemb → FreeRun 0 size memmap b →
      ∃ found, searchFree memmap nmemb size 0 = some found ∧ b.start ≤ found := by
    intro b hcells hrun
    refine searchFree_of_freeRun hpos (.inl (Nat.add_zero _)) hcells hrun ?_
    have hinside := hrun.1
    omega
  constructor
  · intro found hfound
    have hstart : size + 0 ≤ size := Nat.le_refl _
    refine ⟨searchFree_spec (fun x hx hlt => by omega) hstart hfound, fun c hrun hcells => ?_⟩
    obtain ⟨found', hfound', hle⟩ := hmiss c hcells hrun
    rw [hfound] at hfound'
    obtain rfl := Option.some.inj hfound'
    exact hle
  · intro hnone b hcells hrun
    obtain ⟨found, hfound, -⟩ := hmiss b hcells hrun
    rw [hnone] at hfound
    cases hfound

/-! ## The calls -/

/-- The number of blocks is the number of bytes divided by 32 and rounded up. -/
theorem blocksFor_eq (size : UInt32) : blocksFor size = (size.toNat + 31) / 32 := by
  show size.toNat / 32 + (if size.toNat % 32 = 0 then 0 else 1) = _
  split <;> omega

/-- A bank in use behaves so. -/
theorem allocates_of_ready (memx : SramBank) {dev : MallcoDev} (hready : dev.memrdy = true)
    (size : UInt32) : Allocates memx dev size := by
  have hdev : readyDev memx dev = dev := if_pos hready
  by_cases hzero : size = 0
  · have hcall : myMemMalloc memx size dev = (mallocFailed, dev) := by
      rw [myMemMalloc, hdev]
      exact if_pos hzero
    constructor
    case fails_iff => exact ⟨fun _ => .inl hzero, fun _ => congrArg Prod.fst hcall⟩
    case unchanged => exact fun _ => congrArg Prod.snd hcall
    case marks => exact fun hne => absurd (congrArg Prod.fst hcall) hne
  have hpos := blocksFor_pos hzero
  obtain ⟨hsome, hnone⟩ := @searchFree_iff dev.memmap _ (memtblsize memx) hpos
  cases hsearch : searchFree dev.memmap (blocksFor size) (memtblsize memx) 0 with
  | none =>
      have hcall : myMemMalloc memx size dev = (mallocFailed, dev) := by
        rw [myMemMalloc, hdev]
        dsimp only
        rw [if_neg hzero, hsearch]
      have hroom : ¬ HasRoom memx dev size := by
        rintro ⟨b, hcells, hrun⟩
        exact hnone hsearch b (hcells.trans (blocksFor_eq size).symm) hrun
      constructor
      case fails_iff => exact ⟨fun _ => .inr hroom, fun _ => congrArg Prod.fst hcall⟩
      case unchanged => exact fun _ => congrArg Prod.snd hcall
      case marks => exact fun hne => absurd (congrArg Prod.fst hcall) hne
  | some found =>
      have hhighest := hsome found hsearch
      obtain ⟨hinside, -⟩ := hhighest.1
      obtain ⟨htoNat, hne⟩ := @toNat_offset memx ⟨found, blocksFor size⟩ hpos hinside
      have hcall : myMemMalloc memx size dev = (.ofNat (found * 32),
          { dev with memmap := setCells dev.memmap ⟨found, blocksFor size⟩ (.ofNat (blocksFor size)) }) := by
        rw [myMemMalloc, hdev]
        dsimp only
        rw [if_neg hzero, hsearch]
        rfl
      have hmarked : setCells dev.memmap ⟨found, blocksFor size⟩ (.ofNat (blocksFor size)) = fun x =>
          if (⟨found, blocksFor size⟩ : Block).Has x then .ofNat (blocksFor size) else dev.memmap x :=
        funext fun x => setCells_apply _ _ _ x
      have hroom : HasRoom memx dev size := ⟨_, blocksFor_eq size, hhighest.1⟩
      rw [hmarked] at hcall
      constructor
      case fails_iff =>
        rw [hcall]
        exact ⟨fun hfailed => absurd hfailed hne, fun h => absurd hroom (h.resolve_left hzero)⟩
      case unchanged =>
        rw [hcall]
        exact fun hfailed => absurd hfailed hne
      case marks =>
        rw [hcall]
        exact fun _ => ⟨_, blocksFor_eq size, hhighest, htoNat.trans (Nat.mul_comm _ _), rfl⟩

/-- A bank in use stays in use. -/
theorem memrdy_bankStep {memx : SramBank} {dev dev' : MallcoDev} {call : HeapCall}
    (hready : dev.memrdy = true) (hstep : bankStep memx dev call = some dev') : dev'.memrdy = true := by
  cases call with
  | malloc size =>
      obtain rfl := Option.some.inj hstep
      rcases myMemMalloc_eq memx size dev with hfail | ⟨b, -, -, -, -, heq⟩
      · rw [hfail]
        exact (congrArg MallcoDev.memrdy (if_pos hready)).trans hready
      · rw [heq]
        exact (congrArg MallcoDev.memrdy (if_pos hready)).trans hready
  | free offset =>
      obtain rfl := Option.some.inj hstep
      have hnot : ¬ (!dev.memrdy) = true := by
        rw [hready]
        decide
      rw [myMemFree, if_neg hnot]
      split
      · exact hready
      · exact hready

/-- **An allocation succeeds exactly when it can**, on every map that calls of `my_mem_malloc` and
`my_mem_free` lead to, and takes the highest run that is long enough. -/
theorem allocates_reached (memx : SramBank) (dev : MallcoDev) (calls : List HeapCall) :
    AllReached (bankStep memx) (fun dev => ∀ size, Allocates memx dev size) (myMemInit memx dev) calls := by
  have hrun : AllReached (bankStep memx) (fun dev => dev.memrdy = true) (myMemInit memx dev) calls :=
    allReached_of_step (fun _ _ _ hready hstep => memrdy_bankStep hready hstep) rfl calls
  exact hrun.mono fun dev hready size => allocates_of_ready memx hready size

end RtuShuiwen
