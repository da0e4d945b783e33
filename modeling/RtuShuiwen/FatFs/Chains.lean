import RtuShuiwen.FatFs.FatEntries
import RtuShuiwen.Library.ChainTable
import RtuShuiwen.Library.TransitionSystem

/-! # Cluster chains

Files and directories are chains of clusters in the FAT. `create_chain` finds a free cluster and makes it a chain or
hangs it behind one, `remove_chain` gives the clusters of a chain back, and any access to the card in between may
fail. `Holds` says which chains the FAT consists of, and `Leaves` and `Fails` what becomes of them. -/

namespace RtuShuiwen

open CellMemory PackedTable ChainTable TransitionSystem

/-! ## The functions -/

/-- A `FATFS`: the window, and what it knows about the free clusters. -/
structure FatFs extends FatWindow where
  fsiFlag : UInt8
  lastClust : UInt32
  freeClust : UInt32

/-- What the loop of `create_chain` ends with: a free cluster, or the value that is returned. -/
inductive ChainScan
  | found (ncl : ℕ)
  | returns (val : ℕ)

/-- The next cluster of the loop of `create_chain`, around the end of the FAT. -/
def nextCluster (g : FatGeometry) (ncl : ℕ) : ℕ := if ncl + 1 ≥ g.nFatent then 2 else ncl + 1

/-- The loop of `create_chain`, from the cluster behind `ncl` on and around to `scl`. -/
def createChainLoop (g : FatGeometry) (scl : Fin g.nFatent) (ncl : ℕ) (w : FatWindow) : ChainScan × FatWindow :=
  if ncl + 1 ≥ g.nFatent ∧ 2 > scl.val then (.returns 0, w)
  else
    match getFat g (nextCluster g ncl) w with
    | (cs, w) =>
        if cs = 0 then (.found (nextCluster g ncl), w)
        else if cs = 0xFFFFFFFF ∨ cs = 1 then (.returns cs, w)
        else if nextCluster g ncl = scl.val then (.returns 0, w)
        else createChainLoop g scl (nextCluster g ncl) w
-- the clusters that the loop has still to visit: to the end of the FAT and around to `scl`, or only up to `scl`
termination_by if scl.val ≤ ncl then g.nFatent - ncl + scl.val else scl.val - ncl
decreasing_by
  have hscl := scl.isLt
  unfold nextCluster at *
  split_ifs at * <;> omega

/-- One free cluster less. -/
def FatFs.countDown (fs : FatFs) : FatFs :=
  if fs.freeClust ≠ 0xFFFFFFFF then { fs with freeClust := fs.freeClust - 1, fsiFlag := fs.fsiFlag ||| 1 } else fs

/-- One free cluster more. -/
def FatFs.countUp (fs : FatFs) : FatFs :=
  if fs.freeClust ≠ 0xFFFFFFFF then { fs with freeClust := fs.freeClust + 1, fsiFlag := fs.fsiFlag ||| 1 } else fs

/-- The new cluster is marked as the last of a chain, and linked to `clst` unless that is 0. -/
def linkCluster (g : FatGeometry) (clst ncl : ℕ) (w : FatWindow) : FatResult × FatWindow :=
  match putFat g ncl 0x0FFFFFFF w with
  | (.ok, w) => if clst ≠ 0 then putFat g clst ncl w else (.ok, w)
  | failed => failed

/-- The end of `create_chain`. -/
def createChainLink (g : FatGeometry) (clst ncl : ℕ) (fs : FatFs) : ℕ × FatFs :=
  match linkCluster g clst ncl fs.toFatWindow with
  | (.ok, w) => (ncl, { fs with toFatWindow := w, lastClust := UInt32.ofNat ncl }.countDown)
  | (res, w) => (if res = .diskErr then 0xFFFFFFFF else 1, { fs with toFatWindow := w })

/-- `create_chain` behind the choice of the cluster to start from. -/
def createChainFrom (g : FatGeometry) (clst : ℕ) (scl : Fin g.nFatent) (fs : FatFs) : ℕ × FatFs :=
  match createChainLoop g scl scl fs.toFatWindow with
  | (.returns val, w) => (val, { fs with toFatWindow := w })
  | (.found ncl, w) => createChainLink g clst ncl { fs with toFatWindow := w }

/-- The start that is suggested for a new chain. -/
def suggestedStart (g : FatGeometry) (lastClust : UInt32) : Fin g.nFatent :=
  if h : lastClust.toNat = 0 ∨ g.nFatent ≤ lastClust.toNat then ⟨1, by have := g.two_lt; omega⟩
  else ⟨lastClust.toNat, by omega⟩

/-- `create_chain`: 0 when there is no free cluster, 1 and 0xFFFFFFFF for errors, or the next cluster. -/
def createChain (g : FatGeometry) (clst : ℕ) (fs : FatFs) : ℕ × FatFs :=
  if clst = 0 then createChainFrom g 0 (suggestedStart g fs.lastClust) fs
  else
    match getFat g clst fs.toFatWindow with
    | (cs, w) =>
        if cs < 2 then (1, { fs with toFatWindow := w })
        else if cs = 0xFFFFFFFF then (cs, { fs with toFatWindow := w })
        else if cs < g.nFatent then (cs, { fs with toFatWindow := w })
        else if h : clst < g.nFatent then createChainFrom g clst ⟨clst, h⟩ { fs with toFatWindow := w }
        -- not reached, as `get_fat` returns 1 for such a cluster
        else (1, { fs with toFatWindow := w })

/-- The loop of `remove_chain`, if it comes to its end within `fuel` clusters. -/
def removeChainLoop (g : FatGeometry) : (fuel : ℕ) → (clst : ℕ) → FatFs → Option (FatResult × FatFs)
  | 0, _, _ => none
  | fuel + 1, clst, fs =>
      if g.nFatent ≤ clst then some (.ok, fs)
      else
        match getFat g clst fs.toFatWindow with
        | (nxt, w) =>
            if nxt = 0 then some (.ok, { fs with toFatWindow := w })
            else if nxt = 1 then some (.intErr, { fs with toFatWindow := w })
            else if nxt = 0xFFFFFFFF then some (.diskErr, { fs with toFatWindow := w })
            else
              match putFat g clst 0 w with
              | (.ok, w) => removeChainLoop g fuel nxt { fs with toFatWindow := w }.countUp
              | (res, w) => some (res, { fs with toFatWindow := w })

/-- `remove_chain`. -/
def removeChain (g : FatGeometry) (clst : ℕ) (fs : FatFs) : Option (FatResult × FatFs) :=
  if clst < 2 ∨ g.nFatent ≤ clst then some (.intErr, fs) else removeChainLoop g g.nFatent clst fs

/-! ## The search for a free cluster -/

namespace FatWindow

variable {g : FatGeometry} {w : FatWindow}

/-- An entry is less than 2^28. -/
theorem entry_lt (g : FatGeometry) (w : FatWindow) (clst : ℕ) : w.entry g clst < 2 ^ 28 := by
  refine (get_lt (w.fat g) clst g.fsType.width).trans_le ?_
  cases g.fsType <;> decide

/-- The clusters that the loop has been at when it is at `ncl`. -/
def Visited (scl ncl c : ℕ) : Prop := if scl ≤ ncl then scl < c ∧ c ≤ ncl else scl < c ∨ c ≤ ncl

/-- At the end of the FAT it has been at all, if it started from its beginning. -/
theorem visited_of_end {scl ncl c : ℕ} (hncl : 1 ≤ ncl) (hend : ncl + 1 ≥ g.nFatent ∧ 2 > scl) (hc : 2 ≤ c)
    (hmax : c < g.nFatent) : Visited scl ncl c := by
  rw [Visited, if_pos (by omega)]
  omega

/-- It goes on by one cluster. -/
theorem visited_next {scl ncl c : ℕ} (hscl : scl < g.nFatent) (_ : ¬ (ncl + 1 ≥ g.nFatent ∧ 2 > scl))
    (hc : 2 ≤ c) (hmax : c < g.nFatent) (hvisited : Visited scl (nextCluster g ncl) c ∨ nextCluster g ncl = scl) :
    Visited scl ncl c ∨ c = nextCluster g ncl := by
  unfold Visited nextCluster at *
  split_ifs at * <;> omega

/-- What the loop may end with. -/
def ScanEnds (g : FatGeometry) (w : FatWindow) : ChainScan → Prop
  | .found ncl => 2 ≤ ncl ∧ ncl < g.nFatent ∧ w.entry g ncl = 0
  | .returns val =>
      (val = 0 ∧ ∀ c, 2 ≤ c → c < g.nFatent → w.entry g c ≠ 0) ∨ val = 0xFFFFFFFF ∨
        (val = 1 ∧ ∃ c, 2 ≤ c ∧ c < g.nFatent ∧ w.entry g c = 1)

/-- The same contents, the same free clusters. -/
theorem SameView.scanEnds {w' : FatWindow} (h : SameView g w w') {scan : ChainScan} (hends : ScanEnds g w' scan) :
    ScanEnds g w scan := by
  cases scan with
  | found ncl =>
      obtain ⟨hmin, hmax, hfree⟩ := hends
      exact ⟨hmin, hmax, (h.entry hmax).symm.trans hfree⟩
  | returns val =>
      obtain ⟨hval, hfull⟩ | hff | ⟨hval, c, hmin, hmax, hone⟩ := hends
      · exact Or.inl ⟨hval, fun c hmin hmax hfree => hfull c hmin hmax ((h.entry hmax).trans hfree)⟩
      · exact Or.inr (Or.inl hff)
      · exact Or.inr (Or.inr ⟨hval, c, hmin, hmax, (h.entry hmax).symm.trans hone⟩)

/-- **The loop of `create_chain`** finds a free cluster, or there is none. -/
theorem Ok.createChainLoop (h : w.Ok g) (scl : Fin g.nFatent) (ncl : ℕ) (hncl : 1 ≤ ncl)
    (hvisited : ∀ c, 2 ≤ c → c < g.nFatent → Visited scl ncl c → w.entry g c ≠ 0) :
    (createChainLoop g scl ncl w).2.Ok g ∧ SameView g w (createChainLoop g scl ncl w).2 ∧
      ScanEnds g w (createChainLoop g scl ncl w).1 := by
  have hrange : ∀ ncl, 1 ≤ ncl → 2 ≤ nextCluster g ncl ∧ nextCluster g ncl < g.nFatent := by
    intro ncl hncl
    have htwo := g.two_lt
    rw [nextCluster]
    split <;> omega
  -- none of the clusters visited so far is free, and the window shows the same contents in every turn
  induction ncl, w using createChainLoop.induct g scl with
  | case1 ncl w hend =>
      rw [RtuShuiwen.createChainLoop, if_pos hend]
      exact ⟨h, fun _ _ => rfl, Or.inl ⟨rfl, fun c hc hmax => hvisited c hc hmax (visited_of_end hncl hend hc hmax)⟩⟩
  | case2 ncl w hnot w' hget =>
      obtain ⟨hmin, hmax⟩ := hrange ncl hncl
      obtain ⟨hok, hview, hval⟩ := h.getFat hmin hmax
      rw [hget] at hok hview hval
      rw [RtuShuiwen.createChainLoop, if_neg hnot, hget]
      exact ⟨hok, hview, hmin, hmax, (hval.resolve_left (by decide : (0 : ℕ) ≠ 0xFFFFFFFF)).symm⟩
  | case3 ncl w hnot cs w' hget hne herr =>
      obtain ⟨hmin, hmax⟩ := hrange ncl hncl
      obtain ⟨hok, hview, hval⟩ := h.getFat hmin hmax
      rw [hget] at hok hview hval
      rw [RtuShuiwen.createChainLoop, if_neg hnot, hget]
      dsimp only
      rw [if_neg hne, if_pos herr]
      refine ⟨hok, hview, Or.inr (herr.imp_right fun hone => ⟨hone, _, hmin, hmax, ?_⟩)⟩
      obtain rfl := hone
      exact (hval.resolve_left (by decide : (1 : ℕ) ≠ 0xFFFFFFFF)).symm
  | case4 ncl w hnot cs w' hget hne herr hfull =>
      obtain ⟨hmin, hmax⟩ := hrange ncl hncl
      obtain ⟨hok, hview, hval⟩ := h.getFat hmin hmax
      rw [hget] at hok hview hval
      rw [RtuShuiwen.createChainLoop, if_neg hnot, hget]
      dsimp only
      rw [if_neg hne, if_neg herr, if_pos hfull]
      have hself : w.entry g (nextCluster g ncl) ≠ 0 := by
        rw [← hval.resolve_left fun hff => herr (Or.inl hff)]
        exact hne
      refine ⟨hok, hview, Or.inl ⟨rfl, fun c hc hcmax => ?_⟩⟩
      obtain hbefore | rfl := visited_next scl.isLt hnot hc hcmax (Or.inr hfull)
      · exact hvisited c hc hcmax hbefore
      · exact hself
  | case5 ncl w hnot cs w' hget hne herr hnext ih =>
      obtain ⟨hmin, hmax⟩ := hrange ncl hncl
      obtain ⟨hok, hview, hval⟩ := h.getFat hmin hmax
      rw [hget] at hok hview hval
      have hself : w.entry g (nextCluster g ncl) ≠ 0 := by
        rw [← hval.resolve_left fun hff => herr (Or.inl hff)]
        exact hne
      rw [RtuShuiwen.createChainLoop, if_neg hnot, hget]
      dsimp only
      rw [if_neg hne, if_neg herr, if_neg hnext]
      obtain ⟨hok', hview', hends⟩ := ih hok (by omega) fun c hc hcmax hc' => by
        rw [hview.entry hcmax]
        obtain hbefore | rfl := visited_next scl.isLt hnot hc hcmax (Or.inl hc')
        · exact hvisited c hc hcmax hbefore
        · exact hself
      exact ⟨hok', hview.trans hview', hview.scanEnds hends⟩

/-- The mark of the last cluster is no cluster. -/
theorem nFatent_le_mark (g : FatGeometry) : g.nFatent ≤ 0x0FFFFFFF % 2 ^ g.fsType.width.bits := by
  refine g.nFatent_le.trans ?_
  cases g.fsType <;> decide

/-- A cluster number fits into an entry. -/
theorem cluster_mod (g : FatGeometry) {c : ℕ} (hc : c < g.nFatent) :
    c < 2 ^ 28 ∧ c % 2 ^ g.fsType.width.bits = c := by
  have hreserved : g.fsType.reserved < 2 ^ g.fsType.width.bits := by cases g.fsType <;> decide
  exact ⟨hc.trans g.nFatent_lt, Nat.mod_eq_of_lt (hc.trans (g.nFatent_le.trans_lt hreserved))⟩

end FatWindow

/-! ## The chains of a volume -/

namespace FatFs

open FatWindow

variable {g : FatGeometry} {fs : FatFs} {chains rest : List (List ℕ)} {clst ncl : ℕ} {l m : List ℕ}

/-- The clusters of the volume in use are those of some chains. -/
structure Holds (g : FatGeometry) (fs : FatFs) (chains : List (List ℕ)) : Prop where
  ok : fs.toFatWindow.Ok g
  partition : Partition 2 g.nFatent (fs.entry g) chains

/-- The number of free clusters is right, if it is known. -/
def Counts (g : FatGeometry) (fs : FatFs) : Prop :=
  fs.freeClust ≠ 0xFFFFFFFF → fs.freeClust.toNat = freeCells 2 g.nFatent (fs.entry g)

/-- The window has moved. -/
theorem Holds.move (h : fs.Holds g chains) {w : FatWindow} (hok : w.Ok g) (hview : SameView g fs.toFatWindow w) :
    ({ fs with toFatWindow := w } : FatFs).Holds g chains :=
  ⟨hok, h.partition.congr fun _ hc => hview.entry hc⟩

/-- The count is as right as before. -/
theorem Counts.move (h : fs.Counts g) {w : FatWindow} (hview : SameView g fs.toFatWindow w) :
    ({ fs with toFatWindow := w } : FatFs).Counts g := by
  intro hknown
  rw [h hknown]
  refine (freeCells_congr fun c _ hc => ?_).symm
  change w.entry g c = 0 ↔ fs.entry g c = 0
  rw [hview.entry hc]

/-- What a call leaves that did not fail. -/
structure Leaves (g : FatGeometry) (fs fs' : FatFs) (chains : List (List ℕ)) : Prop where
  outside : SameOutside g fs.toFatWindow fs'.toFatWindow
  holds : fs'.Holds g chains
  counts : fs.Counts g → fs'.Counts g

/-- What a call leaves that the disk failed in: besides the chains there may be some that belong to nobody, and a
FAT of 12-bit entries may be anything. -/
structure Fails (g : FatGeometry) (fs fs' : FatFs) (chains : List (List ℕ)) : Prop where
  outside : SameOutside g fs.toFatWindow fs'.toFatWindow
  ok : fs'.toFatWindow.Ok g
  lost : g.fsType ≠ .fat12 → ∃ lost, fs'.Holds g (lost ++ chains)

/-- A call that the disk failed in, behind one that did not touch the chains. -/
theorem Fails.behind {fs' fs'' : FatFs} (h : Fails g fs' fs'' chains)
    (hout : SameOutside g fs.toFatWindow fs'.toFatWindow) : Fails g fs fs'' chains :=
  ⟨hout.trans h.outside, h.ok, h.lost⟩

/-- No cluster of the volume but those of the chains is in use. -/
theorem Holds.entry_ne_one (h : fs.Holds g chains) {c : ℕ} (hc : 2 ≤ c) (hmax : c < g.nFatent) :
    fs.entry g c ≠ 1 := by
  intro hone
  have hmem := h.partition.covers c hc hmax (by omega)
  have hused := (h.partition.used hmem).2.2
  omega

/-- The count of the free clusters after one was taken. -/
theorem Counts.countDown (h : fs.Counts g) {fs' : FatFs} (hcount : fs'.freeClust = fs.freeClust)
    (hfree : freeCells 2 g.nFatent (fs.entry g) = freeCells 2 g.nFatent (fs'.entry g) + 1) :
    fs'.countDown.Counts g := by
  intro hknown
  rw [FatFs.countDown] at hknown ⊢
  split at hknown
  · next hne =>
      rw [if_pos hne]
      rw [hcount] at hne
      have hold := h hne
      change (fs'.freeClust - 1).toNat = freeCells 2 g.nFatent (fs'.entry g)
      have hle : (1 : UInt32) ≤ fs'.freeClust := by
        rw [UInt32.le_iff_toNat_le, hcount, hold, hfree]
        exact Nat.le_add_left _ _
      rw [UInt32.toNat_sub_of_le _ _ hle, hcount, hold, hfree]
      rfl
  · next heq => exact absurd hknown heq

/-- The count after one was given back. -/
theorem Counts.countUp (h : fs.Counts g) {fs' : FatFs} (hcount : fs'.freeClust = fs.freeClust)
    (hfree : freeCells 2 g.nFatent (fs'.entry g) = freeCells 2 g.nFatent (fs.entry g) + 1) :
    fs'.countUp.Counts g := by
  intro hknown
  rw [FatFs.countUp] at hknown ⊢
  split at hknown
  · next hne =>
      rw [if_pos hne]
      rw [hcount] at hne
      have hold := h hne
      change (fs'.freeClust + 1).toNat = freeCells 2 g.nFatent (fs'.entry g)
      have hmax : freeCells 2 g.nFatent (fs.entry g) ≤ g.nFatent := by
        refine (Finset.card_filter_le _ _).trans ?_
        rw [Nat.card_Ico]
        exact Nat.sub_le _ _
      have hsmall := g.nFatent_lt
      rw [UInt32.toNat_add, hcount, hold, hfree]
      exact Nat.mod_eq_of_lt (by change freeCells 2 g.nFatent (fs.entry g) + 1 < 2 ^ 32; omega)
  · next heq => exact absurd hknown heq

/-- Neither touches the window. -/
@[simp] theorem countDown_toFatWindow (fs : FatFs) : fs.countDown.toFatWindow = fs.toFatWindow := by
  rw [FatFs.countDown]
  split <;> rfl

/-- Neither touches the window. -/
@[simp] theorem countUp_toFatWindow (fs : FatFs) : fs.countUp.toFatWindow = fs.toFatWindow := by
  rw [FatFs.countUp]
  split <;> rfl

/-- A cluster is taken, and counted. -/
theorem Leaves.countDown {fs' : FatFs} (hout : SameOutside g fs.toFatWindow fs'.toFatWindow)
    (hholds : fs'.Holds g chains) (hcount : fs'.freeClust = fs.freeClust)
    (hfree : freeCells 2 g.nFatent (fs.entry g) = freeCells 2 g.nFatent (fs'.entry g) + 1) :
    Leaves g fs fs'.countDown chains := by
  refine ⟨?_, ⟨?_, ?_⟩, fun hcounts => hcounts.countDown hcount hfree⟩
  · rw [countDown_toFatWindow]
    exact hout
  · rw [countDown_toFatWindow]
    exact hholds.ok
  · rw [countDown_toFatWindow]
    exact hholds.partition

/-- A cluster is given back, and counted. -/
theorem Leaves.countUp {fs' : FatFs} (hout : SameOutside g fs.toFatWindow fs'.toFatWindow)
    (hholds : fs'.Holds g chains) (hcount : fs'.freeClust = fs.freeClust)
    (hfree : freeCells 2 g.nFatent (fs'.entry g) = freeCells 2 g.nFatent (fs.entry g) + 1) :
    Leaves g fs fs'.countUp chains := by
  refine ⟨?_, ⟨?_, ?_⟩, fun hcounts => hcounts.countUp hcount hfree⟩
  · rw [countUp_toFatWindow]
    exact hout
  · rw [countUp_toFatWindow]
    exact hholds.ok
  · rw [countUp_toFatWindow]
    exact hholds.partition

/-- `put_fat` fails with an error of the disk, or it sets the entry; if it fails the entry of 16 or more bits is as
before. -/
theorem Holds.putFat (h : fs.Holds g chains) {c val : ℕ} (hmin : 2 ≤ c) (hmax : c < g.nFatent) (hval : val < 2 ^ 28)
    (chains' : List (List ℕ))
    (hset : ∀ w, SetsEntry g fs.toFatWindow w c → w.entry g c = val % 2 ^ g.fsType.width.bits →
      Partition 2 g.nFatent (w.entry g) chains') :
    ∃ w, (RtuShuiwen.putFat g c val fs.toFatWindow = (.ok, w) ∧ SetsEntry g fs.toFatWindow w c ∧
        w.entry g c = val % 2 ^ g.fsType.width.bits ∧ ({ fs with toFatWindow := w } : FatFs).Holds g chains') ∨
      (RtuShuiwen.putFat g c val fs.toFatWindow = (.diskErr, w) ∧ Fails g fs { fs with toFatWindow := w } chains) := by
  obtain ⟨hsets, ⟨hres, hself⟩ | ⟨hres, hentry⟩⟩ := h.ok.putFat_entry hmin hmax hval
  · exact ⟨_, Or.inl ⟨Prod.ext hres rfl, hsets, hself, hsets.ok, hset _ hsets hself⟩⟩
  · refine ⟨_, Or.inr ⟨Prod.ext hres rfl, hsets.outside, hsets.ok, fun htype => ⟨[], hsets.ok, ?_⟩⟩⟩
    refine h.partition.congr fun b hb => ?_
    by_cases hbc : b = c
    · rw [hbc]
      exact hentry.resolve_left htype
    · exact hsets.others b hb hbc

/-! ## Creating and stretching -/

/-- How the chains grow by the cluster `ncl`: a new chain, or one that gets longer behind its last cluster. -/
inductive Grows (ncl : ℕ) : (clst : ℕ) → (before after : List (List ℕ)) → Prop
  | new (chains : List (List ℕ)) : Grows ncl 0 chains ([ncl] :: chains)
  | behind (l : List ℕ) {clst : ℕ} (hne : clst ≠ 0) (rest : List (List ℕ)) :
      Grows ncl clst ((l ++ [clst]) :: rest) ((l ++ [clst, ncl]) :: rest)

/-- A window behind two calls. -/
theorem Fails.after {w : FatWindow} {fs' : FatFs} {mine : List ℕ}
    (h : Fails g { fs with toFatWindow := w } fs' (mine :: chains)) (hout : SameOutside g fs.toFatWindow w) :
    Fails g fs fs' chains := by
  refine ⟨hout.trans h.outside, h.ok, fun htype => ?_⟩
  obtain ⟨lost, hlost⟩ := h.lost htype
  exact ⟨lost ++ [mine], by rwa [List.append_assoc]⟩

/-- **A free cluster is marked and linked**, or the disk fails. -/
theorem Holds.linkCluster (h : fs.Holds g chains) (hmin : 2 ≤ ncl) (hmax : ncl < g.nFatent)
    (hfree : fs.entry g ncl = 0) {after : List (List ℕ)} (hgrows : Grows ncl clst chains after) :
    ∃ w, (RtuShuiwen.linkCluster g clst ncl fs.toFatWindow = (.ok, w) ∧
        Leaves g fs ({ fs with toFatWindow := w, lastClust := UInt32.ofNat ncl } : FatFs).countDown after) ∨
      (RtuShuiwen.linkCluster g clst ncl fs.toFatWindow = (.diskErr, w) ∧
        Fails g fs { fs with toFatWindow := w } chains) := by
  have hmark := nFatent_le_mark g
  -- the mark comes first: until the link is written the cluster is a chain of its own, and stays one if that fails
  obtain ⟨w, ⟨hput, hsets, hself, hholds⟩ | ⟨hput, hfails⟩⟩ :=
    h.putFat hmin hmax (by decide : 0x0FFFFFFF < 2 ^ 28) ([ncl] :: chains)
      fun w hsets hself => h.partition.alloc (by decide) hmin hmax hfree (hself ▸ hmark) hsets.others
  · have hused : w.entry g ncl ≠ 0 := by omega
    have hcount := freeCells_use hmin hmax hfree hused hsets.others
    rw [RtuShuiwen.linkCluster, hput]
    cases hgrows with
    | new =>
        have hleaves : Leaves g fs ({ fs with toFatWindow := w, lastClust := UInt32.ofNat ncl } : FatFs).countDown
            ([ncl] :: chains) := .countDown hsets.outside ⟨hsets.ok, hholds.partition⟩ rfl hcount
        exact ⟨w, Or.inl ⟨rfl, hleaves⟩⟩
    | behind l hne rest =>
        have hclst := h.partition.used (c := clst) (by simp)
        obtain ⟨hsmall, hmod⟩ := cluster_mod g hmax
        have hclstne : clst ≠ ncl := by
          rintro rfl
          omega
        obtain ⟨w', ⟨hput', hsets', hself', hholds'⟩ | ⟨hput', hfails⟩⟩ :=
          hholds.putFat hclst.1 hclst.2.1 hsmall ((l ++ [clst, ncl]) :: rest)
            fun w' hsets' hself' =>
              (hholds.partition.perm (List.Perm.swap _ _ _)).link (hself'.trans hmod) hsets'.others
        · -- the link takes no further cluster
          have hcount' : freeCells 2 g.nFatent (w'.entry g) = freeCells 2 g.nFatent (w.entry g) := by
            refine freeCells_congr fun b hb hbmax => ?_
            by_cases hbc : b = clst
            · rw [hbc, hself', hmod]
              have hold : w.entry g clst = fs.entry g clst := hsets.others clst hclst.2.1 hclstne
              omega
            · exact iff_of_eq (congrArg (· = 0) (hsets'.others b hbmax hbc))
          have hleaves : Leaves g fs ({ fs with toFatWindow := w', lastClust := UInt32.ofNat ncl } : FatFs).countDown
              ((l ++ [clst, ncl]) :: rest) :=
            .countDown (hsets.outside.trans hsets'.outside) ⟨hsets'.ok, hholds'.partition⟩ rfl
              (hcount.trans (congrArg (· + 1) hcount'.symm))
          exact ⟨w', Or.inl ⟨by simpa [hne] using hput', hleaves⟩⟩
        · exact ⟨w', Or.inr ⟨by simpa [hne] using hput', hfails.after hsets.outside⟩⟩
  · rw [RtuShuiwen.linkCluster, hput]
    exact ⟨w, Or.inr ⟨rfl, hfails⟩⟩

/-- What `create_chain` does: it takes a free cluster and the chains grow, or there is none, or the disk fails. -/
inductive Creates (g : FatGeometry) (fs fs' : FatFs) (clst : ℕ) (chains : List (List ℕ)) : (val : ℕ) → Prop
  | grown {ncl : ℕ} {after : List (List ℕ)} (hmin : 2 ≤ ncl) (hmax : ncl < g.nFatent)
      (hnew : ncl ∉ chains.flatten) (hgrows : Grows ncl clst chains after) (hleaves : Leaves g fs fs' after) :
      Creates g fs fs' clst chains ncl
  | full (hfull : ∀ c, 2 ≤ c → c < g.nFatent → c ∈ chains.flatten) (hleaves : Leaves g fs fs' chains) :
      Creates g fs fs' clst chains 0
  | failed (hfails : Fails g fs fs' chains) : Creates g fs fs' clst chains 0xFFFFFFFF

/-- The window has moved, nothing else. -/
theorem Holds.leaves (h : fs.Holds g chains) {w : FatWindow} (hok : w.Ok g) (hview : SameView g fs.toFatWindow w) :
    Leaves g fs { fs with toFatWindow := w } chains :=
  ⟨hview.outside, h.move hok hview, fun hcounts => hcounts.move hview⟩

/-- A call that fails before it writes. -/
theorem Holds.fails (h : fs.Holds g chains) {w : FatWindow} (hok : w.Ok g) (hview : SameView g fs.toFatWindow w) :
    Fails g fs { fs with toFatWindow := w } chains :=
  ⟨hview.outside, hok, fun _ => ⟨[], h.move hok hview⟩⟩

/-- What is left behind two calls the first of which changes nothing. -/
theorem Leaves.after {w : FatWindow} {fs' : FatFs} (h : Leaves g { fs with toFatWindow := w } fs' chains)
    (hview : SameView g fs.toFatWindow w) : Leaves g fs fs' chains :=
  ⟨hview.outside.trans h.outside, h.holds, fun hcounts => h.counts (hcounts.move hview)⟩

/-- A cluster created behind a call that changes nothing. -/
theorem Creates.after {w : FatWindow} {fs' : FatFs} {val : ℕ}
    (h : Creates g { fs with toFatWindow := w } fs' clst chains val) (hview : SameView g fs.toFatWindow w) :
    Creates g fs fs' clst chains val := by
  cases h with
  | grown hmin hmax hnew hgrows hgrown => exact .grown hmin hmax hnew hgrows (hgrown.after hview)
  | full hfull hgrown => exact .full hfull (hgrown.after hview)
  | failed hfails => exact .failed (hfails.behind hview.outside)

/-- The search and what follows it. -/
theorem Holds.createChainFrom (h : fs.Holds g chains) (clst : ℕ) (scl : Fin g.nFatent) (hscl : 1 ≤ scl.val)
    (hgrows : ∀ ncl, ∃ after, Grows ncl clst chains after) :
    Creates g fs (RtuShuiwen.createChainFrom g clst scl fs).2 clst chains
      (RtuShuiwen.createChainFrom g clst scl fs).1 := by
  obtain ⟨hok, hview, hends⟩ := h.ok.createChainLoop scl scl hscl fun c hc _ hvisited => by
    rw [Visited, if_pos le_rfl] at hvisited
    omega
  rw [RtuShuiwen.createChainFrom]
  split
  · next val w hloop =>
      rw [hloop] at hok hview hends
      have hleaves := h.leaves hok hview
      obtain ⟨rfl, hfull⟩ | rfl | ⟨-, c, hmin, hmax, hone⟩ := hends
      · exact .full (fun c hmin hmax => h.partition.covers c hmin hmax (hfull c hmin hmax)) hleaves
      · exact .failed (h.fails hok hview)
      · exact absurd hone (h.entry_ne_one hmin hmax)
  · next ncl w hloop =>
      rw [hloop] at hok hview hends
      obtain ⟨hmin, hmax, hfree⟩ := hends
      obtain ⟨after, hafter⟩ := hgrows ncl
      have hleaves := h.leaves hok hview
      have hnew : ncl ∉ chains.flatten := by
        intro hmem
        have hused := (h.partition.used hmem).2.2
        omega
      rw [createChainLink]
      obtain ⟨w', ⟨hlink, hgrown⟩ | ⟨hlink, hfails⟩⟩ := hleaves.holds.linkCluster hmin hmax
        ((hview.entry hmax).trans hfree) hafter
      · rw [hlink]
        exact .grown hmin hmax hnew hafter (hgrown.after hview)
      · rw [hlink]
        exact .failed (hfails.behind hview.outside)

/-- **`create_chain` for a new chain.** -/
theorem Holds.createChain_new (h : fs.Holds g chains) :
    Creates g fs (createChain g 0 fs).2 0 chains (createChain g 0 fs).1 := by
  rw [createChain, if_pos rfl]
  refine h.createChainFrom 0 _ ?_ fun ncl => ⟨_, .new chains⟩
  rw [suggestedStart]
  split
  · exact le_rfl
  · next hstart => exact Nat.one_le_iff_ne_zero.mpr fun hzero => hstart (Or.inl hzero)

/-- **`create_chain` behind the last cluster** of a chain. -/
theorem Holds.createChain_last (h : fs.Holds g ((l ++ [clst]) :: rest)) :
    Creates g fs (createChain g clst fs).2 clst ((l ++ [clst]) :: rest) (createChain g clst fs).1 := by
  have hclst := h.partition.used (c := clst) (by simp)
  have hlast : g.nFatent ≤ fs.entry g clst := (h.partition.chain _ List.mem_cons_self).last
  obtain ⟨hok, hview, hval⟩ := h.ok.getFat hclst.1 hclst.2.1
  have htwo := g.two_lt
  rw [createChain, if_neg (by omega)]
  dsimp only
  generalize hget : getFat g clst fs.toFatWindow = got at hok hview hval
  obtain ⟨cs, w⟩ := got
  have hcs : cs = 0xFFFFFFFF ∨ g.nFatent ≤ cs := hval.imp_right fun heq => hlast.trans_eq heq.symm
  have hsmall := g.nFatent_lt
  dsimp only
  rw [if_neg (by omega)]
  split
  · next herr =>
      rw [herr]
      exact .failed (h.fails hok hview)
  · next hne =>
      rw [if_neg (by omega), dif_pos hclst.2.1]
      have hleaves := h.leaves hok hview
      have hone : 1 ≤ clst := by omega
      have hcreates := hleaves.holds.createChainFrom clst ⟨clst, hclst.2.1⟩ hone
        fun ncl => ⟨_, .behind l (by omega) rest⟩
      exact hcreates.after hview

/-- **`create_chain` inside a chain** follows it. -/
theorem Holds.createChain_inside {c : ℕ} (h : fs.Holds g ((l ++ clst :: c :: m) :: rest)) :
    ((createChain g clst fs).1 = c ∧ Leaves g fs (createChain g clst fs).2 ((l ++ clst :: c :: m) :: rest)) ∨
      ((createChain g clst fs).1 = 0xFFFFFFFF ∧
        Fails g fs (createChain g clst fs).2 ((l ++ clst :: c :: m) :: rest)) := by
  have hclst := h.partition.used (c := clst) (by simp)
  have hc := h.partition.used (c := c) (by simp)
  have hnext : fs.entry g clst = c := (h.partition.chain _ List.mem_cons_self).next
  obtain ⟨hok, hview, hval⟩ := h.ok.getFat hclst.1 hclst.2.1
  rw [createChain, if_neg (by omega)]
  dsimp only
  generalize hget : getFat g clst fs.toFatWindow = got at hok hview hval
  obtain ⟨cs, w⟩ := got
  obtain rfl | rfl := hval
  · exact Or.inr ⟨rfl, h.fails hok hview⟩
  · have hsmall := g.nFatent_lt
    dsimp only
    rw [hnext, if_neg (by omega), if_neg (by omega), if_pos hc.2.1]
    exact Or.inl ⟨rfl, h.leaves hok hview⟩

/-! ## Removing -/

/-- The cluster at the head of a chain is given back, or the disk fails. -/
theorem Holds.freeHead {c : ℕ} (h : fs.Holds g ((c :: l) :: rest)) :
    ∃ w, (RtuShuiwen.putFat g c 0 fs.toFatWindow = (.ok, w) ∧
        Leaves g fs ({ fs with toFatWindow := w } : FatFs).countUp (if l = [] then rest else l :: rest)) ∨
      (RtuShuiwen.putFat g c 0 fs.toFatWindow = (.diskErr, w) ∧
        Fails g fs { fs with toFatWindow := w } ((c :: l) :: rest)) := by
  have hc := h.partition.used (c := c) (by simp)
  have hzero : 0 % 2 ^ g.fsType.width.bits = 0 := Nat.zero_mod _
  obtain ⟨w, ⟨hput, hsets, hself, hholds⟩ | ⟨hput, hfails⟩⟩ :=
    h.putFat hc.1 hc.2.1 (by decide : 0 < 2 ^ 28) (if l = [] then rest else l :: rest)
      fun w hsets hself => h.partition.freeHead (hself.trans hzero) hsets.others
  · have hused : fs.entry g c ≠ 0 := by omega
    have hcount := @freeCells_use _ _ (w.entry g) _ _ hc.1 hc.2.1 (hself.trans hzero) hused
      fun b hb hbc => (hsets.others b hb hbc).symm
    exact ⟨w, Or.inl ⟨hput, .countUp hsets.outside hholds rfl hcount⟩⟩
  · exact ⟨w, Or.inr ⟨hput, hfails⟩⟩

/-- The entry of the first cluster leads to the rest of its chain. -/
theorem Holds.follows {c : ℕ} (h : fs.Holds g ((c :: l) :: rest)) :
    (l = [] → g.nFatent ≤ fs.entry g c) ∧ ∀ b ∈ l.head?, b = fs.entry g c := by
  have hchain := h.partition.chain _ List.mem_cons_self
  cases l with
  | nil => exact ⟨fun _ => IsChain.last (l := []) hchain, nofun⟩
  | cons b l =>
      refine ⟨nofun, fun b' hb' => ?_⟩
      obtain rfl := Option.some.inj hb'
      exact (IsChain.next (l := []) hchain).symm

/-- One call after another. -/
theorem Leaves.trans {fs' fs'' : FatFs} {chains' : List (List ℕ)} (h : Leaves g fs fs' chains)
    (h' : Leaves g fs' fs'' chains') : Leaves g fs fs'' chains' :=
  ⟨h.outside.trans h'.outside, h'.holds, fun hcounts => h'.counts (h.counts hcounts)⟩

/-- **The loop of `remove_chain`** comes to the end of the chain: all its clusters are free, or the disk failed. -/
theorem Holds.removeChainLoop : ∀ (l : List ℕ) (clst fuel : ℕ) {fs : FatFs}, l.length < fuel →
    (l = [] → g.nFatent ≤ clst) → (∀ c ∈ l.head?, c = clst) → fs.Holds g (if l = [] then rest else l :: rest) →
    ∃ res fs', RtuShuiwen.removeChainLoop g fuel clst fs = some (res, fs') ∧
      ((res = .ok ∧ Leaves g fs fs' rest) ∨ (res = .diskErr ∧ Fails g fs fs' rest))
  | [], clst, fuel + 1, fs, _, hend, _, h => by
      rw [RtuShuiwen.removeChainLoop, if_pos (hend rfl)]
      exact ⟨_, _, rfl, Or.inl ⟨rfl, fun _ _ _ => rfl, h, id⟩⟩
  | c :: l, clst, fuel + 1, fs, hfuel, _, hhead, h => by
      obtain rfl := hhead c rfl
      have h : fs.Holds g ((c :: l) :: rest) := h
      have hc := h.partition.used (c := c) (by simp)
      obtain ⟨hok, hview, hval⟩ := h.ok.getFat hc.1 hc.2.1
      rw [RtuShuiwen.removeChainLoop, if_neg (by omega)]
      generalize hget : getFat g c fs.toFatWindow = got at hok hview hval
      obtain ⟨nxt, w⟩ := got
      obtain rfl | rfl := hval
      · refine ⟨_, _, rfl, Or.inr ⟨rfl, hview.outside, hok, fun _ => ⟨[c :: l], h.move hok hview⟩⟩⟩
      · have hlt := entry_lt g fs.toFatWindow c
        have hleaves := h.leaves hok hview
        dsimp only
        -- the entry of a cluster in use is neither 0 nor 1, and no entry is 0xFFFFFFFF
        rw [if_neg (by omega), if_neg (by omega), if_neg (by omega)]
        obtain ⟨w', ⟨hput, hfreed⟩ | ⟨hput, hfails⟩⟩ := hleaves.holds.freeHead
        · rw [hput]
          have hfreed := hleaves.trans hfreed
          obtain ⟨res, fs', hloop, hres⟩ := Holds.removeChainLoop l (fs.entry g c) fuel (Nat.lt_of_succ_lt_succ hfuel)
            h.follows.1 h.follows.2 hfreed.holds
          refine ⟨res, fs', hloop, hres.imp (fun hok => ⟨hok.1, hfreed.trans hok.2⟩) fun herr => ⟨herr.1, ?_⟩⟩
          exact herr.2.behind hfreed.outside
        · rw [hput]
          have hfails : Fails g fs { fs with toFatWindow := w' } ((c :: l) :: rest) := hfails.behind hview.outside
          exact ⟨_, _, rfl, Or.inr ⟨rfl, Fails.after hfails fun _ _ _ => rfl⟩⟩

/-- **`remove_chain`** comes to an end, and all clusters of the chain are free unless the disk failed. -/
theorem Holds.removeChain (h : fs.Holds g ((clst :: l) :: rest)) :
    ∃ res fs', RtuShuiwen.removeChain g clst fs = some (res, fs') ∧
      ((res = .ok ∧ Leaves g fs fs' rest) ∨ (res = .diskErr ∧ Fails g fs fs' rest)) := by
  have hclst := h.partition.used (c := clst) (by simp)
  rw [RtuShuiwen.removeChain, if_neg (by omega)]
  refine Holds.removeChainLoop (clst :: l) clst g.nFatent ?_ nofun (fun c hc => (Option.some.inj hc).symm) h
  -- the clusters of a chain are different numbers between 2 and the end of the FAT
  have hnodup : (clst :: l).Nodup := by
    have hall := h.partition.nodup
    rw [List.flatten_cons] at hall
    exact (List.nodup_append.mp hall).1
  have hsub : (clst :: l).toFinset ⊆ Finset.Ico 2 g.nFatent := by
    intro c hc
    have hcell := (h.partition.chain _ List.mem_cons_self).cells c (List.mem_toFinset.mp hc)
    exact Finset.mem_Ico.mpr ⟨hcell.1, hcell.2.1⟩
  have hcard := Finset.card_le_card hsub
  rw [List.toFinset_card_of_nodup hnodup, Nat.card_Ico] at hcard
  have htwo := g.two_lt
  omega

end FatFs

end RtuShuiwen
