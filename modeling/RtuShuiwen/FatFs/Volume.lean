import RtuShuiwen.FatFs.Chains
import RtuShuiwen.Library.TransitionSystem

/-! # A volume in use

The calls that change the FAT follow one another in any order, with the writes of directory entries and of the data
of files between them, and any access to the card may fail. `chains_sound` says what then is true of the chains of
the files at every time: no cluster is ever in two of them. For the sectors this means that no write to one file
changes another one (`Sound.sectors_apart`, `Sound.data_other`). -/

namespace RtuShuiwen

open CellMemory ChainTable TransitionSystem FatWindow

/-! ## The runs -/

/-- A `FATFS` whose next accesses to the card meet with these faults. -/
def FatFs.withFaults (fs : FatFs) (faults : List (Option (CellMemory UInt8))) : FatFs :=
  { fs with drive := { fs.drive with faults := faults } }

/-- A volume, with the chains that were created and not removed, what was written outside the FAT, whether a call
has failed, and whether one has not returned. -/
structure FatVolume where
  fs : FatFs
  files : List (List ℕ)
  stored : CellMemory UInt8
  failed : Bool
  stuck : Bool

/-- What happens on a volume. -/
inductive FatCall
  /-- `create_chain` for a file or directory that has no cluster. -/
  | create
  /-- `create_chain` behind a cluster of a file. -/
  | stretch (clst : ℕ)
  /-- `remove_chain` of a whole file. -/
  | remove (clst : ℕ)
  /-- `f_open` suggests where to look for a free cluster. -/
  | suggest (lastClust : UInt32)
  /-- Bytes of a directory are set through the window. -/
  | directory (sector i : ℕ) (bs : List UInt8)
  /-- Sectors of a file are written past the window, which is elsewhere. -/
  | data (sector : ℕ) (bs : List UInt8)

namespace FatVolume

/-- The chains when the cluster `val` was hung behind `clst`. -/
def stretched (files : List (List ℕ)) (clst val : ℕ) : List (List ℕ) :=
  files.map fun l => if l.getLast? = some clst then l ++ [val] else l

/-- Whether `create_chain` has returned an error. -/
def isError (val : ℕ) : Bool := val = 1 || val = 0xFFFFFFFF

/-- One call, with the faults of the card that it meets. -/
def step (g : FatGeometry) (v : FatVolume) : List (Option (CellMemory UInt8)) × FatCall → Option FatVolume
  | (faults, .create) =>
      match createChain g 0 (v.fs.withFaults faults) with
      | (val, fs) =>
          some { v with
            fs := fs
            files := if isError val ∨ val = 0 then v.files else [val] :: v.files
            failed := v.failed || isError val }
  | (faults, .stretch clst) =>
      if clst ∈ v.files.flatten then
        match createChain g clst (v.fs.withFaults faults) with
        | (val, fs) =>
            some { v with
              fs := fs
              files := if isError val ∨ val = 0 then v.files else stretched v.files clst val
              failed := v.failed || isError val }
      else none
  | (faults, .remove clst) =>
      if ∃ l ∈ v.files, l.head? = some clst then
        match removeChain g clst (v.fs.withFaults faults) with
        | none => some { v with stuck := true }
        | some (res, fs) =>
            some { v with
              fs := fs
              files := v.files.filter fun l => l.head? ≠ some clst
              failed := v.failed || res ≠ .ok }
      else none
  | (_, .suggest lastClust) => some { v with fs := { v.fs with lastClust := lastClust } }
  | (faults, .directory sector i bs) =>
      -- a sector of a directory, that is none of the FAT
      if (sector < g.fatbase ∨ g.fatbase + g.nFats * g.fsize ≤ sector) ∧ sector < 0xFFFFFFFF ∧
          i + bs.length ≤ 512 then
        match moveWindow g sector (v.fs.withFaults faults).toFatWindow with
        | (.ok, w) =>
            some { v with
              fs := { v.fs with toFatWindow := w.set i bs }
              stored := patch v.stored (sector * 512 + i) bs }
        | (_, w) => some { v with fs := { v.fs with toFatWindow := w }, failed := true }
      else none
  | (faults, .data sector bs) =>
      -- sectors of the data, none of which is in the window
      if g.database ≤ sector ∧ (v.fs.winsect < sector ∨ sector * 512 + bs.length ≤ v.fs.winsect * 512) then
        match (v.fs.withFaults faults).drive.write bs sector with
        | (ok, drive) =>
            some { v with
              fs := { v.fs with drive := drive }
              stored := patch v.stored (sector * 512) (slice drive.image (sector * 512) bs.length)
              failed := v.failed || !ok }
      else none

/-- What is true of a volume: the clusters in use are those of the files, and after a call has failed of some chains
that belong to nobody. -/
structure Sound (g : FatGeometry) (v : FatVolume) (lost : List (List ℕ)) : Prop where
  holds : v.fs.Holds g (lost ++ v.files)
  whole : v.failed = false → lost = [] ∧ v.fs.Counts g
  outside : ∀ x, g.Visible x → (x < g.fatbase * 512 ∨ (g.fatbase + g.fsize) * 512 ≤ x) →
    v.fs.view x = v.stored x
  returned : v.stuck = false

/-! ## One call -/

variable {g : FatGeometry} {v : FatVolume} {fs fs' : FatFs} {chains chains' files files' lost : List (List ℕ)}
  {clst val : ℕ}

/-- How a call ends. -/
inductive Outcome (g : FatGeometry) (fs fs' : FatFs) (chains : List (List ℕ)) : (err : Bool) → Prop
  | done (h : FatFs.Leaves g fs fs' chains) : Outcome g fs fs' chains false
  | failed (h : FatFs.Fails g fs fs' chains) : Outcome g fs fs' chains true

/-- The order of the chains does not matter. -/
theorem Outcome.perm {err : Bool} (h : Outcome g fs fs' chains err) (hperm : chains.Perm chains') :
    Outcome g fs fs' chains' err := by
  cases h with
  | done h => exact .done ⟨h.outside, ⟨h.holds.ok, h.holds.partition.perm hperm⟩, h.counts⟩
  | failed h =>
      refine .failed ⟨h.outside, h.ok, fun htype => ?_⟩
      obtain ⟨lost, hlost⟩ := h.lost htype
      exact ⟨lost, hlost.ok, hlost.partition.perm (hperm.append_left lost)⟩

/-- The faults to come change nothing. -/
theorem holds_withFaults (h : fs.Holds g chains) (faults : List (Option (CellMemory UInt8))) :
    (fs.withFaults faults).Holds g chains := ⟨⟨h.ok.clean, h.ok.dirty, h.ok.sector⟩, h.partition⟩

/-- **A call keeps a volume sound** when it ends with the chains `files'`, whatever chains are lost before. -/
theorem Sound.call (h : v.Sound g lost) (faults : List (Option (CellMemory UInt8))) {err : Bool}
    (hcall : (v.fs.withFaults faults).Holds g (lost ++ v.files) →
      Outcome g (v.fs.withFaults faults) fs' (lost ++ files') err)
    (hfat : g.fsType = .fat12 → (v.failed || err) = false) :
    ∃ lost', Sound g { v with fs := fs', files := files', failed := v.failed || err } lost' := by
  cases hcall (holds_withFaults h.holds faults) with
  | done hdone =>
      refine ⟨lost, hdone.holds, fun hok => ?_, fun x hx hout => ?_, h.returned⟩
      · obtain ⟨hlost, hcounts⟩ := h.whole (by simpa using hok)
        exact ⟨hlost, hdone.counts hcounts⟩
      · exact (hdone.outside x hx hout).trans (h.outside x hx hout)
  | failed hfails =>
      obtain ⟨lost', hlost⟩ := hfails.lost fun htype => by simpa using hfat htype
      refine ⟨lost' ++ lost, ?_, fun hok => ?_, fun x hx hout => ?_, h.returned⟩
      · rwa [List.append_assoc]
      · simp at hok
      · exact (hfails.outside x hx hout).trans (h.outside x hx hout)

/-- A cluster number is no error. -/
theorem isError_cluster (hmin : 2 ≤ val) (hmax : val < g.nFatent) : isError val = false := by
  have hsmall := g.nFatent_lt
  have h1 : val ≠ 1 := by omega
  have hff : val ≠ 0xFFFFFFFF := by omega
  simp [isError, h1, hff]

/-- The chains behind `create_chain`, by what it returns. -/
theorem Outcome.of_creates (h : FatFs.Creates g fs fs' clst chains val) (hperm : chains.Perm (lost ++ files))
    (hgrown : ∀ after, 2 ≤ val → FatFs.Grows val clst chains after → after.Perm (lost ++ files')) :
    Outcome g fs fs' (lost ++ if isError val ∨ val = 0 then files else files') (isError val) := by
  cases h with
  | grown hmin hmax _ hgrows hleaves =>
      have hcluster := isError_cluster hmin hmax
      rw [hcluster, if_neg (by simp; omega)]
      exact (Outcome.done hleaves).perm (hgrown _ hmin hgrows)
  | full _ hleaves =>
      rw [if_pos (Or.inr rfl)]
      exact (Outcome.done hleaves).perm hperm
  | failed hfails =>
      rw [if_pos (Or.inl (by decide))]
      exact (Outcome.failed hfails).perm hperm

/-- A chain that got longer did so at its end. -/
theorem after_of_grows {l : List ℕ} {rest after : List (List ℕ)} (hne : clst ≠ 0)
    (h : FatFs.Grows val clst ((l ++ [clst]) :: rest) after) : after = (l ++ [clst, val]) :: rest := by
  generalize hbefore : (l ++ [clst]) :: rest = before at h
  cases h with
  | new => exact absurd rfl hne
  | behind l' _ rest' =>
      obtain ⟨hlast, rfl⟩ := List.cons.inj hbefore
      rw [List.append_cancel_right hlast]

/-- With no cluster to go behind there is a chain more. -/
theorem after_of_new {after : List (List ℕ)} (h : FatFs.Grows val 0 chains after) : after = [val] :: chains := by
  generalize hclst : 0 = clst at h
  cases h with
  | new => rfl
  | behind _ hne _ => exact absurd hclst.symm hne

/-- Only a chain that ends with the cluster gets longer. -/
theorem stretched_of_getLast? (val : ℕ) (h : ∀ k ∈ files, k.getLast? ≠ some clst) : stretched files clst val = files :=
  (List.map_congr_left fun k hk => if_neg (h k hk)).trans (List.map_id _)

/-- The chains behind `create_chain` for a cluster of one of them. -/
theorem Outcome.of_stretch (h : fs.Holds g (lost ++ files)) (hmem : clst ∈ files.flatten) :
    Outcome g fs (createChain g clst fs).2
      (lost ++ if isError (createChain g clst fs).1 ∨ (createChain g clst fs).1 = 0 then files
        else stretched files clst (createChain g clst fs).1)
      (isError (createChain g clst fs).1) := by
  obtain ⟨k, hk, hclst⟩ := List.mem_flatten.mp hmem
  have hnodup := h.partition.nodup
  rw [List.flatten_append] at hnodup
  obtain ⟨rest, hperm, hrest⟩ := exists_perm_cons (List.nodup_append.mp hnodup).2.1 hk
  have hlast : ∀ k' ∈ rest, k'.getLast? ≠ some clst :=
    fun k' hk' hend => hrest k' hk' clst hclst (List.mem_of_getLast? hend)
  have hbefore : (lost ++ files).Perm (k :: (lost ++ rest)) := (hperm.append_left lost).trans List.perm_middle
  have hne : clst ≠ 0 := by
    have hused := (h.partition.used (List.mem_flatten.mpr ⟨k, List.mem_append_right _ hk, hclst⟩)).1
    omega
  -- a cluster at the end of its chain gets a successor, one inside has it already
  obtain ⟨l, m, rfl⟩ := List.append_of_mem hclst
  have hfilesnodup := hperm.flatten.nodup_iff.mp (List.nodup_append.mp hnodup).2.1
  cases m with
  | nil =>
      have h' : fs.Holds g ((l ++ [clst]) :: (lost ++ rest)) := ⟨h.ok, h.partition.perm hbefore⟩
      refine Outcome.of_creates h'.createChain_last hbefore.symm fun after _ hgrows => ?_
      rw [after_of_grows hne hgrows]
      have hself : stretched ((l ++ [clst]) :: rest) clst (createChain g clst fs).1 =
          (l ++ [clst, (createChain g clst fs).1]) :: rest := by
        have hrest := stretched_of_getLast? (createChain g clst fs).1 hlast
        rw [stretched] at hrest
        rw [stretched, List.map_cons, hrest, if_pos (by simp), List.append_assoc]
        rfl
      have hstretched : (stretched files clst (createChain g clst fs).1).Perm
          ((l ++ [clst, (createChain g clst fs).1]) :: rest) := hself ▸ hperm.map _
      exact (List.perm_middle.symm.trans (hstretched.symm.append_left lost))
  | cons c m =>
      have h' : fs.Holds g ((l ++ clst :: c :: m) :: (lost ++ rest)) := ⟨h.ok, h.partition.perm hbefore⟩
      have hself : (l ++ clst :: c :: m).getLast? ≠ some clst := by
        intro hend
        rw [List.flatten_cons] at hfilesnodup
        have hbehind := (List.nodup_append.mp (List.nodup_append.mp hfilesnodup).1).2.1
        rw [List.getLast?_append, List.getLast?_cons_cons, List.getLast?_cons, Option.some_or] at hend
        exact (List.nodup_cons.mp hbehind).1 (List.mem_of_getLast? (by rw [List.getLast?_cons]; exact hend))
      have hsame : stretched files clst (createChain g clst fs).1 = files := by
        refine stretched_of_getLast? _ fun k' hk' => ?_
        obtain rfl | hk' := List.mem_cons.mp (hperm.mem_iff.mp hk')
        · exact hself
        · exact hlast k' hk'
      rw [hsame, ite_self]
      obtain ⟨hval, hleaves⟩ | ⟨hval, hfails⟩ := h'.createChain_inside
      · have hc := h'.partition.used (c := c) (by simp)
        rw [hval, isError_cluster hc.1 hc.2.1]
        exact (Outcome.done hleaves).perm hbefore.symm
      · rw [hval]
        exact (Outcome.failed hfails).perm hbefore.symm

/-- The chains behind `remove_chain` for one of them. -/
theorem Outcome.of_remove (h : fs.Holds g (lost ++ files)) (hmem : ∃ l ∈ files, l.head? = some clst) :
    ∃ res fs', removeChain g clst fs = some (res, fs') ∧
      Outcome g fs fs' (lost ++ files.filter fun l => l.head? ≠ some clst) (res ≠ .ok) := by
  obtain ⟨k, hk, hhead⟩ := hmem
  have hnodup := h.partition.nodup
  rw [List.flatten_append] at hnodup
  obtain ⟨rest, hperm, hrest⟩ := exists_perm_cons (List.nodup_append.mp hnodup).2.1 hk
  have hbefore : (lost ++ files).Perm (k :: (lost ++ rest)) := (hperm.append_left lost).trans List.perm_middle
  -- no other chain begins with the cluster
  have hkept : rest.filter (fun l => l.head? ≠ some clst) = rest := by
    refine List.filter_eq_self.mpr fun k' hk' => decide_eq_true fun hhead' => ?_
    exact hrest k' hk' clst (List.mem_of_mem_head? hhead) (List.mem_of_mem_head? hhead')
  have hafter : (files.filter fun l => l.head? ≠ some clst).Perm rest := by
    have hfilter := hperm.filter fun l => l.head? ≠ some clst
    rwa [List.filter_cons_of_neg (by simp [hhead]), hkept] at hfilter
  obtain ⟨c, l, rfl⟩ : ∃ c l, k = c :: l := by
    cases k with
    | nil => cases hhead
    | cons c l => exact ⟨c, l, rfl⟩
  obtain rfl := Option.some.inj hhead
  have h' : fs.Holds g ((c :: l) :: (lost ++ rest)) := ⟨h.ok, h.partition.perm hbefore⟩
  obtain ⟨res, fs', hremove, ⟨rfl, hleaves⟩ | ⟨rfl, hfails⟩⟩ := h'.removeChain
  · exact ⟨_, _, hremove, (Outcome.done hleaves).perm (hafter.symm.append_left lost)⟩
  · exact ⟨_, _, hremove, (Outcome.failed hfails).perm (hafter.symm.append_left lost)⟩

/-! ## Writes outside the FAT -/

/-- A sector of no copy of the FAT. -/
theorem not_mirror_of_outside {sector : ℕ} (h : sector < g.fatbase ∨ g.fatbase + g.nFats * g.fsize ≤ sector) :
    ¬ g.Mirror sector := by
  intro hmirror
  have hstart := hmirror.1
  have hend := hmirror.2
  omega

/-- Such a sector holds no byte of the FAT. -/
theorem fat_lt_or_le {sector k : ℕ} (h : sector < g.fatbase ∨ g.fatbase + g.nFats * g.fsize ≤ sector)
    (hk : k < g.fsize * 512) : g.fatbase * 512 + k < sector * 512 ∨ (sector + 1) * 512 ≤ g.fatbase * 512 + k := by
  have hone : g.fsize ≤ g.nFats * g.fsize := Nat.le_mul_of_pos_left _ g.nFats_pos
  omega

/-- **A write outside the FAT** keeps a volume sound. -/
theorem Sound.write (h : v.Sound g lost) {w : FatWindow} (stored : CellMemory UInt8) (err : Bool) (hok : w.Ok g)
    (hfat : ∀ k < g.fsize * 512, w.fat g k = v.fs.fat g k)
    (hstored : ∀ x, g.Visible x → (x < g.fatbase * 512 ∨ (g.fatbase + g.fsize) * 512 ≤ x) → w.view x = stored x) :
    Sound g { v with fs := { v.fs with toFatWindow := w }, stored := stored, failed := v.failed || err } lost := by
  have hentry : ∀ c < g.nFatent, w.entry g c = v.fs.entry g c := fun c hc => entry_congr hfat hc
  refine ⟨⟨hok, h.holds.partition.congr hentry⟩, fun hnone => ?_, hstored, h.returned⟩
  obtain ⟨hlost, hcounts⟩ := h.whole (by revert hnone; cases v.failed <;> simp)
  refine ⟨hlost, fun hknown => (hcounts hknown).trans (freeCells_congr fun c _ hc => ?_)⟩
  exact iff_of_eq (congrArg (· = 0) (hentry c hc).symm)

/-- Bytes of a directory are set. -/
theorem Sound.directory (h : v.Sound g lost) (faults : List (Option (CellMemory UInt8))) {sector i : ℕ}
    {bs : List UInt8} (hout : sector < g.fatbase ∨ g.fatbase + g.nFats * g.fsize ≤ sector)
    (hsector : sector < 0xFFFFFFFF) (hfits : i + bs.length ≤ 512) {v' : FatVolume}
    (hstep : step g v (faults, .directory sector i bs) = some v') : v'.Sound g lost := by
  obtain ⟨hok, hview, hmoved⟩ := (holds_withFaults h.holds faults).ok.move (not_mirror_of_outside hout)
  have hfat : ∀ k < g.fsize * 512, (moveWindow g sector (v.fs.withFaults faults).toFatWindow).2.fat g k =
      v.fs.fat g k := fun k hk => hview.fat hk
  rw [step, if_pos ⟨hout, hsector, hfits⟩] at hstep
  split at hstep
  · next w hmove =>
      rw [hmove] at hok hview hmoved hfat
      obtain rfl := Option.some.inj hstep
      obtain rfl := hmoved rfl
      obtain ⟨hset, hsetview⟩ := hok.set hsector hfits
      have hsound := h.write (patch v.stored (w.winsect * 512 + i) bs) false hset (fun k hk => ?_)
        fun x hx hx' => ?_
      · simpa using hsound
      · rw [← hfat k hk]
        have haddr := fat_lt_or_le hout hk
        refine (congrFun hsetview _).trans (haddr.elim (fun hlt => ?_) fun hge => ?_)
        · exact patch_of_lt _ _ (Nat.lt_add_right i hlt)
        · refine patch_of_ge _ _ (le_trans ?_ hge)
          rw [Nat.add_assoc, Nat.succ_mul]
          exact Nat.add_le_add_left hfits _
      · rw [hsetview]
        exact patch_congr ((hview x hx).trans (h.outside x hx hx')) _ _
  · next res w _ hmove =>
      rw [hmove] at hok hview hfat
      obtain rfl := Option.some.inj hstep
      have hsound := h.write v.stored true hok hfat fun x hx hx' => (hview x hx).trans (h.outside x hx hx')
      simpa using hsound

/-- Sectors of a file are written. -/
theorem Sound.data (h : v.Sound g lost) (faults : List (Option (CellMemory UInt8))) {sector : ℕ} {bs : List UInt8}
    (hbase : g.database ≤ sector)
    (hwindow : v.fs.winsect < sector ∨ sector * 512 + bs.length ≤ v.fs.winsect * 512) {v' : FatVolume}
    (hstep : step g v (faults, .data sector bs) = some v') : v'.Sound g lost := by
  have himage : ∀ x, x < sector * 512 ∨ sector * 512 + bs.length ≤ x →
      ((v.fs.withFaults faults).drive.write bs sector).2.image x = v.fs.drive.image x :=
    fun x hx => (v.fs.withFaults faults).drive.image_write bs sector hx
  rw [step, if_pos ⟨hbase, hwindow⟩] at hstep
  generalize (v.fs.withFaults faults).drive.write bs sector = written at hstep himage
  obtain ⟨ok, drive⟩ := written
  obtain rfl := Option.some.inj hstep
  have hfats := g.fats_le
  have hone : g.fsize ≤ g.nFats * g.fsize := Nat.le_mul_of_pos_left _ g.nFats_pos
  -- the window is on none of the sectors
  have hview : ∀ x, ({ v.fs.toFatWindow with drive := drive } : FatWindow).view x =
      patch v.fs.view (sector * 512) (slice drive.image (sector * 512) bs.length) x := by
    intro x
    obtain ⟨i, hi, rfl, hpatch⟩ | ⟨hout, hpatch⟩ :=
      patch_cases v.fs.view (sector * 512) (slice drive.image (sector * 512) bs.length) x
    · rw [hpatch, getElem_slice]
      rw [length_slice] at hi
      exact if_neg (by change (sector * 512 + i) / 512 ≠ v.fs.winsect; omega)
    · rw [hpatch]
      rw [length_slice] at hout
      change (if x / 512 = v.fs.winsect then _ else drive.image x) = if x / 512 = v.fs.winsect then _ else _
      rw [himage x hout]
  refine h.write _ (!ok) ⟨fun hclean => (h.holds.ok.clean hclean).imp_right fun hsame i hi => ?_, h.holds.ok.dirty,
    h.holds.ok.sector⟩ (fun k hk => ?_) fun x hx hx' => ?_
  · exact (hsame i hi).trans (himage _ (by omega)).symm
  · exact (hview _).trans (patch_of_lt _ _ (by omega))
  · exact (hview x).trans (patch_congr (h.outside x hx hx') _ _)

/-! ## The sectors of the files -/

/-- The clusters of the files are clusters of the volume. -/
theorem Sound.cluster_range (h : v.Sound g lost) {c : ℕ} (hc : c ∈ v.files.flatten) : 2 ≤ c ∧ c < g.nFatent := by
  have hused := h.holds.partition.used (c := c) (by rw [List.flatten_append]; exact List.mem_append_right _ hc)
  exact ⟨hused.1, hused.2.1⟩

/-- **No sector is in two files**, nor in two places of one. -/
theorem Sound.sectors_apart (h : v.Sound g lost) : v.files.flatten.Pairwise fun c c' =>
    g.clust2sect c + g.csize ≤ g.clust2sect c' ∨ g.clust2sect c' + g.csize ≤ g.clust2sect c := by
  have hnodup := h.holds.partition.nodup
  rw [List.flatten_append] at hnodup
  refine (List.nodup_append.mp hnodup).2.1.pairwise_of_forall_ne fun c hc c' hc' hne => ?_
  obtain ⟨hmin, hmax⟩ := h.cluster_range hc
  obtain ⟨hmin', hmax'⟩ := h.cluster_range hc'
  obtain hlt | hgt := Nat.lt_or_gt_of_ne hne
  · exact Or.inl (FatGeometry.clust2sect_lt hmin hlt hmax')
  · exact Or.inr (FatGeometry.clust2sect_lt hmin' hgt hmax)

/-- A byte in a cluster can be seen, and is behind the FAT. -/
theorem visible_cluster {c x : ℕ} (hmin : 2 ≤ c) (hmax : c < g.nFatent) (hx : g.clust2sect c * 512 ≤ x)
    (hend : x < (g.clust2sect c + g.csize) * 512) : g.Visible x ∧ (g.fatbase + g.fsize) * 512 ≤ x := by
  obtain ⟨hbase, hlast⟩ := FatGeometry.clust2sect_range hmin hmax
  have hfats := g.fats_le
  have hsectors := g.sectors_lt
  have hone : g.fsize ≤ g.nFats * g.fsize := Nat.le_mul_of_pos_left _ g.nFats_pos
  have hfat : g.fatbase + g.fsize ≤ g.clust2sect c := by omega
  refine ⟨⟨by omega, fun hmirror => ?_⟩, (Nat.mul_le_mul_right 512 hfat).trans hx⟩
  have hbefore := hmirror.2
  omega

/-- **A write to a cluster of a file** changes no other cluster of a file. -/
theorem Sound.data_other (h : v.Sound g lost) (faults : List (Option (CellMemory UInt8))) {c c' sector : ℕ}
    {bs : List UInt8} (hc : c ∈ v.files.flatten) (hc' : c' ∈ v.files.flatten) (hne : c ≠ c')
    (hstart : g.clust2sect c ≤ sector) (hend : sector * 512 + bs.length ≤ (g.clust2sect c + g.csize) * 512)
    {v' : FatVolume} (hstep : step g v (faults, .data sector bs) = some v') {x : ℕ}
    (hx : g.clust2sect c' * 512 ≤ x) (hx' : x < (g.clust2sect c' + g.csize) * 512) :
    v'.fs.view x = v.fs.view x := by
  obtain ⟨hmin, hmax⟩ := h.cluster_range hc
  obtain ⟨hmin', hmax'⟩ := h.cluster_range hc'
  obtain ⟨hvisible, hbehind⟩ := visible_cluster hmin' hmax' hx hx'
  have hout : x < sector * 512 ∨ sector * 512 + bs.length ≤ x := by
    obtain hlt | hgt := Nat.lt_or_gt_of_ne hne
    · have hapart := FatGeometry.clust2sect_lt hmin hlt hmax'
      omega
    · have hapart := FatGeometry.clust2sect_lt hmin' hgt hmax
      omega
  by_cases hguard : g.database ≤ sector ∧ (v.fs.winsect < sector ∨ sector * 512 + bs.length ≤ v.fs.winsect * 512)
  · have hsound := h.data faults hguard.1 hguard.2 hstep
    have hstored : v'.stored x = v.stored x := by
      rw [step, if_pos hguard] at hstep
      obtain rfl := Option.some.inj hstep
      refine hout.elim (patch_of_lt _ _) fun hge => patch_of_ge _ _ ?_
      rwa [length_slice]
    rw [hsound.outside x hvisible (Or.inr hbehind), hstored, h.outside x hvisible (Or.inr hbehind)]
  · rw [step, if_neg hguard] at hstep
    cases hstep

/-! ## All calls -/

/-- One call keeps a volume sound; on a FAT of 12-bit entries unless it fails. -/
theorem Sound.step (h : v.Sound g lost) {call : List (Option (CellMemory UInt8)) × FatCall} {v' : FatVolume}
    (hstep : step g v call = some v') (hfat : g.fsType = .fat12 → v'.failed = false) : ∃ lost', v'.Sound g lost' := by
  obtain ⟨faults, call⟩ := call
  cases call with
  | create =>
      obtain rfl := Option.some.inj hstep
      refine h.call faults (fun hholds => ?_) hfat
      refine Outcome.of_creates hholds.createChain_new (List.Perm.refl _) fun after hmin hgrows => ?_
      rw [after_of_new hgrows]
      exact List.perm_middle.symm
  | stretch clst =>
      rw [FatVolume.step] at hstep
      split at hstep
      · next hmem =>
          obtain rfl := Option.some.inj hstep
          exact h.call faults (fun hholds => Outcome.of_stretch hholds hmem) hfat
      · cases hstep
  | remove clst =>
      rw [FatVolume.step] at hstep
      split at hstep
      · next hmem =>
          obtain ⟨res, fs', hremove, houtcome⟩ := Outcome.of_remove (holds_withFaults h.holds faults) hmem
          rw [hremove] at hstep
          obtain rfl := Option.some.inj hstep
          exact h.call faults (fun _ => houtcome) hfat
      · cases hstep
  | suggest lastClust =>
      obtain rfl := Option.some.inj hstep
      exact ⟨lost, ⟨h.holds.ok, h.holds.partition⟩, h.whole, h.outside, h.returned⟩
  | directory sector i bs =>
      by_cases hguard : (sector < g.fatbase ∨ g.fatbase + g.nFats * g.fsize ≤ sector) ∧ sector < 0xFFFFFFFF ∧
          i + bs.length ≤ 512
      · exact ⟨lost, h.directory faults hguard.1 hguard.2.1 hguard.2.2 hstep⟩
      · rw [FatVolume.step, if_neg hguard] at hstep
        cases hstep
  | data sector bs =>
      by_cases hguard : g.database ≤ sector ∧
          (v.fs.winsect < sector ∨ sector * 512 + bs.length ≤ v.fs.winsect * 512)
      · exact ⟨lost, h.data faults hguard.1 hguard.2 hstep⟩
      · rw [FatVolume.step, if_neg hguard] at hstep
        cases hstep

/-- A failure is not forgotten. -/
theorem failed_of_step {call : List (Option (CellMemory UInt8)) × FatCall} {v' : FatVolume}
    (hstep : step g v call = some v') (hfailed : v.failed = true) : v'.failed = true := by
  obtain ⟨faults, call⟩ := call
  cases call with
  | create =>
      obtain rfl := Option.some.inj hstep
      exact Bool.or_eq_true_iff.mpr (Or.inl hfailed)
  | suggest =>
      obtain rfl := Option.some.inj hstep
      exact hfailed
  | stretch | remove | directory | data =>
      rw [step] at hstep
      split at hstep
      · repeat' split at hstep
        all_goals
          obtain rfl := Option.some.inj hstep
          simp [hfailed]
      · cases hstep

/-- **No cluster is ever in two chains**: whatever calls follow one another on a sound volume and whatever accesses
to the card fail, the clusters in use are those of the files, in their order, and after a failure of some chains that
belong to nobody; while none has failed the number of free clusters is right; every call returns; and outside the FAT
there is what was written there. A FAT of 12-bit entries is only covered up to the first failure. -/
theorem chains_sound (h : v.Sound g lost) (calls : List (List (Option (CellMemory UInt8)) × FatCall)) :
    AllReached (step g) (fun v => (g.fsType = .fat12 → v.failed = false) → ∃ lost, v.Sound g lost) v calls := by
  refine allReached_of_step (fun v call v' hsound hstep hfat => ?_) (fun _ => ⟨lost, h⟩) calls
  obtain ⟨lost, hsound⟩ := hsound fun htype => by
    by_contra hfailed
    exact absurd ((failed_of_step hstep (by simpa using hfailed)).symm.trans (hfat htype)) nofun
  exact hsound.step hstep hfat

/-- A FAT of 16-bit entries for eight clusters. -/
def eightClusters : FatGeometry where
  fsType := .fat16
  nFats := 2
  csize := 1
  nFatent := 10
  fsize := 1
  volbase := 0
  fatbase := 1
  database := 4
  nFats_pos := Nat.two_pos
  csize_pow := ⟨0, rfl⟩
  two_lt := by decide
  volbase_lt := by decide
  fats_le := by decide
  fat_fits := by decide
  nFatent_le := by decide
  sectors_lt := by decide

/-- An empty volume. -/
def empty : FatVolume where
  fs := ⟨⟨⟨fun _ => 0, []⟩, 0xFFFFFFFF, fun _ => 0, false⟩, 0, 0, 8⟩
  files := []
  stored := fun _ => 0
  failed := false
  stuck := false

/-- All its clusters are free. -/
theorem empty_sound : empty.Sound eightClusters [] := by
  have hview : ∀ x, empty.fs.view x = 0 := fun x => ite_self _
  have hfree : ∀ c, empty.fs.entry eightClusters c = 0 := by
    intro c
    have hfat : ∀ k, empty.fs.fat eightClusters k = 0 := fun k => hview _
    change PackedTable.getWord (empty.fs.fat eightClusters) (c * 2) = 0
    rw [PackedTable.getWord, hfat, hfat]
    rfl
  refine ⟨⟨⟨fun _ => Or.inl rfl, Bool.noConfusion, eightClusters.not_mirror⟩,
    fun _ hl => absurd hl List.not_mem_nil, List.nodup_nil, fun c _ _ hused => ?_⟩,
    fun _ => ⟨rfl, fun _ => ?_⟩, fun x _ _ => hview x, rfl⟩
  · exact absurd (hfree c) hused
  · rw [freeCells, Finset.filter_true_of_mem fun c _ => hfree c]
    rfl

/-- One file is created and gets longer, another one is created, and the disk fails while the first is removed. -/
theorem chains_sound_empty : empty.Sound eightClusters [] ∧ AllReached (step eightClusters)
    (fun v => (eightClusters.fsType = .fat12 → v.failed = false) → ∃ lost, v.Sound eightClusters lost) empty
    [([], .create), ([], .stretch 2), ([], .create), ([none, some fun _ => 7], .remove 2), ([], .create)] :=
  ⟨empty_sound, chains_sound empty_sound _⟩

end FatVolume

end RtuShuiwen
