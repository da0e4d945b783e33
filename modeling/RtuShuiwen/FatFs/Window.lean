import RtuShuiwen.Library.CellMemory
import Mathlib.Algebra.Ring.Nat
import Mathlib.Tactic.Common

/-! # The sector window of the file system

FatFs reads and writes the FAT and the directories through one sector in memory, which is written back when
another one is needed, a sector of the FAT into both copies. `FatWindow.view` is what the volume contains with that
sector in place: `Ok.move` says that moving the window does not change it, whatever access to the card fails, and
`Ok.set` that bytes set in the window are the only ones that change. -/

namespace RtuShuiwen

open CellMemory

/-! ## The drive -/

/-- A drive: its bytes, and for the accesses to come whether they fail; then arbitrary bytes are left in the
sectors that should be written, or in the buffer. -/
structure Drive where
  image : CellMemory UInt8
  faults : List (Option (CellMemory UInt8))

namespace Drive

/-- What happens to the next access. -/
def fault (d : Drive) : Option (CellMemory UInt8) := d.faults.head?.join

/-- `disk_write` of the sectors from `sector` on, with whether it succeeds. -/
def write (d : Drive) (buff : List UInt8) (sector : ℕ) : Bool × Drive :=
  match d.fault with
  | none => (true, ⟨patch d.image (sector * 512) buff, d.faults.tail⟩)
  | some junk => (false, ⟨patch d.image (sector * 512) (slice junk 0 buff.length), d.faults.tail⟩)

/-- `disk_read` of the sectors from `sector` on: whether it succeeds, and the buffer. -/
def read (d : Drive) (sector : ℕ) : (Bool × CellMemory UInt8) × Drive :=
  match d.fault with
  | none => ((true, fun i => d.image (sector * 512 + i)), ⟨d.image, d.faults.tail⟩)
  | some junk => ((false, junk), ⟨d.image, d.faults.tail⟩)

/-- A write that succeeds. -/
theorem write_ok {d : Drive} {buff : List UInt8} {sector : ℕ} (h : (d.write buff sector).1 = true) :
    (d.write buff sector).2.image = patch d.image (sector * 512) buff := by
  rw [write] at h ⊢
  split at h
  · rfl
  · cases h

/-- In any case only these sectors change. -/
theorem image_write (d : Drive) (buff : List UInt8) (sector : ℕ) {x : ℕ}
    (h : x < sector * 512 ∨ sector * 512 + buff.length ≤ x) : (d.write buff sector).2.image x = d.image x := by
  have hpatch : ∀ bs : List UInt8, bs.length = buff.length → patch d.image (sector * 512) bs x = d.image x := by
    intro bs hlength
    obtain hlt | hge := h
    · exact patch_of_lt _ _ hlt
    · exact patch_of_ge _ _ (hlength ▸ hge)
  rw [write]
  split
  · exact hpatch buff rfl
  · exact hpatch _ (length_slice _ _ _)

/-- A read changes nothing, and if it succeeds the buffer holds the sector. -/
theorem image_read (d : Drive) (sector : ℕ) : (d.read sector).2.image = d.image ∧
    ((d.read sector).1.1 = true → (d.read sector).1.2 = fun i => d.image (sector * 512 + i)) := by
  rw [read]
  split
  · exact ⟨rfl, fun _ => rfl⟩
  · exact ⟨rfl, nofun⟩

end Drive

/-! ## The volume -/

/-- The types of a FAT. -/
inductive FsType
  | fat12
  | fat16
  | fat32
  deriving DecidableEq, Repr

/-- The bytes of a FAT with `n` entries. -/
def FsType.fatBytes (n : ℕ) : FsType → ℕ
  | .fat12 => n * 3 / 2 + n % 2
  | .fat16 => n * 2
  | .fat32 => n * 4

/-- The first entry that is no cluster number. -/
def FsType.reserved : FsType → ℕ
  | .fat12 => 0xFF7
  | .fat16 => 0xFFF7
  | .fat32 => 0xFFFFFF7

/-- What `find_volume` has found out about a volume, with what it has checked; the last two parts are true of every
volume with less than 2^32 sectors and 2^28 clusters. -/
structure FatGeometry where
  fsType : FsType
  nFats : ℕ
  csize : ℕ
  nFatent : ℕ
  fsize : ℕ
  volbase : ℕ
  fatbase : ℕ
  database : ℕ
  nFats_pos : 0 < nFats
  csize_pow : ∃ k, csize = 2 ^ k
  two_lt : 2 < nFatent
  volbase_lt : volbase < fatbase
  fats_le : fatbase + nFats * fsize ≤ database
  fat_fits : fsType.fatBytes nFatent ≤ fsize * 512
  nFatent_le : nFatent ≤ fsType.reserved
  sectors_lt : database + (nFatent - 2) * csize < 0xFFFFFFFF

namespace FatGeometry

/-- A sector of the second copy of the FAT. -/
def Mirror (g : FatGeometry) (sector : ℕ) : Prop :=
  g.fatbase + g.fsize ≤ sector ∧ sector < g.fatbase + g.nFats * g.fsize

/-- A byte that is not in the second copy. -/
def Visible (g : FatGeometry) (x : ℕ) : Prop := x / 512 < 0xFFFFFFFF ∧ ¬ g.Mirror (x / 512)

/-- The number of an invalid window is not in the second copy. -/
theorem not_mirror (g : FatGeometry) : ¬ g.Mirror 0xFFFFFFFF := by
  intro h
  have hfats := g.fats_le
  have hsectors := g.sectors_lt
  have hend := h.2
  omega

/-- There are less than 2^28 entries. -/
theorem nFatent_lt (g : FatGeometry) : g.nFatent < 2 ^ 28 := by
  refine Nat.lt_of_le_of_lt g.nFatent_le ?_
  cases g.fsType <;> decide

/-- `clust2sect`, with 0 for an invalid cluster. -/
def clust2sect (g : FatGeometry) (clst : ℕ) : ℕ :=
  if clst < 2 ∨ g.nFatent ≤ clst then 0 else (clst - 2) * g.csize + g.database

variable {g : FatGeometry} {clst : ℕ}

/-- The first sector of a cluster. -/
theorem clust2sect_eq (hmin : 2 ≤ clst) (hmax : clst < g.nFatent) :
    g.clust2sect clst = (clst - 2) * g.csize + g.database :=
  if_neg (not_or.mpr ⟨Nat.not_lt.mpr hmin, Nat.not_le.mpr hmax⟩)

/-- The sectors of a cluster are behind the FAT, and on the volume. -/
theorem clust2sect_range (hmin : 2 ≤ clst) (hmax : clst < g.nFatent) : g.database ≤ g.clust2sect clst ∧
    g.clust2sect clst + g.csize ≤ g.database + (g.nFatent - 2) * g.csize := by
  rw [clust2sect_eq hmin hmax]
  have hnext : (clst - 2 + 1) * g.csize ≤ (g.nFatent - 2) * g.csize := Nat.mul_le_mul_right _ (by omega)
  rw [Nat.succ_mul] at hnext
  exact ⟨Nat.le_add_left _ _, by omega⟩

/-- Of two clusters the sectors of the one are before those of the other. -/
theorem clust2sect_lt {clst' : ℕ} (hmin : 2 ≤ clst) (hlt : clst < clst') (hmax : clst' < g.nFatent) :
    g.clust2sect clst + g.csize ≤ g.clust2sect clst' := by
  rw [clust2sect_eq hmin (Nat.lt_trans hlt hmax), clust2sect_eq (Nat.le_trans hmin (Nat.le_of_lt hlt)) hmax]
  have hnext : (clst - 2 + 1) * g.csize ≤ (clst' - 2) * g.csize := Nat.mul_le_mul_right _ (by omega)
  rw [Nat.succ_mul] at hnext
  omega

end FatGeometry

/-! ## The window -/

/-- The values of `FRESULT` that the functions return. -/
inductive FatResult
  | ok
  | diskErr
  | intErr
  | denied
  deriving DecidableEq, Repr

/-- The drive of a `FATFS`, its window and whether it was changed. -/
structure FatWindow where
  drive : Drive
  winsect : ℕ
  win : CellMemory UInt8
  wflag : Bool

/-- The loop of `sync_window` over the other copies of the FAT. -/
def writeCopies (g : FatGeometry) (win : List UInt8) : (nf : ℕ) → (wsect : ℕ) → Drive → Drive
  | 0, _, d => d
  | nf + 1, wsect, d => writeCopies g win nf (wsect + g.fsize) (d.write win (wsect + g.fsize)).2

/-- `sync_window`. -/
def syncWindow (g : FatGeometry) (w : FatWindow) : FatResult × FatWindow :=
  if w.wflag then
    match w.drive.write (slice w.win 0 512) w.winsect with
    | (false, drive) => (.diskErr, { w with drive := drive })
    | (true, drive) =>
        -- a sector of the FAT goes into its other copies as well
        if g.fatbase ≤ w.winsect ∧ w.winsect - g.fatbase < g.fsize then
          (.ok, { w with drive := writeCopies g (slice w.win 0 512) (g.nFats - 1) w.winsect drive, wflag := false })
        else (.ok, { w with drive := drive, wflag := false })
  else (.ok, w)

/-- `move_window`. -/
def moveWindow (g : FatGeometry) (sector : ℕ) (w : FatWindow) : FatResult × FatWindow :=
  if sector ≠ w.winsect then
    match syncWindow g w with
    | (.ok, w) =>
        match w.drive.read sector with
        | ((false, win), drive) => (.diskErr, { w with drive := drive, win := win, winsect := 0xFFFFFFFF })
        | ((true, win), drive) => (.ok, { w with drive := drive, win := win, winsect := sector })
    | failed => failed
  else (.ok, w)

namespace FatWindow

/-- What the volume contains, the sector in the window as it is there. -/
def view (w : FatWindow) : CellMemory UInt8 :=
  fun x => if x / 512 = w.winsect then w.win (x % 512) else w.drive.image x

/-- Bytes of the window are set. -/
def set (w : FatWindow) (i : ℕ) (bs : List UInt8) : FatWindow := { w with win := patch w.win i bs, wflag := true }

/-- A window that was not changed is what the drive holds, and one that was is a sector of the drive. -/
structure Ok (w : FatWindow) (g : FatGeometry) : Prop where
  clean : w.wflag = false → w.winsect = 0xFFFFFFFF ∨ ∀ i < 512, w.win i = w.drive.image (w.winsect * 512 + i)
  dirty : w.wflag = true → w.winsect < 0xFFFFFFFF
  sector : ¬ g.Mirror w.winsect

/-- The same contents but for the second copy of the FAT. -/
def SameView (g : FatGeometry) (w w' : FatWindow) : Prop := ∀ x, g.Visible x → w'.view x = w.view x

variable {g : FatGeometry} {w : FatWindow}

/-- A byte of the window. -/
theorem view_window (w : FatWindow) {i : ℕ} (hi : i < 512) : w.view (w.winsect * 512 + i) = w.win i := by
  have hdiv : (w.winsect * 512 + i) / 512 = w.winsect := by omega
  have hmod : (w.winsect * 512 + i) % 512 = i := by omega
  rw [view, if_pos hdiv, hmod]

/-- A byte elsewhere. -/
theorem view_of_ne {x : ℕ} (h : x / 512 ≠ w.winsect) : w.view x = w.drive.image x := if_neg h

/-- Where the window was not changed all bytes are on the drive. -/
theorem Ok.view_clean (h : w.Ok g) (hclean : w.wflag = false) {x : ℕ} (hx : g.Visible x) :
    w.view x = w.drive.image x := by
  by_cases hsect : x / 512 = w.winsect
  · obtain hinvalid | hsame := h.clean hclean
    · exact absurd hx.1 (by omega)
    · have hsplit : x = w.winsect * 512 + x % 512 := by omega
      rw [hsplit, w.view_window (Nat.mod_lt _ (by decide)), hsame _ (Nat.mod_lt _ (by decide))]
  · exact view_of_ne hsect

/-- The other copies are elsewhere. -/
theorem image_writeCopies (win : List UInt8) (hwin : win.length = 512) {x : ℕ} (hx : g.Visible x) :
    ∀ (nf wsect : ℕ) (d : Drive), g.fatbase ≤ wsect → wsect + nf * g.fsize < g.fatbase + g.nFats * g.fsize →
      (writeCopies g win nf wsect d).image x = d.image x
  | 0, _, _, _, _ => rfl
  | nf + 1, wsect, d, hbase, hend => by
      rw [Nat.succ_mul] at hend
      have hmirror : g.Mirror (wsect + g.fsize) := ⟨by omega, by omega⟩
      have hne : x / 512 ≠ wsect + g.fsize := fun h => hx.2 (h ▸ hmirror)
      rw [writeCopies, image_writeCopies win hwin hx nf _ _ (by omega) (by omega)]
      refine d.image_write win _ ?_
      rw [hwin]
      omega

/-- The contents stay when the drive changes in the sector of the window only. -/
theorem sameView_of_image {w' : FatWindow} (hsect : w'.winsect = w.winsect) (hwin : w'.win = w.win)
    (h : ∀ x, g.Visible x → x / 512 ≠ w.winsect → w'.drive.image x = w.drive.image x) : SameView g w w' := by
  intro x hx
  rw [view, view, hsect, hwin]
  split
  · rfl
  · next hne => exact h x hx hne

/-- **Writing the window back changes no contents**, whether it succeeds or not. -/
theorem Ok.sync (h : w.Ok g) : (syncWindow g w).2.Ok g ∧ SameView g w (syncWindow g w).2 ∧
    ((syncWindow g w).1 = .ok → (syncWindow g w).2.wflag = false) := by
  have hlength : (slice w.win 0 512).length = 512 := length_slice _ _ _
  rw [syncWindow]
  split
  · next hdirty =>
      have hsector := h.dirty hdirty
      have houtside : ∀ x, x / 512 ≠ w.winsect →
          (w.drive.write (slice w.win 0 512) w.winsect).2.image x = w.drive.image x := by
        intro x hne
        refine w.drive.image_write _ _ ?_
        rw [hlength]
        omega
      have hinside : (w.drive.write (slice w.win 0 512) w.winsect).1 = true → ∀ i < 512,
          (w.drive.write (slice w.win 0 512) w.winsect).2.image (w.winsect * 512 + i) = w.win i := by
        intro hok i hi
        rw [Drive.write_ok hok, patch_add _ _ _ _ (by rw [hlength]; exact hi), getElem_slice, Nat.zero_add]
      -- what a drive has to hold behind a write that succeeded
      have hwritten : ∀ drive : Drive, (w.drive.write (slice w.win 0 512) w.winsect).1 = true →
          (∀ x, g.Visible x → drive.image x = (w.drive.write (slice w.win 0 512) w.winsect).2.image x) →
          ({ w with drive := drive, wflag := false } : FatWindow).Ok g ∧
            SameView g w { w with drive := drive, wflag := false } := by
        intro drive hok hdrive
        refine ⟨⟨fun _ => Or.inr fun i hi => ?_, nofun, h.sector⟩,
          sameView_of_image rfl rfl fun x hx hne => (hdrive x hx).trans (houtside x hne)⟩
        have hdiv : (w.winsect * 512 + i) / 512 = w.winsect := by omega
        have hvisible : g.Visible (w.winsect * 512 + i) := by
          rw [FatGeometry.Visible, hdiv]
          exact ⟨hsector, h.sector⟩
        exact ((hdrive _ hvisible).trans (hinside hok i hi)).symm
      split
      · next drive hwrite =>
          rw [hwrite] at houtside
          exact ⟨⟨fun hclean => absurd (hdirty.symm.trans hclean) nofun, h.dirty, h.sector⟩,
            sameView_of_image rfl rfl fun x _ hne => houtside x hne, nofun⟩
      · next drive hwrite =>
          rw [hwrite] at hwritten
          split
          · next hfat =>
              have hall := hwritten (writeCopies g (slice w.win 0 512) (g.nFats - 1) w.winsect drive) rfl fun x hx => by
                refine image_writeCopies _ hlength hx _ _ _ hfat.1 ?_
                obtain ⟨n, hn⟩ : ∃ n, g.nFats = n + 1 := ⟨g.nFats - 1, by have := g.nFats_pos; omega⟩
                rw [hn, Nat.add_sub_cancel, Nat.succ_mul]
                omega
              exact ⟨hall.1, hall.2, fun _ => rfl⟩
          · have hall := hwritten drive rfl fun _ _ => rfl
            exact ⟨hall.1, hall.2, fun _ => rfl⟩
  · next hclean => exact ⟨h, fun _ _ => rfl, fun _ => by simpa using hclean⟩

/-- **Moving the window changes no contents**, whether it succeeds or not. -/
theorem Ok.move (h : w.Ok g) {sector : ℕ} (hmirror : ¬ g.Mirror sector) :
    (moveWindow g sector w).2.Ok g ∧ SameView g w (moveWindow g sector w).2 ∧
      ((moveWindow g sector w).1 = .ok → (moveWindow g sector w).2.winsect = sector) := by
  obtain ⟨hok, hview, hclean⟩ := h.sync
  rw [moveWindow]
  split
  · split
    · next w' hsynced =>
        rw [hsynced] at hok hview hclean
        have hclean : w'.wflag = false := hclean rfl
        obtain ⟨himage, hbuffer⟩ := w'.drive.image_read sector
        split
        · next win drive hread =>
            rw [hread] at himage
            -- the window is on no sector, and all that can be seen is on the drive
            refine ⟨⟨fun _ => Or.inl rfl, fun hdirty => absurd (hclean.symm.trans hdirty) nofun, g.not_mirror⟩,
              fun x hx => ?_, nofun⟩
            rw [← hview x hx, hok.view_clean hclean hx]
            exact (view_of_ne (Nat.ne_of_lt hx.1)).trans (congrFun himage x)
        · next win drive hread =>
            rw [hread] at himage hbuffer
            have hbuffer : win = fun i => w'.drive.image (sector * 512 + i) := hbuffer rfl
            have himage : drive.image = w'.drive.image := himage
            refine ⟨⟨fun _ => Or.inr fun i _ => ?_, fun hdirty => absurd (hclean.symm.trans hdirty) nofun, hmirror⟩,
              fun x hx => ?_, fun _ => rfl⟩
            · change win i = drive.image _
              rw [hbuffer, himage]
            · rw [← hview x hx, hok.view_clean hclean hx]
              change (if x / 512 = sector then win (x % 512) else drive.image x) = _
              split
              · next hsect =>
                  have hsplit : sector * 512 + x % 512 = x := by omega
                  rw [hbuffer]
                  exact congrArg w'.drive.image hsplit
              · rw [himage]
    · next hfailed => exact ⟨hok, hview, fun hres => (hfailed _ (Prod.ext hres rfl)).elim⟩
  · next hsame => exact ⟨h, fun _ _ => rfl, fun _ => (not_not.mp hsame).symm⟩

/-- A move that fails is an error of the disk. -/
theorem moveWindow_fails {sector : ℕ} (h : ∀ w', moveWindow g sector w ≠ (.ok, w')) :
    (moveWindow g sector w).1 = .diskErr := by
  have hsync : (syncWindow g w).1 = .ok ∨ (syncWindow g w).1 = .diskErr := by
    rw [syncWindow]
    split
    · split
      · exact Or.inr rfl
      · split <;> exact Or.inl rfl
    · exact Or.inl rfl
  rw [moveWindow] at h ⊢
  split at h
  · next hne =>
      rw [if_pos hne]
      split at h
      · split at h
        · rfl
        · exact absurd rfl (h _)
      · exact hsync.resolve_left fun hok => h _ (Prod.ext hok rfl)
  · exact absurd rfl (h _)

/-- **Bytes that are set in the window** are the only ones that change. -/
theorem Ok.set (h : w.Ok g) (hsector : w.winsect < 0xFFFFFFFF) {i : ℕ} {bs : List UInt8} (hi : i + bs.length ≤ 512) :
    (w.set i bs).Ok g ∧ (w.set i bs).view = patch w.view (w.winsect * 512 + i) bs := by
  refine ⟨⟨nofun, fun _ => hsector, h.sector⟩, funext fun x => ?_⟩
  have hview : (w.set i bs).view x = if x / 512 = w.winsect then patch w.win i bs (x % 512) else w.drive.image x :=
    rfl
  rw [hview]
  obtain ⟨k, hk, rfl, hpatch⟩ | ⟨hx, hpatch⟩ := patch_cases w.view (w.winsect * 512 + i) bs x
  · have hdiv : (w.winsect * 512 + i + k) / 512 = w.winsect := by omega
    have hmod : (w.winsect * 512 + i + k) % 512 = i + k := by omega
    rw [hpatch, if_pos hdiv, hmod, patch_add _ _ _ _ hk]
  · rw [hpatch, view]
    split
    · obtain hlt | hge := hx
      · exact patch_of_lt _ _ (by omega)
      · exact patch_of_ge _ _ (by omega)
    · rfl

end FatWindow

end RtuShuiwen
