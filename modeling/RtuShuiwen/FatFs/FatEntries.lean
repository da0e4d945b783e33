import RtuShuiwen.FatFs.Window
import RtuShuiwen.Library.PackedTable

/-! # The entries of the FAT

`get_fat` and `put_fat` read and write one entry through the window, a 12-bit entry in two steps because its bytes
may lie in two sectors. `Ok.getFat` and `Ok.putFat` say what they do to the table, whatever access to the card
fails: only a 12-bit entry can be written by half, and no other entry ever changes. -/

namespace RtuShuiwen

open CellMemory PackedTable

/-! ## The functions -/

/-- The width of the entries. -/
def FsType.width : FsType → Width
  | .fat12 => .twelve
  | .fat16 => .sixteen
  | .fat32 => .twentyEight

/-- `get_fat`: 0xFFFFFFFF for an error of the disk, 1 for an invalid number. -/
def getFat (g : FatGeometry) (clst : ℕ) (w : FatWindow) : ℕ × FatWindow :=
  if clst < 2 ∨ g.nFatent ≤ clst then (1, w)
  else
    match g.fsType with
    | .fat12 =>
        let bc := clst + clst / 2
        match moveWindow g (g.fatbase + bc / 512) w with
        | (.ok, w) =>
            -- the second byte may be the first one of the next sector
            let wc := w.win (bc % 512)
            match moveWindow g (g.fatbase + (bc + 1) / 512) w with
            | (.ok, w) => (join12 (clst % 2 = 1) wc (w.win ((bc + 1) % 512)), w)
            | (_, w) => (0xFFFFFFFF, w)
        | (_, w) => (0xFFFFFFFF, w)
    | .fat16 =>
        match moveWindow g (g.fatbase + clst / (512 / 2)) w with
        | (.ok, w) => (getWord w.win (clst * 2 % 512), w)
        | (_, w) => (0xFFFFFFFF, w)
    | .fat32 =>
        match moveWindow g (g.fatbase + clst / (512 / 4)) w with
        | (.ok, w) => (getDword w.win (clst * 4 % 512) &&& 0x0FFFFFFF, w)
        | (_, w) => (0xFFFFFFFF, w)

/-- `put_fat`. -/
def putFat (g : FatGeometry) (clst val : ℕ) (w : FatWindow) : FatResult × FatWindow :=
  if clst < 2 ∨ g.nFatent ≤ clst then (.intErr, w)
  else
    match g.fsType with
    | .fat12 =>
        let bc := clst + clst / 2
        match moveWindow g (g.fatbase + bc / 512) w with
        | (.ok, w) =>
            let w := w.set (bc % 512) [first12 (clst % 2 = 1) (w.win (bc % 512)) val]
            match moveWindow g (g.fatbase + (bc + 1) / 512) w with
            | (.ok, w) => (.ok, w.set ((bc + 1) % 512) [second12 (clst % 2 = 1) (w.win ((bc + 1) % 512)) val])
            | failed => failed
        | failed => failed
    | .fat16 =>
        match moveWindow g (g.fatbase + clst / (512 / 2)) w with
        | (.ok, w) => (.ok, w.set (clst * 2 % 512) (wordBytes val))
        | failed => failed
    | .fat32 =>
        match moveWindow g (g.fatbase + clst / (512 / 4)) w with
        | (.ok, w) =>
            -- the upper four bits of the entry are kept
            (.ok, w.set (clst * 4 % 512)
              (dwordBytes (val ||| (getDword w.win (clst * 4 % 512) &&& 0xF0000000))))
        | failed => failed

/-! ## The table -/

namespace FatWindow

variable {g : FatGeometry} {w w' : FatWindow}

/-- The bytes of the FAT. -/
def fat (g : FatGeometry) (w : FatWindow) : CellMemory UInt8 := fun k => w.view (g.fatbase * 512 + k)

/-- The entry of a cluster. -/
def entry (g : FatGeometry) (w : FatWindow) (clst : ℕ) : ℕ := get (w.fat g) clst g.fsType.width

/-- A byte of the FAT can be seen. -/
theorem visible_fat {k : ℕ} (hk : k < g.fsize * 512) : g.Visible (g.fatbase * 512 + k) := by
  have hdiv : (g.fatbase * 512 + k) / 512 = g.fatbase + k / 512 := by omega
  have hsect : k / 512 < g.fsize := by omega
  have hfats := g.fats_le
  have hsectors := g.sectors_lt
  have hone : g.fsize ≤ g.nFats * g.fsize := Nat.le_mul_of_pos_left _ g.nFats_pos
  refine ⟨by omega, ?_⟩
  rw [hdiv]
  intro hmirror
  have hstart := hmirror.1
  omega

/-- The entries of all clusters are in the FAT. -/
theorem start_le {clst : ℕ} (hclst : clst < g.nFatent) :
    g.fsType.width.start clst + g.fsType.width.size ≤ g.fsize * 512 := by
  refine le_trans ?_ g.fat_fits
  cases g.fsType with
  | fat12 =>
      change clst + clst / 2 + 2 ≤ g.nFatent * 3 / 2 + g.nFatent % 2
      obtain hn | hn := Nat.mod_two_eq_zero_or_one g.nFatent <;> omega
  | fat16 =>
      change clst * 2 + 2 ≤ g.nFatent * 2
      omega
  | fat32 =>
      change clst * 4 + 4 ≤ g.nFatent * 4
      omega

/-- The same contents, the same FAT. -/
theorem SameView.fat (h : SameView g w w') {k : ℕ} (hk : k < g.fsize * 512) : w'.fat g k = w.fat g k :=
  h _ (visible_fat hk)

/-- The same FAT, the same entries. -/
theorem entry_congr (h : ∀ k < g.fsize * 512, w'.fat g k = w.fat g k) {clst : ℕ} (hclst : clst < g.nFatent) :
    w'.entry g clst = w.entry g clst := by
  have hfits := start_le hclst
  exact get_congr fun i hi => h _ (by omega)

/-- The same contents, the same entries. -/
theorem SameView.entry (h : SameView g w w') {clst : ℕ} (hclst : clst < g.nFatent) :
    w'.entry g clst = w.entry g clst := entry_congr (fun _ hk => h.fat hk) hclst

/-- One change of contents after another. -/
theorem SameView.trans {w'' : FatWindow} (h : SameView g w w') (h' : SameView g w' w'') : SameView g w w'' :=
  fun x hx => (h' x hx).trans (h x hx)

/-- The window moves to a sector of the FAT. -/
theorem Ok.moveFat (h : w.Ok g) {k : ℕ} (hk : k < g.fsize * 512) :
    (moveWindow g (g.fatbase + k / 512) w).2.Ok g ∧ SameView g w (moveWindow g (g.fatbase + k / 512) w).2 ∧
      ((moveWindow g (g.fatbase + k / 512) w).1 = .ok →
        (moveWindow g (g.fatbase + k / 512) w).2.winsect = g.fatbase + k / 512 ∧
        ∀ j, j / 512 = k / 512 → (moveWindow g (g.fatbase + k / 512) w).2.win (j % 512) = w.fat g j) := by
  have hvisible := visible_fat hk
  have hdiv : (g.fatbase * 512 + k) / 512 = g.fatbase + k / 512 := by omega
  rw [FatGeometry.Visible, hdiv] at hvisible
  obtain ⟨hok, hview, hsector⟩ := h.move hvisible.2
  refine ⟨hok, hview, fun hres => ⟨hsector hres, fun j hj => ?_⟩⟩
  have hwindow := (moveWindow g (g.fatbase + k / 512) w).2.view_window (Nat.mod_lt j (by decide))
  have haddr : (g.fatbase + k / 512) * 512 + j % 512 = g.fatbase * 512 + j := by omega
  rw [hsector hres, haddr, hview _ (visible_fat (by omega))] at hwindow
  exact hwindow.symm

/-- A double word in the window. -/
theorem getDword_window {m : CellMemory UInt8} {clst : ℕ}
    (hwin : ∀ j, j / 512 = clst * 4 / 512 → w.win (j % 512) = m j) :
    getDword w.win (clst * 4 % 512) = getDword m (clst * 4) := by
  have hbyte : ∀ i < 4, w.win (clst * 4 % 512 + i) = m (clst * 4 + i) := by
    intro i hi
    have hmod : (clst * 4 + i) % 512 = clst * 4 % 512 + i := by omega
    rw [← hmod]
    exact hwin _ (by omega)
  rw [getDword, getDword, hbyte 1 (by decide), hbyte 2 (by decide), hbyte 3 (by decide)]
  exact congrArg (fun b : UInt8 => _ ||| b.toNat) (hbyte 0 (by decide))

/-- **`get_fat`** returns the entry, unless the disk fails. -/
theorem Ok.getFat (h : w.Ok g) {clst : ℕ} (hmin : 2 ≤ clst) (hmax : clst < g.nFatent) :
    (getFat g clst w).2.Ok g ∧ SameView g w (getFat g clst w).2 ∧
      ((getFat g clst w).1 = 0xFFFFFFFF ∨ (getFat g clst w).1 = w.entry g clst) := by
  have hfits := start_le hmax
  rw [RtuShuiwen.getFat, if_neg (by omega), entry]
  cases htype : g.fsType with
  | fat12 =>
      rw [htype] at hfits
      have hfits : clst + clst / 2 + 2 ≤ g.fsize * 512 := hfits
      obtain ⟨hok, hview, hwin⟩ := h.moveFat (k := clst + clst / 2) (by omega)
      dsimp only
      split
      · next w₁ hmove =>
          rw [hmove] at hok hview hwin
          obtain ⟨hok', hview', hwin'⟩ := hok.moveFat (k := clst + clst / 2 + 1) (by omega)
          split
          · next w₂ hmove' =>
              rw [hmove'] at hok' hview' hwin'
              refine ⟨hok', hview.trans hview', Or.inr ?_⟩
              have h0 : w₁.win ((clst + clst / 2) % 512) = w.fat g (clst + clst / 2) := (hwin rfl).2 _ rfl
              have h1 : w₂.win ((clst + clst / 2 + 1) % 512) = w₁.fat g (clst + clst / 2 + 1) := (hwin' rfl).2 _ rfl
              rw [h0, h1, hview.fat (by omega)]
              rfl
          · next w₂ hmove' =>
              rw [hmove'] at hok' hview'
              exact ⟨hok', hview.trans hview', Or.inl rfl⟩
      · next w₁ hmove =>
          rw [hmove] at hok hview
          exact ⟨hok, hview, Or.inl rfl⟩
  | fat16 =>
      rw [htype] at hfits
      have hfits : clst * 2 + 2 ≤ g.fsize * 512 := hfits
      obtain ⟨hok, hview, hwin⟩ := h.moveFat (k := clst * 2) (by omega)
      have hsect : clst / (512 / 2) = clst * 2 / 512 := by omega
      dsimp only
      rw [hsect]
      split
      · next w₁ hmove =>
          rw [hmove] at hok hview hwin
          refine ⟨hok, hview, Or.inr ?_⟩
          have h0 : w₁.win (clst * 2 % 512) = w.fat g (clst * 2) := (hwin rfl).2 _ rfl
          have h1 : w₁.win ((clst * 2 + 1) % 512) = w.fat g (clst * 2 + 1) := (hwin rfl).2 _ (by omega)
          have hmod : (clst * 2 + 1) % 512 = clst * 2 % 512 + 1 := by omega
          rw [hmod] at h1
          change getWord w₁.win (clst * 2 % 512) = getWord (w.fat g) (clst * 2)
          rw [getWord, getWord, h0, h1]
      · next w₁ hmove =>
          rw [hmove] at hok hview
          exact ⟨hok, hview, Or.inl rfl⟩
  | fat32 =>
      rw [htype] at hfits
      have hfits : clst * 4 + 4 ≤ g.fsize * 512 := hfits
      obtain ⟨hok, hview, hwin⟩ := h.moveFat (k := clst * 4) (by omega)
      have hsect : clst / (512 / 4) = clst * 4 / 512 := by omega
      dsimp only
      rw [hsect]
      split
      · next w₁ hmove =>
          rw [hmove] at hok hview hwin
          refine ⟨hok, hview, Or.inr ?_⟩
          change getDword w₁.win (clst * 4 % 512) &&& 0x0FFFFFFF = getDword (w.fat g) (clst * 4) &&& 0x0FFFFFFF
          rw [getDword_window fun j hj => (hwin rfl).2 j hj]
      · next w₁ hmove =>
          rw [hmove] at hok hview
          exact ⟨hok, hview, Or.inl rfl⟩

/-- What a change of the volume looks like: some bytes from an address on, and nothing else that can be seen. -/
def Changes (g : FatGeometry) (w w' : FatWindow) (a : ℕ) (bs : List UInt8) : Prop :=
  ∀ x, g.Visible x → w'.view x = patch w.view a bs x

/-- Bytes are set in the window over a sector of the FAT. -/
theorem Ok.setFat (h : w.Ok g) {k : ℕ} (hk : k < g.fsize * 512) (hsector : w.winsect = g.fatbase + k / 512)
    (bs : List UInt8) (hbs : k % 512 + bs.length ≤ 512) :
    (w.set (k % 512) bs).Ok g ∧ Changes g w (w.set (k % 512) bs) (g.fatbase * 512 + k) bs := by
  have hlt : w.winsect < 0xFFFFFFFF := by
    have hvisible := (visible_fat hk).1
    omega
  obtain ⟨hok, hview⟩ := h.set hlt hbs
  refine ⟨hok, fun x _ => ?_⟩
  have haddr : w.winsect * 512 + k % 512 = g.fatbase * 512 + k := by omega
  rw [hview, haddr]

/-- A change behind a move of the window. -/
theorem SameView.changes {w'' : FatWindow} (h : SameView g w w') {a : ℕ} {bs : List UInt8}
    (h' : Changes g w' w'' a bs) : Changes g w w'' a bs :=
  fun x hx => (h' x hx).trans (patch_congr (h x hx) a bs)

/-- **`put_fat`** writes the bytes of the entry, or it fails and writes nothing, or of a 12-bit entry the first byte
only. -/
theorem Ok.putFat (h : w.Ok g) {clst : ℕ} (hmin : 2 ≤ clst) (hmax : clst < g.nFatent) (val : ℕ) :
    (putFat g clst val w).2.Ok g ∧
      (((putFat g clst val w).1 = .ok ∧ Changes g w (putFat g clst val w).2
          (g.fatbase * 512 + g.fsType.width.start clst) (putBytes (w.fat g) clst val g.fsType.width)) ∨
        ((putFat g clst val w).1 = .diskErr ∧ SameView g w (putFat g clst val w).2) ∨
        ((putFat g clst val w).1 = .diskErr ∧ g.fsType = .fat12 ∧ Changes g w (putFat g clst val w).2
          (g.fatbase * 512 + (clst + clst / 2)) [first12 (clst % 2 = 1) (w.fat g (clst + clst / 2)) val])) := by
  have hfits := start_le hmax
  rw [RtuShuiwen.putFat, if_neg (by omega)]
  cases htype : g.fsType with
  | fat12 =>
      rw [htype] at hfits
      have hfits : clst + clst / 2 + 2 ≤ g.fsize * 512 := hfits
      obtain ⟨hok, hview, hwin⟩ := h.moveFat (k := clst + clst / 2) (by omega)
      dsimp only
      split
      · next w₁ hmove =>
          rw [hmove] at hok hview hwin
          obtain ⟨hsector, hbyte⟩ := hwin rfl
          have hfirst : w₁.win ((clst + clst / 2) % 512) = w.fat g (clst + clst / 2) := hbyte _ rfl
          rw [hfirst]
          obtain ⟨hok₁, hset₁⟩ := hok.setFat (k := clst + clst / 2) (by omega) hsector
            [first12 (clst % 2 = 1) (w.fat g (clst + clst / 2)) val] (Nat.mod_lt _ (by decide))
          have hchange₁ := hview.changes hset₁
          obtain ⟨hok₂, hview₂, hwin₂⟩ := hok₁.moveFat (k := clst + clst / 2 + 1) (by omega)
          -- the first byte is set; when the window cannot be moved to the second one the entry is written by half
          split
          · next w₂ hmove₂ =>
              rw [hmove₂] at hok₂ hview₂ hwin₂
              obtain ⟨hsector₂, hbyte₂⟩ := hwin₂ rfl
              have hsecond : w₂.win ((clst + clst / 2 + 1) % 512) = w.fat g (clst + clst / 2 + 1) := by
                have hne := patch_of_ge w.view (a := g.fatbase * 512 + (clst + clst / 2))
                  [first12 (clst % 2 = 1) (w.fat g (clst + clst / 2)) val]
                  (x := g.fatbase * 512 + (clst + clst / 2 + 1)) (by rw [List.length_singleton]; omega)
                exact (hbyte₂ (clst + clst / 2 + 1) rfl).trans ((hchange₁ _ (visible_fat (by omega))).trans hne)
              rw [hsecond]
              obtain ⟨hok₃, hset₃⟩ := hok₂.setFat (k := clst + clst / 2 + 1) (by omega) hsector₂
                [second12 (clst % 2 = 1) (w.fat g (clst + clst / 2 + 1)) val] (Nat.mod_lt _ (by decide))
              refine ⟨hok₃, Or.inl ⟨rfl, fun x hx => ?_⟩⟩
              have hpatch := patch_append w.view (g.fatbase * 512 + (clst + clst / 2))
                [first12 (clst % 2 = 1) (w.fat g (clst + clst / 2)) val]
                [second12 (clst % 2 = 1) (w.fat g (clst + clst / 2 + 1)) val]
              have haddr : g.fatbase * 512 + (clst + clst / 2 + 1) = g.fatbase * 512 + (clst + clst / 2) +
                  [first12 (clst % 2 = 1) (w.fat g (clst + clst / 2)) val].length := by
                rw [List.length_singleton]
                omega
              have hboth := (hview₂.changes hset₃) x hx
              rw [haddr, patch_congr (hchange₁ x hx)] at hboth
              exact hboth.trans (congrFun hpatch x).symm
          · next hfailed =>
              exact ⟨hok₂, Or.inr (Or.inr ⟨moveWindow_fails fun w' => hfailed w', rfl, fun x hx =>
                (hview₂ x hx).trans (hchange₁ x hx)⟩)⟩
      · next hfailed => exact ⟨hok, Or.inr (Or.inl ⟨moveWindow_fails fun w' => hfailed w', hview⟩)⟩
  | fat16 =>
      rw [htype] at hfits
      have hfits : clst * 2 + 2 ≤ g.fsize * 512 := hfits
      obtain ⟨hok, hview, hwin⟩ := h.moveFat (k := clst * 2) (by omega)
      have hsect : clst / (512 / 2) = clst * 2 / 512 := by omega
      dsimp only
      rw [hsect]
      split
      · next w₁ hmove =>
          rw [hmove] at hok hview hwin
          obtain ⟨hok', hset⟩ := hok.setFat (k := clst * 2) (by omega) (hwin rfl).1 (wordBytes val)
            (by change _ + 2 ≤ 512; omega)
          exact ⟨hok', Or.inl ⟨rfl, hview.changes hset⟩⟩
      · next hfailed => exact ⟨hok, Or.inr (Or.inl ⟨moveWindow_fails fun w' => hfailed w', hview⟩)⟩
  | fat32 =>
      rw [htype] at hfits
      have hfits : clst * 4 + 4 ≤ g.fsize * 512 := hfits
      obtain ⟨hok, hview, hwin⟩ := h.moveFat (k := clst * 4) (by omega)
      have hsect : clst / (512 / 4) = clst * 4 / 512 := by omega
      dsimp only
      rw [hsect]
      split
      · next w₁ hmove =>
          rw [hmove] at hok hview hwin
          rw [getDword_window fun j hj => (hwin rfl).2 j hj]
          obtain ⟨hok', hset⟩ := hok.setFat (k := clst * 4) (by omega) (hwin rfl).1
            (dwordBytes (val ||| (getDword (w.fat g) (clst * 4) &&& 0xF0000000)))
            (by change _ + 4 ≤ 512; omega)
          exact ⟨hok', Or.inl ⟨rfl, hview.changes hset⟩⟩
      · next hfailed => exact ⟨hok, Or.inr (Or.inl ⟨moveWindow_fails fun w' => hfailed w', hview⟩)⟩

/-! ## What becomes of the entries -/

/-- A change in the FAT. -/
theorem Changes.fat {a : ℕ} {bs : List UInt8} (h : Changes g w w' (g.fatbase * 512 + a) bs) {k : ℕ}
    (hk : k < g.fsize * 512) : w'.fat g k = patch (w.fat g) a bs k := by
  have hview := h _ (visible_fat hk)
  obtain ⟨i, hi, rfl, hpatch⟩ | ⟨hout, hpatch⟩ := patch_cases (w.fat g) a bs k
  · rw [← Nat.add_assoc, patch_add _ _ _ _ hi] at hview
    rw [hpatch, ← hview, Nat.add_assoc]
    rfl
  · rw [hpatch]
    obtain hlt | hge := hout
    · rw [patch_of_lt w.view bs (by omega)] at hview
      exact hview
    · rw [patch_of_ge w.view bs (by omega)] at hview
      exact hview

/-- A change in the FAT is none elsewhere. -/
theorem Changes.outside {a : ℕ} {bs : List UInt8} (h : Changes g w w' (g.fatbase * 512 + a) bs)
    (hfits : a + bs.length ≤ g.fsize * 512) {x : ℕ} (hx : g.Visible x)
    (hout : x < g.fatbase * 512 ∨ (g.fatbase + g.fsize) * 512 ≤ x) : w'.view x = w.view x := by
  have hrange : x < g.fatbase * 512 + a ∨ g.fatbase * 512 + a + bs.length ≤ x := by
    refine hout.imp (fun hlt => Nat.lt_add_right a hlt) fun hge => le_trans ?_ hge
    rw [Nat.add_assoc, Nat.add_mul]
    exact Nat.add_le_add_left hfits _
  exact (h x hx).trans (hrange.elim (patch_of_lt w.view bs) (patch_of_ge w.view bs))

/-- Outside the FAT nothing that can be seen has changed. -/
def SameOutside (g : FatGeometry) (w w' : FatWindow) : Prop :=
  ∀ x, g.Visible x → (x < g.fatbase * 512 ∨ (g.fatbase + g.fsize) * 512 ≤ x) → w'.view x = w.view x

/-- Nothing has changed there at all. -/
theorem SameView.outside (h : SameView g w w') : SameOutside g w w' := fun x hx _ => h x hx

/-- One after the other. -/
theorem SameOutside.trans {w'' : FatWindow} (h : SameOutside g w w') (h' : SameOutside g w' w'') :
    SameOutside g w w'' := fun x hx hout => (h' x hx hout).trans (h x hx hout)

/-- Only one entry changes, and nothing outside the FAT. -/
structure SetsEntry (g : FatGeometry) (w w' : FatWindow) (clst : ℕ) : Prop where
  ok : w'.Ok g
  others : ∀ c < g.nFatent, c ≠ clst → w'.entry g c = w.entry g c
  outside : SameOutside g w w'

/-- A change of contents that is none sets no entry. -/
theorem SameView.setsEntry (h : SameView g w w') (hok : w'.Ok g) (clst : ℕ) : SetsEntry g w w' clst :=
  ⟨hok, fun _ hc _ => h.entry hc, fun x hx _ => h x hx⟩

/-- An entry written whole. -/
theorem Changes.entry {clst val : ℕ} (hmax : clst < g.nFatent) (hval : val < 2 ^ 28)
    (h : Changes g w w' (g.fatbase * 512 + g.fsType.width.start clst) (putBytes (w.fat g) clst val g.fsType.width)) :
    w'.entry g clst = val % 2 ^ g.fsType.width.bits ∧ ∀ c < g.nFatent, c ≠ clst → w'.entry g c = w.entry g c := by
  have hput : ∀ c < g.nFatent, w'.entry g c = get (put (w.fat g) clst val g.fsType.width) c g.fsType.width := by
    intro c hc
    have hfits := start_le hc
    exact get_congr fun i hi => h.fat (by omega)
  refine ⟨?_, fun c hc hne => ?_⟩
  · rw [hput clst hmax, get_put_self _ _ hval]
  · rw [hput c hc, get_put_ne _ hne]
    rfl

/-- **`put_fat` on the table**: the entry has the new value, or the disk failed, and then the entry is as it was
unless it has 12 bits. -/
theorem Ok.putFat_entry (h : w.Ok g) {clst val : ℕ} (hmin : 2 ≤ clst) (hmax : clst < g.nFatent)
    (hval : val < 2 ^ 28) :
    SetsEntry g w (RtuShuiwen.putFat g clst val w).2 clst ∧
      (((RtuShuiwen.putFat g clst val w).1 = .ok ∧
          (RtuShuiwen.putFat g clst val w).2.entry g clst = val % 2 ^ g.fsType.width.bits) ∨
        ((RtuShuiwen.putFat g clst val w).1 = .diskErr ∧
          (g.fsType = .fat12 ∨ (RtuShuiwen.putFat g clst val w).2.entry g clst = w.entry g clst))) := by
  obtain ⟨hok, ⟨hres, hchanges⟩ | ⟨hres, hview⟩ | ⟨hres, htype, hchanges⟩⟩ := h.putFat hmin hmax val
  · obtain ⟨hself, hothers⟩ := hchanges.entry hmax hval
    refine ⟨⟨hok, hothers, fun x hx hout => hchanges.outside ?_ hx hout⟩, Or.inl ⟨hres, hself⟩⟩
    rw [length_putBytes]
    exact start_le hmax
  · exact ⟨hview.setsEntry hok clst, Or.inr ⟨hres, Or.inr (hview.entry hmax)⟩⟩
  · -- also then the half byte of the neighbour is as it was
    have hfits := start_le hmax
    rw [htype] at hfits
    have hfits : clst + clst / 2 + 2 ≤ g.fsize * 512 := hfits
    refine ⟨⟨hok, fun c hc hne => ?_, fun x hx hout => hchanges.outside ?_ hx hout⟩, Or.inr ⟨hres, Or.inl htype⟩⟩
    · rw [FatWindow.entry, FatWindow.entry, htype]
      refine Eq.trans (get_congr fun i hi => ?_) (get_put12First (w.fat g) hne val)
      have hfits' := start_le hc
      rw [htype] at hfits'
      exact hchanges.fat (by omega)
    · rw [List.length_singleton]
      omega

end FatWindow

end RtuShuiwen
