import RtuShuiwen.Hardware.W25qxxTransactions

/-! # A write among others

What a `W25QXX_Write` needs of the chip and of `W25QXX_BUFFER` while another task uses them. A write is on
course when, left alone, it comes to the result of its call. Its own steps keep it so (`OnCourse.step`), and
so do the steps of a write in other sectors as long as the buffer serves it (`OnCourse.other`); **`serves_iff`**
says that no weaker condition on the buffer would do. -/

namespace RtuShuiwen

open CellMemory

/-! ## Calls and their sectors -/

/-- A call of `W25QXX_Write` inside the chip. -/
structure WriteCall where
  writeAddr : ℕ
  pBuffer : List UInt8
  pos : 1 ≤ pBuffer.length
  chip : writeAddr + pBuffer.length ≤ 2 ^ 24

/-- The address lies in a sector that the call writes to. -/
def WriteCall.Touches (c : WriteCall) (x : ℕ) : Prop :=
  c.writeAddr / 4096 ≤ x / 4096 ∧ x / 4096 * 4096 < c.writeAddr + c.pBuffer.length

/-- What the call is to make of the chip. -/
def WriteCall.result (c : WriteCall) (m : Flash) : Flash := patch m c.writeAddr c.pBuffer

/-- Outside its bytes the call changes nothing. -/
theorem WriteCall.result_of_notMem (c : WriteCall) (m : Flash) {x : ℕ}
    (hx : x < c.writeAddr ∨ c.writeAddr + c.pBuffer.length ≤ x) : c.result m x = m x := by
  rcases hx with hx | hx
  · exact patch_of_lt _ _ hx
  · exact patch_of_ge _ _ hx

theorem WriteCall.result_of_not_touches (c : WriteCall) (m : Flash) {x : ℕ} (hx : ¬ c.Touches x) :
    c.result m x = m x := by
  refine c.result_of_notMem m ?_
  by_contra hmem
  refine hx ⟨?_, ?_⟩ <;> omega

/-- A state of the writer within the sectors of a call. -/
structure FlashWriter.Within (w : FlashWriter) (c : WriteCall) : Prop where
  wf : w.Wf
  secpos_le : c.writeAddr / 4096 ≤ w.secpos
  ends : w.writeAddr + w.pBuffer.length = c.writeAddr + c.pBuffer.length

/-! ## What the buffer has to serve -/

/-- What a state of the writer needs of a buffer `w25qxxBuffer` in the place of the one of `d`: that the test
to come does not lead to a branch that goes wrong, and that the bytes still to be taken are the same. -/
def FlashWriter.Serves (w : FlashWriter) (d : FlashDriver) (w25qxxBuffer : CellMemory UInt8) : Prop :=
  match w.stage with
  | .check =>
      if w.blankCheck w25qxxBuffer then
        List.zipWith (· &&& ·) (slice d.flash w.writeAddr w.secremain) w.turnData = w.turnData
      else
        ∀ k < 4096, k < w.secoff ∨ w.secoff + w.secremain ≤ k →
          w25qxxBuffer k = d.flash (w.secpos * 4096 + k)
  | .erase | .fill =>
      ∀ k < 4096, k < w.secoff ∨ w.secoff + w.secremain ≤ k → w25qxxBuffer k = d.w25qxxBuffer k
  | .program v =>
      match v.pBuffer with
      | .data _ => True
      | .image offset => ∀ k < 4096, offset ≤ k → w25qxxBuffer k = d.w25qxxBuffer k
  | .read | .done => True

/-- The sector is erased where the image is still to be programmed. -/
def FlashWriter.ErasedAhead (w : FlashWriter) (m : Flash) : Prop :=
  match w.stage with
  | .fill => w25qChip.Blank m (w.secpos * 4096) 4096
  | .program v =>
      match v.pBuffer with
      | .data _ => True
      | .image _ => w25qChip.Blank m v.writeAddr v.numByteToWrite
  | _ => True

/-- **The write is on course**: left alone, it comes to the result of its call. -/
structure FlashWriter.OnCourse (w : FlashWriter) (c : WriteCall) (m : Flash) (d : FlashDriver) : Prop where
  within : w.Within c
  outcome : ∀ x, c.Touches x → w.outcome d x = c.result m x
  /-- Before the test the chip holds what it held at the read. -/
  checked : w.stage = .check → ∀ x, c.Touches x →
    patch d.flash w.writeAddr w.pBuffer x = c.result m x
  erased : w.ErasedAhead d.flash

section

variable {w : FlashWriter} {c : WriteCall} {m : Flash} {d : FlashDriver}

theorem FlashWriter.within_start (c : WriteCall) : (start c.writeAddr c.pBuffer).Within c :=
  ⟨wf_start c.pos c.chip, le_refl _, rfl⟩

theorem FlashWriter.Within.touches (h : w.Within c) {x : ℕ} (hx : x / 4096 = w.secpos) : c.Touches x := by
  have haddr := h.wf.addr
  have hpos := h.wf.pos
  have hle := h.wf.le
  have hends := h.ends
  refine ⟨hx ▸ h.secpos_le, ?_⟩
  rw [hx]
  omega

/-- The cells of the sector are touched. -/
theorem FlashWriter.Within.touches_add (h : w.Within c) {k : ℕ} (hk : k < 4096) :
    c.Touches (w.secpos * 4096 + k) := h.touches (by omega)

theorem FlashWriter.Within.nextTurn (h : w.Within c) (hwf : w.nextTurn.Wf) : w.nextTurn.Within c := by
  refine ⟨hwf, ?_, ?_⟩
  · have hle := h.secpos_le
    unfold FlashWriter.nextTurn
    split <;> dsimp only <;> omega
  · have hle := h.wf.le
    have hends := h.ends
    unfold FlashWriter.nextTurn
    split <;> simp only [List.length_drop] <;> omega

/-- **Every step stays within the sectors of the call.** -/
theorem FlashWriter.Within.step (h : w.Within c) (d : FlashDriver) : (w.step d).2.Within c := by
  have hwf := h.wf.step d
  unfold FlashWriter.step at hwf ⊢
  cases hs : w.stage with
  | program v =>
      rw [hs] at hwf
      dsimp only at hwf ⊢
      by_cases hlast : v.numByteToWrite = v.pageremain
      · rw [if_pos hlast] at hwf ⊢
        exact h.nextTurn hwf
      · rw [if_neg hlast] at hwf ⊢
        exact ⟨hwf, h.secpos_le, h.ends⟩
  | read | check | erase | fill | done =>
      rw [hs] at hwf
      exact ⟨hwf, h.secpos_le, h.ends⟩

/-- **Every step leaves the other sectors alone.** -/
theorem FlashWriter.Within.flash_step (h : w.Within c) (d : FlashDriver) {x : ℕ} (hx : ¬ c.Touches x) :
    (w.step d).1.flash x = d.flash x := by
  have hne : x / 4096 ≠ w.secpos := fun heq => hx (h.touches heq)
  have hsecpos := h.wf.secpos_lt
  unfold FlashWriter.step
  cases hs : w.stage with
  | read | check | fill | done => rfl
  | erase =>
      dsimp only
      rw [w25qxxEraseSector_eq _ hsecpos]
      exact w25qChip.eraseSector_of_ne d.flash hne
  | program v =>
      have hv := h.wf.program v hs
      have hlow := hv.low
      have hhigh := hv.high
      have hpos := hv.pos
      have hle := hv.le
      dsimp only
      rw [hv.writePage hsecpos]
      refine w25qChip.programRange_of_notMem _ ?_
      rw [hv.length_page]
      omega

/-- What a write comes to at an address depends on the chip at this address only. -/
theorem FlashWriter.outcome_congr (w : FlashWriter) {d d' : FlashDriver} {x : ℕ}
    (hflash : d.flash x = d'.flash x) (hbuffer : d.w25qxxBuffer = d'.w25qxxBuffer) :
    w.outcome d x = w.outcome d' x := by
  unfold outcome
  rw [hbuffer]
  cases hs : w.stage with
  | read => exact patch_congr hflash _ _
  | check =>
      dsimp only
      split
      · exact patch_congr (w25qChip.programRange_congr hflash _ _) _ _
      · exact patch_congr (w25qChip.programRange_congr (w25qChip.eraseSector_congr hflash _) _ _) _ _
  | erase =>
      exact patch_congr (w25qChip.programRange_congr (w25qChip.eraseSector_congr hflash _) _ _) _ _
  | fill => exact patch_congr (w25qChip.programRange_congr hflash _ _) _ _
  | program v => exact patch_congr (w25qChip.programRange_congr hflash _ _) _ _
  | done => exact hflash

/-- The later turns lie behind the sector. -/
theorem FlashWriter.Wf.laterTurns_of_sector (hw : w.Wf) (m : Flash) {x : ℕ}
    (hx : x < w.secpos * 4096 + 4096) : w.laterTurns m x = m x := by
  unfold laterTurns
  by_cases hend : w.pBuffer.length = w.secremain
  · rw [List.drop_eq_nil_of_le (by omega), patch_nil]
  · have hends := hw.ends hend
    have haddr := hw.addr
    exact patch_of_lt _ _ (by omega)

theorem FlashWriter.onCourse_start (c : WriteCall) (d : FlashDriver) :
    (start c.writeAddr c.pBuffer).OnCourse c d.flash d :=
  ⟨within_start c, fun _ _ => rfl, nofun, trivial⟩

/-- Behind a turn nothing has been tested, and no image is waiting. -/
theorem FlashWriter.nextTurn_stage (w : FlashWriter) :
    w.nextTurn.stage = .done ∨ w.nextTurn.stage = .read := by
  unfold nextTurn
  split
  · exact .inl rfl
  · exact .inr rfl

/-- Only the read leads to the test. -/
theorem FlashWriter.stage_of_check (w : FlashWriter) (d : FlashDriver)
    (hcheck : (w.step d).2.stage = .check) : w.stage = .read := by
  unfold FlashWriter.step at hcheck
  cases hs : w.stage with
  | read => rfl
  | check =>
      rw [hs] at hcheck
      dsimp only at hcheck
      split at hcheck <;> cases hcheck
  | program v =>
      rw [hs] at hcheck
      dsimp only at hcheck
      by_cases hlast : v.numByteToWrite = v.pageremain
      · rw [if_pos hlast] at hcheck
        rcases w.nextTurn_stage with hstage | hstage <;> rw [hstage] at hcheck <;> cases hcheck
      · rw [if_neg hlast] at hcheck
        cases hcheck
  | erase | fill =>
      rw [hs] at hcheck
      cases hcheck
  | done =>
      rw [hs] at hcheck
      cases hs.symm.trans hcheck

/-- **The erase is what the image needs**, and programming a page of it erases nothing less. -/
theorem FlashWriter.Wf.erasedAhead_step (hw : w.Wf) (herased : w.ErasedAhead d.flash) :
    (w.step d).2.ErasedAhead (w.step d).1.flash := by
  unfold ErasedAhead at herased
  unfold FlashWriter.step
  cases hs : w.stage with
  | read => trivial
  | check =>
      dsimp only
      unfold ErasedAhead
      by_cases hblank : w.blankCheck d.w25qxxBuffer = true
      · rw [if_pos hblank]
        trivial
      · rw [if_neg hblank]
        trivial
  | erase =>
      -- from here on the whole image has to find erased cells
      dsimp only [ErasedAhead]
      rw [w25qxxEraseSector_eq _ hw.secpos_lt]
      exact w25qChip.blank_eraseSector d.flash w.secpos
  | fill =>
      rw [hs] at herased
      exact herased
  | program v =>
      have hv := hw.program v hs
      rw [hs] at herased
      dsimp only at herased ⊢
      by_cases hlast : v.numByteToWrite = v.pageremain
      · rw [if_pos hlast]
        unfold ErasedAhead
        rcases w.nextTurn_stage with hstage | hstage <;> rw [hstage] <;> trivial
      · rw [if_neg hlast]
        unfold ErasedAhead NoCheckVars.next
        cases hb : v.pBuffer with
        | data bytes => trivial
        | image offset =>
            rw [hb] at herased
            intro i hi
            dsimp only at herased hi ⊢
            -- what is left of the image lies behind the page that was programmed
            rw [hv.writePage hw.secpos_lt, Nat.add_assoc,
              w25qChip.programRange_of_notMem _ (.inr (by rw [hv.length_page]; omega))]
            exact herased _ (by omega)
  | done =>
      dsimp only
      unfold ErasedAhead
      rw [hs]
      trivial

/-- **Its own steps keep a write on course.** -/
theorem FlashWriter.OnCourse.step (h : w.OnCourse c m d) :
    (w.step d).2.OnCourse c m (w.step d).1 := by
  have hw := h.within.wf
  refine ⟨h.within.step d, fun x hx => (congrFun (hw.outcome_step d) x).trans (h.outcome x hx), ?_,
    hw.erasedAhead_step h.erased⟩
  intro hcheck
  have hs := w.stage_of_check d hcheck
  -- the read changes neither the chip nor the data
  have houtcome := h.outcome
  unfold FlashWriter.outcome at houtcome
  unfold FlashWriter.step
  rw [hs] at houtcome ⊢
  exact houtcome

/-- Another buffer in the driver. -/
def FlashDriver.withBuffer (d : FlashDriver) (w25qxxBuffer : CellMemory UInt8) : FlashDriver :=
  { d with w25qxxBuffer }

/-- A cell of the sector, when the image is programmed over erased cells. -/
theorem FlashWriter.Wf.programImage (hw : w.Wf) {m : Flash} (w25qxxBuffer : CellMemory UInt8)
    (hblank : w25qChip.Blank m (w.secpos * 4096) 4096) {k : ℕ} (hk : k < 4096) :
    w.laterTurns (w25qChip.programRange m (w.secpos * 4096) (w.image w25qxxBuffer))
        (w.secpos * 4096 + k) = patch w25qxxBuffer w.secoff w.turnData k := by
  have hlen : k < (w.image w25qxxBuffer).length := by
    rw [w.length_image]
    exact hk
  have hcell := getElem_slice (patch w25qxxBuffer w.secoff w.turnData) 0 4096 k hlen
  rw [hw.laterTurns_of_sector _ (by omega),
    w25qChip.programRange_eq_patch _ _ _ (by rw [w.length_image]; exact hblank),
    patch_add _ _ _ _ hlen]
  rw [Nat.zero_add] at hcell
  exact hcell

/-- A buffer that agrees outside the bytes of the turn gives the same image. -/
theorem FlashWriter.Wf.image_congr (hw : w.Wf) {w25qxxBuffer w25qxxBuffer' : CellMemory UInt8}
    (h : ∀ k < 4096, k < w.secoff ∨ w.secoff + w.secremain ≤ k → w25qxxBuffer k = w25qxxBuffer' k) :
    w.image w25qxxBuffer = w.image w25qxxBuffer' := by
  refine slice_congr fun k hk => ?_
  rw [Nat.zero_add]
  rcases patch_cases w25qxxBuffer w.secoff w.turnData k with ⟨i, hi, rfl, hp⟩ | ⟨hx, hp⟩
  · rw [hp, patch_add _ _ _ _ hi]
  · rw [hw.length_turnData] at hx
    rw [hp, patch_congr (h k hk hx).symm, hp]

/-- The addresses outside the bytes of the turn keep what the buffer holds. -/
theorem FlashWriter.Wf.patch_turnData (hw : w.Wf) (w25qxxBuffer : CellMemory UInt8) {k : ℕ}
    (hk : k < w.secoff ∨ w.secoff + w.secremain ≤ k) :
    patch w25qxxBuffer w.secoff w.turnData k = w25qxxBuffer k := by
  rcases hk with hk | hk
  · exact patch_of_lt _ _ hk
  · exact patch_of_ge _ _ (by rw [hw.length_turnData]; exact hk)

/-- **Two images** come to the same just when the buffers agree outside the bytes of the turn. -/
theorem FlashWriter.Within.image_iff (h : w.Within c) {m : Flash}
    (hblank : w25qChip.Blank m (w.secpos * 4096) 4096) (w25qxxBuffer w25qxxBuffer' : CellMemory UInt8) :
    (∀ k < 4096, k < w.secoff ∨ w.secoff + w.secremain ≤ k → w25qxxBuffer k = w25qxxBuffer' k) ↔
      ∀ x, c.Touches x →
        w.laterTurns (w25qChip.programRange m (w.secpos * 4096) (w.image w25qxxBuffer)) x =
          w.laterTurns (w25qChip.programRange m (w.secpos * 4096) (w.image w25qxxBuffer')) x := by
  constructor
  · intro hagree x _
    rw [h.wf.image_congr hagree]
  · intro hsame k hk hout
    have hcell := hsame _ (h.touches_add hk)
    rwa [h.wf.programImage _ hblank hk, h.wf.programImage _ hblank hk, h.wf.patch_turnData _ hout,
      h.wf.patch_turnData _ hout] at hcell

/-- **The rest of an image** comes to the same just when the buffers agree from the next byte on. -/
theorem FlashWriter.Within.page_iff (h : w.Within c) {v : NoCheckVars} (hs : w.stage = .program v)
    {offset : ℕ} (hv : v.pBuffer = .image offset) {m : Flash}
    (hblank : w25qChip.Blank m v.writeAddr v.numByteToWrite)
    (w25qxxBuffer w25qxxBuffer' : CellMemory UInt8) :
    (∀ k < 4096, offset ≤ k → w25qxxBuffer k = w25qxxBuffer' k) ↔
      ∀ x, c.Touches x →
        w.laterTurns (w25qChip.programRange m v.writeAddr (v.bytes w25qxxBuffer)) x =
          w.laterTurns (w25qChip.programRange m v.writeAddr (v.bytes w25qxxBuffer')) x := by
  have hwf := h.wf.program v hs
  have hsource := hwf.source
  rw [hv] at hsource
  obtain ⟨haddr, hend⟩ := hsource
  have hbytes : ∀ b : CellMemory UInt8, v.bytes b = slice b offset v.numByteToWrite := by
    intro b
    unfold NoCheckVars.bytes
    rw [hv]
  rw [hbytes, hbytes]
  constructor
  · intro hagree x _
    rw [slice_congr fun i hi => hagree (offset + i) (by omega) (by omega)]
  · intro hsame k hk hoffset
    obtain ⟨i, rfl⟩ := Nat.exists_eq_add_of_le hoffset
    -- on an erased cell the result is the byte of the buffer itself
    have hcell := hsame (v.writeAddr + i) (by
      rw [haddr, Nat.add_assoc]
      exact h.touches_add hk)
    have hi : i < v.numByteToWrite := by omega
    rw [h.wf.laterTurns_of_sector _ (by omega), h.wf.laterTurns_of_sector _ (by omega),
      w25qChip.programRange_add _ _ _ i (by simpa using hi),
      w25qChip.programRange_add _ _ _ i (by simpa using hi), hblank i hi, w25qChip.prog_erased,
      w25qChip.prog_erased] at hcell
    simpa using hcell

/-- **Programming in place** is an overwrite just when no bit has to be set. -/
theorem FlashWriter.Within.inPlace_iff (h : w.Within c) (m : Flash) :
    List.zipWith (· &&& ·) (slice m w.writeAddr w.secremain) w.turnData = w.turnData ↔
      ∀ x, c.Touches x →
        w.laterTurns (w25qChip.programRange m w.writeAddr w.turnData) x =
          patch m w.writeAddr w.pBuffer x := by
  have hlen := h.wf.length_turnData
  have haddr := h.wf.addr
  have hfits := h.wf.fits
  rw [← h.wf.laterTurns_patch]
  constructor
  · intro hkept x _
    refine patch_congr ?_ _ _
    rcases w25qChip.programRange_cases m w.writeAddr w.turnData x with ⟨i, hi, rfl, hp⟩ | ⟨hx, hp⟩
    · have hget := List.getElem_of_eq hkept (i := i) (by simp [hlen]; omega)
      rw [List.getElem_zipWith, getElem_slice] at hget
      rw [hp, patch_add _ _ _ _ hi]
      exact hget
    · rw [hp]
      rcases hx with hx | hx
      · rw [patch_of_lt _ _ hx]
      · rw [patch_of_ge _ _ hx]
  · intro hsame
    refine List.ext_getElem (by simp [hlen]) fun i hi hi' => ?_
    have hcell := hsame (w.writeAddr + i) (by
      rw [haddr, Nat.add_assoc]
      exact h.touches_add (by omega))
    rw [h.wf.laterTurns_of_sector _ (by omega), h.wf.laterTurns_of_sector _ (by omega),
      w25qChip.programRange_add _ _ _ i hi', patch_add _ _ _ _ hi'] at hcell
    rw [List.getElem_zipWith, getElem_slice]
    exact hcell

/-- **A buffer serves a write just when the write stays on course with it.** -/
theorem FlashWriter.OnCourse.serves_iff (h : w.OnCourse c m d) (w25qxxBuffer : CellMemory UInt8) :
    w.Serves d w25qxxBuffer ↔
      ∀ x, c.Touches x → w.outcome (d.withBuffer w25qxxBuffer) x = c.result m x := by
  have hw := h.within.wf
  have houtcome := h.outcome
  have herased := h.erased
  unfold FlashWriter.outcome at houtcome
  unfold ErasedAhead at herased
  unfold Serves FlashWriter.outcome FlashDriver.withBuffer
  cases hs : w.stage with
  | read =>
      rw [hs] at houtcome
      exact iff_of_true trivial houtcome
  | check =>
      have hchecked := h.checked hs
      dsimp only
      by_cases hblank : w.blankCheck w25qxxBuffer = true
      · rw [if_pos hblank, if_pos hblank, h.within.inPlace_iff]
        exact forall₂_congr fun x hx => by rw [hchecked x hx]
      · -- the sector itself would do as the image
        have hsector : slice (fun k => d.flash (w.secpos * 4096 + k)) 0 4096 =
            slice d.flash (w.secpos * 4096) 4096 := by
          refine List.ext_getElem (by simp) fun i _ _ => ?_
          rw [getElem_slice, getElem_slice, Nat.zero_add]
        rw [if_neg hblank, if_neg hblank,
          h.within.image_iff (w25qChip.blank_eraseSector d.flash w.secpos) w25qxxBuffer
            fun k => d.flash (w.secpos * 4096 + k),
          hw.programRange_image hsector, hw.laterTurns_patch]
        exact forall₂_congr fun x hx => by rw [hchecked x hx]
  | erase =>
      -- the buffer is what the image will be made of, and the sector will be erased
      rw [hs] at houtcome
      dsimp only at houtcome ⊢
      rw [h.within.image_iff (w25qChip.blank_eraseSector d.flash w.secpos)]
      exact forall₂_congr fun x hx => by rw [← houtcome x hx]
  | fill =>
      rw [hs] at houtcome herased
      dsimp only at houtcome ⊢
      rw [h.within.image_iff herased]
      exact forall₂_congr fun x hx => by rw [← houtcome x hx]
  | program v =>
      rw [hs] at houtcome herased
      dsimp only at houtcome herased ⊢
      cases hv : v.pBuffer with
      | data bytes =>
          -- programming in place does not look at the buffer
          refine iff_of_true trivial fun x hx => ?_
          rw [← houtcome x hx]
          unfold NoCheckVars.bytes
          rw [hv]
      | image offset =>
          rw [hv] at herased
          dsimp only
          rw [h.within.page_iff hs hv herased]
          exact forall₂_congr fun x hx => by rw [← houtcome x hx]
  | done =>
      rw [hs] at houtcome
      exact iff_of_true trivial houtcome

/-- **The steps of another write keep a write on course** when they leave its sectors alone and the buffer
serves it. -/
theorem FlashWriter.OnCourse.other (h : w.OnCourse c m d) {d' : FlashDriver}
    (hflash : ∀ x, c.Touches x → d'.flash x = d.flash x) (hserves : w.Serves d d'.w25qxxBuffer) :
    w.OnCourse c m d' := by
  refine ⟨h.within, fun x hx => ?_, fun hs x hx => ?_, ?_⟩
  · rw [← (h.serves_iff _).mp hserves x hx]
    exact w.outcome_congr (hflash x hx) rfl
  · rw [← h.checked hs x hx]
    exact patch_congr (hflash x hx) _ _
  · have herased := h.erased
    unfold ErasedAhead at herased ⊢
    cases hs : w.stage with
    | fill =>
        rw [hs] at herased
        intro i hi
        rw [hflash _ (h.within.touches_add hi)]
        exact herased i hi
    | program v =>
        rw [hs] at herased
        cases hv : v.pBuffer with
        | data bytes =>
            dsimp only
            rw [hv]
            trivial
        | image offset =>
            have hwf := h.within.wf.program v hs
            have hlow := hwf.low
            have hhigh := hwf.high
            dsimp only at herased ⊢
            rw [hv] at herased ⊢
            intro i hi
            rw [hflash _ (h.within.touches (by omega))]
            exact herased i hi
    | read | check | erase | done => trivial

end

/-- **Left alone, a write stays within its sectors.** -/
theorem FlashWriter.Within.run {w : FlashWriter} {c : WriteCall} (h : w.Within c) (d : FlashDriver) (k : ℕ) :
    (w.run d k).2.Within c ∧ ∀ x, ¬ c.Touches x → (w.run d k).1.flash x = d.flash x := by
  induction k with
  | zero => exact ⟨h, fun _ _ => rfl⟩
  | succ k ih =>
      obtain ⟨hwithin, hframe⟩ := ih
      rw [run_succ]
      exact ⟨hwithin.step _, fun x hx => (hwithin.flash_step _ hx).trans (hframe x hx)⟩

end RtuShuiwen
