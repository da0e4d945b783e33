import RtuShuiwen.Hardware.W25qxx
import Mathlib.Logic.Function.Iterate

/-! # The transactions of `W25QXX_Write`

`W25QXX_Write` step by step: a `W25QXX_Read`, the test of the bytes read, a `W25QXX_Erase_Sector`, the loop
that fills `W25QXX_BUFFER`, and each `W25QXX_Write_Page` is one step of a `FlashWriter`, and between two
steps another task may use the chip and the buffer.

* **`FlashWriter.outcome`** says, in any state, what the chip will hold at the end of a write that is left
  alone, and `outcome_step` that no step changes it;
* **`w25qxxWrite_overwrites`**: left alone, a write replaces its bytes and no others, as `w25qxxWrite` does,
  and no page program runs past the end of its page. -/

namespace RtuShuiwen

open CellMemory

/-! ## The steps -/

/-- The chip and `W25QXX_BUFFER`. -/
structure FlashDriver where
  flash : Flash
  w25qxxBuffer : CellMemory UInt8

/-- What the `pBuffer` of `W25QXX_Write_NoCheck` points to: data of the write, or `W25QXX_BUFFER` from an
offset on. -/
inductive PageSource
  | data (bytes : List UInt8)
  | image (offset : ℕ)
  deriving DecidableEq

/-- The variables of `W25QXX_Write_NoCheck`. -/
structure NoCheckVars where
  pBuffer : PageSource
  writeAddr : ℕ
  numByteToWrite : ℕ
  pageremain : ℕ
  deriving DecidableEq

/-- Where `W25QXX_Write` stands: before `W25QXX_Read`, before the test of the bytes read, before
`W25QXX_Erase_Sector`, before the loop that fills the buffer, before a `W25QXX_Write_Page`, at the end. -/
inductive WriteStage
  | read
  | check
  | erase
  | fill
  | program (v : NoCheckVars)
  | done
  deriving DecidableEq

/-- The variables of `W25QXX_Write`; `NumByteToWrite` is the length of `pBuffer`. -/
structure FlashWriter where
  secpos : ℕ
  secoff : ℕ
  writeAddr : ℕ
  pBuffer : List UInt8
  secremain : ℕ
  stage : WriteStage

/-- `W25QXX_Write_NoCheck` is called. -/
def NoCheckVars.start (pBuffer : PageSource) (writeAddr numByteToWrite : ℕ) : NoCheckVars :=
  ⟨pBuffer, writeAddr, numByteToWrite, turnLength (256 - writeAddr % 256) numByteToWrite⟩

/-- The bytes it has still to program. -/
def NoCheckVars.bytes (v : NoCheckVars) (w25qxxBuffer : CellMemory UInt8) : List UInt8 :=
  match v.pBuffer with
  | .data bytes => bytes
  | .image offset => slice w25qxxBuffer offset v.numByteToWrite

/-- The bytes of the next `W25QXX_Write_Page`. -/
def NoCheckVars.page (v : NoCheckVars) (w25qxxBuffer : CellMemory UInt8) : List UInt8 :=
  match v.pBuffer with
  | .data bytes => bytes.take v.pageremain
  | .image offset => slice w25qxxBuffer offset v.pageremain

/-- Behind a page that was not the last one. -/
def NoCheckVars.next (v : NoCheckVars) : NoCheckVars :=
  let numByteToWrite := v.numByteToWrite - v.pageremain
  { pBuffer :=
      match v.pBuffer with
      | .data bytes => .data (bytes.drop v.pageremain)
      | .image offset => .image (offset + v.pageremain)
    writeAddr := v.writeAddr + v.pageremain
    numByteToWrite
    pageremain := turnLength 256 numByteToWrite }

/-- `W25QXX_Write` is called. -/
def FlashWriter.start (writeAddr : ℕ) (pBuffer : List UInt8) : FlashWriter :=
  let secoff := writeAddr % 4096
  ⟨writeAddr / 4096, secoff, writeAddr, pBuffer, turnLength (4096 - secoff) pBuffer.length, .read⟩

/-- The data of this turn. -/
def FlashWriter.turnData (w : FlashWriter) : List UInt8 := w.pBuffer.take w.secremain

/-- The test of the bytes read: none asks for an erase. -/
def FlashWriter.blankCheck (w : FlashWriter) (w25qxxBuffer : CellMemory UInt8) : Bool :=
  (slice w25qxxBuffer w.secoff w.secremain).all (· == 0xff)

/-- Behind the last page of a turn. -/
def FlashWriter.nextTurn (w : FlashWriter) : FlashWriter :=
  if w.pBuffer.length = w.secremain then { w with stage := .done }
  else
    let pBuffer := w.pBuffer.drop w.secremain
    ⟨w.secpos + 1, 0, w.writeAddr + w.secremain, pBuffer, turnLength 4096 pBuffer.length, .read⟩

/-- One step of `W25QXX_Write`. -/
def FlashWriter.step (d : FlashDriver) (w : FlashWriter) : FlashDriver × FlashWriter :=
  match w.stage with
  | .read =>
      ({ d with w25qxxBuffer := patch d.w25qxxBuffer 0 (w25qxxRead d.flash (w.secpos * 4096) 4096) },
        { w with stage := .check })
  | .check =>
      (d, { w with
        stage :=
          if w.blankCheck d.w25qxxBuffer then
            .program (.start (.data w.turnData) w.writeAddr w.secremain)
          else .erase })
  | .erase => ({ d with flash := w25qxxEraseSector d.flash w.secpos }, { w with stage := .fill })
  | .fill =>
      ({ d with w25qxxBuffer := patch d.w25qxxBuffer w.secoff w.turnData },
        { w with stage := .program (.start (.image 0) (w.secpos * 4096) 4096) })
  | .program v =>
      ({ d with flash := w25qxxWritePage d.flash v.writeAddr (v.page d.w25qxxBuffer) },
        if v.numByteToWrite = v.pageremain then w.nextTurn else { w with stage := .program v.next })
  | .done => (d, w)

/-! ## What a write comes to -/

/-- The image of the sector with the data of this turn in it. -/
def FlashWriter.image (w : FlashWriter) (w25qxxBuffer : CellMemory UInt8) : List UInt8 :=
  slice (patch w25qxxBuffer w.secoff w.turnData) 0 4096

/-- The turns behind this one. -/
def FlashWriter.laterTurns (w : FlashWriter) (m : Flash) : Flash :=
  patch m (w.writeAddr + w.secremain) (w.pBuffer.drop w.secremain)

/-- **What the chip will hold at the end** of a write that is left alone. -/
def FlashWriter.outcome (w : FlashWriter) (d : FlashDriver) : Flash :=
  match w.stage with
  | .read => patch d.flash w.writeAddr w.pBuffer
  | .check =>
      w.laterTurns
        (if w.blankCheck d.w25qxxBuffer then w25qChip.programRange d.flash w.writeAddr w.turnData
        else w25qChip.programRange (w25qChip.eraseSector d.flash w.secpos) (w.secpos * 4096)
          (w.image d.w25qxxBuffer))
  | .erase =>
      w.laterTurns (w25qChip.programRange (w25qChip.eraseSector d.flash w.secpos) (w.secpos * 4096)
        (w.image d.w25qxxBuffer))
  | .fill => w.laterTurns (w25qChip.programRange d.flash (w.secpos * 4096) (w.image d.w25qxxBuffer))
  | .program v => w.laterTurns (w25qChip.programRange d.flash v.writeAddr (v.bytes d.w25qxxBuffer))
  | .done => d.flash

/-- The variables of `W25QXX_Write_NoCheck` inside a sector: where the bytes come from, and that a page
program ends at the end of its page or of the bytes. -/
structure NoCheckVars.Wf (v : NoCheckVars) (secpos : ℕ) : Prop where
  source :
    match v.pBuffer with
    | .data bytes => bytes.length = v.numByteToWrite
    | .image offset => v.writeAddr = secpos * 4096 + offset ∧ offset + v.numByteToWrite = 4096
  low : secpos * 4096 ≤ v.writeAddr
  high : v.writeAddr + v.numByteToWrite ≤ secpos * 4096 + 4096
  pos : 0 < v.pageremain
  le : v.pageremain ≤ v.numByteToWrite
  page : v.writeAddr % 256 + v.pageremain ≤ 256
  ends : v.numByteToWrite ≠ v.pageremain → v.writeAddr % 256 + v.pageremain = 256

/-- The variables of `W25QXX_Write`: a turn ends at the end of its sector or of the data, and the data end
in the chip. -/
structure FlashWriter.Wf (w : FlashWriter) : Prop where
  addr : w.writeAddr = w.secpos * 4096 + w.secoff
  pos : 0 < w.secremain
  le : w.secremain ≤ w.pBuffer.length
  fits : w.secoff + w.secremain ≤ 4096
  ends : w.pBuffer.length ≠ w.secremain → w.secoff + w.secremain = 4096
  chip : w.writeAddr + w.pBuffer.length ≤ 2 ^ 24
  program : ∀ v, w.stage = .program v → v.Wf w.secpos

section

variable {w : FlashWriter} {v : NoCheckVars} {secpos : ℕ}

theorem FlashWriter.wf_start {writeAddr : ℕ} {pBuffer : List UInt8} (hpos : 1 ≤ pBuffer.length)
    (hchip : writeAddr + pBuffer.length ≤ 2 ^ 24) : (start writeAddr pBuffer).Wf := by
  obtain ⟨hle, hfull⟩ := turnLength_spec (4096 - writeAddr % 4096) pBuffer.length
  have hmod := Nat.mod_lt writeAddr (show 0 < 4096 by decide)
  have hdiv := Nat.div_add_mod' writeAddr 4096
  refine ⟨hdiv.symm, ?_, ?_, ?_, ?_, hchip, nofun⟩ <;> simp only [start] <;> omega

/-- The sector of a turn lies in the chip. -/
theorem FlashWriter.Wf.secpos_lt (hw : w.Wf) : w.secpos < 4096 := by
  have haddr := hw.addr
  have hpos := hw.pos
  have hle := hw.le
  have hchip := hw.chip
  omega

theorem FlashWriter.Wf.length_turnData (hw : w.Wf) : w.turnData.length = w.secremain := by
  rw [turnData, List.length_take, Nat.min_eq_left hw.le]

theorem FlashWriter.length_image (w : FlashWriter) (w25qxxBuffer : CellMemory UInt8) :
    (w.image w25qxxBuffer).length = 4096 := length_slice _ _ _

theorem NoCheckVars.wf_start {pBuffer : PageSource} {writeAddr numByteToWrite : ℕ}
    (hsource :
      match pBuffer with
      | .data bytes => bytes.length = numByteToWrite
      | .image offset => writeAddr = secpos * 4096 + offset ∧ offset + numByteToWrite = 4096)
    (hlow : secpos * 4096 ≤ writeAddr) (hhigh : writeAddr + numByteToWrite ≤ secpos * 4096 + 4096)
    (hpos : 0 < numByteToWrite) : (start pBuffer writeAddr numByteToWrite).Wf secpos := by
  obtain ⟨hle, hfull⟩ := turnLength_spec (256 - writeAddr % 256) numByteToWrite
  have hmod := Nat.mod_lt writeAddr (show 0 < 256 by decide)
  refine ⟨hsource, hlow, hhigh, ?_, ?_, ?_, ?_⟩ <;> simp only [start] <;> omega

theorem NoCheckVars.Wf.next (hv : v.Wf secpos) (hmore : v.numByteToWrite ≠ v.pageremain) :
    v.next.Wf secpos := by
  obtain ⟨hle, hfull⟩ := turnLength_spec 256 (v.numByteToWrite - v.pageremain)
  have hends := hv.ends hmore
  have hpos := hv.pos
  have hpr := hv.le
  have hlow := hv.low
  have hhigh := hv.high
  have hsource := hv.source
  refine ⟨?_, ?_, ?_, ?_, ?_, ?_, ?_⟩
  · unfold NoCheckVars.next
    cases hb : v.pBuffer <;> rw [hb] at hsource <;> dsimp only at hsource ⊢
    · rw [List.length_drop, hsource]
    · omega
  all_goals
    simp only [NoCheckVars.next]
    omega

theorem NoCheckVars.Wf.length_page (hv : v.Wf secpos) (w25qxxBuffer : CellMemory UInt8) :
    (v.page w25qxxBuffer).length = v.pageremain := by
  have hsource := hv.source
  unfold NoCheckVars.page
  cases hb : v.pBuffer <;> rw [hb] at hsource
  · dsimp only at hsource ⊢
    rw [List.length_take, hsource, Nat.min_eq_left hv.le]
  · exact length_slice _ _ _

/-- The next page, and what comes behind it. -/
theorem NoCheckVars.Wf.page_append (hv : v.Wf secpos) (w25qxxBuffer : CellMemory UInt8) :
    v.page w25qxxBuffer ++ v.next.bytes w25qxxBuffer = v.bytes w25qxxBuffer := by
  unfold NoCheckVars.page bytes NoCheckVars.next
  cases v.pBuffer with
  | data bytes => exact List.take_append_drop v.pageremain bytes
  | image offset =>
      dsimp only
      rw [← slice_add, Nat.add_sub_cancel' hv.le]

/-- The last page is all that is left. -/
theorem NoCheckVars.Wf.page_last (hv : v.Wf secpos) (hlast : v.numByteToWrite = v.pageremain)
    (w25qxxBuffer : CellMemory UInt8) : v.page w25qxxBuffer = v.bytes w25qxxBuffer := by
  have hsource := hv.source
  unfold NoCheckVars.page bytes
  cases hb : v.pBuffer <;> rw [hb] at hsource <;> dsimp only at hsource ⊢
  · exact List.take_of_length_le (by omega)
  · rw [hlast]

/-- **A page program** stays in its page, and in its sector. -/
theorem NoCheckVars.Wf.writePage (hv : v.Wf secpos) (hsecpos : secpos < 4096) (m : Flash)
    (w25qxxBuffer : CellMemory UInt8) :
    w25qxxWritePage m v.writeAddr (v.page w25qxxBuffer) =
      w25qChip.programRange m v.writeAddr (v.page w25qxxBuffer) := by
  have hhigh := hv.high
  have hpos := hv.pos
  have hle := hv.le
  rw [w25qxxWritePage, addr24_of_lt (by omega)]
  refine w25qChip.programPage_eq_programRange m _ _ ?_
  rw [hv.length_page]
  exact hv.page

/-- **Every step keeps the variables in order.** -/
theorem FlashWriter.Wf.step (hw : w.Wf) (d : FlashDriver) : (w.step d).2.Wf := by
  have hlen := hw.length_turnData
  have haddr := hw.addr
  have hpos := hw.pos
  have hfits := hw.fits
  unfold FlashWriter.step
  cases hs : w.stage with
  | read => exact { hw with program := nofun }
  | check =>
      refine { hw with program := ?_ }
      dsimp only
      intro v hv
      by_cases hblank : w.blankCheck d.w25qxxBuffer = true
      · rw [if_pos hblank] at hv
        obtain rfl := WriteStage.program.inj hv
        exact NoCheckVars.wf_start hlen (by omega) (by omega) hpos
      · rw [if_neg hblank] at hv
        cases hv
  | erase => exact { hw with program := nofun }
  | fill =>
      refine { hw with program := ?_ }
      rintro v ⟨rfl⟩
      dsimp only
      exact NoCheckVars.wf_start ⟨(Nat.add_zero _).symm, Nat.zero_add _⟩ (by omega) (by omega) (by omega)
  | program v =>
      dsimp only
      by_cases hlast : v.numByteToWrite = v.pageremain
      · rw [if_pos hlast, nextTurn]
        by_cases hend : w.pBuffer.length = w.secremain
        · rw [if_pos hend]
          exact { hw with program := nofun }
        · -- the next turn begins at a sector with what is left
          rw [if_neg hend]
          obtain ⟨hle, hfull⟩ := turnLength_spec 4096 (w.pBuffer.drop w.secremain).length
          have hends := hw.ends hend
          have hle' := hw.le
          have hchip := hw.chip
          have hdrop : (w.pBuffer.drop w.secremain).length = w.pBuffer.length - w.secremain :=
            List.length_drop
          refine ⟨?_, ?_, ?_, ?_, ?_, ?_, nofun⟩ <;> dsimp only <;> omega
      · rw [if_neg hlast]
        refine { hw with program := ?_ }
        rintro v' ⟨rfl⟩
        exact (hw.program v hs).next hlast
  | done =>
      dsimp only
      exact hw

/-- The image shows in a slice of the sector what the data put into it. -/
theorem FlashWriter.Wf.image_of_slice (hw : w.Wf) {w25qxxBuffer : CellMemory UInt8} {m : Flash}
    (h : slice w25qxxBuffer 0 4096 = slice m (w.secpos * 4096) 4096) :
    w.image w25qxxBuffer = slice (patch m w.writeAddr w.turnData) (w.secpos * 4096) 4096 := by
  have hfits : w.secoff + w.turnData.length ≤ 4096 := hw.length_turnData.symm ▸ hw.fits
  have himage := slice_patch_within w25qxxBuffer 0 hfits
  rw [Nat.zero_add] at himage
  rw [image, himage, h, hw.addr, slice_patch_within m _ hfits]

/-- **Erase, fill, program is an overwrite** when the buffer holds the sector. -/
theorem FlashWriter.Wf.programRange_image (hw : w.Wf) {w25qxxBuffer : CellMemory UInt8} {m : Flash}
    (h : slice w25qxxBuffer 0 4096 = slice m (w.secpos * 4096) 4096) :
    w25qChip.programRange (w25qChip.eraseSector m w.secpos) (w.secpos * 4096) (w.image w25qxxBuffer) =
      patch m w.writeAddr w.turnData := by
  have hfits : w.secoff + w.turnData.length ≤ 4096 := hw.length_turnData.symm ▸ hw.fits
  rw [w25qChip.programRange_eq_patch _ _ _
    (by rw [w.length_image]; exact w25qChip.blank_eraseSector m w.secpos), hw.image_of_slice h, hw.addr]
  exact w25qChip.patch_eraseSector m w.secpos w.secoff w.turnData hfits

/-- **Programming in place is one** when the test of the buffer is a test of the sector. -/
theorem FlashWriter.Wf.programRange_turnData (hw : w.Wf) {w25qxxBuffer : CellMemory UInt8} {m : Flash}
    (h : slice w25qxxBuffer 0 4096 = slice m (w.secpos * 4096) 4096)
    (hblank : w.blankCheck w25qxxBuffer = true) :
    w25qChip.programRange m w.writeAddr w.turnData = patch m w.writeAddr w.turnData := by
  refine w25qChip.programRange_eq_patch _ _ _ fun i hi => ?_
  rw [hw.length_turnData] at hi
  have hfits := hw.fits
  have hcell := eq_of_slice_eq h (w.secoff + i) (by omega)
  have hmem : w25qxxBuffer (w.secoff + i) ∈ slice w25qxxBuffer w.secoff w.secremain :=
    List.mem_map.mpr ⟨i, List.mem_range.mpr hi, rfl⟩
  rw [Nat.zero_add, ← Nat.add_assoc] at hcell
  rw [hw.addr, ← hcell]
  exact eq_of_beq (List.all_eq_true.mp hblank _ hmem)

/-- The data of this turn and of the later ones. -/
theorem FlashWriter.Wf.laterTurns_patch (hw : w.Wf) (m : Flash) :
    w.laterTurns (patch m w.writeAddr w.turnData) = patch m w.writeAddr w.pBuffer := by
  rw [laterTurns]
  conv_rhs => rw [← List.take_append_drop w.secremain w.pBuffer]
  rw [patch_append, ← turnData, hw.length_turnData]

/-- What is left of a write behind the last page of a turn. -/
theorem FlashWriter.outcome_nextTurn (w : FlashWriter) (d : FlashDriver) :
    w.nextTurn.outcome d = w.laterTurns d.flash := by
  unfold nextTurn laterTurns
  by_cases hend : w.pBuffer.length = w.secremain
  · rw [if_pos hend, List.drop_eq_nil_of_le (by omega), patch_nil]
    rfl
  · rw [if_neg hend]
    rfl

/-- The read brings the sector into the buffer. -/
theorem FlashWriter.Wf.slice_read (hw : w.Wf) (d : FlashDriver) :
    slice (patch d.w25qxxBuffer 0 (w25qxxRead d.flash (w.secpos * 4096) 4096)) 0 4096 =
      slice d.flash (w.secpos * 4096) 4096 := by
  have hsecpos := hw.secpos_lt
  have hself := slice_patch_self d.w25qxxBuffer 0 (w25qxxRead d.flash (w.secpos * 4096) 4096)
  rw [length_w25qxxRead] at hself
  rw [hself]
  exact w25qxxRead_eq_slice _ (by omega)

/-- **A page program** leaves the rest to be programmed. -/
theorem FlashWriter.Wf.outcome_program (hw : w.Wf) (hs : w.stage = .program v) (m : Flash)
    (w25qxxBuffer : CellMemory UInt8) :
    (if v.numByteToWrite = v.pageremain then w.nextTurn else { w with stage := .program v.next }).outcome
        ⟨w25qxxWritePage m v.writeAddr (v.page w25qxxBuffer), w25qxxBuffer⟩ =
      w.laterTurns (w25qChip.programRange m v.writeAddr (v.bytes w25qxxBuffer)) := by
  have hv := hw.program v hs
  rw [hv.writePage hw.secpos_lt]
  by_cases hlast : v.numByteToWrite = v.pageremain
  · rw [if_pos hlast, outcome_nextTurn, hv.page_last hlast]
  · have hpage := w25qChip.programRange_append m v.writeAddr (v.page w25qxxBuffer)
      (v.next.bytes w25qxxBuffer)
    rw [hv.page_append, hv.length_page] at hpage
    rw [if_neg hlast, hpage]
    rfl

/-- **No step changes what a write comes to.** -/
theorem FlashWriter.Wf.outcome_step (hw : w.Wf) (d : FlashDriver) :
    (w.step d).2.outcome (w.step d).1 = w.outcome d := by
  unfold FlashWriter.step
  cases hs : w.stage with
  | read =>
      have hbuffer := hw.slice_read d
      have hread : w.outcome d = patch d.flash w.writeAddr w.pBuffer := by
        unfold outcome
        rw [hs]
      rw [hread, ← hw.laterTurns_patch]
      -- both branches of the test to come overwrite the bytes
      unfold outcome
      dsimp only
      split
      · next hblank => exact congrArg w.laterTurns (hw.programRange_turnData hbuffer hblank)
      · exact congrArg w.laterTurns (hw.programRange_image hbuffer)
  | check =>
      unfold outcome
      rw [hs]
      dsimp only
      by_cases hblank : w.blankCheck d.w25qxxBuffer = true
      · rw [if_pos hblank, if_pos hblank]
        rfl
      · rw [if_neg hblank, if_neg hblank]
        rfl
  | erase =>
      unfold outcome
      rw [hs]
      dsimp only
      rw [w25qxxEraseSector_eq _ hw.secpos_lt]
      rfl
  | fill =>
      unfold outcome
      rw [hs]
      rfl
  | program v =>
      have hprogram : w.outcome d =
          w.laterTurns (w25qChip.programRange d.flash v.writeAddr (v.bytes d.w25qxxBuffer)) := by
        unfold outcome
        rw [hs]
      rw [hprogram]
      exact hw.outcome_program hs d.flash d.w25qxxBuffer
  | done =>
      dsimp only

end

/-! ## A write that is left alone -/

/-- The driver and the writer after a number of steps. -/
def FlashWriter.run (d : FlashDriver) (w : FlashWriter) (k : ℕ) : FlashDriver × FlashWriter :=
  (fun dw : FlashDriver × FlashWriter => dw.2.step dw.1)^[k] (d, w)

theorem FlashWriter.run_succ (d : FlashDriver) (w : FlashWriter) (k : ℕ) :
    w.run d (k + 1) = (w.run d k).2.step (w.run d k).1 :=
  Function.iterate_succ_apply' _ _ _

/-- **What holds along the whole write**: the variables are in order, and the outcome is that of the
beginning. -/
theorem FlashWriter.Wf.run {w : FlashWriter} (hw : w.Wf) (d : FlashDriver) (k : ℕ) :
    (w.run d k).2.Wf ∧ (w.run d k).2.outcome (w.run d k).1 = w.outcome d := by
  induction k with
  | zero => exact ⟨hw, rfl⟩
  | succ k ih =>
      obtain ⟨hwf, houtcome⟩ := ih
      rw [run_succ]
      exact ⟨hwf.step _, (hwf.outcome_step _).trans houtcome⟩

/-- How much is left of a write. -/
def FlashWriter.left (w : FlashWriter) : ℕ :=
  match w.stage with
  | .read => w.pBuffer.length * 5000 + 4100
  | .check => w.pBuffer.length * 5000 + 4099
  | .erase => w.pBuffer.length * 5000 + 4098
  | .fill => w.pBuffer.length * 5000 + 4097
  | .program v => w.pBuffer.length * 5000 + v.numByteToWrite
  | .done => 0

/-- **Every step but at the end leaves less.** -/
theorem FlashWriter.Wf.left_step {w : FlashWriter} (hw : w.Wf) (d : FlashDriver) (h : w.stage ≠ .done) :
    (w.step d).2.left < w.left := by
  unfold FlashWriter.step left
  cases hs : w.stage with
  | read => exact Nat.lt_succ_self _
  | check =>
      dsimp only
      by_cases hblank : w.blankCheck d.w25qxxBuffer = true
      · rw [if_pos hblank]
        have hfits := hw.fits
        simp only [NoCheckVars.start]
        omega
      · rw [if_neg hblank]
        exact Nat.lt_succ_self _
  | erase => exact Nat.lt_succ_self _
  | fill => exact Nat.lt_succ_self _
  | program v =>
      have hv := hw.program v hs
      have hpos := hv.pos
      have hle := hv.le
      dsimp only
      by_cases hlast : v.numByteToWrite = v.pageremain
      · rw [if_pos hlast, nextTurn]
        by_cases hend : w.pBuffer.length = w.secremain
        · rw [if_pos hend]
          dsimp only
          omega
        · -- the next turn has less data
          have hpos' := hw.pos
          have hle' := hw.le
          rw [if_neg hend]
          simp only [List.length_drop]
          omega
      · rw [if_neg hlast]
        simp only [NoCheckVars.next]
        omega
  | done => exact absurd hs h

/-- **A write that is left alone comes to its end**, from any state, with its outcome in the chip. -/
theorem FlashWriter.Wf.exists_done {w : FlashWriter} (hw : w.Wf) (d : FlashDriver) :
    ∃ k, (w.run d k).2.stage = .done ∧ (w.run d k).1.flash = w.outcome d := by
  induction hleft : w.left using Nat.strong_induction_on generalizing w d with
  | _ n ih =>
      by_cases hdone : w.stage = .done
      · refine ⟨0, hdone, ?_⟩
        unfold outcome
        rw [hdone]
        rfl
      · subst hleft
        obtain ⟨k, hend, hflash⟩ := ih _ (hw.left_step d hdone) (hw.step d) (w.step d).1 rfl
        exact ⟨k + 1, hend, hflash.trans (hw.outcome_step d)⟩

/-- The counters, 16 bits wide in the code, hold the numbers they stand for here. -/
def FlashWriter.CountersFit (w : FlashWriter) : Prop :=
  w.pBuffer.length < 2 ^ 16 ∧ w.secoff < 2 ^ 16 ∧ w.secremain < 2 ^ 16 ∧
    ∀ v, w.stage = .program v → v.numByteToWrite < 2 ^ 16 ∧ v.pageremain < 2 ^ 16

/-- No step adds data. -/
theorem FlashWriter.length_step_le (w : FlashWriter) (d : FlashDriver) :
    (w.step d).2.pBuffer.length ≤ w.pBuffer.length := by
  unfold FlashWriter.step
  cases w.stage with
  | program v =>
      dsimp only
      split
      · unfold nextTurn
        split
        · exact Nat.le_refl _
        · simp
      · exact Nat.le_refl _
  | read | check | erase | fill | done => exact Nat.le_refl _

/-- **No counter overflows** along a write of at most 65535 bytes. -/
theorem FlashWriter.Wf.countersFit {w : FlashWriter} (hw : w.Wf) (hmax : w.pBuffer.length ≤ 65535)
    (d : FlashDriver) (k : ℕ) : (w.run d k).2.CountersFit := by
  have hlength : (w.run d k).2.pBuffer.length ≤ w.pBuffer.length := by
    induction k with
    | zero => exact Nat.le_refl _
    | succ k ih =>
        rw [run_succ]
        exact (length_step_le _ _).trans ih
  have hwf := (hw.run d k).1
  have hfits := hwf.fits
  refine ⟨by omega, by omega, by omega, fun v hv => ?_⟩
  have hlow := (hwf.program v hv).low
  have hhigh := (hwf.program v hv).high
  have hle := (hwf.program v hv).le
  omega

/-- **`W25QXX_Write` over NOR flash.** Whatever the chip and `W25QXX_BUFFER` hold, the bytes written are
replaced and all others stay; the steps of the code come to an end with this in the chip; on the way each
`W25QXX_Write_Page` ends in its page and no counter overflows. -/
theorem w25qxxWrite_overwrites (d : FlashDriver) (writeAddr : ℕ) (pBuffer : List UInt8)
    (hpos : 1 ≤ pBuffer.length) (hmax : pBuffer.length ≤ 65535)
    (hchip : writeAddr + pBuffer.length ≤ 2 ^ 24) :
    slice (w25qxxWrite d.flash writeAddr pBuffer) writeAddr pBuffer.length = pBuffer ∧
      (∀ x, x < writeAddr ∨ writeAddr + pBuffer.length ≤ x →
        w25qxxWrite d.flash writeAddr pBuffer x = d.flash x) ∧
      (∃ k, ((FlashWriter.start writeAddr pBuffer).run d k).2.stage = .done ∧
        ((FlashWriter.start writeAddr pBuffer).run d k).1.flash =
          w25qxxWrite d.flash writeAddr pBuffer) ∧
      (∀ k v, ((FlashWriter.start writeAddr pBuffer).run d k).2.stage = .program v →
        v.writeAddr % 256 + v.pageremain ≤ 256) ∧
      ∀ k, ((FlashWriter.start writeAddr pBuffer).run d k).2.CountersFit := by
  have hw := FlashWriter.wf_start hpos hchip
  rw [w25qxxWrite_eq_patch d.flash (by omega) hchip]
  refine ⟨slice_patch_self _ _ _, ?_, hw.exists_done d, ?_, hw.countersFit hmax d⟩
  · rintro x (hx | hx)
    · exact patch_of_lt _ _ hx
    · exact patch_of_ge _ _ hx
  · intro k v hv
    exact ((hw.run d k).1.program v hv).page

/-- Four bytes over the end of a sector, in a chip of zeros: two turns, each with an erase. -/
theorem w25qxxWrite_overwrites_twoSectors :
    (1 ≤ [1, 2, 3, 4].length ∧ [1, 2, 3, 4].length ≤ 65535 ∧ 4094 + [1, 2, 3, 4].length ≤ 2 ^ 24) ∧
      slice (w25qxxWrite (fun _ => 0) 4094 [1, 2, 3, 4]) 4094 4 = [1, 2, 3, 4] := by
  refine ⟨by decide, ?_⟩
  exact (w25qxxWrite_overwrites ⟨fun _ => 0, fun _ => 0⟩ 4094 [1, 2, 3, 4] (by decide) (by decide)
    (by decide)).1

end RtuShuiwen
