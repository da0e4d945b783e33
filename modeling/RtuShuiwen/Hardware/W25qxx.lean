import RtuShuiwen.Library.NorFlash

/-! # The W25QXX flash driver

`W25QXX_Read`, `W25QXX_Write_Page`, `W25QXX_Write_NoCheck`, `W25QXX_Erase_Sector` and
`W25QXX_Write` over a NOR chip of 2²⁴ bytes with 256-byte pages and 4096-byte sectors. Addresses go
to the chip as three bytes. `w25qxxWrite_eq_patch` is the driver's contract: a write that fits the
chip is a plain overwrite, whether a sector has to be erased on the way or not. -/

namespace RtuShuiwen

open CellMemory

/-- The contents of the flash chip. -/
abbrev Flash := CellMemory UInt8

/-- The chip: programming only clears bits. -/
def w25qChip : NorChip UInt8 where
  pageSize := 256
  sectorSize := 4096
  erased := 0xff
  prog old new := old &&& new
  prog_erased := fun _ => UInt8.neg_one_and
  pageSize_pos := by decide
  sectorSize_pos := by decide

/-- The address that three address bytes can carry. -/
def addr24 (a : ℕ) : ℕ := a % 2 ^ 24

/-- `W25QXX_Read`: the address runs on inside the chip. -/
def w25qxxRead (m : Flash) (readAddr numByteToRead : ℕ) : List UInt8 :=
  (List.range numByteToRead).map fun i => m (addr24 (readAddr + i))

/-- `W25QXX_Write_Page`. -/
def w25qxxWritePage (m : Flash) (writeAddr : ℕ) (pBuffer : List UInt8) : Flash :=
  w25qChip.programPage m (addr24 writeAddr) pBuffer

/-- `W25QXX_Erase_Sector`, of the sector with number `dstAddr`. -/
def w25qxxEraseSector (m : Flash) (dstAddr : ℕ) : Flash :=
  w25qChip.eraseSector m (addr24 (dstAddr * 4096) / 4096)

/-- How many of the remaining bytes the next turn of a write takes, when it has room for `limit`. -/
def turnLength (limit numByteToWrite : ℕ) : ℕ :=
  if limit < numByteToWrite then limit else numByteToWrite

/-- A turn that leaves bytes over is a full one. -/
theorem turnLength_spec (limit n : ℕ) :
    turnLength limit n ≤ limit ∧
      (n ≠ turnLength limit n → turnLength limit n = limit ∧ turnLength limit n < n) := by
  rw [turnLength]
  split <;> omega

/-- While bytes remain after a turn, it takes some but not all of them. -/
theorem turnLength_turn {limit n : ℕ} (hpos : 0 < limit) (hne : n ≠ turnLength limit n) :
    0 < turnLength limit n ∧ turnLength limit n < n := by
  obtain ⟨heq, hlt⟩ := (turnLength_spec limit n).2 hne
  exact ⟨by omega, hlt⟩

/-- The loop of `W25QXX_Write_NoCheck`, which programs `pageremain` bytes in this turn. -/
def writeNoCheckLoop (m : Flash) (writeAddr : ℕ) (pBuffer : List UInt8) (pageremain : ℕ)
    (_hturn : pBuffer.length ≠ pageremain → 0 < pageremain ∧ pageremain < pBuffer.length) : Flash :=
  let m' := w25qxxWritePage m writeAddr (pBuffer.take pageremain)
  if h : pBuffer.length = pageremain then m'
  else
    let numByteToWrite := pBuffer.length - pageremain
    writeNoCheckLoop m' (writeAddr + pageremain) (pBuffer.drop pageremain)
      (turnLength 256 numByteToWrite)
      (by rw [List.length_drop]; exact turnLength_turn (by decide))
termination_by pBuffer.length
decreasing_by
  have hlt := _hturn h
  rw [List.length_drop]
  omega

/-- `W25QXX_Write_NoCheck` of all of `pBuffer`. -/
def w25qxxWriteNoCheck (m : Flash) (writeAddr : ℕ) (pBuffer : List UInt8) : Flash :=
  writeNoCheckLoop m writeAddr pBuffer (turnLength (256 - writeAddr % 256) pBuffer.length)
    (turnLength_turn (Nat.sub_pos_of_lt (Nat.mod_lt _ (by decide))))

/-- `W25QXX_BUF` with the bytes from `secoff` on replaced. -/
def fillBuffer (buf : List UInt8) (secoff : ℕ) (pBuffer : List UInt8) : List UInt8 :=
  buf.take secoff ++ pBuffer ++ buf.drop (secoff + pBuffer.length)

/-- One turn of `W25QXX_Write`: put `pBuffer` into sector `secpos` from offset `secoff` on,
erasing the sector first unless the target bytes are all `0xFF`. -/
def writeInSector (m : Flash) (secpos secoff writeAddr : ℕ) (pBuffer : List UInt8) : Flash :=
  let buf := w25qxxRead m (secpos * 4096) 4096
  if ((buf.drop secoff).take pBuffer.length).all (· == 0xff) then
    w25qxxWriteNoCheck m writeAddr pBuffer
  else
    w25qxxWriteNoCheck (w25qxxEraseSector m secpos) (secpos * 4096) (fillBuffer buf secoff pBuffer)

/-- The loop of `W25QXX_Write`, which writes `secremain` bytes in this turn. -/
def writeLoop (m : Flash) (secpos secoff writeAddr : ℕ) (pBuffer : List UInt8) (secremain : ℕ)
    (_hturn : pBuffer.length ≠ secremain → 0 < secremain ∧ secremain < pBuffer.length) : Flash :=
  let m' := writeInSector m secpos secoff writeAddr (pBuffer.take secremain)
  if h : pBuffer.length = secremain then m'
  else
    let numByteToWrite := pBuffer.length - secremain
    writeLoop m' (secpos + 1) 0 (writeAddr + secremain) (pBuffer.drop secremain)
      (turnLength 4096 numByteToWrite)
      (by rw [List.length_drop]; exact turnLength_turn (by decide))
termination_by pBuffer.length
decreasing_by
  have hlt := _hturn h
  rw [List.length_drop]
  omega

/-- `W25QXX_Write` of all of `pBuffer`. -/
def w25qxxWrite (m : Flash) (writeAddr : ℕ) (pBuffer : List UInt8) : Flash :=
  let secoff := writeAddr % 4096
  writeLoop m (writeAddr / 4096) secoff writeAddr pBuffer (turnLength (4096 - secoff) pBuffer.length)
    (turnLength_turn (Nat.sub_pos_of_lt (Nat.mod_lt _ (by decide))))

/-! ## Reads and single commands -/

/-- An address of the chip goes out unchanged. -/
theorem addr24_of_lt {a : ℕ} (h : a < 2 ^ 24) : addr24 a = a := Nat.mod_eq_of_lt h

/-- A read has the length asked for. -/
@[simp] theorem length_w25qxxRead (m : Flash) (a n : ℕ) : (w25qxxRead m a n).length = n := by
  simp [w25qxxRead]

/-- **A read inside the chip is a slice of its contents.** -/
theorem w25qxxRead_eq_slice (m : Flash) {a n : ℕ} (h : a + n ≤ 2 ^ 24) :
    w25qxxRead m a n = slice m a n := by
  rw [w25qxxRead, slice, List.map_inj_left]
  intro i hi
  rw [addr24_of_lt (by have := List.mem_range.mp hi; omega)]

/-- A page program that stays in its page and meets erased bytes is an overwrite. -/
theorem w25qxxWritePage_eq_patch (m : Flash) {a : ℕ} {bs : List UInt8} (hchip : a < 2 ^ 24)
    (hfit : a % 256 + bs.length ≤ 256) (hblank : w25qChip.Blank m a bs.length) :
    w25qxxWritePage m a bs = patch m a bs := by
  rw [w25qxxWritePage, addr24_of_lt hchip]
  exact w25qChip.programPage_eq_patch m a bs hfit hblank

/-- The erase of a sector of the chip. -/
theorem w25qxxEraseSector_eq (m : Flash) {k : ℕ} (hk : k < 4096) :
    w25qxxEraseSector m k = w25qChip.eraseSector m k := by
  rw [w25qxxEraseSector, addr24_of_lt (by omega), Nat.mul_div_cancel _ (by decide)]

/-- A range stays blank when something is written below it. -/
theorem blank_patch_of_ge {m : Flash} {a b n : ℕ} {bs : List UInt8}
    (hblank : w25qChip.Blank m b n) (h : a + bs.length ≤ b) :
    w25qChip.Blank (patch m a bs) b n := by
  intro i hi
  rw [patch_of_ge m bs (by omega), hblank i hi]

/-- What a turn leaves over still fits the chip. -/
theorem rest_in_chip {a n len : ℕ} (hlt : n < len) (h : a + len ≤ 2 ^ 24) :
    a + n + (len - n) ≤ 2 ^ 24 ∧ a + n < 2 ^ 24 := by omega

/-! ## `W25QXX_Write_NoCheck` -/

/-- The loop overwrites the range, when the range is blank and each turn ends at a page boundary
or at the end of the data. -/
theorem writeNoCheckLoop_eq_patch (m : Flash) (a : ℕ) (bs : List UInt8) (pageremain : ℕ)
    (hturn : bs.length ≠ pageremain → 0 < pageremain ∧ pageremain < bs.length)
    (hpage : a % 256 + pageremain ≤ 256)
    (hends : bs.length ≠ pageremain → a % 256 + pageremain = 256)
    (hchip : a + bs.length ≤ 2 ^ 24) (ha : a < 2 ^ 24) (hblank : w25qChip.Blank m a bs.length) :
    writeNoCheckLoop m a bs pageremain hturn = patch m a bs := by
  -- the induction is on the pages; every turn but the last ends at a page boundary
  fun_induction writeNoCheckLoop m a bs pageremain hturn with
  | case1 m a bs hturn m' =>
      simp only [m', List.take_length]
      exact w25qxxWritePage_eq_patch m ha hpage hblank
  | case2 m a bs pageremain hturn m' hne n ih =>
      obtain ⟨hpos, hlt⟩ := hturn hne
      have hend := hends hne
      have htake : (bs.take pageremain).length = pageremain := by
        rw [List.length_take]
        omega
      have hdrop : (bs.drop pageremain).length = n := List.length_drop
      have hm' : m' = patch m a (bs.take pageremain) := by
        refine w25qxxWritePage_eq_patch m ha (by rw [htake]; exact hpage) fun i hi => ?_
        exact hblank i (by rw [htake] at hi; omega)
      -- the page just written lies in front of the rest, which stays blank
      have hblank' : w25qChip.Blank m' (a + pageremain) (bs.drop pageremain).length := by
        rw [hm', hdrop]
        refine blank_patch_of_ge (fun i hi => ?_) (by rw [htake])
        rw [Nat.add_assoc]
        exact hblank _ (by omega)
      obtain ⟨hle, hfull⟩ := turnLength_spec 256 n
      obtain ⟨hrest, hnext⟩ := rest_in_chip hlt hchip
      rw [ih (by omega) (by omega) (hdrop ▸ hrest) hnext hblank', hm']
      conv_rhs => rw [← List.take_append_drop pageremain bs]
      rw [patch_append, htake]

/-- **A write of blank bytes is an overwrite.** -/
theorem w25qxxWriteNoCheck_eq_patch (m : Flash) {a : ℕ} {bs : List UInt8}
    (hchip : a + bs.length ≤ 2 ^ 24) (ha : a < 2 ^ 24) (hblank : w25qChip.Blank m a bs.length) :
    w25qxxWriteNoCheck m a bs = patch m a bs := by
  have hmod := Nat.mod_lt a (show 0 < 256 by decide)
  obtain ⟨hle, hfull⟩ := turnLength_spec (256 - a % 256) bs.length
  exact writeNoCheckLoop_eq_patch m a bs _ _ (by omega) (by omega) hchip ha hblank

/-! ## `W25QXX_Write` -/

/-- The range tested for blanks is the range to be written. -/
theorem blank_of_all {m : Flash} {base off n : ℕ} (hfit : off + n ≤ 4096)
    (h : (((slice m base 4096).drop off).take n).all (· == 0xff)) :
    w25qChip.Blank m (base + off) n := by
  intro i hi
  have hmem : m (base + off + i) ∈ ((slice m base 4096).drop off).take n := by
    rw [List.mem_iff_getElem]
    refine ⟨i, by simp; omega, ?_⟩
    simp [Nat.add_assoc]
  exact eq_of_beq (List.all_eq_true.mp h _ hmem)

/-- The filled buffer is what the sector is to hold. -/
theorem fillBuffer_slice (m : Flash) (base : ℕ) {off : ℕ} {bs : List UInt8}
    (hfit : off + bs.length ≤ 4096) :
    fillBuffer (slice m base 4096) off bs = slice (patch m (base + off) bs) base 4096 := by
  rw [fillBuffer, slice_patch_within m base hfit]

/-- **One turn is an overwrite** of bytes inside one sector. -/
theorem writeInSector_eq_patch (m : Flash) {secpos secoff : ℕ} {bs : List UInt8}
    (hfit : secoff + bs.length ≤ 4096) (hsec : secpos < 4096) (hoff : secoff < 4096) :
    writeInSector m secpos secoff (secpos * 4096 + secoff) bs =
      patch m (secpos * 4096 + secoff) bs := by
  have hread : w25qxxRead m (secpos * 4096) 4096 = slice m (secpos * 4096) 4096 :=
    w25qxxRead_eq_slice m (by omega)
  rw [writeInSector, hread]
  -- blank cells are programmed as they are, others after an erase of the sector
  split
  · next hall =>
      exact w25qxxWriteNoCheck_eq_patch m (by omega) (by omega) (blank_of_all hfit hall)
  · have hlen : (slice (patch m (secpos * 4096 + secoff) bs) (secpos * 4096) 4096).length = 4096 :=
      length_slice _ _ _
    rw [w25qxxEraseSector_eq m hsec, fillBuffer_slice m _ hfit,
      w25qxxWriteNoCheck_eq_patch _ (by omega) (by omega)
        (by rw [hlen]; exact w25qChip.blank_eraseSector m secpos)]
    exact w25qChip.patch_eraseSector m secpos secoff bs hfit

/-- The loop overwrites the range, when each turn ends at a sector boundary or at the end of the
data. -/
theorem writeLoop_eq_patch (m : Flash) (secpos secoff a : ℕ) (bs : List UInt8) (secremain : ℕ)
    (hturn : bs.length ≠ secremain → 0 < secremain ∧ secremain < bs.length)
    (ha : a = secpos * 4096 + secoff) (hoff : secoff < 4096) (hsec : secoff + secremain ≤ 4096)
    (hends : bs.length ≠ secremain → secoff + secremain = 4096)
    (hchip : a + bs.length ≤ 2 ^ 24) (hlt : a < 2 ^ 24) :
    writeLoop m secpos secoff a bs secremain hturn = patch m a bs := by
  -- the induction is on the sectors
  fun_induction writeLoop m secpos secoff a bs secremain hturn with
  | case1 m secpos secoff a bs hturn m' =>
      subst ha
      simp only [m', List.take_length]
      exact writeInSector_eq_patch m hsec (by omega) hoff
  | case2 m secpos secoff a bs secremain hturn m' hne n ih =>
      subst ha
      obtain ⟨hpos, hlt'⟩ := hturn hne
      have hend := hends hne
      have htake : (bs.take secremain).length = secremain := by
        rw [List.length_take]
        omega
      have hdrop : (bs.drop secremain).length = n := List.length_drop
      have hm' : m' = patch m (secpos * 4096 + secoff) (bs.take secremain) :=
        writeInSector_eq_patch m (by rw [htake]; exact hsec) (by omega) hoff
      obtain ⟨hle, hfull⟩ := turnLength_spec 4096 n
      obtain ⟨hrest, hnext⟩ := rest_in_chip hlt' hchip
      rw [ih (by omega) (by omega) (by omega) (by omega) (hdrop ▸ hrest) hnext, hm']
      conv_rhs => rw [← List.take_append_drop secremain bs]
      rw [patch_append, htake]

/-- **`W25QXX_Write` is an overwrite**: whatever the chip holds, the bytes written are replaced and
all others keep their values. -/
theorem w25qxxWrite_eq_patch (m : Flash) {a : ℕ} {bs : List UInt8} (ha : a < 2 ^ 24)
    (hchip : a + bs.length ≤ 2 ^ 24) : w25qxxWrite m a bs = patch m a bs := by
  have hmod := Nat.mod_lt a (show 0 < 4096 by decide)
  obtain ⟨hle, hfull⟩ := turnLength_spec (4096 - a % 4096) bs.length
  exact writeLoop_eq_patch m _ _ a bs _ _ (Nat.div_add_mod' a 4096).symm hmod (by omega) (by omega)
    hchip ha

end RtuShuiwen
