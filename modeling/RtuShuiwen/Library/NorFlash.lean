import RtuShuiwen.Library.CellMemory
import Mathlib.Data.Nat.ModEq

/-! # NOR flash memories

A NOR flash chip programs cells inside one page and erases whole sectors. Programming only moves
a cell away from its erased value (`prog` combines the stored value with the new one) and the
address wraps inside the page; erasing resets a whole sector. `programPage_eq_patch` says when a
page program is a plain overwrite and `patch_eraseSector` when an erase followed by reprogramming the whole
sector is one. -/

/-- The fixed parameters of a NOR flash chip with cells of type `α`. -/
structure NorChip (α : Type*) where
  /-- Cells in a page: the unit inside which a program command wraps. -/
  pageSize : ℕ
  /-- Cells in a sector: the unit of an erase. -/
  sectorSize : ℕ
  /-- The value of an erased cell. -/
  erased : α
  /-- What a cell holds after a value is programmed over it. -/
  prog : α → α → α
  /-- An erased cell takes any value. -/
  prog_erased : ∀ b, prog erased b = b
  /-- A page is not empty. -/
  pageSize_pos : 0 < pageSize
  /-- A sector is not empty. -/
  sectorSize_pos : 0 < sectorSize

namespace NorChip

open CellMemory

variable {α : Type*} (chip : NorChip α)

/-! ## The two commands -/

/-- Page program at address `a`: the bytes go to `a`, `a + 1`, … inside the page of `a`, wrapping
to its start, and each is combined with what the cell held. -/
def programPage (m : CellMemory α) (a : ℕ) (bs : List α) : CellMemory α :=
  fun x =>
    if x / chip.pageSize = a / chip.pageSize then
      match bs[(x + chip.pageSize - a % chip.pageSize) % chip.pageSize]? with
      | some b => chip.prog (m x) b
      | none => m x
    else m x

/-- Erase of sector `k`. -/
def eraseSector (m : CellMemory α) (k : ℕ) : CellMemory α :=
  fun x => if x / chip.sectorSize = k then chip.erased else m x

/-- The cells of a range are all erased. -/
def Blank (m : CellMemory α) (a n : ℕ) : Prop := ∀ i < n, m (a + i) = chip.erased

/-! ## Programming -/

/-- Offsets that do not reach the end of the page stay in it. -/
theorem add_div_pageSize {a i : ℕ} (h : a % chip.pageSize + i < chip.pageSize) :
    (a + i) / chip.pageSize = a / chip.pageSize := by
  have hpos := chip.pageSize_pos
  rw [← Nat.div_add_mod a chip.pageSize, Nat.add_assoc, Nat.mul_add_div hpos,
    Nat.mul_add_div hpos, Nat.div_eq_of_lt h, Nat.div_eq_of_lt (Nat.mod_lt _ hpos)]

/-- The offset in the buffer at which a cell of the addressed page is programmed. -/
theorem page_offset {a x : ℕ} (hx : x / chip.pageSize = a / chip.pageSize) :
    (x + chip.pageSize - a % chip.pageSize) % chip.pageSize =
      if a ≤ x then x - a else x + chip.pageSize - a := by
  have hpos := chip.pageSize_pos
  have hx' := Nat.div_add_mod x chip.pageSize
  have ha' := Nat.div_add_mod a chip.pageSize
  have hxlt := Nat.mod_lt x hpos
  have halt := Nat.mod_lt a hpos
  rw [hx] at hx'
  split
  · -- a cell at or behind the address
    have hle : x + chip.pageSize - a % chip.pageSize =
        (x - a) + chip.pageSize * (a / chip.pageSize + 1) := by
      rw [Nat.mul_add, Nat.mul_one]; omega
    rw [hle, Nat.add_mul_mod_self_left, Nat.mod_eq_of_lt (by omega)]
  · have hle : x + chip.pageSize - a % chip.pageSize =
        (x + chip.pageSize - a) + chip.pageSize * (a / chip.pageSize) := by omega
    rw [hle, Nat.add_mul_mod_self_left, Nat.mod_eq_of_lt (by omega)]

/-- What programming a range leaves, however it is divided into pages: each value is combined with
what its cell held. -/
def programRange (m : CellMemory α) (a : ℕ) (bs : List α) : CellMemory α :=
  fun x => if a ≤ x then (bs[x - a]?).elim (m x) (chip.prog (m x)) else m x

/-- Every cell is either in the programmed range, at some offset, or left alone. -/
theorem programRange_cases (m : CellMemory α) (a : ℕ) (bs : List α) (x : ℕ) :
    (∃ i, ∃ h : i < bs.length, x = a + i ∧ chip.programRange m a bs x = chip.prog (m x) bs[i]) ∨
      ((x < a ∨ a + bs.length ≤ x) ∧ chip.programRange m a bs x = m x) := by
  by_cases hlt : x < a
  · refine .inr ⟨.inl hlt, ?_⟩
    rw [programRange, if_neg (by omega)]
  by_cases hge : a + bs.length ≤ x
  · refine .inr ⟨.inr hge, ?_⟩
    rw [programRange, if_pos (by omega), List.getElem?_eq_none (by omega), Option.elim_none]
  · have hi : x - a < bs.length := by omega
    refine .inl ⟨x - a, hi, by omega, ?_⟩
    rw [programRange, if_pos (by omega), List.getElem?_eq_getElem hi, Option.elim_some]

/-- Inside the range each value is combined with what its cell held. -/
theorem programRange_add (m : CellMemory α) (a : ℕ) (bs : List α) (i : ℕ) (h : i < bs.length) :
    chip.programRange m a bs (a + i) = chip.prog (m (a + i)) bs[i] := by
  rw [programRange, if_pos (Nat.le_add_right a i), Nat.add_sub_cancel_left,
    List.getElem?_eq_getElem h, Option.elim_some]

/-- Outside it nothing changes. -/
theorem programRange_of_notMem (m : CellMemory α) {a x : ℕ} {bs : List α}
    (h : x < a ∨ a + bs.length ≤ x) : chip.programRange m a bs x = m x := by
  rcases chip.programRange_cases m a bs x with ⟨i, hi, rfl, -⟩ | ⟨-, hp⟩
  · omega
  · exact hp

/-- A cell after programming depends on this cell only. -/
theorem programRange_congr {m m' : CellMemory α} {x : ℕ} (h : m x = m' x) (a : ℕ) (bs : List α) :
    chip.programRange m a bs x = chip.programRange m' a bs x := by
  rw [programRange, programRange, h]

/-- Programming a concatenation is programming its parts one after the other. -/
theorem programRange_append (m : CellMemory α) (a : ℕ) (bs cs : List α) :
    chip.programRange m a (bs ++ cs) =
      chip.programRange (chip.programRange m a bs) (a + bs.length) cs := by
  funext x
  rcases chip.programRange_cases m a bs x with ⟨i, hi, rfl, hp⟩ | ⟨hx, hp⟩
  · have hlen : i < (bs ++ cs).length := by
      rw [List.length_append]
      omega
    rw [chip.programRange_add m a (bs ++ cs) i hlen, List.getElem_append_left hi,
      chip.programRange_of_notMem _ (.inl (by omega)), hp]
  · rw [programRange, programRange, hp]
    by_cases hlt : x < a
    · rw [if_neg (by omega), if_neg (by omega)]
    · rw [if_pos (by omega), if_pos (by omega), List.getElem?_append_right (by omega),
        Nat.sub_add_eq]

/-- **Over erased cells it is a plain overwrite.** -/
theorem programRange_eq_patch (m : CellMemory α) (a : ℕ) (bs : List α)
    (hblank : chip.Blank m a bs.length) : chip.programRange m a bs = patch m a bs := by
  funext x
  rcases chip.programRange_cases m a bs x with ⟨i, hi, rfl, hp⟩ | ⟨hx, hp⟩
  · rw [hp, patch_add m a bs i hi, hblank i hi, chip.prog_erased]
  · rw [hp]
    rcases hx with hx | hx
    · rw [patch_of_lt m bs hx]
    · rw [patch_of_ge m bs hx]

/-- **A program that stays in its page programs its range.** -/
theorem programPage_eq_programRange (m : CellMemory α) (a : ℕ) (bs : List α)
    (hfit : a % chip.pageSize + bs.length ≤ chip.pageSize) :
    chip.programPage m a bs = chip.programRange m a bs := by
  funext x
  rcases chip.programRange_cases m a bs x with ⟨i, hi, rfl, hp⟩ | ⟨hx, hp⟩
  · have hpage := chip.add_div_pageSize (a := a) (i := i) (by omega)
    rw [hp, programPage, if_pos hpage, chip.page_offset hpage, if_pos (Nat.le_add_right a i),
      Nat.add_sub_cancel_left, List.getElem?_eq_getElem hi]
  · rw [hp, programPage]
    split
    · next hpage =>
        -- outside the range, but in the page: the wrapped offset is past the end of the buffer
        have hx' := Nat.div_add_mod x chip.pageSize
        have ha' := Nat.div_add_mod a chip.pageSize
        rw [hpage] at hx'
        rw [chip.page_offset hpage, List.getElem?_eq_none]
        split <;> omega
    · rfl

/-- **A program that stays in its page and meets only erased cells is a plain overwrite.** -/
theorem programPage_eq_patch (m : CellMemory α) (a : ℕ) (bs : List α)
    (hfit : a % chip.pageSize + bs.length ≤ chip.pageSize)
    (hblank : chip.Blank m a bs.length) :
    chip.programPage m a bs = patch m a bs := by
  rw [chip.programPage_eq_programRange m a bs hfit, chip.programRange_eq_patch m a bs hblank]

/-! ## Erasing -/

/-- An erased sector is blank. -/
theorem blank_eraseSector (m : CellMemory α) (k : ℕ) :
    chip.Blank (chip.eraseSector m k) (k * chip.sectorSize) chip.sectorSize := by
  intro i hi
  rw [eraseSector, if_pos]
  rw [Nat.mul_comm, Nat.mul_add_div chip.sectorSize_pos, Nat.div_eq_of_lt hi, Nat.add_zero]

/-- A cell after an erase depends on this cell only. -/
theorem eraseSector_congr {m m' : CellMemory α} {x : ℕ} (h : m x = m' x) (k : ℕ) :
    chip.eraseSector m k x = chip.eraseSector m' k x := by
  rw [eraseSector, eraseSector, h]

/-- An erase touches its sector only. -/
theorem eraseSector_of_ne (m : CellMemory α) {k x : ℕ} (h : x / chip.sectorSize ≠ k) :
    chip.eraseSector m k x = m x := if_neg h

/-- A cell outside the range of a sector is not in the sector. -/
theorem div_sectorSize_ne {k x : ℕ}
    (h : x < k * chip.sectorSize ∨ k * chip.sectorSize + chip.sectorSize ≤ x) :
    x / chip.sectorSize ≠ k := by
  rintro rfl
  have hx := Nat.div_add_mod x chip.sectorSize
  have hlt := Nat.mod_lt x chip.sectorSize_pos
  rw [Nat.mul_comm] at hx
  omega

/-- **Read, erase, reprogram is an overwrite**: writing a whole sector back after its erase, with
`bs` in the place of part of its old contents, overwrites just that part. -/
theorem patch_eraseSector (m : CellMemory α) (k off : ℕ) (bs : List α)
    (hfit : off + bs.length ≤ chip.sectorSize) :
    patch (chip.eraseSector m k) (k * chip.sectorSize)
        (slice (patch m (k * chip.sectorSize + off) bs) (k * chip.sectorSize) chip.sectorSize) =
      patch m (k * chip.sectorSize + off) bs := by
  funext x
  rcases patch_cases (chip.eraseSector m k) (k * chip.sectorSize)
      (slice (patch m (k * chip.sectorSize + off) bs) (k * chip.sectorSize) chip.sectorSize) x
    with ⟨i, hi, rfl, hp⟩ | ⟨hx, hp⟩
  · rw [hp, getElem_slice]
  · rw [length_slice] at hx
    rw [hp, eraseSector, if_neg (chip.div_sectorSize_ne hx)]
    -- cells outside the sector are touched by neither
    rcases hx with h | h
    · rw [patch_of_lt _ _ (by omega)]
    · rw [patch_of_ge _ _ (by omega)]

end NorChip
