import Mathlib.Algebra.GroupWithZero.Nat
import Mathlib.Data.Finset.Card
import Mathlib.Data.List.Pairwise
import Mathlib.Data.Nat.Count
import Mathlib.Order.Interval.Finset.Nat
import RtuShuiwen.Library.CellMemory

/-! # Blocks recorded in a map of cells

An allocator that hands out runs of cells may keep its books in a map with one entry a cell: `free`, or
for every cell of a block a code of the block's length. `Records` says that a map is that record of a
list of blocks. Marking a run of free cells (`Records.mark`) and clearing a block (`Records.clear`) keep
the books; that the marked run meets no other block follows from the map alone. -/

namespace BlockMap

open CellMemory

/-- A run of cells. -/
structure Block where
  start : ℕ
  cells : ℕ
  deriving DecidableEq, Repr

/-- A cell of the block. -/
def Block.Has (b : Block) (x : ℕ) : Prop := b.start ≤ x ∧ x < b.start + b.cells

/-- Two blocks without a common cell. -/
def Block.Apart (b c : Block) : Prop := b.start + b.cells ≤ c.start ∨ c.start + c.cells ≤ b.start

instance (b : Block) (x : ℕ) : Decidable (b.Has x) := by unfold Block.Has; infer_instance

instance (b c : Block) : Decidable (b.Apart c) := by unfold Block.Apart; infer_instance

/-- To be apart goes both ways. -/
theorem Block.Apart.symm {b c : Block} (h : b.Apart c) : c.Apart b := Or.symm h

instance : Std.Symm Block.Apart := ⟨fun _ _ => Block.Apart.symm⟩

/-- Blocks that are apart share no cell. -/
theorem Block.Apart.not_has {b c : Block} (h : b.Apart c) {x : ℕ} (hx : b.Has x) : ¬ c.Has x := by
  unfold Block.Apart at h
  unfold Block.Has at hx ⊢
  omega

/-- Blocks that are not empty and share no cell are apart. -/
theorem Block.apart_of_not_has {b c : Block} (hb : 0 < b.cells) (hc : 0 < c.cells)
    (h : ∀ x, b.Has x → ¬ c.Has x) : b.Apart c := by
  have hstart := h b.start
  have hstart' := h c.start
  unfold Block.Apart
  unfold Block.Has at hstart hstart'
  omega

variable {V : Type*} {free : V} {code : ℕ → V} {size : ℕ} {map : CellMemory V} {live : List Block}

/-- Write `v` to every cell of a block. -/
def setCells (map : CellMemory V) (b : Block) (v : V) : CellMemory V :=
  patch map b.start (List.replicate b.cells v)

/-- The cells of the block, and no others, are written. -/
theorem setCells_apply (map : CellMemory V) (b : Block) (v : V) (x : ℕ) :
    setCells map b v x = if b.Has x then v else map x := by
  rcases patch_cases map b.start (List.replicate b.cells v) x with ⟨i, hi, rfl, hp⟩ | ⟨hx, hp⟩
  · have hhas : b.Has (b.start + i) := by
      rw [List.length_replicate] at hi
      exact ⟨by omega, by omega⟩
    rw [setCells, hp, if_pos hhas, List.getElem_replicate]
  · have hnot : ¬ b.Has x := by
      rw [List.length_replicate] at hx
      unfold Block.Has
      omega
    rw [setCells, hp, if_neg hnot]

/-- A run of free cells of the map. -/
def FreeRun (free : V) (size : ℕ) (map : CellMemory V) (b : Block) : Prop :=
  b.start + b.cells ≤ size ∧ ∀ x, b.Has x → map x = free

/-- The highest one of its length. -/
def HighestFree (free : V) (size : ℕ) (map : CellMemory V) (b : Block) : Prop :=
  FreeRun free size map b ∧ ∀ c, FreeRun free size map c → c.cells = b.cells → c.start ≤ b.start

/-- **The books**: the live blocks lie in the map and apart from each other, every cell of a block
holds the code of its length, and every other cell is free. -/
structure Records (free : V) (code : ℕ → V) (size : ℕ) (map : CellMemory V) (live : List Block) :
    Prop where
  /-- No block is empty. -/
  pos : ∀ b ∈ live, 0 < b.cells
  /-- Blocks lie in the map. -/
  inside : ∀ b ∈ live, b.start + b.cells ≤ size
  /-- Blocks do not meet. -/
  apart : live.Pairwise Block.Apart
  /-- A cell of a block tells the block's length. -/
  marked : ∀ b ∈ live, ∀ x, b.Has x → map x = code b.cells
  /-- Other cells are free. -/
  unused : ∀ x < size, (∀ b ∈ live, ¬ b.Has x) → map x = free

namespace Records

/-- An empty record. -/
theorem nil (h : ∀ x < size, map x = free) : Records free code size map [] where
  pos := nofun
  inside := nofun
  apart := List.Pairwise.nil
  marked := nofun
  unused x hx _ := h x hx

/-- The order in which blocks are listed does not matter. -/
theorem perm (h : Records free code size map live) {live' : List Block} (hperm : live.Perm live') :
    Records free code size map live' where
  pos b hb := h.pos b (hperm.mem_iff.mpr hb)
  inside b hb := h.inside b (hperm.mem_iff.mpr hb)
  apart := h.apart.perm hperm Block.Apart.symm
  marked b hb := h.marked b (hperm.mem_iff.mpr hb)
  unused x hx hnone := h.unused x hx fun b hb => hnone b (hperm.mem_iff.mp hb)

/-- Two live blocks are the same or apart. -/
theorem eq_or_apart (h : Records free code size map live) {b c : Block} (hb : b ∈ live)
    (hc : c ∈ live) : b = c ∨ b.Apart c := by
  by_cases hbc : b = c
  · exact .inl hbc
  · exact .inr (h.apart.forall hb hc hbc)

/-- No block is live twice. -/
theorem nodup (h : Records free code size map live) : live.Nodup := by
  refine h.apart.imp_of_mem fun {b c} hb _ hapart hbc => ?_
  have hpos := h.pos b hb
  subst hbc
  unfold Block.Apart at hapart
  omega

/-- **A run of free cells may be marked as a block**: no live block meets it. -/
theorem mark (h : Records free code size map live) (hcode : ∀ k, 0 < k → k ≤ size → code k ≠ free)
    {b : Block} (hpos : 0 < b.cells) (hinside : b.start + b.cells ≤ size)
    (hfree : ∀ x, b.Has x → map x = free) :
    Records free code size (setCells map b (code b.cells)) (b :: live) := by
  have hapart : ∀ c ∈ live, b.Apart c := by
    intro c hc
    refine Block.apart_of_not_has hpos (h.pos c hc) fun x hx hx' => ?_
    have hle : c.cells ≤ size := Nat.le_trans (Nat.le_add_left _ _) (h.inside c hc)
    exact hcode c.cells (h.pos c hc) hle ((h.marked c hc x hx').symm.trans (hfree x hx))
  constructor
  case pos => exact List.forall_mem_cons.mpr ⟨hpos, h.pos⟩
  case inside => exact List.forall_mem_cons.mpr ⟨hinside, h.inside⟩
  case apart => exact List.pairwise_cons.mpr ⟨hapart, h.apart⟩
  case marked =>
    refine List.forall_mem_cons.mpr ⟨fun x hx => ?_, fun c hc x hx => ?_⟩
    · rw [setCells_apply, if_pos hx]
    · rw [setCells_apply, if_neg ((hapart c hc).symm.not_has hx), h.marked c hc x hx]
  case unused =>
    intro x hx hnone
    obtain ⟨hb, hlive⟩ := List.forall_mem_cons.mp hnone
    rw [setCells_apply, if_neg hb, h.unused x hx hlive]

/-- **A block may be cleared**: its cells are those of no other block. -/
theorem clear (h : Records free code size map live) {b : Block} {rest : List Block} (hb : b ∈ live)
    (hrest : rest.Sublist live) (hothers : ∀ c ∈ live, c ≠ b → c ∈ rest) (hgone : b ∉ rest) :
    Records free code size (setCells map b free) rest := by
  have hapart : ∀ c ∈ rest, c.Apart b := by
    intro c hc
    refine (h.eq_or_apart (hrest.subset hc) hb).resolve_left ?_
    rintro rfl
    exact hgone hc
  constructor
  case pos => exact fun c hc => h.pos c (hrest.subset hc)
  case inside => exact fun c hc => h.inside c (hrest.subset hc)
  case apart => exact h.apart.sublist hrest
  case marked =>
    intro c hc x hx
    rw [setCells_apply, if_neg ((hapart c hc).not_has hx), h.marked c (hrest.subset hc) x hx]
  case unused =>
    intro x hx hnone
    rw [setCells_apply]
    split
    · rfl
    · next hxb =>
        refine h.unused x hx fun c hc hxc => ?_
        have hne : c ≠ b := by
          rintro rfl
          exact hxb hxc
        exact hnone c (hothers c hc hne) hxc

/-- Blocks in the map that do not meet have as many cells together as they have one by one. -/
theorem card_has (hinside : ∀ b ∈ live, b.start + b.cells ≤ size) (hapart : live.Pairwise Block.Apart) :
    ((Finset.range size).filter fun x => ∃ b ∈ live, b.Has x).card = (live.map Block.cells).sum := by
  induction live with
  | nil => simp
  | cons b live ih =>
      obtain ⟨hb, hlive⟩ := List.forall_mem_cons.mp hinside
      obtain ⟨hbapart, hapart⟩ := List.pairwise_cons.mp hapart
      have hsplit : ((Finset.range size).filter fun x => ∃ c ∈ b :: live, c.Has x) =
          Finset.Ico b.start (b.start + b.cells) ∪
            (Finset.range size).filter fun x => ∃ c ∈ live, c.Has x := by
        ext x
        rw [Finset.mem_union, Finset.mem_filter, Finset.mem_filter, Finset.mem_Ico, Finset.mem_range,
          List.exists_mem_cons_iff]
        constructor
        · rintro ⟨hx, hxb | hxc⟩
          · exact .inl hxb
          · exact .inr ⟨hx, hxc⟩
        · rintro (hxb | ⟨hx, hxc⟩)
          · exact ⟨by omega, .inl hxb⟩
          · exact ⟨hx, .inr hxc⟩
      have hdisjoint : Disjoint (Finset.Ico b.start (b.start + b.cells))
          ((Finset.range size).filter fun x => ∃ c ∈ live, c.Has x) := by
        rw [Finset.disjoint_left]
        intro x hxb hxlive
        obtain ⟨-, c, hc, hxc⟩ := Finset.mem_filter.mp hxlive
        exact (hbapart c hc).not_has (Finset.mem_Ico.mp hxb) hxc
      rw [hsplit, Finset.card_union_of_disjoint hdisjoint, ih hlive hapart, Nat.card_Ico, List.map_cons,
        List.sum_cons, Nat.add_sub_cancel_left]

/-- **The cells in use are those of the live blocks.** -/
theorem count_used [DecidableEq V] (h : Records free code size map live)
    (hcode : ∀ k, 0 < k → k ≤ size → code k ≠ free) :
    Nat.count (fun x => map x ≠ free) size = (live.map Block.cells).sum := by
  rw [Nat.count_eq_card_filter_range, ← card_has h.inside h.apart]
  refine congrArg Finset.card (Finset.filter_congr fun x hx => ?_)
  constructor
  · intro hused
    by_contra hnone
    exact hused (h.unused x (Finset.mem_range.mp hx) fun b hb hxb => hnone ⟨b, hb, hxb⟩)
  · rintro ⟨b, hb, hxb⟩
    have hle : b.cells ≤ size := Nat.le_trans (Nat.le_add_left _ _) (h.inside b hb)
    rw [h.marked b hb x hxb]
    exact hcode b.cells (h.pos b hb) hle

end Records

end BlockMap
