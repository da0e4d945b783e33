import Mathlib.Data.Finset.Card
import Mathlib.Data.List.Perm.Basic
import Mathlib.Order.Interval.Finset.Nat
import RtuShuiwen.Library.LinkedList

/-! # Tables of chained cells

An allocator that keeps its books in one table: the entry of a cell is 0 when the cell is free, the number of the
cell behind it in its chain, or a number beyond the table at the end of a chain. `Partition` says that the cells in
use are those of a list of chains, each of which comes to an end, and no cell is in two. A free cell becomes a chain
(`Partition.alloc`), one chain is hung behind another (`Partition.link`), and the first cell of a chain is given back
(`Partition.freeHead`), all by writing one entry. -/

namespace ChainTable

open LinkedList

variable {lo n : ℕ} {table table' : ℕ → ℕ} {l m : List ℕ} {chains : List (List ℕ)} {a c v : ℕ}

/-- The cell behind another one. -/
def next (lo n : ℕ) (table : ℕ → ℕ) (c : ℕ) : Option ℕ :=
  if lo ≤ table c ∧ table c < n then some (table c) else none

/-- A chain of cells in use. -/
structure IsChain (lo n : ℕ) (table : ℕ → ℕ) (l : List ℕ) : Prop where
  isList : IsList (next lo n table) l.head? l
  cells : ∀ c ∈ l, lo ≤ c ∧ c < n ∧ lo ≤ table c
  ne_nil : l ≠ []

/-- The cells in use are those of some chains, and each is in one of them. -/
structure Partition (lo n : ℕ) (table : ℕ → ℕ) (chains : List (List ℕ)) : Prop where
  chain : ∀ l ∈ chains, IsChain lo n table l
  nodup : chains.flatten.Nodup
  covers : ∀ c, lo ≤ c → c < n → table c ≠ 0 → c ∈ chains.flatten

/-- The number of free cells. -/
def freeCells (lo n : ℕ) (table : ℕ → ℕ) : ℕ := ((Finset.Ico lo n).filter fun c => table c = 0).card

/-! ## One chain -/

/-- Only the entries of its cells make a chain. -/
theorem IsChain.congr (h : IsChain lo n table l) (hsame : ∀ c ∈ l, table' c = table c) : IsChain lo n table' l := by
  refine ⟨Seg.congr h.isList fun c hc => ?_, fun c hc => ?_, h.ne_nil⟩
  · rw [next, next, hsame c hc]
  · rw [hsame c hc]
    exact h.cells c hc

/-- A chain of one cell. -/
theorem isChain_singleton (hlo : lo ≤ c) (hn : c < n) (hlast : n ≤ table c) : IsChain lo n table [c] := by
  refine ⟨⟨rfl, ?_⟩, fun c' hc' => ?_, List.cons_ne_nil _ _⟩
  · rw [next, if_neg (by omega)]
    rfl
  · obtain rfl := List.mem_singleton.mp hc'
    exact ⟨hlo, hn, by omega⟩

/-- The last entry is beyond the table. -/
theorem IsChain.last (h : IsChain lo n table (l ++ [a])) : n ≤ table a := by
  have hnone : next lo n table a = none := h.isList.next_eq
  have hcell := (h.cells a (List.mem_append_right _ List.mem_cons_self)).2.2
  rw [next] at hnone
  by_contra hlt
  rw [if_pos ⟨hcell, by omega⟩] at hnone
  cases hnone

/-- The other entries lead to the cells behind. -/
theorem IsChain.next (h : IsChain lo n table (l ++ a :: c :: m)) : table a = c := by
  have hnext : ChainTable.next lo n table a = some c := h.isList.next_eq
  rw [ChainTable.next] at hnext
  split at hnext
  · exact Option.some.inj hnext
  · cases hnext

/-- The rest of a chain. -/
theorem IsChain.tail (h : IsChain lo n table (c :: l)) (hne : l ≠ []) : IsChain lo n table l :=
  ⟨IsList.of_append (show IsList _ _ ([c] ++ l) from h.isList), fun c' hc' => h.cells c' (List.mem_cons_of_mem _ hc'), hne⟩

/-! ## All chains -/

/-- The order of the chains does not matter. -/
theorem Partition.perm (h : Partition lo n table chains) {chains' : List (List ℕ)} (hperm : chains.Perm chains') :
    Partition lo n table chains' :=
  ⟨fun l hl => h.chain l (hperm.mem_iff.mpr hl), hperm.flatten.nodup_iff.mp h.nodup,
    fun c hlo hn hused => hperm.flatten.mem_iff.mp (h.covers c hlo hn hused)⟩

/-- Nor what is not an entry of a cell. -/
theorem Partition.congr (h : Partition lo n table chains) (hsame : ∀ c, c < n → table' c = table c) :
    Partition lo n table' chains :=
  ⟨fun l hl => (h.chain l hl).congr fun c hc => hsame c ((h.chain l hl).cells c hc).2.1, h.nodup,
    fun c hlo hn hused => h.covers c hlo hn (by rwa [← hsame c hn])⟩

/-- The chains but one, which have none of its cells. -/
theorem exists_perm_cons (h : chains.flatten.Nodup) (hl : l ∈ chains) :
    ∃ rest, chains.Perm (l :: rest) ∧ ∀ k ∈ rest, ∀ c ∈ l, c ∉ k := by
  obtain ⟨front, rest, rfl⟩ := List.append_of_mem hl
  refine ⟨front ++ rest, List.perm_middle, fun k hk c hc hck => ?_⟩
  have hperm : (front ++ l :: rest).Perm (l :: (front ++ rest)) := List.perm_middle
  have hnodup := hperm.flatten.nodup_iff.mp h
  rw [List.flatten_cons] at hnodup
  exact (List.nodup_append.mp hnodup).2.2 c hc c (List.mem_flatten.mpr ⟨k, hk, hck⟩) rfl

/-- A cell of a chain is in use. -/
theorem Partition.used (h : Partition lo n table chains) (hc : c ∈ chains.flatten) :
    lo ≤ c ∧ c < n ∧ lo ≤ table c := by
  obtain ⟨l, hl, hmem⟩ := List.mem_flatten.mp hc
  exact (h.chain l hl).cells c hmem

/-- **A free cell becomes a chain.** -/
theorem Partition.alloc (h : Partition lo n table chains) (hpos : 0 < lo) (hlo : lo ≤ c) (hn : c < n)
    (hfree : table c = 0) (hself : n ≤ table' c) (hothers : ∀ b, b < n → b ≠ c → table' b = table b) :
    Partition lo n table' ([c] :: chains) := by
  have hout : c ∉ chains.flatten := by
    intro hmem
    have hused := (h.used hmem).2.2
    omega
  refine ⟨fun l hl => ?_, List.nodup_cons.mpr ⟨hout, h.nodup⟩, fun b hb hbn hused => ?_⟩
  · obtain rfl | hl := List.mem_cons.mp hl
    · exact isChain_singleton hlo hn hself
    · refine (h.chain l hl).congr fun b hb => hothers b ((h.chain l hl).cells b hb).2.1 fun hbc => ?_
      exact hout (hbc ▸ List.mem_flatten.mpr ⟨l, hl, hb⟩)
  · by_cases hbc : b = c
    · rw [hbc]
      exact List.mem_cons_self
    · rw [hothers b hbn hbc] at hused
      exact List.mem_cons_of_mem _ (h.covers b hb hbn hused)

/-- **One chain is hung behind another.** -/
theorem Partition.link (h : Partition lo n table ((l ++ [a]) :: (c :: m) :: chains)) (hself : table' a = c)
    (hothers : ∀ b, b < n → b ≠ a → table' b = table b) :
    Partition lo n table' ((l ++ a :: c :: m) :: chains) := by
  have hflatten : ((l ++ a :: c :: m) :: chains).flatten = ((l ++ [a]) :: (c :: m) :: chains).flatten := by simp
  have hl := h.chain _ List.mem_cons_self
  have hm := h.chain _ (List.mem_cons_of_mem _ List.mem_cons_self)
  have hnodup := h.nodup
  rw [← hflatten, List.flatten_cons, List.append_assoc, List.cons_append] at hnodup
  obtain ⟨-, hbehind, hapart⟩ := List.nodup_append.mp hnodup
  have hal : a ∉ l := fun hmem => hapart a hmem a List.mem_cons_self rfl
  have hout : a ∉ (c :: m) ++ chains.flatten := (List.nodup_cons.mp hbehind).1
  have ham : a ∉ c :: m := fun hmem => hout (List.mem_append_left _ hmem)
  have hachains : a ∉ chains.flatten := fun hmem => hout (List.mem_append_right _ hmem)
  have hc := hm.cells c List.mem_cons_self
  have hsame : ∀ b, b < n → b ≠ a → ChainTable.next lo n table' b = ChainTable.next lo n table b := by
    intro b hbn hb
    rw [ChainTable.next, ChainTable.next, hothers b hbn hb]
  have hself' : ChainTable.next lo n table' a = some c := by rw [ChainTable.next, hself, if_pos ⟨hc.1, hc.2.1⟩]
  have hcells : ∀ b ∈ l ++ a :: c :: m, lo ≤ b ∧ b < n ∧ lo ≤ table' b := by
    intro b hb
    have hold : lo ≤ b ∧ b < n ∧ lo ≤ table b := by
      obtain hb | hb := List.mem_append.mp (by simpa using hb : b ∈ (l ++ [a]) ++ (c :: m))
      · exact hl.cells b hb
      · exact hm.cells b hb
    by_cases hba : b = a
    · rw [hba, hself]
      exact ⟨hba ▸ hold.1, hba ▸ hold.2.1, hc.1⟩
    · rw [hothers b hold.2.1 hba]
      exact hold
  refine ⟨fun k hk => ?_, hflatten ▸ h.nodup, fun b hb hbn hused => ?_⟩
  · obtain rfl | hk := List.mem_cons.mp hk
    · have hhead : (l ++ a :: c :: m).head? = (l ++ [a]).head? := by cases l <;> rfl
      refine ⟨?_, hcells, by simp⟩
      rw [hhead]
      refine hl.isList.hang hm.isList hself' (fun b hb => hsame b ?_ ?_) fun b hb => hsame b ?_ ?_
      · exact (hl.cells b (List.mem_append_left _ hb)).2.1
      · exact fun hba => hal (hba ▸ hb)
      · exact (hm.cells b hb).2.1
      · exact fun hba => ham (hba ▸ hb)
    · have hk' := h.chain k (List.mem_cons_of_mem _ (List.mem_cons_of_mem _ hk))
      refine hk'.congr fun b hb => hothers b (hk'.cells b hb).2.1 fun hba => hachains ?_
      exact hba ▸ List.mem_flatten.mpr ⟨k, hk, hb⟩
  · rw [hflatten]
    by_cases hba : b = a
    · rw [hba, List.flatten_cons]
      exact List.mem_append_left _ (List.mem_append_right _ List.mem_cons_self)
    · rw [hothers b hbn hba] at hused
      exact h.covers b hb hbn hused

/-- **The first cell of a chain is given back.** -/
theorem Partition.freeHead (h : Partition lo n table ((c :: l) :: chains)) (hself : table' c = 0)
    (hothers : ∀ b, b < n → b ≠ c → table' b = table b) :
    Partition lo n table' (if l = [] then chains else l :: chains) := by
  have hc := h.chain _ List.mem_cons_self
  have hnodup := h.nodup
  rw [List.flatten_cons, List.cons_append] at hnodup
  obtain ⟨hout, hrest⟩ := List.nodup_cons.mp hnodup
  have hflatten : (if l = [] then chains else l :: chains).flatten = l ++ chains.flatten := by
    split
    · next hnil =>
        rw [hnil]
        rfl
    · rfl
  refine ⟨fun k hk => ?_, hflatten ▸ hrest, fun b hb hbn hused => ?_⟩
  · have hold : IsChain lo n table k ∧ c ∉ k := by
      split at hk
      · exact ⟨h.chain k (List.mem_cons_of_mem _ hk), fun hmem =>
          hout (List.mem_append_right _ (List.mem_flatten.mpr ⟨k, hk, hmem⟩))⟩
      · next hne =>
          obtain rfl | hk := List.mem_cons.mp hk
          · exact ⟨hc.tail hne, fun hmem => hout (List.mem_append_left _ hmem)⟩
          · exact ⟨h.chain k (List.mem_cons_of_mem _ hk), fun hmem =>
              hout (List.mem_append_right _ (List.mem_flatten.mpr ⟨k, hk, hmem⟩))⟩
    refine hold.1.congr fun b hb => hothers b (hold.1.cells b hb).2.1 fun hbc => hold.2 (hbc ▸ hb)
  · have hbc : b ≠ c := by
      rintro rfl
      exact hused hself
    rw [hothers b hbn hbc] at hused
    rw [hflatten]
    exact (List.mem_cons.mp (h.covers b hb hbn hused)).resolve_left hbc

/-! ## Counting -/

/-- A cell that becomes used is one free cell less. -/
theorem freeCells_use (hlo : lo ≤ c) (hn : c < n) (hfree : table c = 0) (hself : table' c ≠ 0)
    (hothers : ∀ b, b < n → b ≠ c → table' b = table b) : freeCells lo n table = freeCells lo n table' + 1 := by
  have hmem : c ∈ (Finset.Ico lo n).filter fun c => table c = 0 := by simp [hlo, hn, hfree]
  have herase : (Finset.Ico lo n).filter (fun c => table' c = 0) =
      ((Finset.Ico lo n).filter fun c => table c = 0).erase c := by
    ext b
    rw [Finset.mem_erase, Finset.mem_filter, Finset.mem_filter, Finset.mem_Ico]
    by_cases hbc : b = c
    · rw [hbc]
      exact iff_of_false (fun h => hself h.2) fun h => h.1 rfl
    · constructor
      · rintro ⟨hb, hzero⟩
        exact ⟨hbc, hb, by rwa [hothers b hb.2 hbc] at hzero⟩
      · rintro ⟨-, hb, hzero⟩
        exact ⟨hb, by rwa [hothers b hb.2 hbc]⟩
  rw [freeCells, freeCells, herase, Finset.card_erase_of_mem hmem]
  exact (Nat.succ_pred_eq_of_pos (Finset.card_pos.mpr ⟨c, hmem⟩)).symm

/-- The count depends on the entries being zero only. -/
theorem freeCells_congr (h : ∀ c, lo ≤ c → c < n → (table' c = 0 ↔ table c = 0)) :
    freeCells lo n table' = freeCells lo n table := by
  refine congrArg Finset.card (Finset.filter_congr fun c hc => ?_)
  obtain ⟨hlo, hn⟩ := Finset.mem_Ico.mp hc
  exact h c hlo hn

end ChainTable
