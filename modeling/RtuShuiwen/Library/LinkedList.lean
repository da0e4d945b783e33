import Mathlib.Data.List.Nodup
import Mathlib.Logic.Function.Basic
import Mathlib.Tactic.Common

/-! # Singly linked lists

Nodes of a type `α`, each with a pointer to the next one. `IsList next head l` says that the pointers from
`head` on go through the nodes `l` and end with `NULL`. A list that ends has no node twice
(`IsList.nodup`), so nothing more is needed to show that it stays a list when a node is put in front of it
(`IsList.push`) or taken out, at its head (`IsList.pop`) or behind another node (`IsList.unlink`), and that
the walk to the node before a given one finds it (`IsList.findBefore`). -/

namespace LinkedList

variable {α : Type*}

/-- The pointers go from `head` through the nodes of a list to `tail`. -/
def Seg (next : α → Option α) (tail : Option α) : Option α → List α → Prop
  | head, [] => head = tail
  | head, a :: l => head = some a ∧ Seg next tail (next a) l

/-- The pointers go through the nodes of a list and end. -/
def IsList (next : α → Option α) (head : Option α) (l : List α) : Prop := Seg next none head l

section Segments

variable {next next' : α → Option α} {head tail : Option α} {l l₁ l₂ : List α} {a p : α}

@[simp] theorem seg_nil : Seg next tail head [] ↔ head = tail := Iff.rfl

@[simp] theorem seg_cons : Seg next tail head (a :: l) ↔ head = some a ∧ Seg next tail (next a) l :=
  Iff.rfl

/-- Only the pointers of its nodes make a segment. -/
theorem Seg.congr (h : Seg next tail head l) (hsame : ∀ a ∈ l, next' a = next a) :
    Seg next' tail head l := by
  induction l generalizing head with
  | nil => exact h
  | cons a l ih =>
      obtain ⟨hsame, hrest⟩ := List.forall_mem_cons.mp hsame
      refine ⟨h.1, ?_⟩
      rw [hsame]
      exact ih h.2 hrest

/-- **Segments one behind the other.** -/
theorem seg_append : Seg next tail head (l₁ ++ l₂) ↔
    ∃ mid, Seg next mid head l₁ ∧ Seg next tail mid l₂ := by
  induction l₁ generalizing head with
  | nil => simp
  | cons a l₁ ih =>
      rw [List.cons_append, seg_cons, ih]
      constructor
      · rintro ⟨hhead, mid, h₁, h₂⟩
        exact ⟨mid, ⟨hhead, h₁⟩, h₂⟩
      · rintro ⟨mid, ⟨hhead, h₁⟩, h₂⟩
        exact ⟨hhead, mid, h₁, h₂⟩

/-- Where a list begins. -/
theorem IsList.head_eq (h : IsList next head l) : head = l.head? := by
  cases l with
  | nil => exact h
  | cons a l => exact h.1

/-- The rest of a list is a list. -/
theorem IsList.of_append (h : IsList next head (l₁ ++ l₂)) : IsList next l₂.head? l₂ := by
  obtain ⟨mid, -, h₂⟩ := seg_append.mp h
  rwa [← IsList.head_eq h₂]

/-- The node behind a given one. -/
theorem IsList.next_eq (h : IsList next head (l₁ ++ a :: l₂)) : next a = l₂.head? := by
  obtain ⟨mid, -, -, h₂⟩ := seg_append.mp h
  exact IsList.head_eq h₂

/-- The pointers go through one list only. -/
theorem IsList.unique (h₁ : IsList next head l₁) (h₂ : IsList next head l₂) : l₁ = l₂ := by
  induction l₁ generalizing head l₂ with
  | nil =>
      have hhead := h₁.head_eq.symm.trans h₂.head_eq
      exact (List.head?_eq_none_iff.mp hhead.symm).symm
  | cons a l₁ ih =>
      cases l₂ with
      | nil => cases h₁.head_eq.symm.trans h₂.head_eq
      | cons b l₂ =>
          obtain rfl : a = b := Option.some.inj (h₁.head_eq.symm.trans h₂.head_eq)
          rw [ih h₁.2 h₂.2]

/-- **A list has no node twice**: behind either place of the node the same nodes would come. -/
theorem IsList.nodup (h : IsList next head l) : l.Nodup := by
  induction l generalizing head with
  | nil => exact List.nodup_nil
  | cons a l ih =>
      refine List.nodup_cons.mpr ⟨fun hmem => ?_, ih h.2⟩
      -- behind the second place of the node the list goes on as behind the first, and is shorter
      obtain ⟨front, rest, hsplit⟩ := List.append_of_mem hmem
      have hrest : IsList next (next a) rest := by
        rw [hsplit, ← List.cons_append] at h
        rw [h.next_eq]
        have h' : IsList next head ((a :: front ++ [a]) ++ rest) := by simpa using h
        exact h'.of_append
      have hlength := congrArg List.length (IsList.unique h.2 hrest)
      rw [hsplit, List.length_append, List.length_cons] at hlength
      omega

/-- **A list hung behind the last node** of another one. -/
theorem IsList.hang {c : α} {m : List α} (h : IsList next head (l ++ [a]))
    (hm : IsList next (some c) (c :: m)) (hself : next' a = some c) (hl : ∀ b ∈ l, next' b = next b)
    (hsame : ∀ b ∈ c :: m, next' b = next b) : IsList next' head (l ++ a :: c :: m) := by
  obtain ⟨mid, hfront, hmid, -⟩ := seg_append.mp h
  refine seg_append.mpr ⟨mid, hfront.congr hl, hmid, ?_⟩
  rw [hself]
  exact Seg.congr hm hsame

end Segments

/-! ## Changing a list -/

section Change

variable [DecidableEq α] {next : α → Option α} {head : Option α} {l l₁ l₂ : List α} {a p : α}

/-- The pointers of nodes that are not changed. -/
theorem Seg.update {tail : Option α} (h : Seg next tail head l) (ha : a ∉ l) (target : Option α) :
    Seg (Function.update next a target) tail head l := by
  refine h.congr fun b hb => Function.update_of_ne ?_ _ _
  rintro rfl
  exact ha hb

/-- **A new node in front.** -/
theorem IsList.push (h : IsList next head l) (ha : a ∉ l) :
    IsList (Function.update next a head) (some a) (a :: l) := by
  refine ⟨rfl, ?_⟩
  rw [Function.update_self]
  exact Seg.update h ha head

/-- **The first node taken out.** -/
theorem IsList.pop (h : IsList next (some a) (a :: l)) :
    IsList (Function.update next a none) (next a) l :=
  Seg.update h.2 (List.nodup_cons.mp h.nodup).1 none

/-- **A node taken out** behind another one. -/
theorem IsList.unlink (h : IsList next head (l₁ ++ p :: a :: l₂)) :
    IsList (Function.update (Function.update next p (next a)) a none) head (l₁ ++ p :: l₂) := by
  have hnodup := h.nodup
  obtain ⟨mid, h₁, hp, ha, h₂⟩ := seg_append.mp h
  simp only [List.nodup_append, List.nodup_cons, List.mem_cons, not_or] at hnodup
  obtain ⟨-, ⟨⟨hpa, hp₂⟩, ha₂, -⟩, hapart⟩ := hnodup
  have hp₁ : p ∉ l₁ := fun hmem => hapart p hmem p (.inl rfl) rfl
  have ha₁ : a ∉ l₁ := fun hmem => hapart a hmem a (.inr (.inl rfl)) rfl
  -- the nodes in front and behind keep their pointers; the one of `p` goes past `a`
  refine seg_append.mpr ⟨mid, (h₁.update hp₁ _).update ha₁ _, hp, ?_⟩
  rw [Function.update_of_ne hpa, Function.update_self]
  exact (Seg.update h₂ hp₂ _).update ha₂ _

/-- The nodes that are left then. -/
theorem IsList.erase_eq (h : IsList next head (l₁ ++ p :: a :: l₂)) :
    (l₁ ++ p :: a :: l₂).erase a = l₁ ++ p :: l₂ := by
  have hnodup := h.nodup
  rw [List.append_cons] at hnodup
  have hnot : a ∉ l₁ ++ [p] := fun hmem =>
    (List.nodup_append.mp hnodup).2.2 a hmem a List.mem_cons_self rfl
  rw [List.append_cons, List.erase_append_right _ hnot, List.erase_cons_head, ← List.append_cons]

/-- The walk from a node to the one before `a`, over at most `fuel` nodes. There is no result where it
comes to the end of the list. -/
def findBefore (next : α → Option α) (a : α) : ℕ → α → Option α
  | 0, _ => none
  | fuel + 1, b => if next b = some a then some b else (next b).bind (findBefore next a fuel)

/-- **The walk finds the node before a given one.** -/
theorem IsList.findBefore {b : α} (h : IsList next (some b) (b :: l)) (ha : a ∈ l) {fuel : ℕ}
    (hfuel : l.length ≤ fuel) :
    ∃ l₁ p l₂, b :: l = l₁ ++ p :: a :: l₂ ∧ findBefore next a fuel b = some p := by
  induction l generalizing b fuel with
  | nil => cases ha
  | cons c l ih =>
      obtain ⟨fuel, rfl⟩ : ∃ n, fuel = n + 1 := Nat.exists_eq_add_one_of_ne_zero (by
        rintro rfl
        cases hfuel)
      have hnext : next b = some c := h.2.1
      rw [LinkedList.findBefore, hnext]
      by_cases hc : c = a
      · subst hc
        exact ⟨[], b, l, rfl, if_pos rfl⟩
      · have hrest : IsList next (some c) (c :: l) := hnext ▸ h.2
        obtain ⟨l₁, p, l₂, hsplit, hfound⟩ :=
          ih hrest (List.mem_of_ne_of_mem (Ne.symm hc) ha) (by simpa using hfuel)
        refine ⟨b :: l₁, p, l₂, by rw [hsplit, List.cons_append], ?_⟩
        rw [if_neg (by simpa using hc), Option.bind_some, hfound]

end Change

end LinkedList
