import RtuShuiwen.Library.CellMemory

/-! # Programs on named buffers, with what they access

A `Program` works on buffers and leaves a trace of its loads and stores, those outside of the declared size
of a buffer included. `Within ok p m` says that everything `p` accesses from the contents `m` on is allowed.
The rules are equivalences, one for each way to build a program, so that the condition under which a program
stays inside its buffers is computed along its text. -/

namespace AccessTrace

open CellMemory

variable {β γ : Type} {α α' : Type}

/-- What the buffers hold. -/
abbrev Buffers (β γ : Type) := β → CellMemory γ

/-- A load or a store at an index of a buffer. -/
inductive Access (β : Type)
  | load (b : β) (i : ℕ)
  | store (b : β) (i : ℕ)

/-- What a program returns and leaves. -/
structure Outcome (β γ α : Type) where
  value : α
  buffers : Buffers β γ
  trace : List (Access β)

/-- A program that returns an `α`. -/
def Program (β γ α : Type) := Buffers β γ → Outcome β γ α

instance : Monad (Program β γ) where
  pure a := fun m => ⟨a, m, []⟩
  bind p f := fun m =>
    ⟨(f (p m).value (p m).buffers).value, (f (p m).value (p m).buffers).buffers,
      (p m).trace ++ (f (p m).value (p m).buffers).trace⟩

/-! ## Accesses -/

/-- A load. -/
def load (b : β) (i : ℕ) : Program β γ γ := fun m => ⟨m b i, m, [.load b i]⟩

/-- Consecutive loads. -/
def loads (b : β) (a : ℕ) : ℕ → Program β γ (List γ)
  | 0 => pure []
  | n + 1 => do
      let xs ← loads b a n
      let x ← load b (a + n)
      pure (xs ++ [x])

variable [DecidableEq β]

/-- A store. -/
def store (b : β) (i : ℕ) (x : γ) : Program β γ Unit := fun m =>
  ⟨(), Function.update m b (Function.update (m b) i x), [.store b i]⟩

/-- Some stores into one buffer. -/
def stores (b : β) : List (ℕ × γ) → Program β γ Unit
  | [] => pure ()
  | (i, x) :: rest => do
      store b i x
      stores b rest

/-- A copying loop. -/
def copy (dst : β) (d : ℕ) (src : β) (s : ℕ) : ℕ → Program β γ Unit
  | 0 => pure ()
  | n + 1 => do
      copy dst d src s n
      let x ← load src (s + n)
      store dst (d + n) x

/-! ## Staying inside -/

/-- All that a program accesses is allowed. -/
def Within (ok : Access β → Prop) (p : Program β γ α) (m : Buffers β γ) : Prop := ∀ x ∈ (p m).trace, ok x

section Rules

variable (ok : Access β → Prop) (m : Buffers β γ)

omit [DecidableEq β] in
/-- A result is no access. -/
@[simp] theorem within_pure (a : α) : Within ok (pure a : Program β γ α) m ↔ True :=
  ⟨fun _ => trivial, fun _ => List.forall_mem_nil _⟩

omit [DecidableEq β] in
/-- **One program after the other.** -/
theorem within_bind (p : Program β γ α) (f : α → Program β γ α') :
    Within ok (p >>= f) m ↔ Within ok p m ∧ Within ok (f (p m).value) (p m).buffers :=
  List.forall_mem_append

omit [DecidableEq β] in
/-- What the second program returns. -/
theorem value_bind (p : Program β γ α) (f : α → Program β γ α') :
    ((p >>= f) m).value = (f (p m).value (p m).buffers).value := rfl

omit [DecidableEq β] in
/-- A load. -/
@[simp] theorem within_load (b : β) (i : ℕ) :
    Within ok (load b i : Program β γ γ) m ↔ ok (.load b i) := List.forall_mem_singleton

/-- A store. -/
@[simp] theorem within_store (b : β) (i : ℕ) (x : γ) :
    Within ok (store b i x : Program β γ Unit) m ↔ ok (.store b i) := List.forall_mem_singleton

omit [DecidableEq β] in
/-- Loads leave the buffers alone and return a slice of one. -/
theorem loads_eq (b : β) (a n : ℕ) :
    (loads b a n m).value = slice (m b) a n ∧ (loads b a n m).buffers = m := by
  induction n with
  | zero => exact ⟨rfl, rfl⟩
  | succ n ih =>
      obtain ⟨hvalue, hbuffers⟩ := ih
      constructor
      · rw [slice_add, ← hvalue]
        show _ ++ [(loads b a n m).buffers b (a + n)] = _
        rw [hbuffers]
        rfl
      · exact hbuffers

omit [DecidableEq β] in
/-- Consecutive loads. -/
@[simp] theorem within_loads (b : β) (a n : ℕ) :
    Within ok (loads b a n : Program β γ (List γ)) m ↔ ∀ i < n, ok (.load b (a + i)) := by
  induction n with
  | zero => exact ⟨fun _ i hi => absurd hi (Nat.not_lt_zero i), fun _ => List.forall_mem_nil _⟩
  | succ n ih =>
      rw [loads, within_bind, ih, within_bind, within_load, within_pure, and_true, Nat.forall_lt_succ_right]

/-- Stores. -/
@[simp] theorem within_stores (b : β) (xs : List (ℕ × γ)) :
    Within ok (stores b xs : Program β γ Unit) m ↔ ∀ x ∈ xs, ok (.store b x.1) := by
  induction xs generalizing m with
  | nil => exact ⟨fun _ => List.forall_mem_nil _, fun _ => List.forall_mem_nil _⟩
  | cons x xs ih => rw [stores, within_bind, within_store, ih, List.forall_mem_cons]

/-- **A copying loop stays inside both buffers.** -/
@[simp] theorem within_copy (dst src : β) (d s n : ℕ) :
    Within ok (copy dst d src s n : Program β γ Unit) m ↔
      ∀ i < n, ok (.load src (s + i)) ∧ ok (.store dst (d + i)) := by
  induction n with
  | zero => exact ⟨fun _ i hi => absurd hi (Nat.not_lt_zero i), fun _ => List.forall_mem_nil _⟩
  | succ n ih =>
      rw [copy, within_bind, ih, within_bind, within_load, within_store, Nat.forall_lt_succ_right]

end Rules

/-! ## What is stored -/

/-- **Stores one after the other overwrite a range.** -/
theorem buffers_stores (b : β) (m : Buffers β γ) (a : ℕ) {n : ℕ} {xs : List γ} (hn : xs.length = n) :
    (stores b ((List.range' a n).zip xs) m).buffers b = patch (m b) a xs := by
  subst hn
  induction xs generalizing m a with
  | nil => exact (patch_nil _ _).symm
  | cons x xs ih =>
      have hrest := ih (store b a x m).buffers (a + 1)
      have hfirst : (store b a x m).buffers b = patch (m b) a [x] := by
        rw [patch_singleton]
        exact Function.update_self ..
      rw [hfirst, ← List.length_singleton (a := x), ← patch_append] at hrest
      exact hrest

/-- Stores into one buffer leave the others alone. -/
theorem buffers_stores_of_ne {b b' : β} (hne : b' ≠ b) (m : Buffers β γ) (xs : List (ℕ × γ)) :
    (stores b xs m).buffers b' = m b' := by
  induction xs generalizing m with
  | nil => rfl
  | cons x xs ih => exact (ih _).trans (Function.update_of_ne hne _ _)

end AccessTrace
