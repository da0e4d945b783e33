import Mathlib.Logic.Function.Iterate
import Mathlib.Tactic.Common

/-! # Runs of a transition system and their invariants

A system steps on events: `step s e` is the state after event `e`, or `none` when `e` cannot
happen in `s`. `AllReached P` says that `P` holds in every state that a list of events leads through,
and `StepsMeet C` that every step taken on the way is one the condition `C` allows. The rule
`allReached_of_stepsMeet` turns a fact that one allowed step preserves into a fact about whole runs;
`allReached_iff_stepsMeet` is for a condition that is also necessary, and `exists_not_allReached` for
one whose breach shows only some events later. -/

namespace TransitionSystem

variable {σ ε : Type*} (step : σ → ε → Option σ)

/-- `P` holds at the start and in every state the events lead to. -/
def AllReached (P : σ → Prop) : σ → List ε → Prop
  | s, [] => P s
  | s, e :: es => P s ∧ ∀ s', step s e = some s' → AllReached P s' es

/-- Every step that is taken meets `C`, a condition on the state before it and the event. -/
def StepsMeet (C : σ → ε → Prop) : σ → List ε → Prop
  | _, [] => True
  | s, e :: es => ∀ s', step s e = some s' → C s e ∧ StepsMeet C s' es

/-- On a concrete run a decidable property is decided by going through it. -/
instance AllReached.decidable (P : σ → Prop) [DecidablePred P] :
    ∀ (s : σ) (es : List ε), Decidable (AllReached step P s es)
  | s, [] => inferInstanceAs (Decidable (P s))
  | s, e :: es =>
      match h : step s e with
      | none => decidable_of_iff (P s) (by simp [AllReached, h])
      | some s' =>
          haveI := AllReached.decidable P s' es
          decidable_of_iff (P s ∧ AllReached step P s' es) (by simp [AllReached, h])

/-- So is a decidable condition on its steps. -/
instance StepsMeet.decidable (C : σ → ε → Prop) [∀ s e, Decidable (C s e)] :
    ∀ (s : σ) (es : List ε), Decidable (StepsMeet step C s es)
  | _, [] => inferInstanceAs (Decidable True)
  | s, e :: es =>
      match h : step s e with
      | none => decidable_of_iff True (by simp [StepsMeet, h])
      | some s' =>
          haveI := StepsMeet.decidable C s' es
          decidable_of_iff (C s e ∧ StepsMeet step C s' es) (by simp [StepsMeet, h])

variable {step}

/-- What holds in every state a run leads through holds at its start. -/
theorem AllReached.start {P : σ → Prop} {s : σ} {es : List ε} (h : AllReached step P s es) : P s := by
  cases es with
  | nil => exact h
  | cons e es => exact h.1

/-- A stronger property is reached less often. -/
theorem AllReached.mono {P Q : σ → Prop} (hPQ : ∀ s, P s → Q s) {es : List ε} {s : σ}
    (h : AllReached step P s es) : AllReached step Q s es := by
  induction es generalizing s with
  | nil => exact hPQ s h
  | cons e es ih => exact ⟨hPQ s h.1, fun s' hs' => ih (h.2 s' hs')⟩

/-- What every step preserves as long as `Q` holds behind it holds in every state of a run that `Q`
holds throughout. -/
theorem AllReached.keep {I Q : σ → Prop}
    (hstep : ∀ s e s', I s → Q s' → step s e = some s' → I s') {es : List ε} {s : σ} (hI : I s)
    (hQ : AllReached step Q s es) : AllReached step I s es := by
  induction es generalizing s with
  | nil => exact hI
  | cons e es ih =>
      refine ⟨hI, fun s' hs' => ?_⟩
      have hrest := hQ.2 s' hs'
      exact ih (hstep s e s' hI hrest.start hs') hrest

/-- What holds throughout events that can always happen holds behind them. -/
theorem AllReached.foldl {P : σ → Prop} {f : σ → ε → σ} {es : List ε}
    (hf : ∀ s, ∀ e ∈ es, step s e = some (f s e)) {s : σ} (h : AllReached step P s es) :
    P (es.foldl f s) := by
  induction es generalizing s with
  | nil => exact h
  | cons e es ih =>
      obtain ⟨-, hrest⟩ := h
      exact ih (fun s e he => hf s e (List.mem_cons_of_mem _ he)) (hrest _ (hf s e List.mem_cons_self))

/-- So it does behind `k` events of one kind. -/
theorem AllReached.iterate {P : σ → Prop} {e₀ : ε} {f : σ → σ} (hf : ∀ s, step s e₀ = some (f s))
    {k : ℕ} {s : σ} (h : AllReached step P s (List.replicate k e₀)) : P (f^[k] s) := by
  have hlast := h.foldl (f := fun s _ => f s) fun s e he => List.eq_of_mem_replicate he ▸ hf s
  rwa [List.foldl_const, List.length_replicate] at hlast

/-- What every step preserves holds in every state of every run. -/
theorem allReached_of_step {I : σ → Prop} (hstep : ∀ s e s', I s → step s e = some s' → I s')
    {s : σ} (hI : I s) (es : List ε) : AllReached step I s es := by
  induction es generalizing s with
  | nil => exact hI
  | cons e es ih => exact ⟨hI, fun s' hs' => ih (hstep s e s' hI hs')⟩

/-- **The invariant rule**: what every step that meets `C` preserves holds in every state of a run
whose steps all meet `C`. -/
theorem allReached_of_stepsMeet {I : σ → Prop} {C : σ → ε → Prop}
    (hstep : ∀ s e s', I s → C s e → step s e = some s' → I s') {es : List ε} {s : σ} (hI : I s)
    (hmeet : StepsMeet step C s es) : AllReached step I s es := by
  induction es generalizing s with
  | nil => exact hI
  | cons e es ih =>
      refine ⟨hI, fun s' hs' => ?_⟩
      obtain ⟨hC, hrest⟩ := hmeet s' hs'
      exact ih (hstep s e s' hI hC hs') hrest

/-- **The rule for an exact condition**: when steps that meet `C` preserve an invariant that implies
`P`, and other steps lead out of `P`, then `P` holds throughout a run just when all its steps meet
`C`; all this as long as `Q` holds. -/
theorem AllReached.iff_stepsMeet {I P Q : σ → Prop} {C : σ → ε → Prop} (hP : ∀ s, I s → P s)
    (hkeep : ∀ s e s', I s → Q s' → C s e → step s e = some s' → I s')
    (hleave : ∀ s e s', I s → Q s' → ¬ C s e → step s e = some s' → ¬ P s') {s : σ} (hI : I s)
    {es : List ε} (hQ : AllReached step Q s es) : AllReached step P s es ↔ StepsMeet step C s es := by
  induction es generalizing s with
  | nil => exact ⟨fun _ => trivial, fun _ => hP s hI⟩
  | cons e es ih =>
      constructor
      · intro h s' hs'
        have hQ' := hQ.2 s' hs'
        have hrest := h.2 s' hs'
        have hC : C s e := by
          by_contra hC
          exact hleave s e s' hI hQ'.start hC hs' hrest.start
        exact ⟨hC, (ih (hkeep s e s' hI hQ'.start hC hs') hQ').mp hrest⟩
      · intro h
        refine ⟨hP s hI, fun s' hs' => ?_⟩
        have hQ' := hQ.2 s' hs'
        obtain ⟨hC, hrest⟩ := h s' hs'
        exact (ih (hkeep s e s' hI hQ'.start hC hs') hQ').mpr hrest

/-- The rule where nothing else has to hold. -/
theorem allReached_iff_stepsMeet {I P : σ → Prop} {C : σ → ε → Prop} (hP : ∀ s, I s → P s)
    (hkeep : ∀ s e s', I s → C s e → step s e = some s' → I s')
    (hleave : ∀ s e s', I s → ¬ C s e → step s e = some s' → ¬ P s') {s : σ} (hI : I s)
    (es : List ε) : AllReached step P s es ↔ StepsMeet step C s es :=
  AllReached.iff_stepsMeet hP (fun s e s' hI _ => hkeep s e s' hI) (fun s e s' hI _ => hleave s e s' hI)
    hI (allReached_of_step (I := fun _ => True) (fun _ _ _ _ _ => trivial) trivial es)

/-- **The rule for a harm that shows later**: when a step that does not meet `C` leads to a state from
which some events of the kind `R` lead out of `P`, then every run that does not meet `C` has a beginning
from which such events lead out of `P`. -/
theorem exists_prefix_not_allReached {I P : σ → Prop} {C : σ → ε → Prop} {R : List ε → Prop}
    (hkeep : ∀ s e s', I s → C s e → step s e = some s' → I s')
    (hharm : ∀ s e s', I s → ¬ C s e → step s e = some s' →
      ∃ rest, R rest ∧ ¬ AllReached step P s' rest) {es : List ε} {s : σ} (hI : I s)
    (h : ¬ StepsMeet step C s es) :
    ∃ es' rest, es' <+: es ∧ R rest ∧ ¬ AllReached step P s (es' ++ rest) := by
  induction es generalizing s with
  | nil => exact absurd trivial h
  | cons e es ih =>
      obtain ⟨s', h⟩ := not_forall.mp h
      obtain ⟨hs', h⟩ := Classical.not_imp.mp h
      by_cases hC : C s e
      · obtain ⟨es', rest, hprefix, hR, hleave⟩ := ih (hkeep s e s' hI hC hs') fun hrest => h ⟨hC, hrest⟩
        exact ⟨e :: es', rest, List.cons_prefix_cons.mpr ⟨rfl, hprefix⟩, hR,
          fun hall => hleave (hall.2 s' hs')⟩
      · obtain ⟨rest, hR, hleave⟩ := hharm s e s' hI hC hs'
        exact ⟨[e], rest, List.cons_prefix_cons.mpr ⟨rfl, List.nil_prefix⟩, hR,
          fun hall => hleave (hall.2 s' hs')⟩

/-- The rule where one event `e₀`, a number of times, leads out of `P`. -/
theorem exists_not_allReached {I P : σ → Prop} {C : σ → ε → Prop} {e₀ : ε}
    (hkeep : ∀ s e s', I s → C s e → step s e = some s' → I s')
    (hharm : ∀ s e s', I s → ¬ C s e → step s e = some s' →
      ∃ k, ¬ AllReached step P s' (List.replicate k e₀)) {es : List ε} {s : σ} (hI : I s)
    (h : ¬ StepsMeet step C s es) :
    ∃ es' k, es' <+: es ∧ ¬ AllReached step P s (es' ++ List.replicate k e₀) := by
  obtain ⟨es', _, hprefix, ⟨k, rfl⟩, hleave⟩ :=
    exists_prefix_not_allReached (R := fun rest => ∃ k, rest = List.replicate k e₀) hkeep
      (fun s e s' hI hC hs' => by
        obtain ⟨k, hk⟩ := hharm s e s' hI hC hs'
        exact ⟨_, ⟨k, rfl⟩, hk⟩) hI h
  exact ⟨es', k, hprefix, hleave⟩

end TransitionSystem
