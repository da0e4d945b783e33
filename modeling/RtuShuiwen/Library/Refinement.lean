import RtuShuiwen.Library.TransitionSystem

/-! # Refinement of transition systems

A system refines another one when a relation between their states holds at the start and every step it takes is
one that the other takes too, into related states. What holds in every state the other reaches is then known of
every state the system reaches. -/

namespace TransitionSystem

variable {σ τ ε : Type*} {step : σ → ε → Option σ} {step' : τ → ε → Option τ}

/-- Every step of the events that the first system takes is one that the second takes too, and their states stay
related. -/
def Refines (step : σ → ε → Option σ) (step' : τ → ε → Option τ) (R : σ → τ → Prop) : σ → τ → List ε → Prop
  | s, t, [] => R s t
  | s, t, e :: es => R s t ∧ ∀ s', step s e = some s' →
      ∃ t', step' t e = some t' ∧ Refines step step' R s' t' es

/-- **The refinement rule.** -/
theorem refines_of_step {R : σ → τ → Prop}
    (hstep : ∀ s t e s', R s t → step s e = some s' → ∃ t', step' t e = some t' ∧ R s' t') {s : σ} {t : τ}
    (hR : R s t) (es : List ε) : Refines step step' R s t es := by
  induction es generalizing s t with
  | nil => exact hR
  | cons e es ih =>
      refine ⟨hR, fun s' hs' => ?_⟩
      obtain ⟨t', ht', hR'⟩ := hstep s t e s' hR hs'
      exact ⟨t', ht', ih hR'⟩

/-- **What the second system always has the first one has.** -/
theorem Refines.allReached {R : σ → τ → Prop} {P : τ → Prop} {Q : σ → Prop}
    (hPQ : ∀ s t, R s t → P t → Q s) {es : List ε} {s : σ} {t : τ} (href : Refines step step' R s t es)
    (hP : AllReached step' P t es) : AllReached step Q s es := by
  induction es generalizing s t with
  | nil => exact hPQ s t href hP
  | cons e es ih =>
      obtain ⟨hR, href⟩ := href
      refine ⟨hPQ s t hR hP.1, fun s' hs' => ?_⟩
      obtain ⟨t', ht', href'⟩ := href s' hs'
      exact ih href' (hP.2 t' ht')

end TransitionSystem
