import Mathlib.Tactic.Common

/-! # Scripts of commands

A script sends commands one after the other, each depending on the replies so far, and ends with a
result. `Demands ok good c` says that a script has no way to a good result on which the command `c` is
not sent and answered by a reply that is `ok`; the lemmas say how it passes to scripts put together. -/

namespace CommandScript

variable {κ ρ α β : Type}

/-- A script of commands `κ` with replies `ρ` and a result. -/
inductive Script (κ ρ α : Type)
  | done (result : α)
  | send (c : κ) (next : ρ → Script κ ρ α)

namespace Script

/-- One script after the other. -/
def bind : Script κ ρ α → (α → Script κ ρ β) → Script κ ρ β
  | done a, f => f a
  | send c next, f => send c fun r => (next r).bind f

@[simp] theorem done_bind (a : α) (f : α → Script κ ρ β) : (done a : Script κ ρ α).bind f = f a := rfl

theorem bind_assoc {γ : Type} (p : Script κ ρ α) (f : α → Script κ ρ β) (g : β → Script κ ρ γ) :
    (p.bind f).bind g = p.bind fun a => (f a).bind g := by
  induction p with
  | done a => rfl
  | send c next ih =>
      rw [bind, bind, bind]
      congr 1
      funext r
      exact ih r

/-- Every way to a good result leads through the command and a reply that is `ok`. -/
def Demands (ok : ρ → Prop) (good : α → Prop) (c : κ) : Script κ ρ α → Prop
  | done a => ¬ good a
  | send c' next => ∀ r, (c' = c ∧ ok r) ∨ (next r).Demands ok good c

variable {ok : ρ → Prop} {good : α → Prop} {goodβ : β → Prop} {c : κ}

@[simp] theorem demands_done (a : α) : (done a : Script κ ρ α).Demands ok good c ↔ ¬ good a := Iff.rfl

/-- What the second script demands after any result of the first is demanded. -/
theorem demands_bind_right (p : Script κ ρ α) {f : α → Script κ ρ β}
    (h : ∀ a, (f a).Demands ok goodβ c) : (p.bind f).Demands ok goodβ c := by
  induction p with
  | done a => exact h a
  | send c' next ih => exact fun r => .inr (ih r)

/-- What the first script demands for its good results, and the second after all others, is demanded. -/
theorem demands_bind_left {p : Script κ ρ α} (hp : p.Demands ok good c) {f : α → Script κ ρ β}
    (h : ∀ a, ¬ good a → (f a).Demands ok goodβ c) : (p.bind f).Demands ok goodβ c := by
  induction p with
  | done a => exact h a hp
  | send c' next ih =>
      intro r
      rcases hp r with hsent | hrest
      · exact .inl hsent
      · exact .inr (ih r hrest)

end Script

end CommandScript
