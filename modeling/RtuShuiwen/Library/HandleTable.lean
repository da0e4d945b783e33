import Mathlib.Logic.Function.Basic
import Mathlib.Tactic.Common

/-! # Handles that are opened and closed

An operating system hands out a handle for what is opened: the handle names it until it is closed, and may
be handed out again afterwards. Nothing keeps a program from closing a handle a second time, which does
nothing or closes what somebody else has opened there meanwhile.

`Table` is what the handles name or have named last, `run` a list of uses of it. What is open is read
off by `Holds`, and each use has a lemma that says what it leaves open. -/

namespace HandleTable

/-- What a handle names: whom it was opened for, and whether it is still open. -/
structure Entry (ω : Type*) where
  owner : ω
  isOpen : Bool
  deriving DecidableEq

/-- What each handle names, or has named last, and whether one was closed again that was closed. -/
structure Table (κ ω : Type*) where
  named : κ → Option (Entry ω)
  closedTwice : Bool

/-- A use of the table. -/
inductive Use (κ ω : Type*)
  | opened (handle : κ) (owner : ω)
  | closed (handle : κ)

namespace Table

variable {κ ω : Type*}

/-- The handle is open, for this owner. -/
def Holds (t : Table κ ω) (handle : κ) (owner : ω) : Prop := t.named handle = some ⟨owner, true⟩

instance [DecidableEq ω] (t : Table κ ω) (handle : κ) (owner : ω) : Decidable (t.Holds handle owner) :=
  inferInstanceAs (Decidable (_ = _))

/-- The handle is open. -/
def isOpen (t : Table κ ω) (handle : κ) : Bool := (t.named handle).any Entry.isOpen

variable [DecidableEq κ]

/-- Opening; an open handle is not handed out. -/
def opened (t : Table κ ω) (handle : κ) (owner : ω) : Option (Table κ ω) :=
  if t.isOpen handle then none
  else some { t with named := Function.update t.named handle (some ⟨owner, true⟩) }

/-- Closing. -/
def close (t : Table κ ω) (handle : κ) : Table κ ω :=
  match t.named handle with
  | none => t
  | some ⟨owner, true⟩ => { t with named := Function.update t.named handle (some ⟨owner, false⟩) }
  | some ⟨_, false⟩ => { t with closedTwice := true }

/-- The table after some uses, if they can happen. -/
def run (t : Table κ ω) : List (Use κ ω) → Option (Table κ ω)
  | [] => some t
  | .opened handle owner :: uses => (t.opened handle owner).bind fun t => t.run uses
  | .closed handle :: uses => (t.close handle).run uses

/-! ## What is open -/

omit [DecidableEq κ] in
/-- An open handle has one owner. -/
theorem Holds.owner_eq {t : Table κ ω} {handle : κ} {owner owner' : ω} (h : t.Holds handle owner)
    (h' : t.Holds handle owner') : owner = owner' := by
  have hsame := h.symm.trans h'
  simpa using hsame

omit [DecidableEq κ] in
/-- A handle that is held is open. -/
theorem Holds.isOpen {t : Table κ ω} {handle : κ} {owner : ω} (h : t.Holds handle owner) :
    t.isOpen handle = true := by
  rw [Holds] at h
  simp [Table.isOpen, h]

/-- What is opened was not open. -/
theorem isOpen_of_opened {t t' : Table κ ω} {handle : κ} {owner : ω}
    (h : t.opened handle owner = some t') : t.isOpen handle = false := by
  rw [opened] at h
  split at h
  · cases h
  · next hnot => simpa using hnot

/-- **Opening** adds one handle to the open ones. -/
theorem holds_of_opened {t t' : Table κ ω} {handle : κ} {owner : ω}
    (h : t.opened handle owner = some t') (handle' : κ) (owner' : ω) :
    t'.Holds handle' owner' ↔ handle' = handle ∧ owner' = owner ∨ t.Holds handle' owner' := by
  have hclosed := isOpen_of_opened h
  rw [opened, if_neg (by simp [hclosed])] at h
  obtain rfl := Option.some.inj h
  by_cases hhandle : handle' = handle
  · subst hhandle
    have hnot : ¬ t.Holds handle' owner' := fun hholds => by
      simp [hholds.isOpen] at hclosed
    simp only [true_and, hnot, or_false]
    simp [Holds, eq_comm]
  · simp [Holds, hhandle]

@[simp] theorem closedTwice_of_opened {t t' : Table κ ω} {handle : κ} {owner : ω}
    (h : t.opened handle owner = some t') : t'.closedTwice = t.closedTwice := by
  rw [opened] at h
  split at h
  · cases h
  · exact (Option.some.inj h) ▸ rfl

/-- Other handles name what they named. -/
theorem named_of_opened {t t' : Table κ ω} {handle handle' : κ} {owner : ω}
    (h : t.opened handle owner = some t') (hne : handle' ≠ handle) :
    t'.named handle' = t.named handle' := by
  rw [opened] at h
  split at h
  · cases h
  · obtain rfl := Option.some.inj h
    exact Function.update_of_ne hne _ _

/-- Closing a handle that never named anything does nothing. -/
theorem close_of_named_eq_none {t : Table κ ω} {handle : κ} (h : t.named handle = none) :
    t.close handle = t := by
  rw [close, h]

/-- **Closing** an open handle takes it from the open ones. -/
theorem holds_close {t : Table κ ω} {handle : κ} {owner : ω} (h : t.Holds handle owner) (handle' : κ)
    (owner' : ω) : (t.close handle).Holds handle' owner' ↔ handle' ≠ handle ∧ t.Holds handle' owner' := by
  rw [Holds] at h
  rw [close, h]
  by_cases hhandle : handle' = handle
  · simp [Holds, hhandle]
  · simp [Holds, hhandle]

theorem closedTwice_close {t : Table κ ω} {handle : κ} {owner : ω} (h : t.Holds handle owner) :
    (t.close handle).closedTwice = t.closedTwice := by
  rw [Holds] at h
  rw [close, h]

/-- Other handles name what they named. -/
theorem named_close {t : Table κ ω} {handle handle' : κ} (hne : handle' ≠ handle) :
    (t.close handle).named handle' = t.named handle' := by
  rw [close]
  split
  · rfl
  · exact Function.update_of_ne hne _ _
  · rfl

/-! ## Several uses -/

@[simp] theorem run_nil (t : Table κ ω) : t.run [] = some t := rfl

@[simp] theorem run_closed (t : Table κ ω) (handle : κ) (uses : List (Use κ ω)) :
    t.run (.closed handle :: uses) = (t.close handle).run uses := rfl

theorem run_opened_eq_some_iff {t t' : Table κ ω} {handle : κ} {owner : ω} {uses : List (Use κ ω)} :
    t.run (.opened handle owner :: uses) = some t' ↔
      ∃ mid, t.opened handle owner = some mid ∧ mid.run uses = some t' :=
  Option.bind_eq_some_iff

/-- What was opened and closed at once leaves the open handles as they were. -/
theorem run_opened_closed {t t' : Table κ ω} {handle : κ} {owner : ω}
    (h : t.run [.opened handle owner, .closed handle] = some t') :
    t'.closedTwice = t.closedTwice ∧
      (∀ handle' owner', t'.Holds handle' owner' ↔ t.Holds handle' owner') ∧
      ∀ handle', handle' ≠ handle → t'.named handle' = t.named handle' := by
  obtain ⟨mid, hopened, hclosed⟩ := run_opened_eq_some_iff.mp h
  rw [run_closed, run_nil] at hclosed
  obtain rfl := Option.some.inj hclosed
  have hholds := holds_of_opened hopened
  have hheld : mid.Holds handle owner := (hholds handle owner).mpr (.inl ⟨rfl, rfl⟩)
  refine ⟨(closedTwice_close hheld).trans (closedTwice_of_opened hopened), fun handle' owner' => ?_,
    fun handle' hne => (named_close hne).trans (named_of_opened hopened hne)⟩
  rw [holds_close hheld, hholds]
  have hopen := isOpen_of_opened hopened
  constructor
  · rintro ⟨hne, ⟨rfl, -⟩ | hold⟩
    · exact absurd rfl hne
    · exact hold
  · intro hold
    refine ⟨?_, .inr hold⟩
    rintro rfl
    simp [hold.isOpen] at hopen

end Table

end HandleTable
