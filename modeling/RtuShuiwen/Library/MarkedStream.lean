import Mathlib.Data.List.Basic
import Mathlib.Data.List.Infix

/-! # Marks in a stream

A part of a stream is marked by two neighbouring elements at its start and two at its end.
`fromPair a b` is the stream from its first `a b` on, `throughPair a b` the stream up to and including
it. `takeThrough p` is the list up to and including its first element with `p`; it is what a loop over
the list sees that stops behind such an element. -/

namespace MarkedStream

variable {α : Type*}

section Pairs

variable [DecidableEq α] (a b : α)

/-- The stream from the first `a b` on, empty when there is none. -/
def fromPair : List α → List α
  | x :: y :: rest => if x = a ∧ y = b then x :: y :: rest else fromPair (y :: rest)
  | _ => []

/-- The stream up to and including the first `a b`, or all of it. -/
def throughPair : List α → List α
  | x :: y :: rest => if x = a ∧ y = b then [x, y] else x :: throughPair (y :: rest)
  | l => l

variable {a b}

/-- A stream that begins with the pair is taken whole. -/
theorem fromPair_of_isPrefix {l : List α} (h : [a, b] <+: l) : fromPair a b l = l := by
  obtain ⟨rest, rfl⟩ := h
  simp [fromPair]

/-- The first pair comes no later than any other. -/
theorem length_le_fromPair {ys : List α} (h : [a, b] <+: ys) (xs : List α) :
    ys.length ≤ (fromPair a b (xs ++ ys)).length := by
  induction xs with
  | nil => simp [fromPair_of_isPrefix h]
  | cons x xs ih =>
      obtain ⟨rest, rfl⟩ := h
      rcases hl : xs ++ ([a, b] ++ rest) with - | ⟨y, l⟩
      · simp at hl
      · have hlength : ([a, b] ++ rest).length ≤ (x :: y :: l).length := by
          have := congrArg List.length hl
          simp only [List.length_append, List.length_cons] at this ⊢
          omega
        show _ ≤ (fromPair a b (x :: (xs ++ ([a, b] ++ rest)))).length
        rw [hl, fromPair]
        split
        · exact hlength
        · rwa [hl] at ih

/-- What is taken ends with the pair, or is the whole stream. -/
theorem throughPair_eq_or (l : List α) :
    throughPair a b l = l ∨ [a, b] <:+ throughPair a b l := by
  induction l with
  | nil => exact .inl rfl
  | cons x l ih =>
      rcases l with - | ⟨y, rest⟩
      · exact .inl rfl
      · rw [throughPair]
        split
        · next h => simp [h.1, h.2]
        · rcases ih with ih | ih
          · simp [ih]
          · exact .inr (ih.trans (List.suffix_cons _ _))

/-- What is taken begins like the stream. -/
theorem head?_throughPair (l : List α) : (throughPair a b l).head? = l.head? := by
  rcases l with - | ⟨x, - | ⟨y, rest⟩⟩
  · rfl
  · rfl
  · rw [throughPair]
    split <;> rfl

/-- Nothing is taken behind a pair. -/
theorem throughPair_end {l p q : List α} (h : throughPair a b l = p ++ a :: b :: q) : q = [] := by
  induction l generalizing p with
  | nil => simp [throughPair] at h
  | cons x l ih =>
      rcases l with - | ⟨y, rest⟩
      · have := congrArg List.length h
        simp [throughPair] at this
        omega
      · rw [throughPair] at h
        split at h
        · have := congrArg List.length h
          simp only [List.length_append, List.length_cons, List.length_nil] at this
          exact List.length_eq_zero_iff.mp (by omega)
        · next hne =>
            rcases p with - | ⟨p₀, p⟩
            · -- a pair at the very front would have been seen there
              obtain ⟨rfl, htail⟩ := List.cons.inj h
              have hhead := head?_throughPair (a := x) (b := b) (y :: rest)
              rw [htail] at hhead
              exact absurd ⟨rfl, (Option.some.inj hhead).symm⟩ hne
            · exact ih (List.cons.inj h).2

end Pairs

section TakeThrough

variable (p : α → Bool)

/-- The list up to and including the first element with `p`, or all of it. -/
def takeThrough : List α → List α
  | [] => []
  | x :: l => if p x then [x] else x :: takeThrough l

variable {p}

/-- What is taken begins the list. -/
theorem takeThrough_isPrefix (l : List α) : takeThrough p l <+: l := by
  induction l with
  | nil => exact List.nil_prefix
  | cons x l ih =>
      rw [takeThrough]
      split
      · exact ⟨l, rfl⟩
      · exact List.cons_prefix_cons.mpr ⟨rfl, ih⟩

/-- What is taken ends with an element with `p`, or is the whole list. -/
theorem takeThrough_eq_or (l : List α) :
    takeThrough p l = l ∨ ∃ front x, takeThrough p l = front ++ [x] ∧ p x = true := by
  induction l with
  | nil => exact .inl rfl
  | cons x l ih =>
      rw [takeThrough]
      split
      · next h => exact .inr ⟨[], x, rfl, h⟩
      · rcases ih with ih | ⟨front, y, hfront, hy⟩
        · simp [ih]
        · exact .inr ⟨x :: front, y, by simp [hfront], hy⟩

/-- Nothing is taken behind an element with `p`. -/
theorem takeThrough_end {l front back : List α} {x : α} (h : takeThrough p l = front ++ x :: back)
    (hx : p x = true) : back = [] := by
  induction l generalizing front with
  | nil => simp [takeThrough] at h
  | cons y l ih =>
      rw [takeThrough] at h
      split at h
      · have := congrArg List.length h
        simp only [List.length_append, List.length_cons, List.length_nil] at this
        exact List.length_eq_zero_iff.mp (by omega)
      · next hy =>
          rcases front with - | ⟨z, front⟩
          · obtain ⟨rfl, -⟩ := List.cons.inj h
            exact absurd hx hy
          · exact ih (List.cons.inj h).2

end TakeThrough

end MarkedStream
