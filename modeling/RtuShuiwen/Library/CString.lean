import Mathlib.Data.List.Basic
import Mathlib.Data.List.Infix
import Mathlib.Data.List.TakeWhile
import Mathlib.Data.UInt
import Mathlib.Tactic.Common

/-! # Strings in bounded memory

The functions of the C library on strings that nobody has checked. A pointer is the memory from its
target to the end of the buffer, so a function that runs off the buffer shows as a `Fault`; so does
the use of a pointer that is not there.

`strstr` finds the first place of a pattern before the terminator, `strtok` cuts the memory into
separators, a token and the byte that ends it (`strtok_eq_some_iff`), `strcpy` and `memcpy` copy into
a buffer of a given size. Each stops reading as soon as it knows its result. -/

namespace CString

/-- What goes wrong with memory. -/
inductive Fault
  | readOutside
  | writeOutside
  | nullPointer
  deriving DecidableEq, Repr

/-- A pointer that may be `NULL`: the memory from its target on. -/
abbrev Pointer := Option (List UInt8)

/-! ## Searching -/

/-- The pattern stands at position `k`, and the string has not ended before. -/
def OccursAt (pattern memory : List UInt8) (k : ℕ) : Prop :=
  pattern <+: memory.drop k ∧ 0 ∉ memory.take k

instance (pattern memory : List UInt8) (k : ℕ) : Decidable (OccursAt pattern memory k) := by
  unfold OccursAt
  infer_instance

/-- `strstr`: the memory from the first occurrence of the pattern on. -/
def strstr (pattern : List UInt8) : List UInt8 → Except Fault Pointer
  | [] => .error .readOutside
  | b :: s =>
      if pattern <+: b :: s then .ok (some (b :: s))
      else if b = 0 then .ok none
      else strstr pattern s

@[simp] theorem occursAt_zero (pattern memory : List UInt8) :
    OccursAt pattern memory 0 ↔ pattern <+: memory := by
  simp [OccursAt]

@[simp] theorem occursAt_cons_succ (pattern : List UInt8) (b : UInt8) (s : List UInt8) (k : ℕ) :
    OccursAt pattern (b :: s) (k + 1) ↔ b ≠ 0 ∧ OccursAt pattern s k := by
  simp only [OccursAt, List.drop_succ_cons, List.take_succ_cons, List.mem_cons, not_or]
  constructor
  · rintro ⟨hfound, hb, hs⟩
    exact ⟨fun h => hb h.symm, hfound, hs⟩
  · rintro ⟨hb, hfound, hs⟩
    exact ⟨hfound, fun h => hb h.symm, hs⟩

/-- No pattern stands in no memory. -/
theorem not_occursAt_nil {pattern : List UInt8} (hne : pattern ≠ []) (k : ℕ) :
    ¬ OccursAt pattern [] k := by
  rintro ⟨hfound, -⟩
  rw [List.drop_nil, List.prefix_nil] at hfound
  exact hne hfound

/-- **What `strstr` finds** is the first occurrence. -/
theorem strstr_eq_some_iff {pattern memory found : List UInt8} (hne : pattern ≠ []) :
    strstr pattern memory = .ok (some found) ↔
      ∃ k, OccursAt pattern memory k ∧ found = memory.drop k ∧
        ∀ j, OccursAt pattern memory j → k ≤ j := by
  induction memory with
  | nil => simp [strstr, not_occursAt_nil hne]
  | cons b s ih =>
      rw [strstr]
      by_cases hfound : pattern <+: b :: s
      · rw [if_pos hfound]
        constructor
        · rintro ⟨⟩
          exact ⟨0, by simpa using hfound, rfl, fun _ _ => Nat.zero_le _⟩
        · rintro ⟨k, -, rfl, hmin⟩
          have hzero := hmin 0 (by simpa using hfound)
          rw [Nat.le_zero.mp hzero, List.drop_zero]
      · rw [if_neg hfound]
        by_cases hb : b = 0
        · rw [if_pos hb]
          constructor
          · rintro ⟨⟩
          · rintro ⟨k, hk, -, -⟩
            cases k with
            | zero => exact absurd (by simpa using hk) hfound
            | succ k => exact absurd hb ((occursAt_cons_succ _ _ _ _).mp hk).1
        · rw [if_neg hb, ih]
          constructor
          · rintro ⟨k, hk, rfl, hmin⟩
            refine ⟨k + 1, by simp [hb, hk], rfl, fun j hj => ?_⟩
            cases j with
            | zero => exact absurd (by simpa using hj) hfound
            | succ j => exact Nat.succ_le_succ (hmin j ((occursAt_cons_succ _ _ _ _).mp hj).2)
          · rintro ⟨k, hk, rfl, hmin⟩
            cases k with
            | zero => exact absurd (by simpa using hk) hfound
            | succ k =>
                refine ⟨k, ((occursAt_cons_succ _ _ _ _).mp hk).2, rfl, fun j hj => ?_⟩
                exact Nat.le_of_succ_le_succ (hmin (j + 1) (by simp [hb, hj]))

/-- What occurs is found. -/
theorem exists_strstr {pattern memory : List UInt8} {k : ℕ} (hne : pattern ≠ [])
    (hk : OccursAt pattern memory k) : ∃ found, strstr pattern memory = .ok (some found) := by
  induction memory generalizing k with
  | nil => exact absurd hk (not_occursAt_nil hne k)
  | cons b s ih =>
      rw [strstr]
      by_cases hfound : pattern <+: b :: s
      · exact ⟨b :: s, if_pos hfound⟩
      · cases k with
        | zero => exact absurd (by simpa using hk) hfound
        | succ k =>
            obtain ⟨hb, hs⟩ := (occursAt_cons_succ _ _ _ _).mp hk
            rw [if_neg hfound, if_neg hb]
            exact ih hs

/-- **`strstr` finds nothing** in a string without the pattern; it has to see the end of the
string. -/
theorem strstr_eq_none_iff {pattern memory : List UInt8} :
    strstr pattern memory = .ok none ↔ 0 ∈ memory ∧ ∀ k, ¬ OccursAt pattern memory k := by
  induction memory with
  | nil => simp [strstr]
  | cons b s ih =>
      rw [strstr]
      by_cases hfound : pattern <+: b :: s
      · rw [if_pos hfound]
        constructor
        · rintro ⟨⟩
        · rintro ⟨-, hnot⟩
          exact absurd (by simpa using hfound) (hnot 0)
      · rw [if_neg hfound]
        have hnot : (∀ k, ¬ OccursAt pattern (b :: s) k) ↔
            b = 0 ∨ ∀ k, ¬ OccursAt pattern s k := by
          constructor
          · intro h
            by_cases hb : b = 0
            · exact .inl hb
            · exact .inr fun k hk => h (k + 1) (by simp [hb, hk])
          · intro h k hk
            cases k with
            | zero => exact hfound (by simpa using hk)
            | succ k =>
                obtain ⟨hb, hs⟩ := (occursAt_cons_succ _ _ _ _).mp hk
                rcases h with hzero | hnone
                · exact hb hzero
                · exact hnone k hs
        by_cases hb : b = 0
        · rw [if_pos hb, hnot]
          simp [hb]
        · rw [if_neg hb, ih, hnot, List.mem_cons]
          simp [hb, eq_comm]

/-! ## Tokens -/

/-- What `strtok` returns and leaves: the token, the memory from it on with the byte behind it
overwritten, and the memory at which the next call goes on. -/
structure Token where
  text : List UInt8
  memory : List UInt8
  rest : List UInt8

/-- A byte that can be part of a token. -/
def inToken (delim : List UInt8) (b : UInt8) : Bool := b ≠ 0 ∧ b ∉ delim

/-- `strtok` at a place in memory. -/
def strtok (delim memory : List UInt8) : Except Fault (Option Token) :=
  let start := memory.dropWhile (· ∈ delim)
  let text := start.takeWhile (inToken delim)
  match start.dropWhile (inToken delim) with
  | [] => .error .readOutside
  | stop :: rest =>
      if text = [] then .ok none
      else .ok (some ⟨text, text ++ 0 :: rest, if stop = 0 then stop :: rest else rest⟩)

/-- `strtok` with `NULL`: it goes on behind the last token; behind no token there is none. -/
def strtokNext (delim : List UInt8) : Option Token → Except Fault (Option Token)
  | none => .ok none
  | some token => strtok delim token.rest

/-- The pointer that `strtok` returns. -/
def pointer (token : Option Token) : Pointer := token.map Token.memory

/-- Bytes that can make up a token. -/
def IsText (delim text : List UInt8) : Prop := text ≠ [] ∧ ∀ b ∈ text, inToken delim b

instance (delim text : List UInt8) : Decidable (IsText delim text) :=
  decidable_of_iff (text ≠ [] ∧ text.all (inToken delim) = true) (by simp [IsText])

/-- A token has no zero byte. -/
theorem IsText.ne_zero {delim text : List UInt8} (h : IsText delim text) : ∀ b ∈ text, b ≠ 0 := by
  intro b hb
  have hb := h.2 b hb
  simp only [inToken, decide_eq_true_eq] at hb
  exact hb.1

/-- Memory as `strtok` sees it: separators, a token and the byte that ends it. -/
structure Splits (delim memory skipped text : List UInt8) (stop : UInt8) (rest : List UInt8) :
    Prop where
  memory_eq : memory = skipped ++ (text ++ stop :: rest)
  skipped_mem : ∀ b ∈ skipped, b ∈ delim
  isText : IsText delim text
  stop_mem : inToken delim stop = false

/-- A text at the front, up to a byte that is not part of it. -/
theorem takeWhile_append_cons {p : UInt8 → Bool} {text rest : List UInt8} {stop : UInt8}
    (htext : ∀ b ∈ text, p b = true) (hstop : p stop = false) :
    (text ++ stop :: rest).takeWhile p = text := by
  rw [List.takeWhile_append_of_pos htext, List.takeWhile_cons_of_neg (by simp [hstop]),
    List.append_nil]

/-- What is left from such a byte on. -/
theorem dropWhile_append_cons {p : UInt8 → Bool} {text rest : List UInt8} {stop : UInt8}
    (htext : ∀ b ∈ text, p b = true) (hstop : p stop = false) :
    (text ++ stop :: rest).dropWhile p = stop :: rest := by
  rw [List.dropWhile_append_of_pos htext, List.dropWhile_cons_of_neg (by simp [hstop])]

/-- A byte that fails ends the text at the front. -/
theorem exists_stop {p : UInt8 → Bool} {memory : List UInt8} (h : ∃ b ∈ memory, p b = false) :
    ∃ stop tail, memory = memory.takeWhile p ++ stop :: tail ∧ p stop = false := by
  obtain ⟨b, hb, hstop⟩ := h
  induction memory with
  | nil => cases hb
  | cons c memory ih =>
      by_cases hc : p c = true
      · have hmem : b ∈ memory := by
          rcases List.mem_cons.mp hb with rfl | hmem
          · simp [hc] at hstop
          · exact hmem
        obtain ⟨stop, tail, hsplit, hfail⟩ := ih hmem
        refine ⟨stop, tail, ?_, hfail⟩
        rw [List.takeWhile_cons_of_pos hc, List.cons_append, ← hsplit]
      · refine ⟨c, memory, ?_, by simpa using hc⟩
        rw [List.takeWhile_cons_of_neg hc, List.nil_append]

/-- The token of memory that splits. -/
theorem Splits.strtok_eq {delim memory skipped text rest : List UInt8} {stop : UInt8}
    (h : Splits delim memory skipped text stop rest) :
    strtok delim memory =
      .ok (some ⟨text, text ++ 0 :: rest, if stop = 0 then stop :: rest else rest⟩) := by
  obtain ⟨rfl, hskip, ⟨hne, htext⟩, hstop⟩ := h
  have hstart : (skipped ++ (text ++ stop :: rest)).dropWhile (fun b => decide (b ∈ delim)) =
      text ++ stop :: rest := by
    cases text with
    | nil => exact absurd rfl hne
    | cons b text =>
        have hb := htext b List.mem_cons_self
        simp only [inToken, decide_eq_true_eq] at hb
        apply dropWhile_append_cons
        · simpa using hskip
        · simpa using hb.2
  simp only [strtok, hstart, takeWhile_append_cons htext hstop, dropWhile_append_cons htext hstop,
    if_neg hne]

/-- Behind a separator the next call goes on at the memory after it. -/
theorem Splits.strtok_eq_of_ne {delim memory skipped text rest : List UInt8} {stop : UInt8}
    (h : Splits delim memory skipped text stop rest) (hne : stop ≠ 0) :
    strtok delim memory = .ok (some ⟨text, text ++ 0 :: rest, rest⟩) := by
  rw [h.strtok_eq, if_neg hne]

/-- **Memory splits in one way**, when a separator ends the token. -/
theorem Splits.unique {delim memory skipped skipped' text text' rest rest' : List UInt8}
    {stop stop' : UInt8} (h : Splits delim memory skipped text stop rest)
    (h' : Splits delim memory skipped' text' stop' rest') (hne : stop ≠ 0) (hne' : stop' ≠ 0) :
    text = text' ∧ rest = rest' := by
  have hsame := (h.strtok_eq_of_ne hne).symm.trans (h'.strtok_eq_of_ne hne')
  simp only [Except.ok.injEq, Option.some.injEq, Token.mk.injEq] at hsame
  exact ⟨hsame.1, hsame.2.2⟩

/-- A separator in front is skipped. -/
theorem splits_cons_iff {delim memory skipped text rest : List UInt8} {b stop : UInt8}
    (hb : b ∈ delim) :
    Splits delim (b :: memory) skipped text stop rest ↔
      ∃ skipped', skipped = b :: skipped' ∧ Splits delim memory skipped' text stop rest := by
  constructor
  · rintro ⟨hmemory, hskip, htext, hstop⟩
    cases skipped with
    | nil =>
        obtain ⟨hne, hall⟩ := htext
        obtain ⟨first, text, rfl⟩ := List.exists_cons_of_ne_nil hne
        simp only [List.nil_append, List.cons_append, List.cons.injEq] at hmemory
        have hfirst := hall first List.mem_cons_self
        rw [← hmemory.1] at hfirst
        simp [inToken, hb] at hfirst
    | cons c skipped =>
        simp only [List.cons_append, List.cons.injEq] at hmemory
        obtain ⟨rfl, hmemory⟩ := hmemory
        exact ⟨skipped, rfl, hmemory, fun c hc => hskip c (List.mem_cons_of_mem _ hc), htext, hstop⟩
  · rintro ⟨skipped', rfl, rfl, hskip, htext, hstop⟩
    refine ⟨rfl, ?_, htext, hstop⟩
    rintro c hc
    rcases List.mem_cons.mp hc with rfl | hmem
    · exact hb
    · exact hskip c hmem

/-- In front of a byte that is no separator nothing is skipped. -/
theorem Splits.skipped_eq_nil {delim memory skipped text rest : List UInt8} {b stop : UInt8}
    (h : Splits delim (b :: memory) skipped text stop rest) (hb : b ∉ delim) : skipped = [] := by
  obtain ⟨hmemory, hskip, -, -⟩ := h
  cases skipped with
  | nil => rfl
  | cons c skipped =>
      simp only [List.cons_append, List.cons.injEq] at hmemory
      rw [hmemory.1] at hb
      exact absurd (hskip c List.mem_cons_self) hb

/-- **When `strtok` returns a token**: exactly when the memory splits. -/
theorem strtok_eq_some_iff {delim memory : List UInt8} {token : Token} :
    strtok delim memory = .ok (some token) ↔
      ∃ skipped stop rest, Splits delim memory skipped token.text stop rest ∧
        token.memory = token.text ++ 0 :: rest ∧
        token.rest = if stop = 0 then stop :: rest else rest := by
  constructor
  · intro h
    simp only [strtok] at h
    generalize hstart : memory.dropWhile (fun b => decide (b ∈ delim)) = start at h
    cases hstop : start.dropWhile (inToken delim) with
    | nil => simp [hstop] at h
    | cons stop rest =>
        simp only [hstop] at h
        by_cases hne : start.takeWhile (inToken delim) = []
        · simp [hne] at h
        · rw [if_neg hne] at h
          cases h
          refine ⟨memory.takeWhile (fun b => decide (b ∈ delim)), stop, rest,
            ⟨?_, ?_, ⟨hne, ?_⟩, ?_⟩, rfl, rfl⟩
          · rw [← hstop, List.takeWhile_append_dropWhile, ← hstart, List.takeWhile_append_dropWhile]
          · intro b hb
            simpa using List.mem_takeWhile_imp hb
          · intro b hb
            exact List.mem_takeWhile_imp hb
          · have hnot := List.head_dropWhile_not (p := inToken delim) (l := start) (by rw [hstop]; simp)
            simpa only [hstop, List.head_cons, Bool.not_eq_true] using hnot
  · rintro ⟨skipped, stop, rest, hsplits, hmemory, hrest⟩
    rw [hsplits.strtok_eq, ← hmemory, ← hrest]

/-- Behind a string that ended there is no token. -/
theorem not_splits_zero {delim skipped text rest rest' : List UInt8} {stop : UInt8}
    (hdelim : 0 ∉ delim) : ¬ Splits delim (0 :: rest) skipped text stop rest' := by
  rintro ⟨hmemory, hskip, ⟨hne, htext⟩, -⟩
  cases skipped with
  | cons b skipped =>
      rw [List.cons_append, List.cons.injEq] at hmemory
      rw [← hmemory.1] at hskip
      exact hdelim (hskip 0 List.mem_cons_self)
  | nil =>
      cases text with
      | nil => exact hne rfl
      | cons b text =>
          rw [List.nil_append, List.cons_append, List.cons.injEq] at hmemory
          have hb := htext b List.mem_cons_self
          rw [← hmemory.1] at hb
          simp [inToken] at hb

/-- A token with another behind it: the memory splits at a separator. -/
theorem splits_of_strtokNext {delim delim' memory : List UInt8} {token : Option Token} {t : Token}
    (hdelim : 0 ∉ delim') (hfound : strtok delim memory = .ok token)
    (hnext : strtokNext delim' token = .ok (some t)) :
    ∃ skipped text stop rest, Splits delim memory skipped text stop rest ∧ stop ≠ 0 ∧
      token = some ⟨text, text ++ 0 :: rest, rest⟩ ∧ strtok delim' rest = .ok (some t) := by
  cases token with
  | none => cases hnext
  | some u =>
      obtain ⟨text, memory', rest'⟩ := u
      obtain ⟨skipped, stop, rest, hsplits, hmemory, hrest⟩ := strtok_eq_some_iff.mp hfound
      dsimp only at hsplits hmemory hrest
      rw [strtokNext] at hnext
      by_cases hzero : stop = 0
      · rw [hrest, if_pos hzero, hzero] at hnext
        obtain ⟨skipped', stop', rest', hsplits', -⟩ := strtok_eq_some_iff.mp hnext
        exact absurd hsplits' (not_splits_zero hdelim)
      · rw [if_neg hzero] at hrest
        rw [hrest] at hnext
        exact ⟨skipped, text, stop, rest, hsplits, hzero, by rw [hmemory, hrest], hnext⟩

/-! ### All tokens of a string -/

/-- The tokens of a text, in order. -/
def tokens (delim text : List UInt8) : List (List UInt8) :=
  (text.splitOnP (· ∈ delim)).filter (· ≠ [])

/-- Separators in front play no role. -/
theorem tokens_append_of_forall_mem {delim skipped : List UInt8} (hskip : ∀ b ∈ skipped, b ∈ delim)
    (text : List UInt8) : tokens delim (skipped ++ text) = tokens delim text := by
  induction skipped with
  | nil => rfl
  | cons b skipped ih =>
      have hb : b ∈ delim := hskip b List.mem_cons_self
      rw [← ih fun c hc => hskip c (List.mem_cons_of_mem _ hc)]
      simp [tokens, List.splitOnP_cons_eq_if_modifyHead, hb]

/-- A text without separators is one token, or none. -/
theorem tokens_of_forall_notMem {delim text : List UInt8} (htext : ∀ b ∈ text, b ∉ delim) :
    tokens delim text = if text = [] then [] else [text] := by
  rw [tokens, List.splitOnP_eq_singleton (by simpa using htext)]
  by_cases h : text = [] <;> simp [h]

/-- The first token, up to a separator. -/
theorem tokens_append_cons {delim text : List UInt8} {stop : UInt8} (hne : text ≠ [])
    (htext : ∀ b ∈ text, b ∉ delim) (hstop : stop ∈ delim) (rest : List UInt8) :
    tokens delim (text ++ stop :: rest) = text :: tokens delim rest := by
  rw [tokens, List.splitOnP_append_cons_of_forall_mem (by simpa using htext) stop (by simpa using hstop),
    List.filter_cons_of_pos (by simpa using hne), tokens]

/-- A text is separators only, or it has a first token, up to its end or to a separator. -/
theorem exists_first_token (delim s : List UInt8) :
    (∀ b ∈ s, b ∈ delim) ∨ ∃ skipped text tail, s = skipped ++ (text ++ tail) ∧
      (∀ b ∈ skipped, b ∈ delim) ∧ text ≠ [] ∧ (∀ b ∈ text, b ∉ delim) ∧
      (tail = [] ∨ ∃ stop rest, tail = stop :: rest ∧ stop ∈ delim) := by
  induction s with
  | nil => exact .inl nofun
  | cons b s ih =>
      by_cases hb : b ∈ delim
      · rcases ih with hall | ⟨skipped, text, tail, hs, hskip, hrest⟩
        · exact .inl (List.forall_mem_cons.mpr ⟨hb, hall⟩)
        · refine .inr ⟨b :: skipped, text, tail, by rw [hs, List.cons_append], ?_, hrest⟩
          exact List.forall_mem_cons.mpr ⟨hb, hskip⟩
      · have htail : s.dropWhile (· ∉ delim) = [] ∨
            ∃ stop rest, s.dropWhile (· ∉ delim) = stop :: rest ∧ stop ∈ delim := by
          cases hdrop : s.dropWhile (· ∉ delim) with
          | nil => exact .inl rfl
          | cons stop rest =>
              have hnot := List.head_dropWhile_not (p := fun b => decide (b ∉ delim)) (l := s)
                (by rw [hdrop]; simp)
              simp only [hdrop, List.head_cons, decide_eq_false_iff_not, not_not] at hnot
              exact .inr ⟨stop, rest, rfl, hnot⟩
        refine .inr ⟨[], b :: s.takeWhile (· ∉ delim), s.dropWhile (· ∉ delim), ?_, nofun,
          List.cons_ne_nil _ _, List.forall_mem_cons.mpr ⟨hb, fun c hc => ?_⟩, htail⟩
        · rw [List.nil_append, List.cons_append, List.takeWhile_append_dropWhile]
        · have hc := List.mem_takeWhile_imp hc
          simpa using hc

/-- In separators only there is no token. -/
theorem strtok_of_forall_mem {delim skipped behind : List UInt8} (hdelim : 0 ∉ delim)
    (hskip : ∀ b ∈ skipped, b ∈ delim) : strtok delim (skipped ++ 0 :: behind) = .ok none := by
  have hstring : (skipped ++ 0 :: behind).dropWhile (fun b => decide (b ∈ delim)) = 0 :: behind := by
    apply dropWhile_append_cons
    · simpa using hskip
    · simpa using hdelim
  simp [strtok, hstring, inToken]

/-- **`strtok` in a string** finds its first token and leaves a string with the other ones. -/
theorem strtok_string {delim s : List UInt8} (hdelim : 0 ∉ delim) (hs : ∀ b ∈ s, b ≠ 0)
    (behind : List UInt8) :
    strtok delim (s ++ 0 :: behind) = .ok none ∧ tokens delim s = [] ∨
      ∃ t s' behind', strtok delim (s ++ 0 :: behind) = .ok (some t) ∧
        t.rest = s' ++ 0 :: behind' ∧ (∀ b ∈ s', b ≠ 0) ∧
        tokens delim s = t.text :: tokens delim s' := by
  rcases exists_first_token delim s with hskip | ⟨skipped, text, tail, rfl, hskip, hne, htext, htail⟩
  · refine .inl ⟨strtok_of_forall_mem hdelim hskip, ?_⟩
    have hnone := tokens_append_of_forall_mem hskip []
    rwa [List.append_nil] at hnone
  have hisText : IsText delim text := by
    refine ⟨hne, fun b hb => ?_⟩
    have hzero := hs b (List.mem_append_right _ (List.mem_append_left _ hb))
    simp [inToken, hzero, htext b hb]
  rcases htail with rfl | ⟨stop, rest, rfl, hstop⟩
  · -- the token ends with the string
    rw [List.append_nil] at hs ⊢
    have hsplits : Splits delim (skipped ++ text ++ 0 :: behind) skipped text 0 behind :=
      ⟨List.append_assoc _ _ _, hskip, hisText, by simp [inToken]⟩
    refine .inr ⟨_, [], behind, hsplits.strtok_eq, by simp, nofun, ?_⟩
    rw [tokens_append_of_forall_mem hskip, tokens_of_forall_notMem htext, if_neg hne]
    rfl
  · have hsplits : Splits delim (skipped ++ (text ++ stop :: rest) ++ 0 :: behind) skipped text stop
        (rest ++ 0 :: behind) := ⟨by simp, hskip, hisText, by simp [inToken, hstop]⟩
    have hmem : ∀ b ∈ stop :: rest, b ≠ 0 := fun b hb =>
      hs b (List.mem_append_right _ (List.mem_append_right _ hb))
    obtain ⟨hzero, hrest⟩ := List.forall_mem_cons.mp hmem
    refine .inr ⟨_, rest, behind, hsplits.strtok_eq_of_ne hzero, rfl, hrest, ?_⟩
    rw [tokens_append_of_forall_mem hskip, tokens_append_cons hne htext hstop]

/-! ## Copying -/

/-- `strcpy` into a buffer of `size` bytes: the string that is copied. -/
def strcpy (size : ℕ) : Pointer → Except Fault (List UInt8)
  | none => .error .nullPointer
  | some memory =>
      let text := memory.takeWhile (· ≠ 0)
      if text.length = memory.length then .error .readOutside
      else if text.length < size then .ok text
      else .error .writeOutside

/-- `memcpy` of `n` bytes into a buffer of `size` bytes: the bytes that are copied. -/
def memcpy (size : ℕ) (source : Pointer) (n : ℕ) : Except Fault (List UInt8) :=
  match source with
  | none => .error .nullPointer
  | some memory =>
      if memory.length < n then .error .readOutside
      else if n ≤ size then .ok (memory.take n)
      else .error .writeOutside

/-- A string of memory is copied if the buffer is longer. -/
theorem strcpy_append {size : ℕ} {text rest : List UInt8} (htext : ∀ b ∈ text, b ≠ 0) :
    strcpy size (some (text ++ 0 :: rest)) =
      if text.length < size then .ok text else .error .writeOutside := by
  have htake : (text ++ 0 :: rest).takeWhile (fun b => decide (b ≠ 0)) = text :=
    takeWhile_append_cons (by simpa using htext) (by simp)
  simp only [strcpy, htake]
  rw [if_neg (by simp)]

/-- The pointer to a token, once `strtok` has found one. -/
theorem exists_of_strcpy {token : Option Token} {size : ℕ} {text : List UInt8}
    (h : strcpy size (pointer token) = .ok text) : ∃ t, token = some t := by
  cases token with
  | none => cases h
  | some t => exact ⟨t, rfl⟩

/-- **A token that is copied** is shorter than the buffer. -/
theorem strcpy_token_eq_ok_iff {delim text copied rest : List UInt8} {size : ℕ}
    (htext : IsText delim text) :
    strcpy size (some (text ++ 0 :: rest)) = .ok copied ↔ copied = text ∧ text.length < size := by
  rw [strcpy_append htext.ne_zero]
  split
  · next hlt =>
      constructor
      · rintro ⟨⟩
        exact ⟨rfl, hlt⟩
      · rintro ⟨rfl, -⟩
        rfl
  · next hge =>
      constructor
      · rintro ⟨⟩
      · rintro ⟨-, hlt⟩
        exact absurd hlt hge

/-- **When `memcpy` copies**: from a pointer, inside both buffers. -/
theorem memcpy_eq_ok_iff {size n : ℕ} {source : Pointer} {bytes : List UInt8} :
    memcpy size source n = .ok bytes ↔
      ∃ memory, source = some memory ∧ n ≤ memory.length ∧ n ≤ size ∧ bytes = memory.take n := by
  cases source with
  | none => simp [memcpy]
  | some memory =>
      simp only [memcpy, Option.some.injEq, exists_eq_left']
      split
      · next hlt =>
          constructor
          · rintro ⟨⟩
          · rintro ⟨hle, -⟩
            omega
      · next hle =>
          split
          · next hsize =>
              constructor
              · rintro ⟨⟩
                exact ⟨by omega, hsize, rfl⟩
              · rintro ⟨-, -, rfl⟩
                rfl
          · next hsize =>
              constructor
              · rintro ⟨⟩
              · rintro ⟨-, hle', -⟩
                omega

/-- **Steps one after the other**: a result of the second is a result of both. -/
theorem bind_eq_ok_iff {α β : Type} {x : Except Fault α} {f : α → Except Fault β} {b : β} :
    (x >>= f) = .ok b ↔ ∃ a, x = .ok a ∧ f a = .ok b := by
  cases x with
  | error fault =>
      constructor
      · rintro ⟨⟩
      · rintro ⟨a, ⟨⟩, -⟩
  | ok a =>
      constructor
      · intro h
        exact ⟨a, rfl, h⟩
      · rintro ⟨a', ⟨⟩, h⟩
        exact h

end CString
