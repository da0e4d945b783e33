import Mathlib.Algebra.Ring.Nat
import Mathlib.Logic.Function.Iterate

/-! # Loops with a narrow counter

A loop `for (n = 0; n < len; n++)` may count in `w` bits against a bound that needs more. `turn` is one
turn of such a loop on the counter and whatever its body works on. Below `2 ^ w` the loop does what it
says (`run_eq_some`); from there on the counter wraps before it reaches the bound and the loop never ends
(`run_eq_none`). -/

namespace CountedLoop

variable {σ : Type*} {w : ℕ} (body : ℕ → σ → σ) (len : ℕ)

/-- One turn, or nothing when the loop has ended. -/
def turn (c : BitVec w × σ) : BitVec w × σ :=
  if c.1.toNat < len then (c.1 + 1#w, body c.1.toNat c.2) else c

/-- The loop after `fuel` turns: what it has worked out, if it has ended by then. -/
def run (fuel : ℕ) (s : σ) : Option σ :=
  let c := (turn body len)^[fuel] (0#w, s)
  if c.1.toNat < len then none else some c.2

/-- The work of the first `k` turns. -/
def work (k : ℕ) (s : σ) : σ := (List.range k).foldl (fun s n => body n s) s

variable {body len}

/-- One more turn. -/
theorem work_succ (k : ℕ) (s : σ) : work body (k + 1) s = body k (work body k s) := by
  rw [work, List.range_succ, List.foldl_append]
  rfl

/-- **As long as the counter does not wrap** the loop has done as much as it has made turns. -/
theorem iterate_turn {k : ℕ} (hlen : k ≤ len) (hw : k ≤ 2 ^ w) (s : σ) :
    (turn body len)^[k] (0#w, s) = (BitVec.ofNat w k, work body k s) := by
  induction k with
  | zero => rfl
  | succ k ih =>
      have hcount : (BitVec.ofNat w k).toNat = k := by
        rw [BitVec.toNat_ofNat]
        exact Nat.mod_eq_of_lt hw
      have hmore : k < len := hlen
      rw [Function.iterate_succ_apply', ih (Nat.le_of_succ_le hlen) (Nat.le_of_succ_le hw), turn, hcount,
        if_pos hmore, work_succ]
      exact congrArg (·, _) (BitVec.ofNat_add_ofNat k 1)

/-- A loop that has ended stays as it is. -/
theorem turn_ended {c : BitVec w × σ} (h : len ≤ c.1.toNat) : turn body len c = c :=
  if_neg (Nat.not_lt.mpr h)

/-- **A loop whose bound fits the counter** makes `len` turns and no more. -/
theorem iterate_turn_min (hlen : len < 2 ^ w) (fuel : ℕ) (s : σ) :
    (turn body len)^[fuel] (0#w, s) = (BitVec.ofNat w (min fuel len), work body (min fuel len) s) := by
  rcases Nat.le_total fuel len with hle | hge
  · rw [Nat.min_eq_left hle, iterate_turn hle (Nat.le_trans hle (Nat.le_of_lt hlen))]
  · obtain ⟨more, rfl⟩ := Nat.exists_eq_add_of_le' hge
    have hcount : (BitVec.ofNat w len).toNat = len := by
      rw [BitVec.toNat_ofNat]
      exact Nat.mod_eq_of_lt hlen
    have hstay : turn body len (BitVec.ofNat w len, work body len s) = (BitVec.ofNat w len, work body len s) :=
      turn_ended (Nat.le_of_eq hcount.symm)
    rw [Nat.min_eq_right hge, Function.iterate_add_apply, iterate_turn (Nat.le_refl len) (Nat.le_of_lt hlen),
      Function.iterate_fixed hstay]

/-- **When such a loop ends**: with turn `len`, and not before. -/
theorem run_of_lt (hlen : len < 2 ^ w) (fuel : ℕ) (s : σ) :
    run (w := w) body len fuel s = if fuel < len then none else some (work body len s) := by
  have hcount : (BitVec.ofNat w (min fuel len)).toNat = min fuel len := by
    rw [BitVec.toNat_ofNat]
    exact Nat.mod_eq_of_lt (Nat.lt_of_le_of_lt (Nat.min_le_right fuel len) hlen)
  rw [run, iterate_turn_min hlen]
  dsimp only
  rw [hcount]
  split
  · next hmore => exact (if_pos (by omega)).symm
  · next hdone =>
      have hall : min fuel len = len := by omega
      rw [if_neg (by omega), hall]

/-- It ends with the work of `len` turns. -/
theorem run_eq_some (hlen : len < 2 ^ w) {fuel : ℕ} (hfuel : len ≤ fuel) (s : σ) :
    run (w := w) body len fuel s = some (work body len s) := by
  rw [run_of_lt hlen]
  exact if_neg (Nat.not_lt.mpr hfuel)

/-- **A loop whose bound does not fit the counter** never ends. -/
theorem run_eq_none (hlen : 2 ^ w ≤ len) (fuel : ℕ) (s : σ) : run (w := w) body len fuel s = none :=
  if_pos (Nat.lt_of_lt_of_le (BitVec.isLt _) hlen)

end CountedLoop
