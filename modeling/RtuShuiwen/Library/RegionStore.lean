import RtuShuiwen.Library.CellMemory
import Mathlib.Logic.Function.Basic

/-! # Pairwise disjoint regions of a memory are a key-value store

A `RegionMap` gives every key a region of a memory, no two of them meeting. Reading the regions
turns a memory into a function from keys to their contents, and under that view a write to one
region is an update at one key (`load_store`). Over a run of writes each key therefore holds what
was written to it last, or its original contents (`load_storeAll`). -/

/-- An assignment of pairwise disjoint address ranges to keys. -/
structure RegionMap (κ : Type*) where
  /-- First address of the region of a key. -/
  base : κ → ℕ
  /-- Number of cells of the region of a key. -/
  size : κ → ℕ
  /-- The regions of different keys do not meet. -/
  disjoint : ∀ ⦃j k : κ⦄, j ≠ k → base j + size j ≤ base k ∨ base k + size k ≤ base j

namespace RegionMap

open CellMemory

variable {κ α : Type*} [DecidableEq κ] (R : RegionMap κ)

/-- A write of a whole region: the data fits the region of its key. -/
structure Write (R : RegionMap κ) (α : Type*) where
  /-- The key written. -/
  key : κ
  /-- The new contents of its region. -/
  data : List α
  /-- The data fills the region exactly. -/
  fits : data.length = R.size key

/-- The contents of every region. -/
def load (m : CellMemory α) (k : κ) : List α := slice m (R.base k) (R.size k)

/-- Carry out one write. -/
def store (m : CellMemory α) (w : R.Write α) : CellMemory α := patch m (R.base w.key) w.data

omit [DecidableEq κ] in
/-- A region that was just written holds the data. -/
theorem load_store_self (m : CellMemory α) (w : R.Write α) :
    R.load (R.store m w) w.key = w.data := by
  rw [load, store, ← w.fits]
  exact slice_patch_self m _ _

omit [DecidableEq κ] in
/-- A write does not show in the region of another key. -/
theorem load_store_of_ne (m : CellMemory α) (w : R.Write α) {k : κ} (h : k ≠ w.key) :
    R.load (R.store m w) k = R.load m k := by
  apply slice_patch_disjoint
  rw [w.fits]
  exact (R.disjoint h).symm

/-- **A write refines an update**: the contents after a write are the old ones, updated at the key
written. -/
theorem load_store (m : CellMemory α) (w : R.Write α) :
    R.load (R.store m w) = Function.update (R.load m) w.key w.data := by
  funext k
  by_cases hk : k = w.key
  · rw [hk, load_store_self, Function.update_self]
  · rw [load_store_of_ne R m w hk, Function.update_of_ne hk]

/-! ## Runs of writes -/

/-- Carry out a list of writes, one after the other. -/
def storeAll (m : CellMemory α) (ws : List (R.Write α)) : CellMemory α := ws.foldl R.store m

/-- What a write puts into the region of `k`, if that is the region it writes. -/
def Write.at (w : R.Write α) (k : κ) : Option (List α) := if w.key = k then some w.data else none

/-- The data of the last write to `k`, if there is one. -/
def lastData (ws : List (R.Write α)) (k : κ) : Option (List α) :=
  ws.reverse.findSome? fun w => Write.at R w k

omit [DecidableEq κ] in
@[simp] theorem storeAll_nil (m : CellMemory α) : R.storeAll m [] = m := rfl

omit [DecidableEq κ] in
@[simp] theorem storeAll_cons (m : CellMemory α) (w : R.Write α) (ws : List (R.Write α)) :
    R.storeAll m (w :: ws) = R.storeAll (R.store m w) ws := rfl

/-- The last write of a run is the last of its tail, or its first write. -/
theorem lastData_cons (w : R.Write α) (ws : List (R.Write α)) (k : κ) :
    R.lastData (w :: ws) k = (R.lastData ws k).or (Write.at R w k) := by
  rw [lastData, List.reverse_cons, List.findSome?_append, List.findSome?_singleton, lastData]

/-- A region that is written, always with the same data, holds them. -/
theorem lastData_eq_some {ws : List (R.Write α)} {k : κ} {bs : List α} (hex : ∃ w ∈ ws, w.key = k)
    (hunique : ∀ w ∈ ws, w.key = k → w.data = bs) : R.lastData ws k = some bs := by
  rw [lastData]
  cases hlast : ws.reverse.findSome? fun w => Write.at R w k with
  | none =>
      obtain ⟨w, hw, hkey⟩ := hex
      have hnone := List.findSome?_eq_none_iff.mp hlast w (List.mem_reverse.mpr hw)
      rw [Write.at, if_pos hkey] at hnone
      cases hnone
  | some data =>
      obtain ⟨w, hw, hdata⟩ := List.exists_of_findSome?_eq_some hlast
      rw [Write.at] at hdata
      split at hdata
      · next hkey => rw [← hunique w (List.mem_reverse.mp hw) hkey, Option.some.inj hdata]
      · cases hdata

/-- **Read over write, for whole runs**: after any run of writes a region holds the data last
written to it, or what it held before the run. -/
theorem load_storeAll (m : CellMemory α) (ws : List (R.Write α)) (k : κ) :
    R.load (R.storeAll m ws) k = (R.lastData ws k).getD (R.load m k) := by
  induction ws generalizing m with
  | nil => rfl
  | cons w ws ih =>
      rw [storeAll_cons, ih, load_store, lastData_cons, Write.at]
      cases R.lastData ws k with
      | some bs => rfl
      | none =>
          by_cases hk : w.key = k
          · rw [← hk, Function.update_self, if_pos rfl, Option.none_or, Option.getD_none,
              Option.getD_some]
          · rw [Function.update_of_ne (Ne.symm hk), if_neg hk, Option.none_or]

end RegionMap
