import RtuShuiwen.Library.LinkedList
import RtuShuiwen.Library.TransitionSystem

/-! # The list of FTP sessions

`session_list` is a linked list: a new session is put in front, one that is closed is taken out wherever it
is, and the server walks the list to see which ones have something for it, with the next one in hand before
it may close the one it is at. `ftp_new_session` says so when `mymalloc` has no block and goes on.

* **`sessionList_iff`**: the list holds the sessions that were accepted and not closed, in the runs in which
  there is a block for every connection. -/

namespace RtuShuiwen

open LinkedList TransitionSystem

/-! ## The list -/

/-- `session_list` and the memory it is in: the field `next` of the blocks, the blocks that are allocated,
and whether only they were written to and every walk came to its end. Besides, the sessions that were
accepted and not closed, the last one first. -/
structure SessionList where
  sessionList : Option ℕ
  next : ℕ → Option ℕ
  allocated : List ℕ
  sound : Bool
  accepted : List ℕ

/-- A connection, with what `mymalloc` has for the session, and a turn of the server over all sessions,
which closes some of them. -/
inductive SessionEvent
  | connect (block : Option ℕ)
  | serve (ends : ℕ → Bool)

namespace SessionList

/-- `ftp_new_session`, with what `mymalloc` returns. Without a block it writes to the `next` of `NULL`. -/
def ftpNewSession (block : Option ℕ) (s : SessionList) : Option ℕ × SessionList :=
  match block with
  | some session =>
      (some session, { s with
        allocated := session :: s.allocated
        next := Function.update s.next session s.sessionList
        sessionList := some session })
  | none => (none, { s with sessionList := none, sound := false })

/-- `ftp_close_session`. A walk over more nodes than there are blocks goes in circles. -/
def ftpCloseSession (session : ℕ) (s : SessionList) : Option SessionList :=
  if s.sessionList = some session then
    some { s with
      sessionList := s.next session
      next := Function.update s.next session none
      allocated := s.allocated.erase session }
  else
    (s.sessionList.bind (findBefore s.next session s.allocated.length)).map fun list =>
      { s with
        next := Function.update (Function.update s.next list (s.next session)) session none
        allocated := s.allocated.erase session }

/-- The walk of `ftpd_thread_entry` from a session on; `ends` are the sessions it closes. -/
def serveSessions (ends : ℕ → Bool) : ℕ → Option ℕ → SessionList → Option SessionList
  | 0, _, _ => none
  | _ + 1, none, s => some s
  | fuel + 1, some session, s =>
      let next := s.next session
      (if ends session then ftpCloseSession session s else some s).bind (serveSessions ends fuel next)

/-- One event. `mymalloc` does not hand out a block twice. -/
def step (s : SessionList) : SessionEvent → Option SessionList
  | .connect block =>
      if block.any (· ∈ s.allocated) then none
      else
        -- without a block nothing is accepted
        let new := ftpNewSession block s
        some { new.2 with accepted := block.toList ++ s.accepted }
  | .serve ends =>
      let accepted := s.accepted.filter (!ends ·)
      match serveSessions ends (s.allocated.length + 1) s.sessionList s with
      | some s' => some { s' with accepted }
      | none => some { s with sound := false, accepted }

/-- The list before the first connection; its memory may hold anything, and other blocks be in use. -/
def start (next : ℕ → Option ℕ) (allocated : List ℕ) : SessionList :=
  ⟨none, next, allocated, true, []⟩

/-- **The list is as it should be.** -/
structure Ok (s : SessionList) : Prop where
  /-- Only blocks that are allocated were written to, and every walk came to its end. -/
  sound : s.sound = true
  /-- The list ends and holds the sessions that were accepted and not closed, in their order. -/
  isList : IsList s.next s.sessionList s.accepted
  /-- None is in it twice. -/
  nodup : s.accepted.Nodup
  /-- Closing any of them ends, takes it out and gives its block back, and nothing else. -/
  closes : ∀ session ∈ s.accepted, ∃ s', ftpCloseSession session s = some s' ∧
    IsList s'.next s'.sessionList (s.accepted.erase session) ∧
    s'.allocated = s.allocated.erase session

/-- **There is a block** for the session of a connection. -/
def HasBlock (_ : SessionList) : SessionEvent → Prop
  | .connect block => block ≠ none
  | .serve _ => True

/-! ## The functions on a list that is one -/

/-- The list holds these sessions, in blocks that are allocated. -/
structure Holds (s : SessionList) (l : List ℕ) : Prop where
  isList : IsList s.next s.sessionList l
  allocated : l ⊆ s.allocated

/-- There are at least as many blocks. -/
theorem Holds.length_le {s : SessionList} {l : List ℕ} (h : s.Holds l) :
    l.length ≤ s.allocated.length :=
  h.isList.nodup.length_le_of_subset h.allocated

/-- The blocks of the sessions that are left. -/
theorem Holds.erase_subset {s : SessionList} {l : List ℕ} (h : s.Holds l) (session : ℕ) :
    l.erase session ⊆ s.allocated.erase session := by
  intro other hother
  obtain ⟨hne, hmem⟩ := h.isList.nodup.mem_erase_iff.mp hother
  exact (List.mem_erase_of_ne hne).mpr (h.allocated hmem)

/-- **A new session** comes in front. -/
theorem Holds.new {s : SessionList} {l : List ℕ} (h : s.Holds l) {session : ℕ}
    (hfresh : session ∉ s.allocated) : (ftpNewSession (some session) s).2.Holds (session :: l) :=
  ⟨h.isList.push fun hmem => hfresh (h.allocated hmem), List.cons_subset_cons _ h.allocated⟩

/-- **A session that is closed** is taken out, whichever it is, and nothing else happens. -/
theorem Holds.close {s : SessionList} {l : List ℕ} (h : s.Holds l) {session : ℕ} (hmem : session ∈ l) :
    ∃ s', ftpCloseSession session s = some s' ∧ s'.Holds (l.erase session) ∧
      s'.allocated = s.allocated.erase session ∧ s'.sound = s.sound ∧ s'.accepted = s.accepted := by
  have hsubset := h.erase_subset session
  have hlength := h.length_le
  obtain ⟨hlist, -⟩ := h
  obtain ⟨b, rest, rfl⟩ := List.exists_cons_of_ne_nil (List.ne_nil_of_mem hmem)
  have hhead : s.sessionList = some b := hlist.head_eq
  rw [hhead] at hlist
  unfold ftpCloseSession
  rw [hhead]
  by_cases hfirst : b = session
  · -- the session is the head of the list
    subst hfirst
    rw [if_pos rfl]
    rw [List.erase_cons_head] at hsubset ⊢
    exact ⟨_, rfl, ⟨hlist.pop, hsubset⟩, rfl, rfl, rfl⟩
  · -- the walk starts at the head and finds the node before the session
    rw [if_neg (by simpa using hfirst), Option.bind_some]
    obtain ⟨l₁, p, l₂, hsplit, hfound⟩ :=
      hlist.findBefore (List.mem_of_ne_of_mem (Ne.symm hfirst) hmem) (Nat.le_of_succ_le hlength)
    rw [hfound, hsplit]
    rw [hsplit] at hlist hsubset
    rw [hlist.erase_eq] at hsubset ⊢
    exact ⟨_, rfl, ⟨hlist.unlink, hsubset⟩, rfl, rfl, rfl⟩

/-- **A turn over the sessions** closes those that end and keeps the others in their order. -/
theorem Holds.serve (ends : ℕ → Bool) {s : SessionList} (done rest : List ℕ) (h : s.Holds (done ++ rest))
    {fuel : ℕ} (hfuel : rest.length < fuel) :
    ∃ s', serveSessions ends fuel rest.head? s = some s' ∧
      s'.Holds (done ++ rest.filter (!ends ·)) ∧ s'.sound = s.sound := by
  -- by induction on the sessions that are still to come, behind those that were kept
  induction rest generalizing s done fuel with
  | nil =>
      obtain ⟨fuel, rfl⟩ : ∃ n, fuel = n + 1 := Nat.exists_eq_add_one_of_ne_zero (Nat.ne_of_gt hfuel)
      exact ⟨s, rfl, h, rfl⟩
  | cons session rest ih =>
      obtain ⟨fuel, rfl⟩ : ∃ n, fuel = n + 1 :=
        Nat.exists_eq_add_one_of_ne_zero (Nat.ne_of_gt (Nat.zero_lt_of_lt hfuel))
      have hfuel : rest.length < fuel := by simpa using hfuel
      -- the next session is read before this one is closed
      have hnext : s.next session = rest.head? := h.isList.next_eq
      show ∃ s', ((if ends session then _ else _) : Option SessionList).bind
        (serveSessions ends fuel (s.next session)) = some s' ∧ _
      rw [hnext]
      by_cases hends : ends session = true
      · obtain ⟨mid, hclose, hholds, -, hsound, -⟩ := h.close (show session ∈ done ++ session :: rest by simp)
        have herase : (done ++ session :: rest).erase session = done ++ rest := by
          have hnot : session ∉ done := fun hmem => by
            have hnodup := List.nodup_append.mp h.isList.nodup
            exact hnodup.2.2 session hmem session List.mem_cons_self rfl
          rw [List.erase_append_right _ hnot, List.erase_cons_head]
        rw [herase] at hholds
        obtain ⟨s', hserve, hholds', hsound'⟩ := ih done hholds hfuel
        refine ⟨s', ?_, ?_, hsound'.trans hsound⟩
        · rw [if_pos hends, hclose, Option.bind_some, hserve]
        · rwa [List.filter_cons_of_neg (by simp [hends])]
      · -- a session that stays joins those that were kept
        have hkeep : s.Holds ((done ++ [session]) ++ rest) := by simpa using h
        obtain ⟨s', hserve, hholds', hsound'⟩ := ih (done ++ [session]) hkeep hfuel
        refine ⟨s', ?_, ?_, hsound'⟩
        · rw [if_neg hends, Option.bind_some, hserve]
        · rw [List.filter_cons_of_pos (by simp [hends])]
          simpa using hholds'

/-! ## Runs -/

/-- The invariant: the list holds what was accepted and not closed. -/
structure Inv (s : SessionList) : Prop where
  sound : s.sound = true
  holds : s.Holds s.accepted

theorem Inv.ok {s : SessionList} (h : s.Inv) : s.Ok := by
  refine ⟨h.sound, h.holds.isList, h.holds.isList.nodup, fun session hmem => ?_⟩
  obtain ⟨s', hclose, hholds, hallocated, -⟩ := h.holds.close hmem
  exact ⟨s', hclose, hholds.isList, hallocated⟩

/-- **An event with a block** for its connection keeps the invariant. -/
theorem Inv.step {s s' : SessionList} {e : SessionEvent} (h : s.Inv) (hblock : HasBlock s e)
    (hstep : s.step e = some s') : s'.Inv := by
  cases e with
  | connect block =>
      obtain ⟨session, rfl⟩ := Option.ne_none_iff_exists'.mp hblock
      rw [SessionList.step] at hstep
      split at hstep
      · cases hstep
      · next hfresh =>
        obtain rfl := Option.some.inj hstep
        have hfresh : session ∉ s.allocated := by simpa using hfresh
        have hnew := h.holds.new hfresh
        exact ⟨h.sound, hnew.isList, hnew.allocated⟩
  | serve ends =>
      obtain ⟨s₁, hserve, hholds, hsound⟩ := Holds.serve ends [] s.accepted h.holds
        (Nat.lt_succ_of_le h.holds.length_le)
      rw [← h.holds.isList.head_eq] at hserve
      rw [SessionList.step, hserve] at hstep
      obtain rfl := Option.some.inj hstep
      exact ⟨hsound.trans h.sound, hholds.isList, hholds.allocated⟩

/-- Without a block `NULL` is written to. -/
theorem not_ok_of_no_block {s s' : SessionList} {e : SessionEvent} (hblock : ¬ HasBlock s e)
    (hstep : s.step e = some s') : ¬ s'.Ok := by
  cases e with
  | connect block =>
      obtain rfl : block = none := by simpa [HasBlock] using hblock
      obtain rfl := Option.some.inj hstep
      intro hok
      cases hok.sound
  | serve ends => exact absurd trivial hblock

theorem start_inv (next : ℕ → Option ℕ) (allocated : List ℕ) : (start next allocated).Inv :=
  ⟨rfl, rfl, List.nil_subset _⟩

end SessionList

/-- **In which runs the list is as it should be**: in those in which `mymalloc` has a block for the session
of every connection. -/
theorem sessionList_iff (next : ℕ → Option ℕ) (allocated : List ℕ) (events : List SessionEvent) :
    AllReached SessionList.step SessionList.Ok (.start next allocated) events ↔
      StepsMeet SessionList.step SessionList.HasBlock (.start next allocated) events :=
  allReached_iff_stepsMeet (I := SessionList.Inv) (fun _ h => h.ok)
    (fun _ _ _ h hblock hstep => h.step hblock hstep)
    (fun _ _ _ _ hblock hstep => SessionList.not_ok_of_no_block hblock hstep)
    (SessionList.start_inv next allocated) events

/-- A second client for whose session there is no block. -/
def secondWithoutBlock : List SessionEvent := [.connect (some 0), .connect none]

/-- **The first session is lost from the list.** -/
theorem secondWithoutBlock_not_ok :
    ¬ AllReached SessionList.step SessionList.Ok (.start (fun _ => none) []) secondWithoutBlock := by
  intro hall
  have hlist := ((hall.2 _ rfl).2 _ rfl).isList
  cases hlist.head_eq

end RtuShuiwen
