import RtuShuiwen.Gprs.PictureUpload

/-! # The report of a dead link

`gprs_send_string_len` counts failed prompts in a row and compares the count with five, so it reports the
fifth failure and no later one. `SendLaw` is what its callers rely on, a picture upload above all;
**`deadLinkReported_iff`** says that it holds as long as no sixth prompt in a row fails. -/

namespace RtuShuiwen

open TransitionSystem

/-! ## The law -/

/-- The failed prompts in a row behind some calls, when there were `n` before them. -/
def failuresAfter (n : ℕ) (calls : List SendRecord) : ℕ :=
  calls.foldl (fun n r => nextErroCount n r.prompt) n

/-- A call that makes it `n` failed prompts in a row is right: it returns -1 just when `n` is at least
five, and then hands nothing to the module. -/
def SendRecord.Right (r : SendRecord) (n : ℕ) : Prop :=
  (r.result = -1 ↔ maxAtCipsendErroTimes ≤ n) ∧ (maxAtCipsendErroTimes ≤ n → r.handed = 0)

/-- All calls are right, when `n` prompts in a row have failed before them. -/
def Reported : ℕ → List SendRecord → Prop
  | _, [] => True
  | n, r :: calls => r.Right (nextErroCount n r.prompt) ∧ Reported (nextErroCount n r.prompt) calls

/-- An upload stops at a failed call: nothing is sent after it, and the upload fails too. -/
def UploadRecord.Stops (u : UploadRecord) : Prop :=
  ∀ sent r rest, u.calls = sent ++ r :: rest → r.result = -1 → rest = [] ∧ u.result = -1

/-- **A dead link is reported** by every call from the fifth failure on, and stops every upload. -/
structure LinkState.SendLaw (s : LinkState) : Prop where
  reported : Reported 0 s.calls
  stops : ∀ u ∈ s.uploads, u.Stops

/-- No prompt fails after five failures in a row. -/
def LinkState.NoSixthFailure (s : LinkState) : LinkEvent → Prop
  | .reply prompt _ _ => prompt = true ∨ s.upload.sendAtcipsendErroCount < maxAtCipsendErroTimes
  | .picture a => a.opened = true → a.reads 0 = true → a.file ≠ [] →
      a.prompts 0 = true ∨ s.upload.sendAtcipsendErroCount < maxAtCipsendErroTimes

/-! ## Calls -/

/-- The failures behind two lists of calls. -/
theorem failuresAfter_append (n : ℕ) (calls calls' : List SendRecord) :
    failuresAfter n (calls ++ calls') = failuresAfter (failuresAfter n calls) calls' := List.foldl_append

/-- Two lists of calls are right one after the other. -/
theorem reported_append (n : ℕ) (calls calls' : List SendRecord) :
    Reported n (calls ++ calls') ↔ Reported n calls ∧ Reported (failuresAfter n calls) calls' := by
  induction calls generalizing n with
  | nil => exact ⟨fun h => ⟨trivial, h⟩, fun h => h.2⟩
  | cons r calls ih =>
      have hrest := ih (nextErroCount n r.prompt)
      constructor
      · rintro ⟨hright, h⟩
        obtain ⟨hcalls, hcalls'⟩ := hrest.mp h
        exact ⟨⟨hright, hcalls⟩, hcalls'⟩
      · rintro ⟨⟨hright, hcalls⟩, hcalls'⟩
        exact ⟨hright, hrest.mpr ⟨hcalls, hcalls'⟩⟩

/-- **A call is right just when it is not beyond the limit**: the count is compared for equality. -/
theorem right_gprsSendStringLenCall (erroCount : ℕ) (prompt ok : Bool) (frame : List UInt8) :
    (gprsSendStringLenCall erroCount prompt ok frame).1.Right (nextErroCount erroCount prompt) ↔
      prompt = true ∨ erroCount < maxAtCipsendErroTimes := by
  have hlimit : nextErroCount erroCount prompt ≤ maxAtCipsendErroTimes ↔
      prompt = true ∨ erroCount < maxAtCipsendErroTimes := by
    cases prompt with
    | true => exact ⟨fun _ => .inl rfl, fun _ => Nat.zero_le _⟩
    | false => exact ⟨.inr, fun h => h.resolve_left Bool.false_ne_true⟩
  rw [← hlimit, SendRecord.Right, gprsSendStringLenCall_handed, gprsSendStringLenCall_result]
  constructor
  · rintro ⟨-, hhanded⟩
    rcases Nat.le_total (nextErroCount erroCount prompt) maxAtCipsendErroTimes with hle | hge
    · exact hle
    · exact Nat.le_of_eq (hhanded hge)
  · intro hle
    by_cases heq : nextErroCount erroCount prompt = maxAtCipsendErroTimes
    · rw [if_pos heq]
      exact ⟨⟨fun _ => Nat.le_of_eq heq.symm, fun _ => rfl⟩, fun _ => heq⟩
    · have hlt : ¬ maxAtCipsendErroTimes ≤ nextErroCount erroCount prompt :=
        Nat.not_le.mpr (Nat.lt_of_le_of_ne hle heq)
      rw [if_neg heq]
      exact ⟨⟨fun h => absurd h (by decide), fun h => absurd h hlt⟩, fun h => absurd h hlt⟩

/-! ## Uploads -/

section Uploads

variable (p : RtuOperationParameters) (a : LoopAnswers) (packets : List (List UInt8))
  (openNewPicture : Bool) (s : UploadState)

/-- The count goes on counting during an upload. -/
theorem failuresAfter_uploadLoop :
    failuresAfter s.sendAtcipsendErroCount (uploadLoop p a packets openNewPicture s).1.calls =
      (uploadLoop p a packets openNewPicture s).2.sendAtcipsendErroCount := by
  refine uploadLoop_induction p (motive := fun _ _ _ s upload =>
    failuresAfter s.sendAtcipsendErroCount upload.1.calls = upload.2.sendAtcipsendErroCount)
    ?unread ?ended ?limit ?sent a packets openNewPicture s
  case unread => exact fun a packets openNewPicture s _ => rfl
  case ended => exact fun a openNewPicture s _ => rfl
  case limit =>
    intro a buf packets openNewPicture s _ _
    exact (erroCount_sendTurn p openNewPicture s).symm
  case sent =>
    intro a buf packets openNewPicture s rest _ _ hrest
    rw [erroCount_checkTurn, erroCount_sendTurn] at hrest
    exact hrest

/-- **Every upload stops at a failed call.** -/
theorem stops_uploadLoop : (uploadLoop p a packets openNewPicture s).1.Stops := by
  refine uploadLoop_induction p (motive := fun _ _ _ _ upload => upload.1.Stops)
    ?unread ?ended ?limit ?sent a packets openNewPicture s
  case unread =>
    intro a packets openNewPicture s _ sent r rest hcalls
    exact absurd hcalls.symm (by simp)
  case ended =>
    intro a openNewPicture s _ sent r rest hcalls
    exact absurd hcalls.symm (by simp)
  case limit =>
    intro a buf packets openNewPicture s _ _ sent r rest hcalls _
    obtain ⟨-, hrest⟩ := List.append_eq_singleton_iff.mp hcalls.symm |>.resolve_right (by simp)
    exact ⟨(List.cons.inj hrest).2, rfl⟩
  case sent =>
    intro a buf packets openNewPicture s upload _ hlimit hstops sent r rest hcalls hresult
    cases sent with
    | nil =>
        obtain ⟨rfl, -⟩ := List.cons.inj hcalls
        rw [sendTurn, gprsSendStringLenCall_result, if_neg hlimit] at hresult
        exact absurd hresult (by decide)
    | cons r' sent => exact hstops sent r rest (List.cons.inj hcalls).2 hresult

/-- The call of a turn is right just when it is not beyond the limit. -/
theorem right_sendTurn (buf : List UInt8) : (sendTurn p a buf openNewPicture s).1.Right
    (nextErroCount s.sendAtcipsendErroCount (a.prompts 0)) ↔
      a.prompts 0 = true ∨ s.sendAtcipsendErroCount < maxAtCipsendErroTimes :=
  right_gprsSendStringLenCall ..

/-- **The calls of an upload are right just when its first one is**: within an upload the limit is met
before it can be passed. -/
theorem reported_uploadLoop :
    Reported s.sendAtcipsendErroCount (uploadLoop p a packets openNewPicture s).1.calls ↔
      (a.reads 0 = true → packets ≠ [] →
        a.prompts 0 = true ∨ s.sendAtcipsendErroCount < maxAtCipsendErroTimes) := by
  refine uploadLoop_induction p (motive := fun a packets _ s upload =>
    Reported s.sendAtcipsendErroCount upload.1.calls ↔ (a.reads 0 = true → packets ≠ [] →
      a.prompts 0 = true ∨ s.sendAtcipsendErroCount < maxAtCipsendErroTimes))
    ?unread ?ended ?limit ?sent a packets openNewPicture s
  case unread => exact fun a packets openNewPicture s hread => ⟨fun _ h => absurd h hread, fun _ => trivial⟩
  case ended => exact fun a openNewPicture s _ => ⟨fun _ _ h => absurd rfl h, fun _ => trivial⟩
  case limit =>
    intro a buf packets openNewPicture s hread _
    rw [forall_prop_of_true hread, forall_prop_of_true (List.cons_ne_nil buf packets),
      ← right_sendTurn p a openNewPicture s buf]
    exact ⟨fun h => h.1, fun h => ⟨h, trivial⟩⟩
  case sent =>
    intro a buf packets openNewPicture s upload hread hlimit hupload
    rw [forall_prop_of_true hread, forall_prop_of_true (List.cons_ne_nil buf packets),
      ← right_sendTurn p a openNewPicture s buf]
    refine ⟨fun h => h.1, fun h => ⟨h, ?_⟩⟩
    -- the limit is not met, so the count is still below it at the next packet
    have hbelow : nextErroCount s.sendAtcipsendErroCount (a.prompts 0) < maxAtCipsendErroTimes := by
      refine Nat.lt_of_le_of_ne ?_ hlimit
      rcases (right_sendTurn p a openNewPicture s buf).mp h with hprompt | hlt
      · rw [hprompt]
        exact Nat.zero_le _
      · unfold nextErroCount
        split
        · exact Nat.zero_le _
        · exact hlt
    rw [erroCount_checkTurn, erroCount_sendTurn] at hupload
    exact hupload.mpr fun _ _ => .inr hbelow

end Uploads

/-- Only an empty file has no packets. -/
theorem filePackets_eq_nil (file : List UInt8) : filePackets file = [] ↔ file = [] := by
  cases file with
  | nil => exact ⟨fun _ => rfl, fun _ => by rw [filePackets]⟩
  | cons b file =>
      rw [filePackets]
      exact ⟨fun h => absurd h (List.cons_ne_nil _ _), fun h => absurd h (List.cons_ne_nil _ _)⟩

/-! ## Runs -/

/-- What holds throughout the good runs: the law, and a count that is the number of failures. -/
structure LinkState.SendInv (s : LinkState) : Prop where
  law : s.SendLaw
  count : s.upload.sendAtcipsendErroCount = failuresAfter 0 s.calls

/-- **What an event adds**: its calls, after which the count is again the number of failures, and an upload
that stops at a failed call. -/
theorem LinkState.step_calls {s s' : LinkState} {e : LinkEvent} (hstep : s.step e = some s') :
    ∃ calls, s'.calls = s.calls ++ calls ∧
      failuresAfter s.upload.sendAtcipsendErroCount calls = s'.upload.sendAtcipsendErroCount ∧
      (Reported s.upload.sendAtcipsendErroCount calls ↔ s.NoSixthFailure e) ∧
      ((∀ u ∈ s.uploads, u.Stops) → ∀ u ∈ s'.uploads, u.Stops) := by
  cases e with
  | reply prompt ok frame =>
      obtain rfl := Option.some.inj hstep
      refine ⟨_, rfl, (gprsSendStringLenCall_count ..).symm, ?_, id⟩
      exact ⟨fun h => (right_gprsSendStringLenCall ..).mp h.1,
        fun h => ⟨(right_gprsSendStringLenCall ..).mpr h, trivial⟩⟩
  | picture a =>
      obtain rfl := Option.some.inj hstep
      refine ⟨_, rfl, ?_⟩
      dsimp only
      by_cases hopened : a.opened = true
      · obtain ⟨u, hupload, hcount⟩ : ∃ u, sendPicture a s.upload =
            uploadLoop a.parameters a.toLoopAnswers (filePackets a.file) true u ∧
            u.sendAtcipsendErroCount = s.upload.sendAtcipsendErroCount := ⟨_, if_pos hopened, rfl⟩
        rw [hupload, if_pos hopened, ← hcount]
        refine ⟨failuresAfter_uploadLoop .., ?_, fun h => ?_⟩
        · rw [reported_uploadLoop, hcount, ne_eq, filePackets_eq_nil]
          exact ⟨fun h _ => h, fun h => h hopened⟩
        · exact List.forall_mem_append.mpr ⟨h, List.forall_mem_singleton.mpr (stops_uploadLoop _ _ _ _ _)⟩
      · rw [sendPicture, if_neg hopened, if_neg hopened]
        exact ⟨rfl, ⟨fun _ h => absurd h hopened, fun _ => trivial⟩, id⟩

/-- An event without a sixth failure keeps the invariant. -/
theorem LinkState.SendInv.step {s s' : LinkState} {e : LinkEvent} (hinv : s.SendInv)
    (hok : s.NoSixthFailure e) (hstep : s.step e = some s') : s'.SendInv := by
  obtain ⟨calls, hcalls, hcount, hreported, hstops⟩ := LinkState.step_calls hstep
  refine ⟨⟨?_, hstops hinv.law.stops⟩, ?_⟩
  · rw [hcalls, reported_append, ← hinv.count]
    exact ⟨hinv.law.reported, hreported.mpr hok⟩
  · rw [hcalls, failuresAfter_append, ← hinv.count, hcount]

/-- An event with one breaks the law. -/
theorem LinkState.SendInv.not_sendLaw {s s' : LinkState} {e : LinkEvent} (hinv : s.SendInv)
    (hsixth : ¬ s.NoSixthFailure e) (hstep : s.step e = some s') : ¬ s'.SendLaw := by
  obtain ⟨calls, hcalls, -, hreported, -⟩ := LinkState.step_calls hstep
  intro hlaw
  have hlater := hlaw.reported
  rw [hcalls, reported_append, ← hinv.count] at hlater
  exact hsixth (hreported.mp hlater.2)

/-- Power-up. -/
theorem LinkState.sendInv_start : LinkState.start.SendInv :=
  ⟨⟨trivial, List.forall_mem_nil _⟩, rfl⟩

/-- The runs from a state in which the invariant holds. -/
theorem LinkState.SendInv.sendLaw_iff {s : LinkState} (hinv : s.SendInv) (events : List LinkEvent) :
    AllReached LinkState.step LinkState.SendLaw s events ↔
      StepsMeet LinkState.step LinkState.NoSixthFailure s events :=
  allReached_iff_stepsMeet (fun _ hinv => hinv.law)
    (fun _ _ _ hinv hok hstep => hinv.step hok hstep)
    (fun _ _ _ hinv hsixth hstep => hinv.not_sendLaw hsixth hstep) hinv events

/-- **A dead link is reported in exactly those runs in which no prompt fails after five failures in a
row.** -/
theorem deadLinkReported_iff (events : List LinkEvent) :
    AllReached LinkState.step LinkState.SendLaw LinkState.start events ↔
      StepsMeet LinkState.step LinkState.NoSixthFailure LinkState.start events :=
  LinkState.sendInv_start.sendLaw_iff events

/-- Five replies whose prompts fail, and a picture that is sent without a prompt. -/
theorem not_deadLinkReported_of_sixth_failure :
    ¬ AllReached LinkState.step LinkState.SendLaw LinkState.start
      (List.replicate 5 (.reply false true []) ++ [.picture (constantAnswers [0xFF, 0xD8] true false)]) := by
  intro hlaw
  have hmeet := (LinkState.sendInv_start.sendLaw_iff _).mp hlaw
  obtain ⟨-, hmeet⟩ := hmeet _ rfl
  obtain ⟨-, hmeet⟩ := hmeet _ rfl
  obtain ⟨-, hmeet⟩ := hmeet _ rfl
  obtain ⟨-, hmeet⟩ := hmeet _ rfl
  obtain ⟨-, hmeet⟩ := hmeet _ rfl
  obtain ⟨hpicture, -⟩ := hmeet _ rfl
  exact absurd (hpicture rfl rfl (List.cons_ne_nil _ _)) (by decide)

end RtuShuiwen
