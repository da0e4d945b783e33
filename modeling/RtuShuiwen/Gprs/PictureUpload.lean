import RtuShuiwen.Gprs.CheckReceive
import RtuShuiwen.Gprs.Picture
import RtuShuiwen.Library.TransitionSystem
import RtuShuiwen.Thread.SerialNumber

/-! # Picture uploads that may fail

`SendPictureToServer` with all that can go wrong in it: the file is not opened, a read fails, or the module
does not take a packet. `LinkState` is what is kept from one upload to the next: the frame, the count of
failed prompts in `gprs_send_string_len`, and the file object. `filClosed_iff` says when the file is left
closed. -/

namespace RtuShuiwen

open TransitionSystem

/-! ## One call of `gprs_send_string_len` -/

/-- A call of `gprs_send_string_len`: whether the module answered with the prompt, what the call returned,
and how often it handed the frame to the module. -/
structure SendRecord where
  frame : List UInt8
  prompt : Bool
  result : ℤ
  handed : ℕ

/-- The count of failed prompts after one more prompt. -/
def nextErroCount (erroCount : ℕ) (prompt : Bool) : ℕ := if prompt then 0 else erroCount + 1

/-- `gprs_send_string_len` with its result, and the count it leaves. -/
def gprsSendStringLenCall (erroCount : ℕ) (prompt ok : Bool) (frame : List UInt8) : SendRecord × ℕ :=
  let call := gprsSendStringLen erroCount prompt ok frame
  (⟨frame, prompt, if call.2 = maxAtCipsendErroTimes then -1 else 0, call.1⟩, call.2)

/-! ## One upload -/

/-- What the turns of the loop of `SendPictureToServer` meet, from the next turn on: whether `f_read`
succeeds, the clock, the answers of the module to `AT+CIPSEND`, and what `CheckReceive` waits for. -/
structure LoopAnswers where
  reads : ℕ → Bool
  clock : ℕ → TimeDef
  prompts : ℕ → Bool
  oks : ℕ → Bool
  waits : ℕ → Vector (Option (List UInt8)) 3

/-- The answers after one turn. -/
def LoopAnswers.next (a : LoopAnswers) : LoopAnswers where
  reads i := a.reads (i + 1)
  clock i := a.clock (i + 1)
  prompts i := a.prompts (i + 1)
  oks i := a.oks (i + 1)
  waits i := a.waits (i + 1)

/-- What a call of `SendPictureToServer` meets: the parameters in the flash, whether `f_open` succeeds, and
the file. -/
structure UploadAnswers extends LoopAnswers where
  parameters : RtuOperationParameters
  opened : Bool
  file : List UInt8

/-- What lasts from one upload to the next. -/
structure UploadState where
  picture : PictureState
  sendAtcipsendErroCount : ℕ
  /-- `fil` is open. -/
  filOpen : Bool
  gSingleRetransmitCount : UInt32

/-- What an upload returns, and its calls of `gprs_send_string_len`. -/
structure UploadRecord where
  result : ℤ
  calls : List SendRecord

/-- What one `f_read` after the other reads of a file: the data of its packets. -/
def filePackets (file : List UInt8) : List (List UInt8) :=
  match file with
  | [] => []
  | b :: file => (b :: file).take transContentLen :: filePackets ((b :: file).drop transContentLen)
termination_by file.length
decreasing_by
  simp only [transContentLen, List.length_drop, List.length_cons]
  omega

/-- A turn of the loop up to `wp_send_data`. -/
def sendTurn (p : RtuOperationParameters) (a : LoopAnswers) (buf : List UInt8) (openNewPicture : Bool)
    (s : UploadState) : SendRecord × UploadState :=
  let updated := updateFrameContentData p (a.clock 0) buf openNewPicture s.picture
  let frame := wpSendData updated.1.frame updated.2
  let call := gprsSendStringLenCall s.sendAtcipsendErroCount (a.prompts 0) (a.oks 0) frame
  (call.1, { s with picture := updated.1, sendAtcipsendErroCount := call.2 })

/-- The rest of a turn, `CheckReceive`. -/
def checkTurn (a : LoopAnswers) (s : UploadState) : UploadState :=
  if checkReceive (a.waits 0) ≠ 0 then { s with gSingleRetransmitCount := s.gSingleRetransmitCount + 1 }
  else s

/-- The loop of `SendPictureToServer` on the packets that are still to be read. `f_close`, whose error is
only printed, is taken to succeed. -/
def uploadLoop (p : RtuOperationParameters) (a : LoopAnswers) (packets : List (List UInt8))
    (openNewPicture : Bool) (s : UploadState) : UploadRecord × UploadState :=
  match packets with
  | [] =>
      if a.reads 0 then
        -- `br == 0` ends the loop, and the file is closed
        (⟨0, []⟩, { s with filOpen := false })
      else (⟨-1, []⟩, s)
  | buf :: packets =>
      if a.reads 0 then
        let turn := sendTurn p a buf openNewPicture s
        if turn.1.result ≠ 0 then (⟨-1, [turn.1]⟩, turn.2)
        else
          let rest := uploadLoop p a.next packets false (checkTurn a turn.2)
          (⟨rest.1.result, turn.1 :: rest.1.calls⟩, rest.2)
      else (⟨-1, []⟩, s)

/-- `SendPictureToServer`. -/
def sendPicture (a : UploadAnswers) (s : UploadState) : UploadRecord × UploadState :=
  let picture := { s.picture with frame := frameConstantInit a.parameters s.picture.frame }
  if a.opened then
    uploadLoop a.parameters a.toLoopAnswers (filePackets a.file) true
      { s with picture := openAndGetPictureSize a.file.length picture, filOpen := true }
  else (⟨-1, []⟩, { s with picture })

/-! ## Runs -/

/-- The globals, all calls of `gprs_send_string_len` so far, and the uploads whose file was opened. -/
structure LinkState where
  upload : UploadState
  calls : List SendRecord
  uploads : List UploadRecord

/-- A reply that another function sends through `gprs_send_string_len`, or a picture upload. -/
inductive LinkEvent
  | reply (prompt ok : Bool) (frame : List UInt8)
  | picture (a : UploadAnswers)

/-- One event. -/
def LinkState.step (s : LinkState) : LinkEvent → Option LinkState
  | .reply prompt ok frame =>
      let call := gprsSendStringLenCall s.upload.sendAtcipsendErroCount prompt ok frame
      some { s with
        upload := { s.upload with sendAtcipsendErroCount := call.2 }
        calls := s.calls ++ [call.1] }
  | .picture a =>
      let upload := sendPicture a s.upload
      some {
        upload := upload.2
        calls := s.calls ++ upload.1.calls
        uploads := if a.opened then s.uploads ++ [upload.1] else s.uploads }

/-- The frame as it is at power-up. -/
def upFrameStart : UpFrame where
  header := ⟨0, 0, Vector.replicate 5 0, 0, 0, 0, 0⟩
  totalPktsAndCurSn := Vector.replicate 3 0
  picture := fun _ => 0
  contentEndId := 0

/-- Power-up. -/
def LinkState.start : LinkState := ⟨⟨⟨upFrameStart, 0, 1⟩, 0, false, 0⟩, [], []⟩

/-! ## The count of failed prompts -/

/-- The count after the first `n` of some prompts. -/
def erroCountAfter (erroCount : ℕ) (prompts : ℕ → Bool) : ℕ → ℕ
  | 0 => erroCount
  | n + 1 => nextErroCount (erroCountAfter erroCount prompts n) (prompts n)

/-- The first prompt may be counted before the others. -/
theorem erroCountAfter_succ (erroCount : ℕ) (prompts : ℕ → Bool) (n : ℕ) :
    erroCountAfter erroCount prompts (n + 1) =
      erroCountAfter (nextErroCount erroCount (prompts 0)) (fun i => prompts (i + 1)) n := by
  induction n with
  | zero => rfl
  | succ n ih => rw [erroCountAfter, ih, erroCountAfter]

/-- A call counts its own prompt. -/
@[simp] theorem gprsSendStringLenCall_count (erroCount : ℕ) (prompt ok : Bool) (frame : List UInt8) :
    (gprsSendStringLenCall erroCount prompt ok frame).2 = nextErroCount erroCount prompt := by
  show (gprsSendStringLen erroCount prompt ok frame).2 = if prompt then 0 else erroCount + 1
  rw [gprsSendStringLen]
  generalize (if prompt then 0 else erroCount + 1) = count
  split
  · rfl
  · split
    · rfl
    · rfl

/-- **What a call returns**: it fails at the limit and only there. -/
theorem gprsSendStringLenCall_result (erroCount : ℕ) (prompt ok : Bool) (frame : List UInt8) :
    (gprsSendStringLenCall erroCount prompt ok frame).1.result =
      if nextErroCount erroCount prompt = maxAtCipsendErroTimes then -1 else 0 := by
  rw [← gprsSendStringLenCall_count erroCount prompt ok frame]
  rfl

/-- A call that fails hands nothing over, and another one does. -/
theorem gprsSendStringLenCall_handed (erroCount : ℕ) (prompt ok : Bool) (frame : List UInt8) :
    (gprsSendStringLenCall erroCount prompt ok frame).1.handed = 0 ↔
      nextErroCount erroCount prompt = maxAtCipsendErroTimes := by
  show (gprsSendStringLen erroCount prompt ok frame).1 = 0 ↔
    (if prompt then 0 else erroCount + 1) = maxAtCipsendErroTimes
  rw [gprsSendStringLen]
  generalize (if prompt then 0 else erroCount + 1) = count
  split
  · next hlimit => exact ⟨fun _ => hlimit, fun _ => rfl⟩
  · next hlimit =>
      split
      · exact ⟨fun h => absurd h (Nat.succ_ne_zero 1), fun h => absurd h hlimit⟩
      · exact ⟨fun h => absurd h (Nat.succ_ne_zero 0), fun h => absurd h hlimit⟩

/-! ## The turns of the loop -/

section Turns

variable (p : RtuOperationParameters) {a : LoopAnswers} {buf : List UInt8} {packets : List (List UInt8)}
  (openNewPicture : Bool) (s : UploadState)

/-- The count after a turn. -/
@[simp] theorem erroCount_checkTurn :
    (checkTurn a s).sendAtcipsendErroCount = s.sendAtcipsendErroCount := by
  rw [checkTurn]
  split
  · rfl
  · rfl

/-- The file during a turn. -/
@[simp] theorem filOpen_checkTurn : (checkTurn a s).filOpen = s.filOpen := by
  rw [checkTurn]
  split
  · rfl
  · rfl

/-- The frame after `CheckReceive` is the one before. -/
@[simp] theorem picture_checkTurn : (checkTurn a s).picture = s.picture := by
  rw [checkTurn]
  split
  · rfl
  · rfl

/-- A turn counts its prompt. -/
@[simp] theorem erroCount_sendTurn : (sendTurn p a buf openNewPicture s).2.sendAtcipsendErroCount =
    nextErroCount s.sendAtcipsendErroCount (a.prompts 0) := gprsSendStringLenCall_count ..

/-- A read that fails ends the loop, with the file open. -/
theorem uploadLoop_of_not_read (hread : a.reads 0 ≠ true) :
    uploadLoop p a packets openNewPicture s = (⟨-1, []⟩, s) := by
  cases packets with
  | nil => exact if_neg hread
  | cons buf packets => exact if_neg hread

/-- The end of the file closes it. -/
theorem uploadLoop_nil (hread : a.reads 0 = true) :
    uploadLoop p a [] openNewPicture s = (⟨0, []⟩, { s with filOpen := false }) := if_pos hread

/-- A packet that is not sent ends the loop, with the file open. -/
theorem uploadLoop_of_limit (hread : a.reads 0 = true)
    (hlimit : nextErroCount s.sendAtcipsendErroCount (a.prompts 0) = maxAtCipsendErroTimes) :
    uploadLoop p a (buf :: packets) openNewPicture s =
      (⟨-1, [(sendTurn p a buf openNewPicture s).1]⟩, (sendTurn p a buf openNewPicture s).2) := by
  have hresult : (sendTurn p a buf openNewPicture s).1.result ≠ 0 := by
    rw [sendTurn, gprsSendStringLenCall_result, if_pos hlimit]
    decide
  rw [uploadLoop, if_pos hread]
  exact if_pos hresult

/-- A packet that is sent is followed by the next ones. -/
theorem uploadLoop_of_sent (hread : a.reads 0 = true)
    (hlimit : nextErroCount s.sendAtcipsendErroCount (a.prompts 0) ≠ maxAtCipsendErroTimes) :
    uploadLoop p a (buf :: packets) openNewPicture s =
      let rest := uploadLoop p a.next packets false (checkTurn a (sendTurn p a buf openNewPicture s).2)
      (⟨rest.1.result, (sendTurn p a buf openNewPicture s).1 :: rest.1.calls⟩, rest.2) := by
  have hresult : ¬ (sendTurn p a buf openNewPicture s).1.result ≠ 0 := by
    rw [sendTurn, gprsSendStringLenCall_result, if_neg hlimit]
    decide
  rw [uploadLoop, if_pos hread]
  exact if_neg hresult

/-- **Induction on the turns of an upload**, with a case for each way out of the loop: a read that fails, the
end of the file, a packet that is not sent, and one that is. -/
theorem uploadLoop_induction
    {motive : LoopAnswers → List (List UInt8) → Bool → UploadState → UploadRecord × UploadState → Prop}
    (unread : ∀ a packets openNewPicture s, a.reads 0 ≠ true →
      motive a packets openNewPicture s (⟨-1, []⟩, s))
    (ended : ∀ a openNewPicture s, a.reads 0 = true →
      motive a [] openNewPicture s (⟨0, []⟩, { s with filOpen := false }))
    (limit : ∀ a buf packets openNewPicture s, a.reads 0 = true →
      nextErroCount s.sendAtcipsendErroCount (a.prompts 0) = maxAtCipsendErroTimes →
        motive a (buf :: packets) openNewPicture s
          (⟨-1, [(sendTurn p a buf openNewPicture s).1]⟩, (sendTurn p a buf openNewPicture s).2))
    (sent : ∀ a buf packets openNewPicture s rest, a.reads 0 = true →
      nextErroCount s.sendAtcipsendErroCount (a.prompts 0) ≠ maxAtCipsendErroTimes →
        motive a.next packets false (checkTurn a (sendTurn p a buf openNewPicture s).2) rest →
          motive a (buf :: packets) openNewPicture s
            (⟨rest.1.result, (sendTurn p a buf openNewPicture s).1 :: rest.1.calls⟩, rest.2))
    (a : LoopAnswers) (packets : List (List UInt8)) (openNewPicture : Bool) (s : UploadState) :
    motive a packets openNewPicture s (uploadLoop p a packets openNewPicture s) := by
  induction packets generalizing a openNewPicture s with
  | nil =>
      by_cases hread : a.reads 0 = true
      · rw [uploadLoop_nil p openNewPicture s hread]
        exact ended a openNewPicture s hread
      · rw [uploadLoop_of_not_read p openNewPicture s hread]
        exact unread a [] openNewPicture s hread
  | cons buf packets ih =>
      by_cases hread : a.reads 0 = true
      · by_cases hlimit : nextErroCount s.sendAtcipsendErroCount (a.prompts 0) = maxAtCipsendErroTimes
        · rw [uploadLoop_of_limit p openNewPicture s hread hlimit]
          exact limit a buf packets openNewPicture s hread hlimit
        · rw [uploadLoop_of_sent p openNewPicture s hread hlimit]
          exact sent a buf packets openNewPicture s _ hread hlimit (ih a.next false _)
      · rw [uploadLoop_of_not_read p openNewPicture s hread]
        exact unread a (buf :: packets) openNewPicture s hread

end Turns

/-! ## Uploads that come to their end -/

/-- **An upload comes to its end**: all its reads succeed, the one at the end of the file included, and no
packet is the one at which the count of failed prompts reaches the limit. -/
def LoopAnswers.Completes (a : LoopAnswers) (erroCount packets : ℕ) : Prop :=
  (∀ i ≤ packets, a.reads i = true) ∧
    ∀ i < packets, erroCountAfter erroCount a.prompts (i + 1) ≠ maxAtCipsendErroTimes

/-- The first packet and the others. -/
theorem LoopAnswers.completes_succ (a : LoopAnswers) (erroCount packets : ℕ) :
    a.Completes erroCount (packets + 1) ↔ a.reads 0 = true ∧
      nextErroCount erroCount (a.prompts 0) ≠ maxAtCipsendErroTimes ∧
      a.next.Completes (nextErroCount erroCount (a.prompts 0)) packets := by
  constructor
  · rintro ⟨hreads, hcounts⟩
    refine ⟨hreads 0 (Nat.zero_le _), hcounts 0 (Nat.succ_pos _), fun i hi => ?_, fun i hi => ?_⟩
    · exact hreads (i + 1) (Nat.succ_le_succ hi)
    · have hcount := hcounts (i + 1) (Nat.succ_lt_succ hi)
      rwa [erroCountAfter_succ] at hcount
  · rintro ⟨hread, hcount, hreads, hcounts⟩
    refine ⟨fun i hi => ?_, fun i hi => ?_⟩
    · cases i with
      | zero => exact hread
      | succ i => exact hreads i (Nat.le_of_succ_le_succ hi)
    · cases i with
      | zero => exact hcount
      | succ i =>
          rw [erroCountAfter_succ]
          exact hcounts i (Nat.lt_of_succ_lt_succ hi)

/-- A turn makes its frame as the loop of `sendPictureToServer` does. -/
theorem sendTurn_frame (p : RtuOperationParameters) (a : LoopAnswers) (buf : List UInt8)
    (openNewPicture : Bool) (s : UploadState) :
    (sendTurn p a buf openNewPicture s).1.frame =
      wpSendData (updateFrameContentData p (a.clock 0) buf openNewPicture s.picture).1.frame
        (updateFrameContentData p (a.clock 0) buf openNewPicture s.picture).2 := rfl

/-- The loop on an upload that comes to its end, at one clock time. -/
theorem uploadLoop_of_completes (p : RtuOperationParameters) {a : LoopAnswers} {t : TimeDef}
    (hclock : ∀ i, a.clock i = t) (file : List UInt8) (openNewPicture : Bool) {s : UploadState}
    (hcompletes : a.Completes s.sendAtcipsendErroCount (filePackets file).length) :
    (uploadLoop p a (filePackets file) openNewPicture s).1.result = 0 ∧
      (uploadLoop p a (filePackets file) openNewPicture s).1.calls.map SendRecord.frame =
        (sendPictureLoop p (fun _ => t) file openNewPicture s.picture).1 ∧
      (uploadLoop p a (filePackets file) openNewPicture s).2.picture =
        (sendPictureLoop p (fun _ => t) file openNewPicture s.picture).2 := by
  -- the induction is on the packets; the loop of `sendPictureToServer` cuts them off one by one
  fun_induction filePackets file generalizing a openNewPicture s with
  | case1 =>
      rw [uploadLoop_nil p openNewPicture s (hcompletes.1 0 (Nat.le_refl 0)), sendPictureLoop]
      exact ⟨rfl, rfl, rfl⟩
  | case2 b file ih =>
      rw [List.length_cons, LoopAnswers.completes_succ] at hcompletes
      obtain ⟨hread, hlimit, hrest⟩ := hcompletes
      rw [← @erroCount_sendTurn p a ((b :: file).take transContentLen) openNewPicture s,
        ← erroCount_checkTurn (a := a)] at hrest
      obtain ⟨hresult, hframes, hpicture⟩ := ih (fun i => hclock (i + 1)) false hrest
      rw [picture_checkTurn] at hframes hpicture
      obtain rfl := hclock 0
      rw [uploadLoop_of_sent p openNewPicture s hread hlimit, sendPictureLoop]
      exact ⟨hresult, List.cons_eq_cons.mpr ⟨sendTurn_frame .., hframes⟩, hpicture⟩

/-- **An upload that comes to its end is what `sendPictureToServer` says**: it sends the same frames and
leaves the same globals. -/
theorem sendPicture_of_completes {a : UploadAnswers} {s : UploadState} {t : TimeDef}
    (hopened : a.opened = true) (hclock : ∀ i, a.clock i = t)
    (hcompletes : a.toLoopAnswers.Completes s.sendAtcipsendErroCount (filePackets a.file).length) :
    (sendPicture a s).1.result = 0 ∧
      (sendPicture a s).1.calls.map SendRecord.frame =
        (sendPictureToServer a.parameters (fun _ => t) a.file s.picture).1 ∧
      (sendPicture a s).2.picture =
        (sendPictureToServer a.parameters (fun _ => t) a.file s.picture).2 := by
  rw [sendPicture, if_pos hopened]
  exact uploadLoop_of_completes a.parameters hclock a.file true hcompletes

/-! ## The file -/

/-- The loop closes the file just when the upload comes to its end. -/
theorem filOpen_uploadLoop (p : RtuOperationParameters) (a : LoopAnswers) (packets : List (List UInt8))
    (openNewPicture : Bool) (s : UploadState) (hopen : s.filOpen = true) :
    (uploadLoop p a packets openNewPicture s).2.filOpen = false ↔
      a.Completes s.sendAtcipsendErroCount packets.length := by
  refine uploadLoop_induction p (motive := fun a packets _ s upload => s.filOpen = true →
    (upload.2.filOpen = false ↔ a.Completes s.sendAtcipsendErroCount packets.length))
    ?unread ?ended ?limit ?sent a packets openNewPicture s hopen
  case unread =>
    intro a packets _ s hread hopen
    refine iff_of_false (fun hclosed => ?_) fun h => hread (h.1 0 (Nat.zero_le _))
    rw [hopen] at hclosed
    cases hclosed
  case ended =>
    intro a _ s hread _
    refine iff_of_true rfl ⟨fun i hi => ?_, fun i hi => absurd hi (Nat.not_lt_zero i)⟩
    rw [Nat.le_zero.mp hi]
    exact hread
  case limit =>
    intro a buf packets _ s hread hlimit hopen
    rw [List.length_cons, LoopAnswers.completes_succ]
    refine iff_of_false (fun hclosed => ?_) fun h => h.2.1 hlimit
    have hclosed : s.filOpen = false := hclosed
    rw [hopen] at hclosed
    cases hclosed
  case sent =>
    intro a buf packets openNewPicture s rest hread hlimit hrest hopen
    rw [List.length_cons, LoopAnswers.completes_succ]
    rw [filOpen_checkTurn, erroCount_checkTurn, erroCount_sendTurn] at hrest
    exact (hrest hopen).trans ⟨fun h => ⟨hread, hlimit, h⟩, fun h => h.2.2⟩

/-- What an upload needs to leave its file closed. -/
def LinkState.Completes (s : LinkState) : LinkEvent → Prop
  | .reply _ _ _ => True
  | .picture a => a.opened = true →
      a.toLoopAnswers.Completes s.upload.sendAtcipsendErroCount (filePackets a.file).length

/-- An upload leaves its file closed just when it comes to its end or did not open it. -/
theorem filOpen_step {s s' : LinkState} {e : LinkEvent} (hclosed : s.upload.filOpen = false)
    (hstep : s.step e = some s') : s'.upload.filOpen = false ↔ s.Completes e := by
  cases e with
  | reply prompt ok frame =>
      obtain rfl := Option.some.inj hstep
      exact ⟨fun _ => trivial, fun _ => hclosed⟩
  | picture a =>
      obtain rfl := Option.some.inj hstep
      show (sendPicture a s.upload).2.filOpen = false ↔ _
      rw [sendPicture]
      split
      · next hopened =>
          rw [filOpen_uploadLoop _ _ _ _ _ rfl]
          exact ⟨fun h _ => h, fun h => h hopened⟩
      · next hopened => exact ⟨fun _ h => absurd h hopened, fun _ => hclosed⟩

/-- **No file stays open** in exactly those runs in which every upload that opens its file comes to its
end. -/
theorem filClosed_iff (events : List LinkEvent) :
    AllReached LinkState.step (fun s => s.upload.filOpen = false) LinkState.start events ↔
      StepsMeet LinkState.step LinkState.Completes LinkState.start events :=
  allReached_iff_stepsMeet (fun _ hclosed => hclosed)
    (fun _ _ _ hclosed hcompletes hstep => (filOpen_step hclosed hstep).mpr hcompletes)
    (fun _ _ _ hclosed hcompletes hstep h => hcompletes ((filOpen_step hclosed hstep).mp h)) rfl events

/-- Answers that are all the same. -/
def constantAnswers (file : List UInt8) (read prompt : Bool) : UploadAnswers where
  parameters := zeroParameters
  opened := true
  file
  reads _ := read
  clock _ := ⟨0x00, 0x30, 0x08, 0x01, 0x15, 0x03, 0x20⟩
  prompts _ := prompt
  oks _ := true
  waits _ := Vector.replicate 3 none

/-- A picture that is opened and cannot be read. -/
theorem not_filClosed_of_read_error :
    ¬ AllReached LinkState.step (fun s => s.upload.filOpen = false) LinkState.start
      [.picture (constantAnswers [0xFF, 0xD8] false true)] := by
  rintro ⟨-, hrest⟩
  have hcompletes : LinkState.start.Completes (.picture (constantAnswers [0xFF, 0xD8] false true)) :=
    (filOpen_step rfl rfl).mp (hrest _ rfl)
  obtain ⟨hreads, -⟩ := hcompletes rfl
  exact absurd (hreads 0 (Nat.zero_le _)) (by decide)

end RtuShuiwen
