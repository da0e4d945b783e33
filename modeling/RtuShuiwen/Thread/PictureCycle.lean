import RtuShuiwen.Ftp.Store
import RtuShuiwen.Library.TransitionSystem
import Mathlib.Data.List.Nodup
import Mathlib.Data.List.ReduceOption

/-! # The cycle that saves and uploads a picture

Every few minutes `basic_message_task` resumes `ftp_task`, waits up to 120 seconds for
`g_save_picture_flag`, and if it comes suspends `ftp_task` again and posts `gprs_task_en`, on which
`gprs_task` uploads the picture. Otherwise the FTP task runs on. Here the three tasks step in any order,
and `stopmode_task` may suspend the FTP task at any time.

* **`pictureCycles`**: a picture is uploaded only for the cycle that saved it, in the runs in which no
  flag is left over when a cycle begins;
* **`exists_not_pictureCycles`**: the condition leaves nothing out. -/

namespace RtuShuiwen

open TransitionSystem

/-- `FTP_SAVE_MAX_WAIT_TIME`, in seconds. -/
def ftpSaveMaxWaitTime : ℕ := 120

/-- Where `basic_message_task` stands: before `OSTaskResume(FTP_TASK_PRIO)`; at the head of its loop, with
`wait_time`; before it clears the flag; in the delay of a second; before `OSTaskSuspend(FTP_TASK_PRIO)`;
before `OSSemPost(gprs_task_en)`. With the last two goes the picture whose flag was cleared. -/
inductive CyclePhase
  | idle
  | wait (waitTime : ℕ)
  | clear (waitTime : ℕ)
  | delay (waitTime : ℕ)
  | suspend (picture : Option ℕ)
  | post (picture : Option ℕ)
  deriving DecidableEq

/-- Where the FTP task stands: outside of any `STOR` that is kept, in the receive loop of one, or between
`f_close` and the flag, with the picture that was completed. -/
inductive FtpPhase
  | free
  | receiving (opened : FResult)
  | closed (picture : Option ℕ)

/-- The two tasks, whether the FTP task is suspended, and the flag. The pictures completed so far are
numbered: `resumedAt` is their number at the last `OSTaskResume`, `flagPicture` the one whose `STOR` set the
flag, `gprsTaskEn` holds one for each post that is not yet taken and `uploads` one for each upload, and
`posts` says for each post how many were completed since the `OSTaskResume` of its cycle. -/
structure CycleState where
  cycle : CyclePhase
  ftp : FtpPhase
  ftpSuspended : Bool
  gSavePictureFlag : Bool
  completed : ℕ
  resumedAt : ℕ
  flagPicture : Option ℕ
  gprsTaskEn : List (Option ℕ)
  uploads : List (Option ℕ)
  posts : List ℕ

/-- A step of `basic_message_task`; the three steps of a `STOR` that is kept: its beginning with the
result of `f_open`, `f_close`, and setting the flag; its other end, at once, when `recv` fails;
`stopmode_task` suspending the FTP task; `gprs_task` taking the semaphore and uploading. -/
inductive CycleEvent
  | basic
  | stor (opened : FResult)
  | close
  | setFlag
  | recvError
  | stopFtp
  | upload

/-- The next step of `basic_message_task`. -/
def CycleState.basic (s : CycleState) : CycleState :=
  match s.cycle with
  | .idle =>
      { s with cycle := .wait ftpSaveMaxWaitTime, ftpSuspended := false, resumedAt := s.completed }
  | .wait 0 =>
      -- `wait_time == 0`: only the message `ENTER_STOP_MODE` is posted
      { s with cycle := .idle }
  | .wait (n + 1) =>
      if s.gSavePictureFlag then { s with cycle := .clear (n + 1) } else { s with cycle := .delay (n + 1) }
  | .clear _ =>
      { s with cycle := .suspend s.flagPicture, gSavePictureFlag := false, flagPicture := none }
  | .delay n => { s with cycle := .wait (n - 1) }
  | .suspend picture => { s with cycle := .post picture, ftpSuspended := true }
  | .post picture =>
      { s with
        cycle := .idle
        gprsTaskEn := s.gprsTaskEn ++ [picture]
        posts := (s.completed - s.resumedAt) :: s.posts }

/-- One event. -/
def CycleState.step (s : CycleState) : CycleEvent → Option CycleState
  | .basic => some s.basic
  | .stor opened =>
      match s.ftpSuspended, s.ftp with
      | false, .free => some { s with ftp := .receiving opened }
      | _, _ => none
  | .close =>
      match s.ftpSuspended, s.ftp with
      | false, .receiving .ok =>
          some { s with ftp := .closed (some (s.completed + 1)), completed := s.completed + 1 }
      | false, .receiving .failed => some { s with ftp := .closed none }
      | _, _ => none
  | .setFlag =>
      match s.ftpSuspended, s.ftp with
      | false, .closed picture =>
          some { s with ftp := .free, gSavePictureFlag := true, flagPicture := picture }
      | _, _ => none
  | .recvError =>
      match s.ftpSuspended, s.ftp with
      -- neither is the file closed nor the flag set
      | false, .receiving _ => some { s with ftp := .free }
      | _, _ => none
  | .stopFtp => some { s with ftpSuspended := true }
  | .upload =>
      match s.gprsTaskEn with
      | [] => none
      | picture :: rest => some { s with gprsTaskEn := rest, uploads := s.uploads ++ [picture] }

/-- After power-up: `start_task` has suspended the FTP task. -/
def CycleState.start : CycleState := ⟨.idle, .free, true, false, 0, 0, none, [], [], []⟩

/-! ## The law and its condition -/

/-- **A picture is uploaded only for the cycle that saved it**: each post has a picture completed since the
`OSTaskResume` of its cycle, and no picture is uploaded twice. -/
def CycleState.PictureOfCycle (s : CycleState) : Prop :=
  (∀ n ∈ s.posts, 0 < n) ∧ s.uploads.reduceOption.Nodup

instance (s : CycleState) : Decidable s.PictureOfCycle := by
  unfold CycleState.PictureOfCycle
  infer_instance

/-- The cycle waits for the flag. -/
def CycleState.Waiting (s : CycleState) : Prop :=
  match s.cycle with
  | .wait _ | .clear _ | .delay _ => True
  | _ => False

instance (s : CycleState) : Decidable s.Waiting := by
  unfold CycleState.Waiting
  split <;> infer_instance

/-- **When a step does no harm.** The flag is not set when a cycle resumes the FTP task; and where a `STOR`
sets the flag while a cycle waits, a picture has been completed since that cycle resumed the task. -/
def NoFlagLeft (s : CycleState) : CycleEvent → Prop
  | .basic => s.cycle = .idle → s.gSavePictureFlag = false
  | .setFlag => s.Waiting → s.resumedAt < s.completed
  | _ => True

instance (s : CycleState) (e : CycleEvent) : Decidable (NoFlagLeft s e) := by
  cases e <;> (unfold NoFlagLeft; infer_instance)

/-! ## Runs -/

/-- The picture whose flag the cycle has cleared. -/
def CyclePhase.taken : CyclePhase → Option ℕ
  | .suspend picture | .post picture => picture
  | _ => none

/-- The picture completed for which the flag is still to be set. -/
def FtpPhase.unflagged : FtpPhase → Option ℕ
  | .closed picture => picture
  | _ => none

/-- The pictures on their way, in the order in which they go it: uploaded, posted, taken, flagged, and
completed. -/
def CycleState.onTheWay (s : CycleState) : List ℕ :=
  s.uploads.reduceOption ++ s.gprsTaskEn.reduceOption ++ s.cycle.taken.toList ++ s.flagPicture.toList ++
    s.ftp.unflagged.toList

/-- The invariant. -/
structure CycleState.Inv (s : CycleState) : Prop where
  /-- Every post so far was one of its cycle. -/
  posts : ∀ n ∈ s.posts, 0 < n
  /-- No picture goes the way twice. -/
  nodup : s.onTheWay.Nodup
  /-- They are among those completed. -/
  le : ∀ n ∈ s.onTheWay, n ≤ s.completed
  /-- Pictures are only added. -/
  resumed : s.resumedAt ≤ s.completed
  /-- A flag that a waiting cycle can see comes with a picture of the cycle. -/
  flag : s.Waiting → s.gSavePictureFlag = true → s.resumedAt < s.completed
  /-- So does one that it has seen. -/
  seen : (match s.cycle with
    | .clear _ | .suspend _ | .post _ => s.resumedAt < s.completed
    | _ => True)

/-- The invariant implies the law: what is uploaded is on the way. -/
theorem CycleState.Inv.pictureOfCycle {s : CycleState} (hinv : s.Inv) : s.PictureOfCycle := by
  refine ⟨hinv.posts, ?_⟩
  have hnodup := hinv.nodup
  simp only [onTheWay, List.append_assoc] at hnodup
  exact (List.nodup_append.mp hnodup).1

theorem CycleState.inv_start : start.Inv := by
  refine ⟨nofun, ?_, ?_, Nat.le_refl _, nofun, trivial⟩ <;>
    simp [start, onTheWay, CyclePhase.taken, FtpPhase.unflagged]

/-- **Every step of the cycle that does no harm keeps the invariant.** -/
theorem CycleState.Inv.basic {s : CycleState} (hinv : s.Inv) (hok : NoFlagLeft s .basic) :
    s.basic.Inv := by
  obtain ⟨hposts, hnodup, hle, hresumed, hflag, hseen⟩ := hinv
  unfold onTheWay at hnodup hle
  unfold Waiting at hflag
  unfold CycleState.basic
  cases hc : s.cycle with
  | idle =>
      -- the wait of this cycle begins, with no flag left from the last one
      have hnone := hok hc
      rw [hc] at hnodup hle
      refine ⟨hposts, hnodup, hle, Nat.le_refl _, ?_, trivial⟩
      intro _ hset
      exact Bool.noConfusion (hnone.symm.trans hset)
  | wait n =>
      rw [hc] at hnodup hle hflag
      rcases n with - | n
      · exact ⟨hposts, hnodup, hle, hresumed, nofun, trivial⟩
      · dsimp only
        by_cases hset : s.gSavePictureFlag = true
        · rw [if_pos hset]
          exact ⟨hposts, hnodup, hle, hresumed, hflag, hflag trivial hset⟩
        · rw [if_neg hset]
          exact ⟨hposts, hnodup, hle, hresumed, hflag, trivial⟩
  | clear n =>
      rw [hc] at hnodup hle hseen
      refine ⟨hposts, ?_, ?_, hresumed, nofun, hseen⟩
      · simpa [onTheWay, CyclePhase.taken] using hnodup
      · simpa [onTheWay, CyclePhase.taken] using hle
  | delay n =>
      rw [hc] at hnodup hle hflag
      exact ⟨hposts, hnodup, hle, hresumed, hflag, trivial⟩
  | suspend picture =>
      rw [hc] at hnodup hle hseen
      exact ⟨hposts, hnodup, hle, hresumed, nofun, hseen⟩
  | post picture =>
      rw [hc] at hnodup hle hseen
      -- what is posted was completed since the FTP task was resumed
      refine ⟨?_, ?_, ?_, hresumed, nofun, trivial⟩
      · rw [List.forall_mem_cons]
        exact ⟨Nat.sub_pos_of_lt hseen, hposts⟩
      · simpa [onTheWay, CyclePhase.taken, List.reduceOption_append, List.reduceOption_singleton] using hnodup
      · simpa [onTheWay, CyclePhase.taken, List.reduceOption_append, List.reduceOption_singleton] using hle

/-- **A completed picture** has a number of its own, and is on the way. -/
theorem CycleState.Inv.close {s s' : CycleState} (hinv : s.Inv) (hstep : s.step .close = some s') :
    s'.Inv := by
  obtain ⟨hposts, hnodup, hle, hresumed, hflag, hseen⟩ := hinv
  unfold onTheWay at hnodup hle
  cases hs : s.ftpSuspended <;> cases hf : s.ftp <;>
    simp only [CycleState.step, hs, hf, reduceCtorEq] at hstep
  next opened =>
    rw [hf] at hnodup hle
    simp only [FtpPhase.unflagged, Option.toList_none, List.append_nil] at hnodup hle
    cases opened <;> obtain rfl := Option.some.inj hstep
    · refine ⟨hposts, ?_, ?_, Nat.le_succ_of_le hresumed,
        fun hwaiting hset => Nat.lt_succ_of_lt (hflag hwaiting hset), ?_⟩
      · -- the number of the new picture is larger than those on the way
        refine List.nodup_append.mpr ⟨hnodup, List.nodup_singleton _, ?_⟩
        rintro n hn m hm rfl
        have := hle n hn
        have := List.mem_singleton.mp hm
        omega
      · rintro n hn
        rcases List.mem_append.mp hn with hn | hn
        · exact Nat.le_succ_of_le (hle n hn)
        · exact Nat.le_of_eq (List.mem_singleton.mp hn)
      · show match s.cycle with
          | .clear _ | .suspend _ | .post _ => s.resumedAt < s.completed + 1
          | _ => True
        cases hc : s.cycle <;> rw [hc] at hseen <;> first | trivial | exact Nat.lt_succ_of_lt hseen
    · refine ⟨hposts, ?_, ?_, hresumed, hflag, hseen⟩
      · simpa [onTheWay, FtpPhase.unflagged] using hnodup
      · simpa [onTheWay, FtpPhase.unflagged] using hle

/-- **The flag of a picture** takes the place of one that was still set. -/
theorem CycleState.Inv.setFlag {s s' : CycleState} (hinv : s.Inv) (hok : NoFlagLeft s .setFlag)
    (hstep : s.step .setFlag = some s') : s'.Inv := by
  obtain ⟨hposts, hnodup, hle, hresumed, hflag, hseen⟩ := hinv
  unfold onTheWay at hnodup hle
  cases hs : s.ftpSuspended <;> cases hf : s.ftp <;>
    simp only [CycleState.step, hs, hf, reduceCtorEq] at hstep
  next picture =>
    obtain rfl := Option.some.inj hstep
    rw [hf] at hnodup hle
    have hsublist := (List.sublist_append_left
      (s.uploads.reduceOption ++ s.gprsTaskEn.reduceOption ++ s.cycle.taken.toList)
      s.flagPicture.toList).append_right picture.toList
    refine ⟨hposts, ?_, ?_, hresumed, fun hwaiting _ => hok hwaiting, hseen⟩
    · simpa [onTheWay, FtpPhase.unflagged] using hnodup.sublist hsublist
    · intro n hn
      refine hle n (hsublist.subset ?_)
      simpa [onTheWay, FtpPhase.unflagged] using hn

/-- **An upload** takes the first picture that was posted. -/
theorem CycleState.Inv.upload {s s' : CycleState} (hinv : s.Inv) (hstep : s.step .upload = some s') :
    s'.Inv := by
  obtain ⟨hposts, hnodup, hle, hresumed, hflag, hseen⟩ := hinv
  unfold onTheWay at hnodup hle
  rcases hsem : s.gprsTaskEn with - | ⟨picture, rest⟩ <;>
    simp only [CycleState.step, hsem, reduceCtorEq] at hstep
  obtain rfl := Option.some.inj hstep
  have hmove : (picture :: rest).reduceOption = picture.toList ++ rest.reduceOption := by
    rw [← List.singleton_append, List.reduceOption_append, List.reduceOption_singleton]
  rw [hsem, hmove] at hnodup hle
  refine ⟨hposts, ?_, ?_, hresumed, hflag, hseen⟩
  · simpa [onTheWay, List.reduceOption_append, List.reduceOption_singleton] using hnodup
  · simpa [onTheWay, List.reduceOption_append, List.reduceOption_singleton] using hle

/-- **Every step that does no harm keeps the invariant.** -/
theorem CycleState.Inv.step {s s' : CycleState} {e : CycleEvent} (hinv : s.Inv) (hok : NoFlagLeft s e)
    (hstep : s.step e = some s') : s'.Inv := by
  cases e with
  | basic =>
      obtain rfl := Option.some.inj hstep
      exact hinv.basic hok
  | stopFtp =>
      obtain rfl := Option.some.inj hstep
      exact ⟨hinv.posts, hinv.nodup, hinv.le, hinv.resumed, hinv.flag, hinv.seen⟩
  | stor opened =>
      obtain ⟨hposts, hnodup, hle, hresumed, hflag, hseen⟩ := hinv
      cases hs : s.ftpSuspended <;> cases hf : s.ftp <;>
        simp only [CycleState.step, hs, hf, reduceCtorEq] at hstep
      obtain rfl := Option.some.inj hstep
      unfold onTheWay at hnodup hle
      rw [hf] at hnodup hle
      exact ⟨hposts, hnodup, hle, hresumed, hflag, hseen⟩
  | close => exact hinv.close hstep
  | setFlag => exact hinv.setFlag hok hstep
  | recvError =>
      obtain ⟨hposts, hnodup, hle, hresumed, hflag, hseen⟩ := hinv
      cases hs : s.ftpSuspended <;> cases hf : s.ftp <;>
        simp only [CycleState.step, hs, hf, reduceCtorEq] at hstep
      obtain rfl := Option.some.inj hstep
      unfold onTheWay at hnodup hle
      rw [hf] at hnodup hle
      exact ⟨hposts, hnodup, hle, hresumed, hflag, hseen⟩
  | upload => exact hinv.upload hstep

/-- **When a picture is uploaded only for the cycle that saved it**: in the runs in which no flag is left
over when a cycle resumes the FTP task, and a `STOR` that sets the flag while a cycle waits does so after a
picture was completed in that cycle. -/
theorem pictureCycles (events : List CycleEvent)
    (hquiet : StepsMeet CycleState.step NoFlagLeft .start events) :
    AllReached CycleState.step CycleState.PictureOfCycle .start events :=
  (allReached_of_stepsMeet (fun _ _ _ hinv hok hstep => CycleState.Inv.step hinv hok hstep)
    CycleState.inv_start hquiet).mono fun _ hinv => hinv.pictureOfCycle

/-- A cycle in which a `STOR` completes its picture. -/
def savedCycle : List CycleEvent :=
  [.basic, .stor .ok, .basic, .close, .setFlag] ++ List.replicate 5 .basic ++ [.upload]

/-- It uploads this picture. -/
theorem savedCycle_pictureOfCycle :
    AllReached CycleState.step CycleState.PictureOfCycle .start savedCycle :=
  pictureCycles savedCycle (by decide)

/-- A cycle that waits out its 120 seconds for a `STOR` that completes its picture behind them, and the
next cycle. -/
def lateStor : List CycleEvent :=
  [.basic, .stor .ok] ++ List.replicate 241 .basic ++ [.close, .setFlag] ++ List.replicate 5 .basic

/-- **The next cycle posts at once**, without a picture of its own. -/
theorem lateStor_not_pictureOfCycle :
    ¬ AllReached CycleState.step CycleState.PictureOfCycle .start lateStor := by
  decide +kernel

/-! ## What a flag that is left does -/

/-- A flag that a cycle sees makes it post, with whatever was completed since it began. -/
theorem CycleState.posts_of_wait {s : CycleState} {n : ℕ} (hc : s.cycle = .wait (n + 1))
    (hset : s.gSavePictureFlag = true) :
    (CycleState.basic^[4] s).posts = (s.completed - s.resumedAt) :: s.posts := by
  simp [CycleState.basic, hc, hset]

/-- A flag that is set between two cycles makes the next one post. -/
theorem CycleState.posts_of_idle {s : CycleState} (hc : s.cycle = .idle)
    (hset : s.gSavePictureFlag = true) : (CycleState.basic^[5] s).posts = 0 :: s.posts := by
  have hresume : s.basic = { s with
      cycle := .wait ftpSaveMaxWaitTime, ftpSuspended := false, resumedAt := s.completed } := by
    rw [CycleState.basic, hc]
  have hc' : s.basic.cycle = .wait (119 + 1) := by
    rw [hresume]
    rfl
  have hset' : s.basic.gSavePictureFlag = true := by
    rw [hresume]
    exact hset
  rw [Function.iterate_succ_apply, posts_of_wait hc' hset', hresume]
  simp

/-- **A flag without a picture** leads to a post without one, in this cycle or the next. -/
theorem CycleState.exists_post {s : CycleState} (hset : s.gSavePictureFlag = true)
    (hnone : s.completed ≤ s.resumedAt)
    (hc : s.cycle = .idle ∨ ∃ n, s.cycle = .wait n ∨ s.cycle = .delay n) :
    ∃ k, 0 ∈ (CycleState.basic^[k] s).posts := by
  have hwait : ∀ s : CycleState, s.gSavePictureFlag = true → s.completed ≤ s.resumedAt → ∀ n,
      s.cycle = .wait n → ∃ k, 0 ∈ (CycleState.basic^[k] s).posts := by
    rintro s hset hnone (- | n) hc
    · have hidle : s.basic = { s with cycle := .idle } := by rw [CycleState.basic, hc]
      have hc' : s.basic.cycle = .idle := by rw [hidle]
      have hset' : s.basic.gSavePictureFlag = true := by rwa [hidle]
      refine ⟨6, ?_⟩
      rw [Function.iterate_succ_apply, posts_of_idle hc' hset']
      exact List.mem_cons_self
    · refine ⟨4, ?_⟩
      rw [posts_of_wait hc hset, Nat.sub_eq_zero_of_le hnone]
      exact List.mem_cons_self
  rcases hc with hc | ⟨n, hc | hc⟩
  · refine ⟨5, ?_⟩
    rw [posts_of_idle hc hset]
    exact List.mem_cons_self
  · exact hwait s hset hnone n hc
  · have hdelay : s.basic = { s with cycle := .wait (n - 1) } := by rw [CycleState.basic, hc]
    obtain ⟨k, hk⟩ := hwait s.basic (by rw [hdelay]; exact hset) (by rw [hdelay]; exact hnone) (n - 1)
      (by rw [hdelay])
    exact ⟨k + 1, by rwa [Function.iterate_succ_apply]⟩

/-- **The condition leaves nothing out**: a run with a step that does harm has a beginning after which
`basic_message_task`, left alone, posts without a picture of its cycle. -/
theorem exists_not_pictureCycles (events : List CycleEvent)
    (h : ¬ StepsMeet CycleState.step NoFlagLeft .start events) :
    ∃ events' k, events' <+: events ∧
      ¬ AllReached CycleState.step CycleState.PictureOfCycle .start
        (events' ++ List.replicate k .basic) := by
  refine exists_not_allReached (fun _ _ _ hinv hok hstep => CycleState.Inv.step hinv hok hstep) ?_
    CycleState.inv_start h
  intro s e s' hinv hharm hstep
  suffices hpost : ∃ k, 0 ∈ (CycleState.basic^[k] s').posts by
    obtain ⟨k, hk⟩ := hpost
    exact ⟨k, fun hall => absurd ((hall.iterate (f := CycleState.basic) fun _ => rfl).1 0 hk) (Nat.lt_irrefl 0)⟩
  cases e with
  | basic =>
      obtain rfl := Option.some.inj hstep
      obtain ⟨hc, hset⟩ := Classical.not_imp.mp hharm
      -- the flag that was left is taken at once, and four steps later posted
      refine ⟨4, ?_⟩
      rw [← Function.iterate_succ_apply, CycleState.posts_of_idle hc (by simpa using hset)]
      exact List.mem_cons_self
  | setFlag =>
      obtain ⟨hwaiting, hnone⟩ := Classical.not_imp.mp hharm
      cases hs : s.ftpSuspended <;> cases hf : s.ftp <;>
        simp only [CycleState.step, hs, hf, reduceCtorEq] at hstep
      next picture =>
        obtain rfl := Option.some.inj hstep
        refine CycleState.exists_post rfl (Nat.le_of_not_lt hnone) ?_
        unfold CycleState.Waiting at hwaiting
        have hseen := hinv.seen
        cases hc : s.cycle <;> rw [hc] at hwaiting hseen
        case wait n => exact .inr ⟨n, .inl rfl⟩
        case delay n => exact .inr ⟨n, .inr rfl⟩
        case clear n => exact absurd hseen hnone
        case idle | suspend | post => exact hwaiting.elim
  | stor | close | recvError | stopFtp | upload => exact absurd trivial hharm

end RtuShuiwen
