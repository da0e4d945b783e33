import RtuShuiwen.Ftp.Store
import RtuShuiwen.Library.ByteLayout
import RtuShuiwen.Library.TransitionSystem

/-! # Logging in to the FTP server

`ftp_process_request` handles one request of a session. Whether the session may store is one byte of its
block, `is_anonymous`: `USER` writes it, `PASS`, `STOR`, `MKD`, `DELE` and `RMD` read it, and
`ftp_new_session` leaves what the memory holds.

* **`ftpUpload_iff`**: in which sessions only a login as `rtt` leads past the permission checks. -/

namespace RtuShuiwen

open ByteLayout TransitionSystem

/-! ## One request -/

/-- The request in `buf`: a C string, cut at its line end. -/
def requestText (buf : List UInt8) : List UInt8 :=
  buf.takeWhile fun b => b != 0 && b != 0x0D && b != 0x0A

/-- `parameter_ptr`: what is behind the first space, `NULL` when there is none. -/
def parameterPtr (request : List UInt8) : Option (List UInt8) :=
  (request.dropWhile (· != 0x20)).tail?

/-- `str_begin_with`, when it returns 0. -/
def strBeginWith (src matched : List UInt8) : Bool := matched.isPrefixOf src

/-- The requests that have to do with the login, and any other. -/
inductive FtpCommand
  | user (parameter : Option (List UInt8))
  | pass (parameter : Option (List UInt8))
  | stor
  | mkd
  | dele
  | rmd
  | quit
  | other
  deriving DecidableEq

/-- Which one a request is. No two of the words that `ftp_process_request` asks for begin with each
other. -/
def ftpCommand (request : List UInt8) : FtpCommand :=
  if strBeginWith request (ascii "USER") then .user (parameterPtr request)
  else if strBeginWith request (ascii "PASS") then .pass (parameterPtr request)
  else if strBeginWith request (ascii "STOR") then .stor
  else if strBeginWith request (ascii "MKD") then .mkd
  else if strBeginWith request (ascii "DELE") then .dele
  else if strBeginWith request (ascii "RMD") then .rmd
  else if strBeginWith request (ascii "QUIT") then .quit
  else .other

/-- `FTP_USER`. -/
def ftpUser : List UInt8 := ascii "rtt"

/-- `FTP_PASSWORD`. -/
def ftpPassword : List UInt8 := ascii "demo"

/-- The other user that `USER` knows. -/
def anonymousUser : List UInt8 := ascii "anonymous"

/-- `RT_TRUE`. -/
def rtTrue : UInt8 := 1

/-- `RT_FALSE`. -/
def rtFalse : UInt8 := 0

/-- A request as it is received, with what it meets: `g_picture_count`, and the way out of the receive
loop if it is a `STOR` that gets there. -/
structure FtpRequest where
  buf : List UInt8
  gPictureCount : UInt8
  exit : Exit

/-- The command in it. -/
def FtpRequest.command (r : FtpRequest) : FtpCommand := ftpCommand (requestText r.buf)

/-- What a request leaves and returns, whether it went past the permission check of `STOR`, `MKD`, `DELE`
or `RMD`, and whether it opened a file to write to. -/
structure FtpReply where
  isAnonymous : UInt8
  returned : ℤ
  passed : Bool
  openedFile : Bool

/-- `ftp_process_request`. A comparison with a parameter that is not there is not equal. -/
def ftpProcessRequest (isAnonymous : UInt8) (r : FtpRequest) : FtpReply :=
  match r.command with
  | .user parameter =>
      if parameter = some anonymousUser then ⟨rtTrue, 0, false, false⟩
      else if parameter = some ftpUser then ⟨rtFalse, 0, false, false⟩
      else ⟨isAnonymous, -1, false, false⟩
  | .pass parameter =>
      if parameter = some ftpPassword ∨ isAnonymous = rtTrue then ⟨isAnonymous, 0, false, false⟩
      else ⟨isAnonymous, -1, false, false⟩
  | .stor =>
      if isAnonymous = rtTrue then ⟨isAnonymous, 0, false, false⟩
      else if r.gPictureCount = selectPictureCount then ⟨isAnonymous, -1, true, true⟩
      else ⟨isAnonymous, if r.exit = .recvError then -1 else 0, true, false⟩
  | .mkd | .dele | .rmd =>
      if isAnonymous = rtTrue then ⟨isAnonymous, 0, false, false⟩ else ⟨isAnonymous, 0, true, false⟩
  | .quit => ⟨isAnonymous, -1, false, false⟩
  | .other => ⟨isAnonymous, 0, false, false⟩

/-! ## A session -/

/-- A session: its byte `is_anonymous`, whether it is still connected, the commands it has received, the
last one first, and whether the last one went past a permission check and opened a file. -/
structure FtpSession where
  isAnonymous : UInt8
  connected : Bool
  commands : List FtpCommand
  passed : Bool
  openedFile : Bool

/-- `ftp_new_session`: the block is not initialised. -/
def ftpNewSession (freshByte : UInt8) : FtpSession := ⟨freshByte, true, [], false, false⟩

/-- One request; `ftpd_thread_entry` closes the session when -1 is returned. -/
def FtpSession.step (s : FtpSession) (r : FtpRequest) : Option FtpSession :=
  if s.connected then
    let reply := ftpProcessRequest s.isAnonymous r
    some ⟨reply.isAnonymous, reply.returned != -1, r.command :: s.commands, reply.passed,
      reply.openedFile⟩
  else none

/-- The command is `USER`. -/
def FtpCommand.isUser : FtpCommand → Bool
  | .user _ => true
  | _ => false

/-- **Logged in**: `USER rtt` has come, `PASS demo` later, and no `USER` since. -/
def LoggedIn (commands : List FtpCommand) : Prop :=
  ∃ since before, commands = since ++ .user (some ftpUser) :: before ∧
    (∀ c ∈ since, c.isUser = false) ∧ .pass (some ftpPassword) ∈ since

/-- **Uploads need a login**: a file is opened only in a session that is logged in, and one that is not
is refused. -/
def FtpSession.Guarded (s : FtpSession) : Prop :=
  (s.openedFile = true → LoggedIn s.commands) ∧ (¬ LoggedIn s.commands → s.passed = false)

/-- The request is one with a permission check. -/
def FtpRequest.NeedsLogin (r : FtpRequest) : Prop :=
  r.command = .stor ∨ r.command = .mkd ∨ r.command = .dele ∨ r.command = .rmd

/-- The last `USER`. -/
def lastUser (commands : List FtpCommand) : Option FtpCommand := commands.find? FtpCommand.isUser

/-- The commands since. -/
def sinceUser (commands : List FtpCommand) : List FtpCommand :=
  commands.takeWhile fun c => !c.isUser

/-- **When a request does no harm.** If it has a permission check, then the last `USER` was not `rtt` or
`PASS demo` has come since; and where no `USER` has come, the fresh byte is `RT_TRUE`. -/
def UploadOk (freshByte : UInt8) (s : FtpSession) (r : FtpRequest) : Prop :=
  r.NeedsLogin →
    match lastUser s.commands with
    | none => freshByte = rtTrue
    | some c => c = .user (some ftpUser) → .pass (some ftpPassword) ∈ sinceUser s.commands

/-- The commands before a `USER` that is the last one are those since. -/
theorem sinceUser_append {since : List FtpCommand} (h : ∀ c ∈ since, c.isUser = false)
    (parameter : Option (List UInt8)) (before : List FtpCommand) :
    sinceUser (since ++ .user parameter :: before) = since := by
  rw [sinceUser, List.takeWhile_append_of_pos fun c hc => by simp [h c hc]]
  simp [FtpCommand.isUser]

/-- To be logged in is to have `rtt` as the last user and `PASS demo` since. -/
theorem loggedIn_iff (commands : List FtpCommand) :
    LoggedIn commands ↔ lastUser commands = some (.user (some ftpUser)) ∧
      .pass (some ftpPassword) ∈ sinceUser commands := by
  constructor
  · rintro ⟨since, before, rfl, hsince, hpass⟩
    refine ⟨List.find?_eq_some_iff_append.mpr ⟨rfl, since, before, rfl, ?_⟩, ?_⟩
    · intro c hc
      simp [hsince c hc]
    · rwa [sinceUser_append hsince]
  · rintro ⟨hlast, hpass⟩
    obtain ⟨-, since, before, rfl, hsince⟩ := List.find?_eq_some_iff_append.mp hlast
    have hsince : ∀ c ∈ since, c.isUser = false := by
      intro c hc
      simpa using hsince c hc
    exact ⟨since, before, rfl, hsince, by rwa [sinceUser_append hsince] at hpass⟩

/-! ## Runs -/

/-- The value of `is_anonymous` that the commands make, from what it was in the fresh block. -/
def anonymousAfter (freshByte : UInt8) (commands : List FtpCommand) : UInt8 :=
  match lastUser commands with
  | none => freshByte
  | some c => if c = .user (some anonymousUser) then rtTrue else rtFalse

/-- The invariant. -/
structure FtpSession.Inv (freshByte : UInt8) (s : FtpSession) : Prop where
  /-- The law holds. -/
  guarded : s.Guarded
  /-- Where the session is connected, its byte is the one of the last user. -/
  anonymous : s.connected = true → s.isAnonymous = anonymousAfter freshByte s.commands
  /-- And that is one of the two known users. -/
  user : s.connected = true → ∀ c ∈ lastUser s.commands,
    c = .user (some anonymousUser) ∨ c = .user (some ftpUser)

theorem lastUser_user (parameter : Option (List UInt8)) (commands : List FtpCommand) :
    lastUser (.user parameter :: commands) = some (.user parameter) := rfl

/-- A request of another kind leaves the last user. -/
theorem lastUser_cons {c : FtpCommand} (h : c.isUser = false) (commands : List FtpCommand) :
    lastUser (c :: commands) = lastUser commands := by
  simp [lastUser, h]

/-- **What a request does**: it goes past a permission check just when there is one and the byte is not
`RT_TRUE`. -/
theorem passed_iff (isAnonymous : UInt8) (r : FtpRequest) :
    (ftpProcessRequest isAnonymous r).passed = true ↔ r.NeedsLogin ∧ isAnonymous ≠ rtTrue := by
  unfold ftpProcessRequest FtpRequest.NeedsLogin
  cases r.command with
  | user | pass => dsimp only; split_ifs <;> simp
  | stor =>
      dsimp only
      by_cases h : isAnonymous = rtTrue <;> by_cases hcount : r.gPictureCount = selectPictureCount <;>
        simp [h, hcount]
  | mkd | dele | rmd => by_cases h : isAnonymous = rtTrue <;> simp [h]
  | quit | other => simp

/-- It opens a file only behind the check. -/
theorem passed_of_openedFile {isAnonymous : UInt8} {r : FtpRequest}
    (h : (ftpProcessRequest isAnonymous r).openedFile = true) :
    (ftpProcessRequest isAnonymous r).passed = true := by
  unfold ftpProcessRequest at h ⊢
  cases hcommand : r.command <;> rw [hcommand] at h <;> dsimp only at h ⊢
  case stor =>
    split_ifs at h ⊢
    rfl
  case user | pass | mkd | dele | rmd => split_ifs at h
  case quit | other => exact h

/-- **What a request leaves**, while the session stays connected: `USER` of a known user sets the byte,
anything else keeps it. -/
theorem reply_isAnonymous {isAnonymous : UInt8} {r : FtpRequest}
    (h : (ftpProcessRequest isAnonymous r).returned ≠ -1) :
    (r.command = .user (some anonymousUser) ∧ (ftpProcessRequest isAnonymous r).isAnonymous = rtTrue) ∨
      (r.command = .user (some ftpUser) ∧ (ftpProcessRequest isAnonymous r).isAnonymous = rtFalse) ∨
      (r.command.isUser = false ∧ (ftpProcessRequest isAnonymous r).isAnonymous = isAnonymous) := by
  unfold ftpProcessRequest at h ⊢
  cases hcommand : r.command with
  | user parameter =>
      rw [hcommand] at h
      dsimp only at h ⊢
      by_cases hanonymous : parameter = some anonymousUser
      · simp [hanonymous]
      · by_cases huser : parameter = some ftpUser
        · have hne : ftpUser ≠ anonymousUser := by decide
          simp [huser, hne]
        · simp [hanonymous, huser] at h
  | pass => exact .inr (.inr ⟨rfl, by dsimp only; split_ifs <;> rfl⟩)
  | stor | mkd | dele | rmd => exact .inr (.inr ⟨rfl, by dsimp only; split_ifs <;> rfl⟩)
  | quit | other => exact .inr (.inr ⟨rfl, rfl⟩)

theorem loggedIn_cons {c : FtpCommand} (huser : c.isUser = false)
    (hpass : c ≠ .pass (some ftpPassword)) (commands : List FtpCommand) :
    LoggedIn (c :: commands) ↔ LoggedIn commands := by
  rw [loggedIn_iff, loggedIn_iff, lastUser_cons huser]
  simp [sinceUser, huser, hpass.symm]

/-- The byte lets a session go past a check without a login just when the request does harm. -/
theorem FtpSession.Inv.uploadOk_iff {freshByte : UInt8} {s : FtpSession} (hinv : s.Inv freshByte)
    (hconnected : s.connected = true) (r : FtpRequest) :
    UploadOk freshByte s r ↔ (r.NeedsLogin → s.isAnonymous ≠ rtTrue → LoggedIn s.commands) := by
  refine forall_congr' fun _ => ?_
  rw [hinv.anonymous hconnected, loggedIn_iff, anonymousAfter]
  have hne : FtpCommand.user (some ftpUser) ≠ .user (some anonymousUser) := by decide
  have htrue : rtFalse ≠ rtTrue := by decide
  cases hlast : lastUser s.commands with
  | none => simp
  | some c =>
      rcases hinv.user hconnected c hlast with rfl | rfl
      · simp [hne.symm]
      · simp [hne, htrue]

/-- **The law behind a request** holds just when the request does no harm. -/
theorem FtpSession.Inv.guarded_iff {freshByte : UInt8} {s s' : FtpSession} {r : FtpRequest}
    (hinv : s.Inv freshByte) (hstep : s.step r = some s') :
    s'.Guarded ↔ UploadOk freshByte s r := by
  rcases hconnected : s.connected with - | -
  · simp [FtpSession.step, hconnected] at hstep
  · simp only [FtpSession.step, hconnected, if_true] at hstep
    obtain rfl := Option.some.inj hstep
    rw [hinv.uploadOk_iff hconnected, ← and_imp, ← passed_iff]
    -- neither `STOR` nor `MKD`, `DELE`, `RMD` changes who is logged in
    have hlogin : (ftpProcessRequest s.isAnonymous r).passed = true →
        (LoggedIn (r.command :: s.commands) ↔ LoggedIn s.commands) := by
      intro hpassed
      apply loggedIn_cons <;> rcases ((passed_iff _ _).mp hpassed).1 with h | h | h | h <;> rw [h] <;>
        first | rfl | nofun
    constructor
    · intro hguarded hpassed
      rw [← hlogin hpassed]
      by_contra hnot
      exact Bool.noConfusion (hpassed.symm.trans (hguarded.2 hnot))
    · intro h
      refine ⟨fun hopened => ?_, fun hnot => ?_⟩
      · have hpassed := passed_of_openedFile hopened
        exact (hlogin hpassed).mpr (h hpassed)
      · rw [← Bool.not_eq_true]
        exact fun hpassed => hnot ((hlogin hpassed).mpr (h hpassed))

/-- **A request that does no harm keeps the invariant.** -/
theorem FtpSession.Inv.step {freshByte : UInt8} {s s' : FtpSession} {r : FtpRequest}
    (hinv : s.Inv freshByte) (hok : UploadOk freshByte s r) (hstep : s.step r = some s') :
    s'.Inv freshByte := by
  have hguarded := (hinv.guarded_iff hstep).mpr hok
  rcases hconnected : s.connected with - | -
  · simp [FtpSession.step, hconnected] at hstep
  · simp only [FtpSession.step, hconnected, if_true] at hstep
    obtain rfl := Option.some.inj hstep
    have hreply : ((ftpProcessRequest s.isAnonymous r).returned != -1) = true →
        (ftpProcessRequest s.isAnonymous r).isAnonymous =
            anonymousAfter freshByte (r.command :: s.commands) ∧
          ∀ c ∈ lastUser (r.command :: s.commands),
            c = .user (some anonymousUser) ∨ c = .user (some ftpUser) := by
      intro hreturned
      have hne : FtpCommand.user (some ftpUser) ≠ .user (some anonymousUser) := by decide
      rcases reply_isAnonymous (by simpa using hreturned) with ⟨hc, hbyte⟩ | ⟨hc, hbyte⟩ | ⟨hc, hbyte⟩
      · rw [hc, hbyte, anonymousAfter, lastUser_user]
        simp
      · rw [hc, hbyte, anonymousAfter, lastUser_user]
        simp [hne]
      · rw [hbyte, anonymousAfter, lastUser_cons hc]
        exact ⟨hinv.anonymous hconnected, hinv.user hconnected⟩
    exact ⟨hguarded, fun h => (hreply h).1, fun h => (hreply h).2⟩

theorem ftpNewSession_inv (freshByte : UInt8) : (ftpNewSession freshByte).Inv freshByte :=
  ⟨⟨nofun, fun _ => rfl⟩, fun _ => rfl, fun _ => nofun⟩

/-- **When uploads need a login**: in the sessions in which, whenever `STOR`, `MKD`, `DELE` or `RMD` comes,
the last `USER` was not `rtt` or `PASS demo` has come since, or no `USER` has come and the fresh byte is
`RT_TRUE`. -/
theorem ftpUpload_iff (freshByte : UInt8) (requests : List FtpRequest) :
    AllReached FtpSession.step FtpSession.Guarded (ftpNewSession freshByte) requests ↔
      StepsMeet FtpSession.step (UploadOk freshByte) (ftpNewSession freshByte) requests :=
  allReached_iff_stepsMeet (I := FtpSession.Inv freshByte) (fun _ hinv => hinv.guarded)
    (fun _ _ _ hinv hok hstep => hinv.step hok hstep)
    (fun _ _ _ hinv hharm hstep hguarded => hharm ((hinv.guarded_iff hstep).mp hguarded))
    (ftpNewSession_inv freshByte) requests

/-- A `STOR` and nothing before it. -/
def storAtOnce : List FtpRequest := [⟨ascii "STOR a.jpg\r\n", selectPictureCount, .peerClosed⟩]

/-- **In a block that was zero this opens a file.** -/
theorem storAtOnce_not_guarded :
    ¬ AllReached FtpSession.step FtpSession.Guarded (ftpNewSession 0) storAtOnce := by
  intro hall
  have hlogin := (loggedIn_iff _).mp ((hall.2 _ rfl).1 rfl)
  revert hlogin
  decide

end RtuShuiwen
