import RtuShuiwen.Ftp.Request
import RtuShuiwen.Library.HandleTable

/-! # The FTP server

`ftpd_thread_entry` waits for what comes on its sockets: connections, which make a session, and chunks of
bytes or the end of a connection on the control socket of a session. The sessions share the request buffer
and `filename`. A session is numbered when it is made; the order in which the list of sessions holds them
plays no role here.

The server goes on after a bad access to memory; `safe` says that there was none. -/

namespace RtuShuiwen

open ByteLayout HandleTable

/-- Whom a socket was opened for: a session, or somebody else. -/
abbrev FtpOwner := Option (ℕ × SocketRole)

/-- The sockets. -/
abbrev SocketTable := Table ℤ FtpOwner

/-- A session in its time. -/
inductive FtpSessionState
  | free
  | listed (block : FtpBlock)
  | removed

/-- The server: whether `mymalloc` had a block for `buffer`, the global `filename`, the sessions, the
sockets, and whether memory was used well so far. -/
structure FtpServer where
  buffer : Bool
  filename : List UInt8
  sessions : ℕ → FtpSessionState
  sockets : SocketTable
  safe : Bool

/-- What comes: a connection, with what `accept` returns and the stale bytes of the session's block; the
end of one, `recv` returning 0 or -1; and a chunk of a request, with what lies behind it in the buffer and
what the request meets. -/
inductive FtpServerEvent
  | accepted (sid : ℕ) (comSocket : ℤ) (isAnonymous : UInt8) (pasvSockfd : ℤ)
  | disconnected (sid : ℕ)
  | received (sid : ℕ) (chunk : Chunk) (behind : List UInt8) (met : FtpMet)

/-- `FTP_SRV_ROOT`. -/
def ftpSrvRoot : List UInt8 := ascii "/"

/-- `FTP_BUFFER_SIZE`, the length of `buffer` and of `sbuf`. -/
def ftpBufferSize : ℕ := 1024

/-- The length of `filename` and of `currentdir`. -/
def pathSize : ℕ := 256

/-- The memory that an act uses is there: a string fits with its end, and a pointer is not `NULL`. -/
def FtpAct.Ok : FtpAct → Prop
  | .reply text => text.length < ftpBufferSize
  | .fillSbuf numbytes => numbytes ≤ ftpBufferSize
  | .writeFilename text | .writeCurrentdir text => text.length < pathSize
  | .useParameter parameter => parameter ≠ none
  | .useField field => field ≠ none
  | .opened _ _ | .closesocket _ | .freeSbuf => True

instance : DecidablePred FtpAct.Ok := fun act => by
  cases act <;> unfold FtpAct.Ok <;> infer_instance

@[simp] theorem FtpAct.ok_opened (sockfd : ℤ) (role : SocketRole) : (FtpAct.opened sockfd role).Ok := trivial

@[simp] theorem FtpAct.ok_closesocket (sockfd : ℤ) : (FtpAct.closesocket sockfd).Ok := trivial

@[simp] theorem FtpAct.ok_freeSbuf : FtpAct.freeSbuf.Ok := trivial

/-- What an act of a session does to the sockets. -/
def FtpAct.use (sid : ℕ) : FtpAct → Option (Use ℤ FtpOwner)
  | .opened sockfd role => some (.opened sockfd (some (sid, role)))
  | .closesocket sockfd => some (.closed sockfd)
  | .reply _ | .fillSbuf _ | .writeFilename _ | .writeCurrentdir _ | .useParameter _ | .useField _ |
    .freeSbuf => none

/-- What a request of a session does to them. -/
def FtpResult.uses (sid : ℕ) (r : FtpResult) : List (Use ℤ FtpOwner) := r.acts.filterMap (FtpAct.use sid)

/-- What a request meets when nothing fails; a connection from the server gets socket 2. -/
def quietMet : FtpMet where
  sbuf := true
  gPictureCount := 1
  socket := 2
  setsockopt := 0
  bind := 0
  listen := 0
  dataReady := false
  accept := -1
  connect := 0
  connectRemote := 0
  reads := []
  realTime := ⟨0, 0, 0, 0, 1, 1, 0x20⟩
  madeDirectories := true
  opened := .ok
  staleSbuf _ := 0
  turns := []

namespace FtpServer

/-- The call for a chunk: `buffer[numbytes] = 0` ends it. -/
def call (s : FtpServer) (block : FtpBlock) (chunk : Chunk) (behind : List UInt8) (met : FtpMet) :
    FtpCall :=
  ⟨block, s.filename, chunk.bytes ++ 0 :: behind, met⟩

/-- The session is closed with its control socket and removed. -/
def remove (s : FtpServer) (sid : ℕ) (block : FtpBlock) : FtpServer :=
  { s with
    sockets := s.sockets.close block.sockfd
    sessions := Function.update s.sessions sid .removed }

/-- What a request leaves. -/
def answer (s : FtpServer) (sid : ℕ) (sockets : SocketTable) (safe : Bool) (r : FtpResult) : FtpServer :=
  let s := { s with
    filename := r.filename
    sockets
    safe
    sessions := Function.update s.sessions sid (.listed r.block) }
  if r.returned = -1 then s.remove sid r.block else s

/-- One event. Nothing happens that the sockets do not allow, or that is about a session not there. -/
def step (s : FtpServer) : FtpServerEvent → Option FtpServer
  | .accepted sid comSocket isAnonymous pasvSockfd =>
      -- `accept` has failed
      if comSocket = -1 then some s
      else match s.sessions sid with
        | .free => (s.sockets.opened comSocket (some (sid, .control))).map fun sockets =>
            { s with
              sockets
              sessions := Function.update s.sessions sid
                (.listed ⟨isAnonymous, comSocket, pasvSockfd, ftpSrvRoot⟩) }
        | _ => none
  | .disconnected sid =>
      match s.sessions sid with
      | .listed block => some (s.remove sid block)
      | _ => none
  | .received sid chunk behind met =>
      match s.sessions sid with
      | .listed block =>
          let r := (s.call block chunk behind met).ftpProcessRequest
          -- the chunk lies in `buffer` with the zero byte behind it
          let safe := s.safe && decide (s.buffer = true ∧ chunk.bytes.length + 1 ≤ ftpBufferSize ∧
            ∀ act ∈ r.acts, act.Ok)
          (s.sockets.run (r.uses sid)).map fun sockets => s.answer sid sockets safe r
      | _ => none

/-- The server before the first event. `others` are the sockets that are open then: its own, which it
listens on, and those of other tasks. `filename` is a global, so it is empty. -/
def start (buffer : Bool) (others : List ℕ) : FtpServer where
  buffer
  filename := []
  sessions _ := .free
  sockets := ⟨fun sockfd => if ∃ other ∈ others, sockfd = other then some ⟨none, true⟩ else none, false⟩
  safe := true

/-! ## What a step does -/

/-- **The three kinds of step** and what each leaves. -/
theorem step_cases {s s' : FtpServer} {e : FtpServerEvent} (h : s.step e = some s') :
    (∃ sid comSocket isAnonymous pasvSockfd, e = .accepted sid comSocket isAnonymous pasvSockfd ∧
      (comSocket = -1 ∧ s' = s ∨ comSocket ≠ -1 ∧ s.sessions sid = .free ∧ ∃ sockets,
        s.sockets.opened comSocket (some (sid, .control)) = some sockets ∧
        s' = { s with
          sockets
          sessions := Function.update s.sessions sid
            (.listed ⟨isAnonymous, comSocket, pasvSockfd, ftpSrvRoot⟩) })) ∨
    (∃ sid block, e = .disconnected sid ∧ s.sessions sid = .listed block ∧
      s' = s.remove sid block) ∨
    (∃ sid chunk behind met block sockets, e = .received sid chunk behind met ∧
      s.sessions sid = .listed block ∧
      s.sockets.run ((s.call block chunk behind met).ftpProcessRequest.uses sid) = some sockets ∧
      s' = s.answer sid sockets (s.safe && decide (s.buffer = true ∧
        chunk.bytes.length + 1 ≤ ftpBufferSize ∧
        ∀ act ∈ (s.call block chunk behind met).ftpProcessRequest.acts, act.Ok))
        (s.call block chunk behind met).ftpProcessRequest) := by
  cases e with
  | accepted sid comSocket isAnonymous pasvSockfd =>
      refine .inl ⟨sid, comSocket, isAnonymous, pasvSockfd, rfl, ?_⟩
      rw [step] at h
      by_cases hfailed : comSocket = -1
      · rw [if_pos hfailed] at h
        exact .inl ⟨hfailed, (Option.some.inj h).symm⟩
      · rw [if_neg hfailed] at h
        refine .inr ⟨hfailed, ?_⟩
        cases hsession : s.sessions sid with
        | free =>
            rw [hsession] at h
            obtain ⟨sockets, hopened, hs'⟩ := Option.map_eq_some_iff.mp h
            exact ⟨rfl, sockets, hopened, hs'.symm⟩
        | listed block => rw [hsession] at h; cases h
        | removed => rw [hsession] at h; cases h
  | disconnected sid =>
      refine .inr (.inl ?_)
      rw [step] at h
      cases hsession : s.sessions sid with
      | listed block =>
          rw [hsession] at h
          exact ⟨sid, block, rfl, hsession, (Option.some.inj h).symm⟩
      | free => rw [hsession] at h; cases h
      | removed => rw [hsession] at h; cases h
  | received sid chunk behind met =>
      refine .inr (.inr ?_)
      rw [step] at h
      cases hsession : s.sessions sid with
      | listed block =>
          rw [hsession] at h
          obtain ⟨sockets, hrun, hs'⟩ := Option.map_eq_some_iff.mp h
          exact ⟨sid, chunk, behind, met, block, sockets, rfl, hsession, hrun, hs'.symm⟩
      | free => rw [hsession] at h; cases h
      | removed => rw [hsession] at h; cases h

@[simp] theorem answer_filename (s : FtpServer) (sid : ℕ) (sockets : SocketTable) (safe : Bool)
    (r : FtpResult) : (s.answer sid sockets safe r).filename = r.filename := by
  unfold answer
  dsimp only
  split <;> rfl

@[simp] theorem answer_safe (s : FtpServer) (sid : ℕ) (sockets : SocketTable) (safe : Bool)
    (r : FtpResult) : (s.answer sid sockets safe r).safe = safe := by
  unfold answer
  dsimp only
  split <;> rfl

/-- A session that is listed behind a request was listed before, or is the one of the request. -/
theorem listed_of_answer {s : FtpServer} {sid sid' : ℕ} {sockets : SocketTable} {safe : Bool}
    {r : FtpResult} {block : FtpBlock}
    (h : (s.answer sid sockets safe r).sessions sid' = .listed block) :
    sid' = sid ∧ block = r.block ∧ r.returned ≠ -1 ∨ sid' ≠ sid ∧ s.sessions sid' = .listed block := by
  by_cases hsid : sid' = sid
  · subst hsid
    refine .inl ⟨rfl, ?_⟩
    unfold answer at h
    dsimp only at h
    split at h
    · simp [remove] at h
    · next hreturned =>
        simp only [Function.update_self, FtpSessionState.listed.injEq] at h
        exact ⟨h.symm, hreturned⟩
  · refine .inr ⟨hsid, ?_⟩
    unfold answer at h
    dsimp only at h
    split at h <;> simpa [remove, hsid] using h

end FtpServer

end RtuShuiwen
