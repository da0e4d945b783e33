import RtuShuiwen.Ftp.Server

/-! # The sockets of FTP sessions

A session has its control socket, and a data socket that `PORT` and `PASV` open and keep in `pasv_sockfd`;
`PASV` also opens one to listen on. `LIST`, `NLST`, `RETR` and `STOR` close what `pasv_sockfd` names, and
leave it there; `PORT` and `PASV` put another descriptor in its place; who ends the session closes the
control socket only.

* **`serverSocketsClean`**: nothing stays open behind a session and nothing is closed twice, in the runs in
  which a data socket is opened when there is none, is closed when there is one, and is not there any more
  when the session ends. -/

namespace RtuShuiwen

open ByteLayout HandleTable TransitionSystem

/-! ## The condition -/

/-- The session has a data socket. -/
def HasData (t : SocketTable) (sid : ℕ) (block : FtpBlock) : Prop :=
  t.Holds block.pasvSockfd (some (sid, .data))

/-- `pasv_sockfd` names the data socket of the session, or nothing that was ever open, as -1 does. -/
def ClosesOwn (t : SocketTable) (sid : ℕ) (block : FtpBlock) : Prop :=
  HasData t sid block ∨ t.named block.pasvSockfd = none

instance (t : SocketTable) (sid : ℕ) (block : FtpBlock) : Decidable (HasData t sid block) :=
  inferInstanceAs (Decidable (t.Holds _ _))

instance (t : SocketTable) (sid : ℕ) (block : FtpBlock) : Decidable (ClosesOwn t sid block) :=
  inferInstanceAs (Decidable (_ ∨ _))

/-- `PASV` gets as far as to `accept`. -/
def FtpMet.Accepts (met : FtpMet) : Prop :=
  met.socket ≠ -1 ∧ ¬ (met.setsockopt = -1 ∨ met.bind = -1 ∨ met.listen = -1) ∧ met.dataReady = true

instance (met : FtpMet) : Decidable met.Accepts := inferInstanceAs (Decidable (_ ∧ _))

/-- **When a request keeps the sockets clean**, by its command. -/
def RequestKeepsSockets (t : SocketTable) (sid : ℕ) (block : FtpBlock) (request : List UInt8)
    (met : FtpMet) : Prop :=
  match ftpVerb request with
  | .list | .nlst | .retr => ClosesOwn t sid block
  | .stor => block.isAnonymous = rtTrue ∨ ClosesOwn t sid block
  | .port => ¬ HasData t sid block
  | .pasv => met.Accepts → ¬ HasData t sid block
  -- these end the session
  | .user => parameterPtr request = some anonymousUser ∨ parameterPtr request = some ftpUser ∨
      ¬ HasData t sid block
  | .pass => parameterPtr request = some ftpPassword ∨ block.isAnonymous = rtTrue ∨
      ¬ HasData t sid block
  | .quit => ¬ HasData t sid block
  | .pwd | .type | .size | .mdtm | .syst | .cwd | .cdup | .rest | .mkd | .dele | .rmd | .other => True

instance (t : SocketTable) (sid : ℕ) (block : FtpBlock) (request : List UInt8) (met : FtpMet) :
    Decidable (RequestKeepsSockets t sid block request met) := by
  unfold RequestKeepsSockets
  exact match ftpVerb request with
    | .list | .nlst | .retr => inferInstanceAs (Decidable (ClosesOwn t sid block))
    | .user | .pass | .stor => inferInstanceAs (Decidable (_ ∨ _))
    | .pasv => inferInstanceAs (Decidable (_ → _))
    | .port | .quit => inferInstanceAs (Decidable (¬ HasData t sid block))
    | .pwd | .type | .size | .mdtm | .syst | .cwd | .cdup | .rest | .mkd | .dele | .rmd | .other =>
      inferInstanceAs (Decidable True)

/-- **When an event keeps the sockets clean.** -/
def SocketsOk (s : FtpServer) : FtpServerEvent → Prop
  | .accepted _ _ _ _ => True
  | .disconnected sid =>
      match s.sessions sid with
      | .listed block => ¬ HasData s.sockets sid block
      | _ => True
  | .received sid chunk _ met =>
      match s.sessions sid with
      | .listed block =>
          if met.sbuf then RequestKeepsSockets s.sockets sid block (requestText chunk.bytes) met
          else ¬ HasData s.sockets sid block
      | _ => True

instance (s : FtpServer) (e : FtpServerEvent) : Decidable (SocketsOk s e) := by
  cases e <;> unfold SocketsOk <;> dsimp only <;> first | infer_instance | (split <;> infer_instance)

/-- **No socket is left or closed twice.** -/
structure FtpServer.SocketsClean (s : FtpServer) : Prop where
  /-- What was opened for a session that is removed is closed. -/
  closed : ∀ sid, s.sessions sid = .removed →
    ∀ sockfd role, ¬ s.sockets.Holds sockfd (some (sid, role))
  /-- Nothing was closed that was closed before. -/
  once : s.sockets.closedTwice = false

/-! ## What a request does to the sockets -/

/-- The sockets of a session besides its control socket: at most the data socket that its block names. -/
structure Tidy (t : SocketTable) (sid : ℕ) (pasvSockfd : ℤ) : Prop where
  /-- The error answer never names a socket. -/
  failed : t.named (-1) = none
  /-- Only `pasv_sockfd` names a data socket. -/
  data : ∀ sockfd, t.Holds sockfd (some (sid, .data)) → sockfd = pasvSockfd
  /-- Nothing listens. -/
  listener : ∀ sockfd, ¬ t.Holds sockfd (some (sid, .listener))

/-- The sockets that are not data and listening sockets of the session are open as before. -/
structure Framed (sid : ℕ) (t t' : SocketTable) : Prop where
  once : t'.closedTwice = t.closedTwice
  holds : ∀ sockfd owner, owner ≠ some (sid, .data) → owner ≠ some (sid, .listener) →
    (t'.Holds sockfd owner ↔ t.Holds sockfd owner)

/-- What a request of a session leads to. -/
structure Handled (sid : ℕ) (t t' : SocketTable) (r : FtpResult) : Prop where
  framed : Framed sid t t'
  tidy : Tidy t' sid r.block.pasvSockfd
  /-- Where it ends the session, there is no data socket. -/
  ended : r.returned = -1 → ∀ sockfd, ¬ t'.Holds sockfd (some (sid, .data))

variable {t t' : SocketTable} {sid : ℕ} {pasvSockfd : ℤ}

theorem Framed.refl (sid : ℕ) (t : SocketTable) : Framed sid t t := ⟨rfl, fun _ _ _ _ => Iff.rfl⟩

/-- There is no data socket if `pasv_sockfd` does not name it. -/
theorem Tidy.not_holds_data (htidy : Tidy t sid pasvSockfd)
    (hdata : ¬ t.Holds pasvSockfd (some (sid, .data))) (sockfd : ℤ) :
    ¬ t.Holds sockfd (some (sid, .data)) := fun hholds => hdata (htidy.data sockfd hholds ▸ hholds)

/-- Without a data socket `pasv_sockfd` plays no role. -/
theorem Tidy.of_not_data (htidy : Tidy t sid pasvSockfd)
    (hdata : ¬ t.Holds pasvSockfd (some (sid, .data))) (pasvSockfd' : ℤ) : Tidy t sid pasvSockfd' :=
  ⟨htidy.failed, fun sockfd hholds => absurd hholds (htidy.not_holds_data hdata sockfd), htidy.listener⟩

/-- **Closing the data socket**, or nothing. -/
theorem Tidy.close (htidy : Tidy t sid pasvSockfd)
    (hown : t.Holds pasvSockfd (some (sid, .data)) ∨ t.named pasvSockfd = none) :
    Framed sid t (t.close pasvSockfd) ∧ Tidy (t.close pasvSockfd) sid pasvSockfd ∧
      ∀ sockfd, ¬ (t.close pasvSockfd).Holds sockfd (some (sid, .data)) := by
  rcases hown with hdata | hnone
  · -- it is the only data socket, so none is left
    have hholds := Table.holds_close hdata
    have hne : (-1 : ℤ) ≠ pasvSockfd := by
      rintro rfl
      rw [Table.Holds, htidy.failed] at hdata
      cases hdata
    have hclosed : ∀ sockfd, ¬ (t.close pasvSockfd).Holds sockfd (some (sid, .data)) := by
      intro sockfd h
      obtain ⟨hother, hold⟩ := (hholds sockfd _).mp h
      exact hother (htidy.data sockfd hold)
    refine ⟨⟨Table.closedTwice_close hdata, fun sockfd owner hnotData _ => ?_⟩, ⟨?_, ?_, ?_⟩, hclosed⟩
    · rw [hholds]
      refine and_iff_right_of_imp fun hold => ?_
      rintro rfl
      exact hnotData (hold.owner_eq hdata)
    · rw [Table.named_close hne, htidy.failed]
    · exact fun sockfd h => absurd h (hclosed sockfd)
    · exact fun sockfd h => htidy.listener sockfd ((hholds sockfd _).mp h).2
  · rw [Table.close_of_named_eq_none hnone]
    refine ⟨.refl sid t, htidy, htidy.not_holds_data fun hdata => ?_⟩
    rw [Table.Holds, hnone] at hdata
    cases hdata

/-- Closing what could not be opened does nothing. -/
theorem Tidy.close_failed (htidy : Tidy t sid pasvSockfd) : t.close (-1) = t :=
  Table.close_of_named_eq_none htidy.failed

/-- **Opening a data socket** where there is none. -/
theorem Tidy.opened_data (htidy : Tidy t sid pasvSockfd)
    (hdata : ¬ t.Holds pasvSockfd (some (sid, .data))) {sockfd : ℤ} (hne : sockfd ≠ -1)
    (hopened : t.opened sockfd (some (sid, .data)) = some t') :
    Framed sid t t' ∧ Tidy t' sid sockfd := by
  have hholds := Table.holds_of_opened hopened
  refine ⟨⟨Table.closedTwice_of_opened hopened, fun sockfd' owner hnotData _ => ?_⟩, ⟨?_, ?_, ?_⟩⟩
  · rw [hholds]
    refine or_iff_right ?_
    rintro ⟨-, rfl⟩
    exact hnotData rfl
  · rw [Table.named_of_opened hopened (Ne.symm hne), htidy.failed]
  · -- the new one is the only data socket, since there was none before
    intro sockfd' h
    rcases (hholds sockfd' _).mp h with ⟨rfl, -⟩ | hold
    · rfl
    · exact absurd hold (htidy.not_holds_data hdata sockfd')
  · intro sockfd' h
    rcases (hholds sockfd' _).mp h with ⟨-, howner⟩ | hold
    · cases howner
    · exact htidy.listener sockfd' hold

/-- Opening a socket and closing it changes nothing. -/
theorem Tidy.opened_closed (htidy : Tidy t sid pasvSockfd) {sockfd : ℤ} {owner : FtpOwner}
    (hne : sockfd ≠ -1) (hrun : t.run [.opened sockfd owner, .closed sockfd] = some t') :
    Framed sid t t' ∧ Tidy t' sid pasvSockfd ∧
      (t'.Holds pasvSockfd (some (sid, .data)) ↔ t.Holds pasvSockfd (some (sid, .data))) := by
  obtain ⟨honce, hholds, hnamed⟩ := Table.run_opened_closed hrun
  refine ⟨⟨honce, fun sockfd' owner' _ _ => hholds sockfd' owner'⟩, ⟨?_, ?_, ?_⟩, hholds _ _⟩
  · rw [hnamed _ (Ne.symm hne), htidy.failed]
  · exact fun sockfd' h => htidy.data sockfd' ((hholds sockfd' _).mp h)
  · exact fun sockfd' h => htidy.listener sockfd' ((hholds sockfd' _).mp h)

/-- **`PASV` when it succeeds**: the socket it listens on is open while it opens the data socket. -/
theorem Tidy.accepted_data (htidy : Tidy t sid pasvSockfd)
    (hdata : ¬ t.Holds pasvSockfd (some (sid, .data))) {listener sockfd : ℤ} (hlistener : listener ≠ -1)
    (hne : sockfd ≠ -1)
    (hrun : t.run [.opened listener (some (sid, .listener)), .opened sockfd (some (sid, .data)),
      .closed listener] = some t') :
    Framed sid t t' ∧ Tidy t' sid sockfd := by
  obtain ⟨mid, hlistening, hrun⟩ := Table.run_opened_eq_some_iff.mp hrun
  obtain ⟨last, hopened, hclosed⟩ := Table.run_opened_eq_some_iff.mp hrun
  rw [Table.run_closed, Table.run_nil] at hclosed
  obtain rfl := Option.some.inj hclosed
  have hmid := Table.holds_of_opened hlistening
  have hlast := Table.holds_of_opened hopened
  have hheld : last.Holds listener (some (sid, .listener)) :=
    (hlast _ _).mpr (.inr ((hmid _ _).mpr (.inl ⟨rfl, rfl⟩)))
  have hholds := Table.holds_close hheld
  refine ⟨⟨?_, fun sockfd' owner hnotData hnotListener => ?_⟩, ⟨?_, ?_, ?_⟩⟩
  · rw [Table.closedTwice_close hheld, Table.closedTwice_of_opened hopened,
      Table.closedTwice_of_opened hlistening]
  · rw [hholds, hlast, hmid]
    constructor
    · rintro ⟨-, ⟨-, howner⟩ | ⟨-, howner⟩ | hold⟩
      · exact absurd howner hnotData
      · exact absurd howner hnotListener
      · exact hold
    · -- a socket that was open before is not the one that is closed
      intro hold
      refine ⟨?_, .inr (.inr hold)⟩
      rintro rfl
      exact hnotListener (((hlast _ _).mpr (.inr ((hmid _ _).mpr (.inr hold)))).owner_eq hheld)
  · rw [Table.named_close (Ne.symm hlistener), Table.named_of_opened hopened (Ne.symm hne),
      Table.named_of_opened hlistening (Ne.symm hlistener), htidy.failed]
  · intro sockfd' h
    rcases (hlast sockfd' _).mp ((hholds sockfd' _).mp h).2 with ⟨rfl, -⟩ | hold
    · rfl
    · rcases (hmid sockfd' _).mp hold with ⟨-, howner⟩ | hold
      · cases howner
      · exact absurd hold (htidy.not_holds_data hdata sockfd')
  · intro sockfd' h
    obtain ⟨hother, h⟩ := (hholds sockfd' _).mp h
    rcases (hlast sockfd' _).mp h with ⟨-, howner⟩ | hold
    · cases howner
    · rcases (hmid sockfd' _).mp hold with ⟨rfl, -⟩ | hold
      · exact hother rfl
      · exact htidy.listener sockfd' hold

/-! ### The commands -/

/-- A command that uses no socket; where it ends the session, there is no data socket. -/
theorem Handled.of_no_use {r : FtpResult} (htidy : Tidy t sid r.block.pasvSockfd)
    (huses : r.uses sid = []) (hended : r.returned = -1 → ¬ t.Holds r.block.pasvSockfd (some (sid, .data)))
    (hrun : t.run (r.uses sid) = some t') : Handled sid t t' r := by
  rw [huses, Table.run_nil] at hrun
  obtain rfl := Option.some.inj hrun
  exact ⟨.refl sid t, htidy, fun h => htidy.not_holds_data (hended h)⟩

/-- A command that uses no socket and keeps the session. -/
theorem Handled.of_stays {r : FtpResult} (htidy : Tidy t sid r.block.pasvSockfd)
    (huses : r.uses sid = []) (hstays : r.returned ≠ -1) (hrun : t.run (r.uses sid) = some t') :
    Handled sid t t' r :=
  .of_no_use htidy huses (fun hended => absurd hended hstays) hrun

/-- What a command returns that keeps the session is not what ends it. -/
theorem zero_ne_failed : (0 : ℤ) ≠ -1 := by decide

/-- A command that closes what `pasv_sockfd` names. -/
theorem Handled.of_close {r : FtpResult} (htidy : Tidy t sid r.block.pasvSockfd)
    (huses : r.uses sid = [.closed r.block.pasvSockfd])
    (hown : t.Holds r.block.pasvSockfd (some (sid, .data)) ∨ t.named r.block.pasvSockfd = none)
    (hrun : t.run (r.uses sid) = some t') : Handled sid t t' r := by
  rw [huses, Table.run_closed, Table.run_nil] at hrun
  obtain rfl := Option.some.inj hrun
  obtain ⟨hframed, htidy', hclosed⟩ := htidy.close hown
  exact ⟨hframed, htidy', fun _ => hclosed⟩

namespace FtpCall

variable (c : FtpCall)

theorem uses_retr (sid : ℕ) : c.retr.uses sid = [.closed c.block.pasvSockfd] := by
  -- the file is never missing, so the data socket is closed on every way
  have hfilesize : ftpGetFilesize ≠ -1 := by decide
  have hreads : (c.met.reads.map fun r => FtpAct.fillSbuf r.bytes.length).filterMap (FtpAct.use sid) =
      [] := by
    simp [List.filterMap_eq_nil_iff, FtpAct.use]
  rw [retr, if_neg hfilesize]
  simp [FtpResult.uses, done, FtpAct.use, List.filterMap_cons, hreads]

theorem uses_stor (sid : ℕ) : c.stor.uses sid =
    if c.block.isAnonymous = rtTrue then [] else [.closed c.block.pasvSockfd] := by
  have hacts : c.storActs.filterMap (FtpAct.use sid) = [.closed c.block.pasvSockfd] := by
    have hwritten : (c.storCreated.toList.map FtpAct.writeFilename).filterMap (FtpAct.use sid) = [] := by
      simp [List.filterMap_eq_nil_iff, FtpAct.use]
    have hreceived : (c.storReceived.1.received.map fun r =>
        FtpAct.fillSbuf r.1.bytes.length).filterMap (FtpAct.use sid) = [] := by
      simp [List.filterMap_eq_nil_iff, FtpAct.use]
    have hfinished : (if c.storReceived.2 = some .peerClosed then
        [FtpAct.reply (ascii "226 Finished.\r\n")] else []).filterMap (FtpAct.use sid) = [] := by
      split <;> rfl
    rw [storActs]
    simp only [List.filterMap_append, hwritten, hreceived, hfinished]
    rfl
  unfold stor
  split_ifs
  · rfl
  · exact hacts
  · exact hacts
  · exact hacts

theorem pasvSockfd_stor : c.stor.block.pasvSockfd = c.block.pasvSockfd := by
  unfold stor
  split_ifs <;> rfl

theorem uses_pathCommand (sid : ℕ) {reply : List UInt8 → List FtpAct}
    (hreply : ∀ path, ∀ act ∈ reply path, act.use sid = none) : (c.pathCommand reply).uses sid = [] := by
  have hnone := List.filterMap_eq_nil_iff.mpr (hreply c.fullPath)
  unfold pathCommand
  split
  · rfl
  · simp only [FtpResult.uses, done, List.filterMap_append, hnone, List.filterMap_cons, FtpAct.use,
      List.filterMap_nil, List.append_nil]

/-- The fields of `PORT` are no sockets. -/
theorem uses_portFields (sid : ℕ) (rest : List FtpAct) :
    (FtpAct.useParameter c.parameter :: (portFields (c.parameter.getD [])).map .useField ++ rest).filterMap
      (FtpAct.use sid) = rest.filterMap (FtpAct.use sid) := by
  have hfields : ((portFields (c.parameter.getD [])).map FtpAct.useField).filterMap (FtpAct.use sid) =
      [] := by
    simp [List.filterMap_eq_nil_iff, FtpAct.use]
  simp [FtpAct.use, List.filterMap_cons, hfields]

variable {c}

/-- **`PORT`** replaces the data socket, which must not be there. -/
theorem port_handled (htidy : Tidy t sid c.block.pasvSockfd) (hdata : ¬ HasData t sid c.block)
    (hrun : t.run (c.port.uses sid) = some t') : Handled sid t t' c.port := by
  unfold port FtpResult.uses at hrun
  unfold port
  dsimp only at hrun ⊢
  split_ifs at hrun ⊢ with hfailed hconnect
  · -- no socket: what is closed is -1
    simp only [done, uses_portFields, withPasv] at hrun
    simp only [FtpAct.use, cannotOpen, List.filterMap_cons, List.filterMap_nil, hfailed, Table.run_closed,
      Table.run_nil, htidy.close_failed] at hrun
    obtain rfl := Option.some.inj hrun
    exact ⟨.refl sid t, htidy.of_not_data hdata _, fun h => absurd h zero_ne_failed⟩
  · -- no connection: the socket is closed again, and `pasv_sockfd` goes on naming it
    simp only [done, uses_portFields, withPasv] at hrun
    simp only [FtpAct.use, cannotOpen, List.filterMap_cons, List.filterMap_nil] at hrun
    obtain ⟨hframed, htidy', -⟩ := (htidy.of_not_data hdata c.met.socket).opened_closed hfailed hrun
    exact ⟨hframed, htidy', fun h => absurd h zero_ne_failed⟩
  · simp only [done, uses_portFields, withPasv] at hrun
    simp only [FtpAct.use, List.filterMap_cons, List.filterMap_nil] at hrun
    obtain ⟨mid, hopened, hmid⟩ := Table.run_opened_eq_some_iff.mp hrun
    rw [Table.run_nil] at hmid
    obtain rfl := Option.some.inj hmid
    obtain ⟨hframed, htidy'⟩ := htidy.opened_data hdata hfailed hopened
    exact ⟨hframed, htidy', fun h => absurd h zero_ne_failed⟩

/-- At `err1` the session keeps what `pasv_sockfd` names: the bit of the listening socket is only set
behind a failed `accept`, where `pasv_sockfd` is not 0. -/
theorem uses_err1 (c : FtpCall) (sid : ℕ) (acts : List FtpAct) (sockfd : ℤ) {isset : Bool}
    (hisset : isset = false ∨ c.block.pasvSockfd = -1) :
    (c.err1 acts sockfd isset).uses sid = acts.filterMap (FtpAct.use sid) ++ [.closed sockfd] := by
  have hnot : ¬ (isset = true ∧ c.block.pasvSockfd = 0) := by
    rintro ⟨hset, hzero⟩
    rcases hisset with h | h
    · simp [h] at hset
    · simp [h] at hzero
  rw [err1, if_neg hnot]
  simp [FtpResult.uses, done, FtpAct.use]

/-- **`PASV`** replaces it as well, if it gets as far as to `accept`. -/
theorem pasv_handled (htidy : Tidy t sid c.block.pasvSockfd)
    (hdata : c.met.Accepts → ¬ HasData t sid c.block) (hrun : t.run (c.pasv.uses sid) = some t') :
    Handled sid t t' c.pasv := by
  unfold pasv at hrun ⊢
  dsimp only at hrun ⊢
  split_ifs at hrun ⊢ with hsocket hsetup hready haccept
  · rw [uses_err1 c sid _ _ (.inl rfl)] at hrun
    simp only [FtpAct.use, cannotOpen, List.filterMap_cons, List.filterMap_nil, List.nil_append, hsocket,
      Table.run_closed, Table.run_nil, htidy.close_failed] at hrun
    obtain rfl := Option.some.inj hrun
    exact ⟨.refl sid t, htidy, fun h => absurd h zero_ne_failed⟩
  · rw [uses_err1 c sid _ _ (.inl rfl)] at hrun
    obtain ⟨hframed, htidy', -⟩ := htidy.opened_closed hsocket hrun
    exact ⟨hframed, htidy', fun h => absurd h zero_ne_failed⟩
  · -- `accept` has failed: its answer is put over `pasv_sockfd`
    have hnone := hdata ⟨hsocket, hsetup, hready⟩
    rw [uses_err1 (c.withPasv (-1)) sid _ _ (.inr rfl)] at hrun
    obtain ⟨hframed, htidy', -⟩ := (htidy.of_not_data hnone (-1)).opened_closed hsocket hrun
    exact ⟨hframed, htidy', fun h => absurd h zero_ne_failed⟩
  · have hnone := hdata ⟨hsocket, hsetup, hready⟩
    obtain ⟨hframed, htidy'⟩ := htidy.accepted_data hnone hsocket haccept hrun
    exact ⟨hframed, htidy', fun h => absurd h zero_ne_failed⟩
  · -- nobody has connected: only the listening socket came and went
    rw [uses_err1 c sid _ _ (.inl rfl)] at hrun
    obtain ⟨hframed, htidy', -⟩ := htidy.opened_closed hsocket hrun
    exact ⟨hframed, htidy', fun h => absurd h zero_ne_failed⟩

/-- The commands that make a path use no socket. -/
theorem pathCommand_handled (htidy : Tidy t sid c.block.pasvSockfd) {reply : List UInt8 → List FtpAct}
    (hreply : ∀ path, ∀ act ∈ reply path, act.use sid = none)
    (hrun : t.run ((c.pathCommand reply).uses sid) = some t') :
    Handled sid t t' (c.pathCommand reply) := by
  have huses := c.uses_pathCommand sid hreply
  unfold pathCommand at huses hrun ⊢
  split_ifs at huses hrun ⊢
  · exact .of_stays htidy huses zero_ne_failed hrun
  · exact .of_stays htidy huses zero_ne_failed hrun

/-- **What a command does** that keeps the sockets clean. -/
theorem command_handled (htidy : Tidy t sid c.block.pasvSockfd)
    (hok : RequestKeepsSockets t sid c.block c.text c.met)
    (hrun : t.run ((c.command (ftpVerb c.text)).uses sid) = some t') :
    Handled sid t t' (c.command (ftpVerb c.text)) := by
  unfold RequestKeepsSockets at hok
  cases hverb : ftpVerb c.text <;> rw [hverb] at hok hrun <;> dsimp only at hok
  case user =>
    simp only [command, user] at hrun ⊢
    split_ifs at hrun ⊢ with hanonymous hrtt
    · exact .of_stays htidy rfl zero_ne_failed hrun
    · exact .of_stays htidy rfl zero_ne_failed hrun
    · have hdata : ¬ HasData t sid c.block := by
        rcases hok with h | h | h
        · exact absurd h hanonymous
        · exact absurd h hrtt
        · exact h
      exact .of_no_use htidy rfl (fun _ => hdata) hrun
  case pass =>
    simp only [command, pass] at hrun ⊢
    split_ifs at hrun ⊢ with hlogin
    · exact .of_stays htidy rfl zero_ne_failed hrun
    · have hdata : ¬ HasData t sid c.block := by
        rcases hok with h | h | h
        · exact absurd (.inl h) hlogin
        · exact absurd (.inr h) hlogin
        · exact h
      exact .of_no_use htidy rfl (fun _ => hdata) hrun
  case list | nlst => exact .of_close htidy rfl hok hrun
  case retr => exact .of_close htidy (c.uses_retr sid) hok hrun
  case stor =>
    have hblock := c.pasvSockfd_stor
    have huses := c.uses_stor sid
    by_cases hanonymous : c.block.isAnonymous = rtTrue
    · rw [if_pos hanonymous] at huses
      refine .of_no_use (by rw [command, hblock]; exact htidy) huses (fun h => ?_) hrun
      rw [command, stor, if_pos hanonymous] at h
      cases h
    · rw [if_neg hanonymous, ← hblock] at huses
      refine .of_close (by rw [command, hblock]; exact htidy) huses ?_ hrun
      rw [command, hblock]
      exact hok.resolve_left hanonymous
  case pasv => exact pasv_handled htidy hok hrun
  case port => exact port_handled htidy hok hrun
  case quit => exact .of_no_use htidy rfl (fun _ => hok) hrun
  case rest =>
    have huses : (c.command .rest).uses sid = [] := by
      simp only [command, rest]
      split <;> rfl
    exact .of_stays htidy huses zero_ne_failed hrun
  case mkd => exact pathCommand_handled htidy (fun _ act hact => by rw [List.mem_singleton.mp hact]; rfl) hrun
  case dele | rmd => exact pathCommand_handled htidy (fun _ => List.forall_mem_nil _) hrun
  all_goals exact .of_stays htidy rfl zero_ne_failed hrun

/-- The control socket of a session stays. -/
theorem sockfd_command (c : FtpCall) (verb : FtpVerb) :
    (c.command verb).block.sockfd = c.block.sockfd := by
  cases verb
  case user =>
    simp only [command, user]
    split_ifs <;> rfl
  case pass =>
    simp only [command, pass]
    split <;> rfl
  case pasv =>
    simp only [command, pasv]
    split_ifs <;> rfl
  case retr =>
    simp only [command, retr]
    split <;> rfl
  case stor =>
    simp only [command, stor]
    split_ifs <;> rfl
  case port =>
    simp only [command, port]
    split_ifs <;> rfl
  case mkd | dele | rmd =>
    simp only [command, mkd, dele, rmd, pathCommand]
    split <;> rfl
  all_goals rfl

theorem sockfd_ftpProcessRequest (c : FtpCall) :
    c.ftpProcessRequest.block.sockfd = c.block.sockfd := by
  unfold ftpProcessRequest
  split
  · exact sockfd_command _ _
  · rfl

/-- **What a call does** that keeps the sockets clean. -/
theorem ftpProcessRequest_handled (htidy : Tidy t sid c.block.pasvSockfd)
    (hok : if c.met.sbuf then RequestKeepsSockets t sid c.block (requestText c.buf) c.met
      else ¬ HasData t sid c.block)
    (hrun : t.run (c.ftpProcessRequest.uses sid) = some t') :
    Handled sid t t' c.ftpProcessRequest := by
  unfold ftpProcessRequest at hrun ⊢
  split at hok
  · next hsbuf =>
    rw [if_pos hsbuf] at hrun ⊢
    refine command_handled (c := { c with buf := removeLineEnds c.buf }) htidy ?_ hrun
    rwa [text_removeLineEnds]
  · next hsbuf =>
    rw [if_neg hsbuf] at hrun ⊢
    exact .of_no_use htidy rfl (fun _ => hok) hrun

end FtpCall

/-! ## Runs of the server -/

/-- Which descriptor of a session's block is the one of a socket. -/
def FtpBlock.Names (block : FtpBlock) : SocketRole → ℤ → Prop
  | .control, sockfd => sockfd = block.sockfd
  | .data, sockfd => sockfd = block.pasvSockfd
  | .listener, _ => False

/-- The invariant. -/
structure FtpServer.SocketInv (s : FtpServer) : Prop where
  /-- Nothing was closed twice. -/
  once : s.sockets.closedTwice = false
  /-- The error answer never names a socket. -/
  failed : s.sockets.named (-1) = none
  /-- A session that is listed has its control socket. -/
  control : ∀ sid block, s.sessions sid = .listed block →
    s.sockets.Holds block.sockfd (some (sid, .control))
  /-- What is open for a session is named in its block. -/
  owned : ∀ sid sockfd role, s.sockets.Holds sockfd (some (sid, role)) →
    ∃ block, s.sessions sid = .listed block ∧ block.Names role sockfd

namespace FtpServer

/-- With the invariant the sockets are clean. -/
theorem SocketInv.clean {s : FtpServer} (hinv : s.SocketInv) : s.SocketsClean := by
  refine ⟨fun sid hremoved sockfd role hholds => ?_, hinv.once⟩
  obtain ⟨block, hlisted, -⟩ := hinv.owned sid sockfd role hholds
  rw [hremoved] at hlisted
  cases hlisted

theorem SocketInv.tidy {s : FtpServer} (hinv : s.SocketInv) {sid : ℕ} {block : FtpBlock}
    (hlisted : s.sessions sid = .listed block) : Tidy s.sockets sid block.pasvSockfd := by
  refine ⟨hinv.failed, fun sockfd hholds => ?_, fun sockfd hholds => ?_⟩
  · obtain ⟨block', hlisted', hnames⟩ := hinv.owned sid sockfd .data hholds
    rw [hlisted] at hlisted'
    cases hlisted'
    exact hnames
  · obtain ⟨block', -, hnames⟩ := hinv.owned sid sockfd .listener hholds
    exact hnames

/-- **A connection** keeps the invariant. -/
theorem SocketInv.accepted {s : FtpServer} (hinv : s.SocketInv) {sid : ℕ} {comSocket : ℤ}
    {sockets : SocketTable} (hsession : s.sessions sid = .free) (hne : comSocket ≠ -1)
    (hopened : s.sockets.opened comSocket (some (sid, .control)) = some sockets) {block : FtpBlock}
    (hblock : block.sockfd = comSocket) :
    SocketInv { s with sockets, sessions := Function.update s.sessions sid (.listed block) } := by
  have hholds := Table.holds_of_opened hopened
  have hnew : ∀ sockfd role, ¬ s.sockets.Holds sockfd (some (sid, role)) := by
    intro sockfd role h
    obtain ⟨block', hlisted, -⟩ := hinv.owned sid sockfd role h
    rw [hsession] at hlisted
    cases hlisted
  refine ⟨?_, ?_, fun sid' block' h => ?_, fun sid' sockfd role h => ?_⟩
  · rw [Table.closedTwice_of_opened hopened, hinv.once]
  · rw [Table.named_of_opened hopened (Ne.symm hne), hinv.failed]
  · by_cases hsid : sid' = sid
    · subst hsid
      simp only [Function.update_self, FtpSessionState.listed.injEq] at h
      rw [← h, hblock]
      exact (hholds _ _).mpr (.inl ⟨rfl, rfl⟩)
    · simp only [Function.update_of_ne hsid] at h
      exact (hholds _ _).mpr (.inr (hinv.control sid' block' h))
  · -- what is open is the new control socket, or belongs to a session that was listed before
    rcases (hholds _ _).mp h with ⟨rfl, howner⟩ | hold
    · cases howner
      exact ⟨block, by simp, hblock.symm⟩
    · have hsid : sid' ≠ sid := by
        rintro rfl
        exact hnew sockfd role hold
      obtain ⟨block', hlisted, hnames⟩ := hinv.owned sid' sockfd role hold
      exact ⟨block', by simpa [hsid] using hlisted, hnames⟩

/-- **The end of a session** without a data socket keeps it. -/
theorem SocketInv.remove {s : FtpServer} (hinv : s.SocketInv) {sid : ℕ} {block : FtpBlock}
    (hlisted : s.sessions sid = .listed block) (hdata : ¬ HasData s.sockets sid block) :
    (s.remove sid block).SocketInv := by
  have hcontrol := hinv.control sid block hlisted
  have hholds := Table.holds_close hcontrol
  have hne : (-1 : ℤ) ≠ block.sockfd := by
    intro h
    rw [← h, Table.Holds, hinv.failed] at hcontrol
    cases hcontrol
  refine ⟨?_, ?_, fun sid' block' h => ?_, fun sid' sockfd role h => ?_⟩
  · exact (Table.closedTwice_close hcontrol).trans hinv.once
  · exact (Table.named_close hne).trans hinv.failed
  · have hsid : sid' ≠ sid := by
      rintro rfl
      simp [FtpServer.remove] at h
    have hlisted' : s.sessions sid' = .listed block' := by simpa [FtpServer.remove, hsid] using h
    have hold := hinv.control sid' block' hlisted'
    refine (hholds _ _).mpr ⟨fun hsame => hsid ?_, hold⟩
    rw [hsame] at hold
    simpa using hold.owner_eq hcontrol
  · obtain ⟨hother, hold⟩ := (hholds _ _).mp h
    obtain ⟨block', hlisted', hnames⟩ := hinv.owned sid' sockfd role hold
    -- of the session itself nothing is left: its control socket was closed, data socket it had none
    have hsid : sid' ≠ sid := by
      rintro rfl
      rw [hlisted] at hlisted'
      cases hlisted'
      cases role with
      | control => exact hother hnames
      | listener => exact hnames
      | data =>
          obtain rfl : sockfd = block.pasvSockfd := hnames
          exact hdata hold
    exact ⟨block', by simpa [FtpServer.remove, hsid] using hlisted', hnames⟩

/-- **A request** that keeps the sockets clean keeps it. -/
theorem SocketInv.handled {s : FtpServer} (hinv : s.SocketInv) {sid : ℕ} {block : FtpBlock}
    {sockets : SocketTable} {r : FtpResult} (hlisted : s.sessions sid = .listed block)
    (hsockfd : r.block.sockfd = block.sockfd) (hhandled : Handled sid s.sockets sockets r)
    (filename : List UInt8) (safe : Bool) :
    SocketInv { s with
      filename, sockets, safe
      sessions := Function.update s.sessions sid (.listed r.block) } := by
  obtain ⟨hframed, htidy, -⟩ := hhandled
  refine ⟨hframed.once.trans hinv.once, htidy.failed, fun sid' block' h => ?_,
    fun sid' sockfd role h => ?_⟩
  · have hcontrol : ∀ sockfd, sockets.Holds sockfd (some (sid', .control)) ↔
        s.sockets.Holds sockfd (some (sid', .control)) := fun sockfd =>
      hframed.holds sockfd _ (by simp) (by simp)
    by_cases hsid : sid' = sid
    · subst hsid
      simp only [Function.update_self, FtpSessionState.listed.injEq] at h
      rw [← h, hsockfd]
      exact (hcontrol _).mpr (hinv.control sid' block hlisted)
    · simp only [Function.update_of_ne hsid] at h
      exact (hcontrol _).mpr (hinv.control sid' block' h)
  · by_cases hsid : sid' = sid
    · subst hsid
      refine ⟨r.block, by simp, ?_⟩
      cases role with
      | control =>
          have hold := (hframed.holds sockfd _ (by simp) (by simp)).mp h
          obtain ⟨block', hlisted', hnames⟩ := hinv.owned sid' sockfd .control hold
          rw [hlisted] at hlisted'
          cases hlisted'
          exact hnames.trans hsockfd.symm
      | data => exact htidy.data sockfd h
      | listener => exact htidy.listener sockfd h
    · have hold := (hframed.holds sockfd _ (by simp [hsid]) (by simp [hsid])).mp h
      obtain ⟨block', hlisted', hnames⟩ := hinv.owned sid' sockfd role hold
      exact ⟨block', by simpa [hsid] using hlisted', hnames⟩

/-- **What an event does** that keeps the sockets clean. -/
theorem SocketInv.step {s s' : FtpServer} {e : FtpServerEvent} (hinv : s.SocketInv)
    (hok : SocketsOk s e) (hstep : s.step e = some s') : s'.SocketInv := by
  rcases step_cases hstep with ⟨sid, comSocket, isAnonymous, pasvSockfd, rfl, haccepted⟩ |
    ⟨sid, block, rfl, hlisted, rfl⟩ | ⟨sid, chunk, behind, met, block, sockets, rfl, hlisted, hrun, rfl⟩
  · rcases haccepted with ⟨-, rfl⟩ | ⟨hne, hsession, sockets, hopened, rfl⟩
    · exact hinv
    · exact hinv.accepted hsession hne hopened rfl
  · simp only [SocketsOk, hlisted] at hok
    exact hinv.remove hlisted hok
  · simp only [SocketsOk, hlisted] at hok
    have htext : requestText (s.call block chunk behind met).buf = requestText chunk.bytes :=
      requestText_append chunk.bytes behind
    have hhandled : Handled sid s.sockets sockets (s.call block chunk behind met).ftpProcessRequest :=
      FtpCall.ftpProcessRequest_handled (hinv.tidy hlisted) (by rwa [htext]) hrun
    have hsockfd := (s.call block chunk behind met).sockfd_ftpProcessRequest
    unfold answer
    dsimp only
    split
    · -- the request has ended the session, which is removed from the state that it left
      next hreturned =>
      have hlisted' := hinv.handled hlisted hsockfd hhandled
      exact (hlisted' _ _).remove (by simp) fun hdata => hhandled.ended hreturned _ hdata
    · exact hinv.handled hlisted hsockfd hhandled _ _

theorem start_socketInv (buffer : Bool) (others : List ℕ) : (start buffer others).SocketInv := by
  refine ⟨rfl, ?_, fun _ _ h => FtpSessionState.noConfusion h, fun sid sockfd role h => ?_⟩
  · refine if_neg ?_
    rintro ⟨other, -, h⟩
    omega
  · unfold start Table.Holds at h
    dsimp only at h
    split at h
    · simp at h
    · cases h

end FtpServer

/-- **When no socket is left behind and none closed twice**: in the runs in which `PORT` and a `PASV` that
gets as far as to `accept` find no data socket, `LIST`, `NLST`, `RETR` and `STOR` find one or a descriptor
that never named any, and every session ends without one. -/
theorem serverSocketsClean (buffer : Bool) (others : List ℕ) (events : List FtpServerEvent)
    (hmeet : StepsMeet FtpServer.step SocketsOk (.start buffer others) events) :
    AllReached FtpServer.step FtpServer.SocketsClean (.start buffer others) events := by
  have hrun : AllReached FtpServer.step FtpServer.SocketInv (.start buffer others) events :=
    allReached_of_stepsMeet (fun _ _ _ hinv hok hstep => hinv.step hok hstep)
      (FtpServer.start_socketInv buffer others) hmeet
  exact hrun.mono fun _ hinv => hinv.clean

/-- A client that connects, has a data socket opened, takes a listing over it and leaves. -/
def portListQuit : List FtpServerEvent :=
  [.accepted 0 1 0 (-1),
    .received 0 ⟨ascii "PORT 192,168,1,64,4,1\r\n", by decide, by decide⟩ [] quietMet,
    .received 0 ⟨ascii "LIST\r\n", by decide, by decide⟩ [] quietMet,
    .received 0 ⟨ascii "QUIT\r\n", by decide, by decide⟩ [] quietMet]

/-- Such a run is one of them. -/
theorem portListQuit_socketsClean :
    AllReached FtpServer.step FtpServer.SocketsClean (.start true [0]) portListQuit :=
  serverSocketsClean true [0] portListQuit (by decide)

/-- The same client without the listing. -/
def portAndQuit : List FtpServerEvent :=
  [.accepted 0 1 0 (-1),
    .received 0 ⟨ascii "PORT 192,168,1,64,4,1\r\n", by decide, by decide⟩ [] quietMet,
    .received 0 ⟨ascii "QUIT\r\n", by decide, by decide⟩ [] quietMet]

/-- **Its data socket stays open.** -/
theorem portAndQuit_not_socketsClean :
    ¬ AllReached FtpServer.step FtpServer.SocketsClean (.start true [0]) portAndQuit := by
  intro hall
  have hclosed := (((hall.2 _ rfl).2 _ rfl).2 _ rfl).closed 0 rfl 2 .data
  revert hclosed
  decide

end RtuShuiwen
