import RtuShuiwen.Lwip.TcpReceive

/-! # The byte stream of a connection

What arrives and what the reader gets. `stream_exact_iff` says when the application gets every byte that was
acknowledged, `full_mailbox_stuck` what becomes of a connection whose mailbox is full, and `large_pieces_exact`
that the window of TCP keeps the mailbox from filling when no piece of data is small. -/

namespace RtuShuiwen

open TransitionSystem

/-! ## What a connection holds -/

namespace TcpConn

/-- The bytes in the messages of the mailbox. -/
def waiting (c : TcpConn) : List UInt8 := c.recvmbox.messages.flatMap payloadOf

/-- The bytes that were given to the callback and not to the application. -/
def unread (c : TcpConn) : List UInt8 := c.sock.inHand ++ c.waiting

/-- All the bytes that were given to the callback. -/
def stream (c : TcpConn) : List UInt8 := c.sock.delivered ++ c.unread

/-- The messages that the reader has not looked at. -/
def unseen (c : TcpConn) : List (Option Pbuf) := c.sock.pc.msgs ++ c.recvmbox.messages

/-- What holds in every state: `refused_data` is never used, and the reader waits only where it may. -/
structure Ok (c : TcpConn) : Prop where
  refusedData : c.refusedData = none
  mailbox : c.recvmbox.Ok
  reader : c.recvmbox.reader ≠ .away → c.sock.pc.fetches = true
  sock : c.sock.Ok
  lastErr : c.lastErr ≠ .conn

variable {c : TcpConn}

/-- A new connection. -/
theorem ok_new : TcpConn.new.Ok := ⟨rfl, Mailbox.ok_new, fun h => absurd rfl h, ⟨nofun, fun _ => rfl⟩, nofun⟩

/-- The only error of a connection is that the peer has closed it. -/
theorem Ok.lastErr_clsd (h : c.Ok) (hne : c.lastErr ≠ .ok) : c.lastErr = .clsd := by
  have hconn := h.lastErr
  cases herr : c.lastErr with
  | clsd => rfl
  | ok => exact absurd herr hne
  | conn => exact absurd herr hconn

/-- Elsewhere nobody waits. -/
theorem Ok.away (h : c.Ok) (hpc : c.sock.pc.fetches = false) : c.recvmbox.reader = .away := by
  by_contra hreader
  exact Bool.noConfusion ((h.reader hreader).symm.trans hpc)

/-! ## What the reader does -/

/-- A step of the reader. It takes the messages in their order, and does not change what the stack knows; the last
parts say when `lwip_recv` may have returned 0 and -1, and that a full mailbox is left alone. -/
structure ReaderMoves (c c' : TcpConn) : Prop where
  ok : c'.Ok
  closeWait : c'.closeWait = c.closeWait
  acked : c'.acked = c.acked
  delivered : c.sock.delivered <+: c'.sock.delivered
  stream : c'.stream = c.stream
  looked : (c'.lastErr = c.lastErr ∧ (c'.unseen = c.unseen ∨ ∃ p, c.unseen = some p :: c'.unseen)) ∨
    (c'.lastErr = .clsd ∧ c.unseen = none :: c'.unseen)
  window : c'.rcvWnd + c'.unread.length ≤ c.rcvWnd + c.unread.length ∨ c.unseen = none :: c'.unseen
  closed : .closed ∈ c'.sock.results → .closed ∈ c.sock.results ∨ (c'.lastErr = .clsd ∧ c'.sock.inHand = [])
  error : .error ∈ c'.sock.results → .error ∈ c.sock.results ∨ c.recvmbox.valid = false
  full : c.recvmbox.valid = false → c.sock.pc.fetches = false →
    c'.recvmbox = c.recvmbox ∧ c'.sock.pc.fetches = false

/-- Work without the mailbox. -/
theorem Ok.moves_of_works (h : c.Ok) (haway : c.recvmbox.reader = .away) (hmsgs : c.sock.pc.msgs = [])
    {s : SockReader} {eof err : Prop} (hworks : c.sock.Works s c.sock.inHand eof err)
    (heof : eof → c.lastErr = .clsd) (herr : err → c.recvmbox.valid = false) :
    c.ReaderMoves { c with sock := s } := by
  have hunread : { c with sock := s }.unread = c.unread := by
    rw [unread, unread, hworks.inHand]
    rfl
  have hmsgs' := RecvPc.msgs_of_atMailbox hworks.away
  refine ⟨⟨h.refusedData, h.mailbox, fun hreader => absurd haway hreader, hworks.ok, h.lastErr⟩, rfl, rfl, ?_, ?_,
    Or.inl ⟨rfl, Or.inl ?_⟩, ?_, fun hmem => (hworks.closed hmem).imp_right fun hclosed => ?_,
    fun hmem => (hworks.error hmem).imp_right herr, fun _ _ => ⟨rfl, RecvPc.fetches_of_atMailbox hworks.away⟩⟩
  · exact hworks.delivered ▸ List.prefix_rfl
  · rw [stream, stream, hunread]
    exact congrArg (· ++ c.unread) hworks.delivered
  · rw [unseen, unseen, hmsgs]
    exact congrArg (· ++ c.recvmbox.messages) hmsgs'
  · exact Or.inl (hunread ▸ Nat.le_refl _)
  · exact ⟨heof hclosed.1, hworks.inHand.trans hclosed.2⟩

/-- The application calls `lwip_recv`. -/
theorem Ok.moves_recv (h : c.Ok) (hpc : c.sock.pc = .idle) (len : ℕ) :
    c.ReaderMoves { c with sock := c.sock.recv c.rcvevent len } := by
  have haway : c.recvmbox.reader = .away := h.away (by rw [hpc]; rfl)
  exact h.moves_of_works haway (by rw [hpc]; rfl) (h.sock.works_recv hpc c.rcvevent len) False.elim False.elim

/-- The tests at the beginning of `netconn_recv_data`. -/
theorem Ok.moves_check (h : c.Ok) {len : ℕ} {mem : List UInt8} (hpc : c.sock.pc = .top len mem) :
    c.ReaderMoves (c.check len mem) := by
  have haway : c.recvmbox.reader = .away := h.away (by rw [hpc]; rfl)
  have hlast : c.sock.lastdata = none := h.sock.needsData (by rw [hpc]; rfl)
  have hfail : ∀ err, c.sock.Works (c.sock.fail err mem) c.sock.inHand (err = .clsd) (err ≠ .clsd) := by
    intro err
    rw [SockReader.inHand, hpc, SockReader.rest_of_none hlast, List.append_nil]
    exact SockReader.works_fail hlast (h.sock.start hlast) err mem
  have hmsgs : c.sock.pc.msgs = [] := by rw [hpc]; rfl
  rw [check]
  split
  · -- the mailbox is full, and `lwip_recv` fails
    next hfull =>
      have hfull : c.recvmbox.valid = false := by simpa using hfull
      exact h.moves_of_works haway hmsgs (hfail .conn) (fun herr => by cases herr) fun _ => hfull
  · next hvalid =>
    split
    · next herr =>
        have hclsd := h.lastErr_clsd herr
        exact h.moves_of_works haway hmsgs (hfail c.lastErr) (fun _ => hclsd) fun hne => absurd hclsd hne
    · have hhand' : ({ c.sock with pc := .fetching len mem } : SockReader).inHand = c.sock.inHand := by
        rw [SockReader.inHand, SockReader.inHand, hpc]
        rfl
      have hunread : ({ c with sock := { c.sock with pc := .fetching len mem } } : TcpConn).unread = c.unread := by
        rw [unread, unread, hhand']
        rfl
      refine ⟨⟨h.refusedData, h.mailbox, fun hreader => absurd haway hreader, ⟨fun _ => hlast, h.sock.start⟩,
        h.lastErr⟩, rfl, rfl, List.prefix_rfl, ?_, Or.inl ⟨rfl, Or.inl ?_⟩, Or.inl (hunread ▸ Nat.le_refl _),
        Or.inl, Or.inl, fun hfull => ?_⟩
      · rw [stream, stream, hunread]
        rfl
      · rw [unseen, unseen, hmsgs]
        rfl
      · rw [hfull] at hvalid
        exact absurd rfl hvalid

/-- Something was taken from the mailbox. -/
theorem Ok.moves_taken (h : c.Ok) {len : ℕ} {mem : List UInt8} (hpc : c.sock.pc = .fetching len mem)
    {buf : Option Pbuf} {recvmbox : Mailbox Pbuf} (hmessages : c.recvmbox.messages = buf :: recvmbox.messages)
    (hok : recvmbox.Ok) (haway : recvmbox.reader = .away) :
    c.ReaderMoves { c with recvmbox := recvmbox, sock := { c.sock with pc := .taken buf len mem } } := by
  have hlast : c.sock.lastdata = none := h.sock.needsData (by rw [hpc]; rfl)
  have hunread : ({ c with
      recvmbox := recvmbox, sock := { c.sock with pc := .taken buf len mem } } : TcpConn).unread = c.unread := by
    rw [unread, unread, SockReader.inHand, SockReader.inHand, waiting, waiting, hmessages, List.flatMap_cons,
      SockReader.rest_of_none hlast, hpc]
    simp only [RecvPc.bytes, SockReader.rest, hlast, List.append_nil, List.append_assoc]
  refine ⟨⟨h.refusedData, hok, fun hreader => absurd haway hreader, ⟨fun _ => hlast, h.sock.start⟩, h.lastErr⟩, rfl,
    rfl, List.prefix_rfl, ?_, Or.inl ⟨rfl, Or.inl ?_⟩, Or.inl (hunread ▸ Nat.le_refl _), Or.inl, Or.inl,
    fun _ hout => ?_⟩
  · rw [stream, stream, hunread]
    rfl
  · rw [unseen, unseen, hmessages, hpc]
    rfl
  · rw [hpc] at hout
    exact Bool.noConfusion hout

/-- The mailbox was empty, and the reader waits. -/
theorem Ok.moves_waits (h : c.Ok) {len : ℕ} {mem : List UInt8} (hpc : c.sock.pc = .fetching len mem)
    {recvmbox : Mailbox Pbuf} (hmessages : c.recvmbox.messages = []) (hmessages' : recvmbox.messages = [])
    (hok : recvmbox.Ok) : c.ReaderMoves { c with recvmbox := recvmbox } := by
  have hwaiting : ({ c with recvmbox := recvmbox } : TcpConn).waiting = c.waiting := by
    rw [waiting, waiting, hmessages]
    exact congrArg (List.flatMap payloadOf) hmessages'
  have hunread : ({ c with recvmbox := recvmbox } : TcpConn).unread = c.unread := by rw [unread, unread, hwaiting]
  refine ⟨⟨h.refusedData, hok, fun _ => by rw [hpc]; rfl, h.sock, h.lastErr⟩, rfl, rfl, List.prefix_rfl, ?_,
    Or.inl ⟨rfl, Or.inl ?_⟩, Or.inl (hunread ▸ Nat.le_refl _), Or.inl, Or.inl, fun _ hout => ?_⟩
  · rw [stream, stream, hunread]
  · rw [unseen, unseen, hmessages]
    exact congrArg (c.sock.pc.msgs ++ ·) hmessages'
  · rw [hpc] at hout
    exact Bool.noConfusion hout

/-- The reader looks at what it took. -/
theorem Ok.moves_took (h : c.Ok) {buf : Option Pbuf} {len : ℕ} {mem : List UInt8}
    (hpc : c.sock.pc = .taken buf len mem) : c.ReaderMoves (c.took buf len mem) := by
  have haway : c.recvmbox.reader = .away := h.away (by rw [hpc]; rfl)
  have hlast : c.sock.lastdata = none := h.sock.needsData (by rw [hpc]; rfl)
  have hstart := h.sock.start hlast
  have hhand : c.sock.inHand = mem ++ payloadOf buf := by
    rw [SockReader.inHand, hpc, SockReader.rest_of_none hlast, List.append_nil]
    rfl
  have hunseen : c.unseen = buf :: c.recvmbox.messages := by
    rw [unseen, hpc]
    rfl
  cases buf with
  | some p =>
      have hworks := SockReader.works_copy { c.sock with lastdata := some p } (c.rcvevent - 1) p len mem False False
      have hmoved : (c.took (some p) len mem).sock.inHand = c.sock.inHand := by
        rw [hhand]
        refine hworks.inHand.trans ?_
        rw [hstart, List.drop_zero]
        rfl
      have hmsgs := RecvPc.msgs_of_atMailbox hworks.away
      have hunread : (c.took (some p) len mem).unread = c.unread := by
        rw [unread, unread, hmoved]
        rfl
      refine ⟨⟨h.refusedData, h.mailbox, fun hreader => absurd haway hreader, hworks.ok, h.lastErr⟩, rfl, rfl,
        ?_, ?_, Or.inl ⟨rfl, Or.inr ⟨p, ?_⟩⟩, Or.inl (hunread ▸ Nat.le_refl _), fun hmem => ?_, fun hmem => ?_,
        fun _ _ => ⟨rfl, RecvPc.fetches_of_atMailbox hworks.away⟩⟩
      · exact (hworks.delivered : (c.took (some p) len mem).sock.delivered = _) ▸ List.prefix_rfl
      · rw [stream, stream, hunread]
        exact congrArg (· ++ c.unread) hworks.delivered
      · rw [hunseen, unseen]
        exact congrArg (fun msgs => some p :: (msgs ++ c.recvmbox.messages)) hmsgs.symm
      · exact Or.inl ((hworks.closed hmem).resolve_right fun h => h.1)
      · exact Or.inl ((hworks.error hmem).resolve_right id)
  | none =>
      have hworks := SockReader.works_fail hlast hstart .clsd mem
      have hclsd : (c.took none len mem).lastErr = .clsd := by
        change (if c.lastErr = .ok then NetErr.clsd else c.lastErr) = .clsd
        split
        · rfl
        · next hne => exact h.lastErr_clsd hne
      have hmoved : (c.took none len mem).sock.inHand = c.sock.inHand := by
        rw [hhand]
        exact hworks.inHand.trans (List.append_nil _).symm
      have hmsgs := RecvPc.msgs_of_atMailbox hworks.away
      have hunread : (c.took none len mem).unread = c.unread := by
        rw [unread, unread, hmoved]
        rfl
      have hlooked : c.unseen = none :: (c.took none len mem).unseen := by
        rw [hunseen, unseen]
        exact congrArg (fun msgs => none :: (msgs ++ c.recvmbox.messages)) hmsgs.symm
      refine ⟨⟨h.refusedData, h.mailbox, fun hreader => absurd haway hreader, hworks.ok, ?_⟩, rfl, rfl,
        ?_, ?_, Or.inr ⟨hclsd, hlooked⟩, Or.inr hlooked, fun hmem => ?_, fun hmem => ?_,
        fun _ _ => ⟨rfl, RecvPc.fetches_of_atMailbox hworks.away⟩⟩
      · rw [hclsd]
        exact fun h => by cases h
      · exact (hworks.delivered : (c.took none len mem).sock.delivered = _) ▸ List.prefix_rfl
      · rw [stream, stream, hunread]
        exact congrArg (· ++ c.unread) hworks.delivered
      · exact (hworks.closed hmem).imp_right fun hclosed => ⟨hclsd, hworks.inHand.trans hclosed.2⟩
      · exact Or.inl ((hworks.error hmem).resolve_right fun hne => hne rfl)

/-- `netconn_recved` is done, and `lwip_recv` returns. -/
theorem Ok.moves_recved (h : c.Ok) {mem : List UInt8} (hpc : c.sock.pc = .recved mem) :
    c.ReaderMoves { tcpRecved mem.length c with sock := c.sock.returns (.bytes mem) } := by
  have haway : c.recvmbox.reader = .away := h.away (by rw [hpc]; rfl)
  have hdelivered : (c.sock.returns (.bytes mem)).delivered = c.sock.delivered ++ mem :=
    SockReader.delivered_append _ _
  have hunread : c.unread =
      mem ++ ({ tcpRecved mem.length c with sock := c.sock.returns (.bytes mem) } : TcpConn).unread := by
    rw [unread, unread, SockReader.inHand, SockReader.inHand, hpc, List.append_assoc]
    rfl
  have hsock : (c.sock.returns (.bytes mem)).Ok := ⟨(fun h => by cases h), h.sock.start⟩
  refine ⟨⟨h.refusedData, h.mailbox, fun hreader => absurd haway hreader, hsock, h.lastErr⟩, rfl, rfl,
    ⟨mem, hdelivered.symm⟩, ?_, Or.inl ⟨rfl, Or.inl ?_⟩, Or.inl ?_, fun hmem => ?_, fun hmem => ?_,
    fun _ _ => ⟨rfl, rfl⟩⟩
  · rw [stream, stream, hunread, ← List.append_assoc]
    exact congrArg (· ++ _) hdelivered
  · rw [unseen, unseen, hpc]
    rfl
  · -- the window opens by what the application got, and these bytes are unread no more
    have hwnd : (tcpRecved mem.length c).rcvWnd ≤ c.rcvWnd + mem.length := by
      change (if c.rcvWnd + mem.length > tcpWnd then tcpWnd else c.rcvWnd + mem.length) ≤ _
      split <;> omega
    rw [hunread, List.length_append]
    change (tcpRecved mem.length c).rcvWnd + _ ≤ _
    omega
  · exact Or.inl ((List.mem_append.mp hmem).resolve_right (by simp))
  · exact Or.inl ((List.mem_append.mp hmem).resolve_right (by simp))

end TcpConn

/-- An event that is not one of the stack. -/
def TcpEvent.ofReader : TcpEvent → Bool
  | .arrive .. | .fasttmr => false
  | .recv _ | .check | .fetch | .wake | .took | .recved => true

namespace TcpConn

variable {c : TcpConn}

/-- **Every step of the reader.** -/
theorem Ok.moves (h : c.Ok) {e : TcpEvent} (he : e.ofReader = true) {c' : TcpConn} (hstep : c.step e = some c') :
    c.ReaderMoves c' := by
  cases e with
  | arrive | fasttmr => exact absurd he Bool.false_ne_true
  | recv len =>
      rw [step] at hstep
      split at hstep
      · next hpc =>
          obtain rfl := Option.some.inj hstep
          exact h.moves_recv hpc len
      · cases hstep
  | check =>
      rw [step] at hstep
      split at hstep
      · next hpc =>
          obtain rfl := Option.some.inj hstep
          exact h.moves_check hpc
      · cases hstep
  | fetch =>
      rw [step] at hstep
      split at hstep
      · next hpc haway =>
          split at hstep
          · next buf recvmbox hfetch =>
              obtain rfl := Option.some.inj hstep
              obtain ⟨hmessages, hok, haway'⟩ := h.mailbox.fetch_some haway (by rw [hfetch])
              rw [hfetch] at hmessages hok haway'
              exact h.moves_taken hpc hmessages hok haway'
          · next recvmbox hfetch =>
              obtain rfl := Option.some.inj hstep
              obtain ⟨hmessages, hmessages', hok⟩ := Mailbox.fetch_none haway (by rw [hfetch])
              rw [hfetch] at hmessages' hok
              exact h.moves_waits hpc hmessages hmessages' hok
      · cases hstep
  | wake =>
      rw [step] at hstep
      split at hstep
      · next hpc hwake =>
          obtain rfl := Option.some.inj hstep
          obtain ⟨hmessages, hok, haway⟩ := h.mailbox.wake hwake
          exact h.moves_taken hpc hmessages hok haway
      · cases hstep
  | took =>
      rw [step] at hstep
      split at hstep
      · next hpc =>
          obtain rfl := Option.some.inj hstep
          exact h.moves_took hpc
      · cases hstep
  | recved =>
      rw [step] at hstep
      split at hstep
      · next hpc =>
          obtain rfl := Option.some.inj hstep
          exact h.moves_recved hpc
      · cases hstep

/-! ## What arrives -/

/-- What a segment brings to the callback. -/
def takes (c : TcpConn) (payload : List UInt8) (push fin : Bool) : List (Option Pbuf) :=
  (if c.accepts payload = [] then [] else [some ⟨c.accepts payload, push⟩]) ++
    (if c.acceptsFin payload fin then [none] else [])

/-- `recv_tcp` answers `ERR_OK` in any case, and posts the message if there is room. -/
theorem recvTcp_eq (hok : c.recvmbox.Ok) (msg : Option Pbuf) : ∃ rcvWnd rcvevent,
    recvTcp msg c = (true, { c with
      rcvWnd := rcvWnd, recvmbox := (c.recvmbox.trypost msg).2, rcvevent := rcvevent }) ∧
    (c.recvmbox.valid = true ∨ msg = none → rcvWnd = c.rcvWnd) := by
  unfold recvTcp
  cases hvalid : c.recvmbox.valid with
  | true =>
      have hposted := (hok.trypost hvalid msg).1
      refine ⟨c.rcvWnd, c.rcvevent + 1, ?_, fun _ => rfl⟩
      simp [hposted]
  | false =>
      rw [hok.trypost_full hvalid]
      cases msg with
      | some p => exact ⟨_, c.rcvevent, rfl, fun h => h.elim (fun h => absurd h Bool.false_ne_true) nofun⟩
      | none => exact ⟨c.rcvWnd, c.rcvevent, rfl, fun _ => rfl⟩

/-- So no data is refused. -/
theorem tcpEventRecv_eq (hok : c.recvmbox.Ok) (p : Pbuf) : ∃ rcvWnd rcvevent,
    tcpEventRecv p c = { c with
      rcvWnd := rcvWnd, recvmbox := c.recvmbox.posts [some p], rcvevent := rcvevent } ∧
    (c.recvmbox.valid = true → rcvWnd = c.rcvWnd) := by
  obtain ⟨rcvWnd, rcvevent, heq, hwnd⟩ := recvTcp_eq hok (some p)
  refine ⟨rcvWnd, rcvevent, ?_, fun hvalid => hwnd (Or.inl hvalid)⟩
  rw [tcpEventRecv, heq]
  rfl

/-- The callback for a `FIN`. -/
theorem tcpEventClosed_eq (hok : c.recvmbox.Ok) : ∃ rcvWnd rcvevent,
    tcpEventClosed c = { c with
      rcvWnd := rcvWnd, recvmbox := c.recvmbox.posts [none], rcvevent := rcvevent } ∧ rcvWnd ≤ c.rcvWnd + 1 := by
  obtain ⟨rcvWnd, rcvevent, heq, hwnd⟩ :=
    recvTcp_eq (c := { c with rcvWnd := if c.rcvWnd ≠ tcpWnd then c.rcvWnd + 1 else c.rcvWnd }) hok none
  refine ⟨rcvWnd, rcvevent, ?_, ?_⟩
  · rw [tcpEventClosed, heq]
    rfl
  · rw [hwnd (Or.inr rfl)]
    dsimp only
    split <;> omega

/-- `tcp_receive` takes no more than the window. -/
theorem length_accepts (c : TcpConn) (payload : List UInt8) (fin : Bool) :
    (c.accepts payload).length + (if c.acceptsFin payload fin then 1 else 0) ≤ c.rcvWnd := by
  rw [accepts, acceptsFin]
  cases c.closeWait with
  | true => simp
  | false =>
      simp only [Bool.not_false, Bool.and_true, Bool.false_eq_true, if_false, List.length_take, Bool.and_eq_true,
        decide_eq_true_eq]
      split <;> omega

/-- There is room for all that the segment brings. -/
def FindsRoom (c : TcpConn) : TcpEvent → Prop
  | .arrive payload push fin =>
      c.recvmbox.queue.length + (c.takes payload push fin).length ≤ maxQueueEntries.toNat
  | _ => True

/-- **A segment arrives**: what it brings is posted as far as there is room; nothing else changes but the window. -/
theorem Ok.arrives (h : c.Ok) (payload : List UInt8) (push fin : Bool) : ∃ rcvWnd rcvevent,
    tcpInput payload push fin c = { c with
      rcvWnd := rcvWnd
      closeWait := c.closeWait || c.acceptsFin payload fin
      recvmbox := c.recvmbox.posts (c.takes payload push fin)
      rcvevent := rcvevent
      acked := c.acked ++ c.accepts payload } ∧
    (c.FindsRoom (.arrive payload push fin) → rcvWnd + (c.accepts payload).length ≤ c.rcvWnd) := by
  have hkept : tcpProcessRefusedData c = c := by rw [tcpProcessRefusedData, h.refusedData]
  have hinput : tcpInput payload push fin c = tcpInputSegment payload push fin c := by
    rw [tcpInput, hkept, h.refusedData]
    rfl
  -- the callback for the data
  have hdata : ∃ rcvWnd rcvevent,
      (if c.accepts payload = [] then tcpReceive payload fin c
        else tcpEventRecv ⟨c.accepts payload, push⟩ (tcpReceive payload fin c)) =
      { tcpReceive payload fin c with
        rcvWnd := rcvWnd
        recvmbox := c.recvmbox.posts (if c.accepts payload = [] then [] else [some ⟨c.accepts payload, push⟩])
        rcvevent := rcvevent } ∧
      (c.FindsRoom (.arrive payload push fin) → rcvWnd = (tcpReceive payload fin c).rcvWnd) := by
    by_cases hempty : c.accepts payload = []
    · rw [if_pos hempty, if_pos hempty]
      exact ⟨_, _, rfl, fun _ => rfl⟩
    · rw [if_neg hempty, if_neg hempty]
      obtain ⟨rcvWnd, rcvevent, heq, hwnd⟩ :=
        tcpEventRecv_eq (c := tcpReceive payload fin c) h.mailbox ⟨c.accepts payload, push⟩
      refine ⟨rcvWnd, rcvevent, heq, fun hroom => hwnd (decide_eq_true ?_)⟩
      rw [FindsRoom, takes, if_neg hempty, List.length_append, List.length_singleton] at hroom
      change c.recvmbox.queue.length < _
      omega
  obtain ⟨rcvWnd, rcvevent, heq, hwnd⟩ := hdata
  rw [hinput, tcpInputSegment, heq, takes]
  have hposts := h.mailbox.posts (if c.accepts payload = [] then [] else [some ⟨c.accepts payload, push⟩])
  -- the callback for the `FIN`
  cases hfin : c.acceptsFin payload fin with
  | false =>
      refine ⟨rcvWnd, rcvevent, ?_, fun hroom => ?_⟩
      · simp [tcpReceive, hfin]
      · rw [hwnd hroom]
        have hlength := c.length_accepts payload fin
        simp only [tcpReceive, hfin, Bool.false_eq_true, if_false] at hlength ⊢
        omega
  | true =>
      obtain ⟨rcvWnd', rcvevent', heq', hwnd'⟩ := tcpEventClosed_eq
        (c := { tcpReceive payload fin c with
          rcvWnd := rcvWnd
          recvmbox := c.recvmbox.posts (if c.accepts payload = [] then [] else [some ⟨c.accepts payload, push⟩])
          rcvevent := rcvevent }) hposts.1
      refine ⟨rcvWnd', rcvevent', ?_, fun hroom => ?_⟩
      · simp only [tcpReceive, h.refusedData, hfin, if_true, Bool.or_true, Mailbox.posts_append] at heq' ⊢
        exact heq'
      · have hlength := c.length_accepts payload fin
        rw [hwnd hroom] at hwnd'
        simp only [tcpReceive, hfin, if_true] at hlength hwnd'
        omega

/-- **What an event does**: the reader moves, or a segment arrives, or nothing happens, as the fast timer finds no
data that was refused. -/
theorem Ok.step_cases (h : c.Ok) {e : TcpEvent} {c' : TcpConn} (hstep : c.step e = some c') :
    c.ReaderMoves c' ∨ (∃ payload push fin, e = .arrive payload push fin ∧ c' = tcpInput payload push fin c) ∨
      c' = c := by
  cases e with
  | arrive payload push fin => exact Or.inr (Or.inl ⟨payload, push, fin, rfl, (Option.some.inj hstep).symm⟩)
  | fasttmr =>
      rw [TcpConn.step, tcpProcessRefusedData, h.refusedData] at hstep
      exact Or.inr (Or.inr (Option.some.inj hstep).symm)
  | recv | check | fetch | wake | took | recved => exact Or.inl (h.moves rfl hstep)

/-- **Every step keeps what must hold.** -/
theorem Ok.step (h : c.Ok) {e : TcpEvent} {c' : TcpConn} (hstep : c.step e = some c') : c'.Ok := by
  obtain hmoves | ⟨payload, push, fin, -, rfl⟩ | rfl := h.step_cases hstep
  · exact hmoves.ok
  · obtain ⟨rcvWnd, rcvevent, heq, -⟩ := h.arrives payload push fin
    obtain ⟨hok, -, haway⟩ := h.mailbox.posts (c.takes payload push fin)
    rw [heq]
    exact ⟨h.refusedData, hok, fun hreader => h.reader (mt haway.mpr hreader), h.sock, h.lastErr⟩
  · exact h

/-! ## The messages of a segment -/

/-- A closed peer brings nothing. -/
theorem takes_of_closeWait (hclosed : c.closeWait = true) (payload : List UInt8) (push fin : Bool) :
    c.takes payload push fin = [] := by
  simp [takes, accepts, acceptsFin, hclosed]

/-- Their bytes. -/
theorem flatMap_takes (c : TcpConn) (payload : List UInt8) (push fin : Bool) :
    (c.takes payload push fin).flatMap payloadOf = c.accepts payload := by
  have hfin : (if c.acceptsFin payload fin then [none] else []).flatMap payloadOf = [] := by
    split <;> rfl
  rw [takes, List.flatMap_append, hfin, List.append_nil]
  split
  · next hempty => exact hempty.symm
  · exact List.flatMap_singleton _ _

/-- The data comes before the `FIN`. -/
theorem none_notMem_data (c : TcpConn) (payload : List UInt8) (push : Bool) :
    none ∉ if c.accepts payload = [] then [] else [some (⟨c.accepts payload, push⟩ : Pbuf)] := by
  split
  · exact List.not_mem_nil
  · simp

/-- A segment brings two messages at most. -/
theorem length_takes_le (c : TcpConn) (payload : List UInt8) (push fin : Bool) :
    (c.takes payload push fin).length ≤ 2 := by
  rw [takes]
  split <;> split <;> simp

/-! ## Exactness -/

/-- What the peer and the application expect: of the bytes that were acknowledged the application has the first
ones, the others wait for it in their order; the `FIN` waits too, unless the reader has seen it; and 0 was returned
only behind the last byte. -/
structure Exact (c : TcpConn) : Prop where
  bytes : c.acked = c.stream
  fin : c.closeWait = true → none ∈ c.unseen ∨ c.lastErr = .clsd
  eof : .closed ∈ c.sock.results → c.closeWait = true ∧ c.sock.delivered = c.acked

/-- The invariant as long as nothing was lost: the `FIN` is the last message. -/
structure Lossless (c : TcpConn) : Prop extends c.Ok where
  bytes : c.acked = c.stream
  opened : c.closeWait = false → none ∉ c.unseen ∧ c.lastErr = .ok
  ended : c.closeWait = true → (c.lastErr = .ok ∧ ∃ msgs, c.unseen = msgs ++ [none] ∧ none ∉ msgs) ∨
    (c.lastErr = .clsd ∧ c.unseen = [])
  eof : .closed ∈ c.sock.results → c.lastErr = .clsd ∧ c.sock.inHand = []

/-- A new connection. -/
theorem lossless_new : TcpConn.new.Lossless := ⟨ok_new, rfl, fun _ => ⟨nofun, rfl⟩, nofun, nofun⟩

/-- Behind the `FIN` nothing waits. -/
theorem Lossless.of_clsd (h : c.Lossless) (hclsd : c.lastErr = .clsd) : c.closeWait = true ∧ c.waiting = [] := by
  cases hclosed : c.closeWait with
  | false => exact absurd ((h.opened hclosed).2.symm.trans hclsd) nofun
  | true =>
      obtain ⟨hok, -⟩ | ⟨-, hunseen⟩ := h.ended hclosed
      · exact absurd (hok.symm.trans hclsd) nofun
      · have hmessages := (List.append_eq_nil_iff.mp hunseen).2
        exact ⟨rfl, by rw [waiting, hmessages]; rfl⟩

/-- Nothing was lost: then the stream is exact. -/
theorem Lossless.exact (h : c.Lossless) : c.Exact := by
  refine ⟨h.bytes, fun hclosed => ?_, fun hmem => ?_⟩
  · obtain ⟨-, msgs, hunseen, -⟩ | ⟨hclsd, -⟩ := h.ended hclosed
    · exact Or.inl (hunseen ▸ List.mem_append_right _ List.mem_cons_self)
    · exact Or.inr hclsd
  · obtain ⟨hclsd, hhand⟩ := h.eof hmem
    obtain ⟨hclosed, hwaiting⟩ := h.of_clsd hclsd
    refine ⟨hclosed, ?_⟩
    rw [h.bytes, stream, unread, hhand, hwaiting, List.append_nil, List.append_nil]

/-- The reader loses nothing. -/
theorem Lossless.moves (h : c.Lossless) {c' : TcpConn} (hmoves : c.ReaderMoves c') : c'.Lossless := by
  refine ⟨hmoves.ok, ?_, fun hopen => ?_, fun hclosed => ?_, fun hmem => ?_⟩
  · rw [hmoves.acked, hmoves.stream, h.bytes]
  · rw [hmoves.closeWait] at hopen
    obtain ⟨hnone, hok⟩ := h.opened hopen
    obtain ⟨herr, hsame | ⟨p, htail⟩⟩ | ⟨-, hfin⟩ := hmoves.looked
    · exact ⟨hsame ▸ hnone, herr.trans hok⟩
    · rw [htail] at hnone
      exact ⟨fun hmem => hnone (List.mem_cons_of_mem _ hmem), herr.trans hok⟩
    · rw [hfin] at hnone
      exact absurd List.mem_cons_self hnone
  · rw [hmoves.closeWait] at hclosed
    obtain ⟨hok, msgs, hunseen, hnone⟩ | ⟨hclsd, hunseen⟩ := h.ended hclosed
    · obtain ⟨herr, hsame | ⟨p, htail⟩⟩ | ⟨hclsd, hfin⟩ := hmoves.looked
      · exact Or.inl ⟨herr.trans hok, msgs, hsame.trans hunseen, hnone⟩
      · rw [hunseen] at htail
        cases msgs with
        | nil => cases htail
        | cons msg msgs =>
            obtain ⟨-, htail⟩ := List.cons.inj htail
            exact Or.inl ⟨herr.trans hok, msgs, htail.symm, fun hmem => hnone (List.mem_cons_of_mem _ hmem)⟩
      · rw [hunseen] at hfin
        cases msgs with
        | nil => exact Or.inr ⟨hclsd, (List.cons.inj hfin).2.symm⟩
        | cons msg msgs =>
            obtain ⟨rfl, -⟩ := List.cons.inj hfin
            exact absurd List.mem_cons_self hnone
    · obtain ⟨herr, hsame | ⟨p, htail⟩⟩ | ⟨-, hfin⟩ := hmoves.looked
      · exact Or.inr ⟨herr.trans hclsd, hsame.trans hunseen⟩
      · rw [hunseen] at htail
        cases htail
      · rw [hunseen] at hfin
        cases hfin
  · obtain hbefore | hnow := hmoves.closed hmem
    · obtain ⟨hclsd, hhand⟩ := h.eof hbefore
      have hclsd' : c'.lastErr = .clsd := hmoves.looked.elim (fun hsame => hsame.1.trans hclsd) And.left
      -- there was nothing left to take, and the results have only grown
      have hunread : c.unread = [] := by rw [unread, hhand, (h.of_clsd hclsd).2, List.append_nil]
      have hstream := hmoves.stream
      obtain ⟨mem, hdelivered⟩ := hmoves.delivered
      rw [stream, stream, hunread, List.append_nil, ← hdelivered, List.append_assoc] at hstream
      have hnil := List.append_eq_nil_iff.mp (List.append_right_eq_self.mp hstream)
      exact ⟨hclsd', (List.append_eq_nil_iff.mp hnil.2).1⟩
    · exact hnow

/-- A segment for which there is room is not lost. -/
theorem Lossless.arrives (h : c.Lossless) {payload : List UInt8} {push fin : Bool}
    (hroom : c.FindsRoom (.arrive payload push fin)) : (tcpInput payload push fin c).Lossless := by
  have hok : (tcpInput payload push fin c).Ok := h.toOk.step (e := .arrive payload push fin) rfl
  obtain ⟨rcvWnd, rcvevent, heq, -⟩ := h.toOk.arrives payload push fin
  have hmessages : (tcpInput payload push fin c).recvmbox.messages =
      c.recvmbox.messages ++ c.takes payload push fin := by
    rw [heq]
    exact h.mailbox.posts_room hroom
  have hunseen : (tcpInput payload push fin c).unseen = c.unseen ++ c.takes payload push fin := by
    rw [unseen, unseen, hmessages, heq, List.append_assoc]
  refine ⟨hok, ?_, fun hopen => ?_, fun hclosed => ?_, fun hmem => ?_⟩
  · rw [stream, unread, waiting, hmessages, List.flatMap_append, flatMap_takes, heq]
    change c.acked ++ _ = c.sock.delivered ++ (c.sock.inHand ++ (c.waiting ++ _))
    rw [h.bytes, stream, unread, List.append_assoc, List.append_assoc]
  · rw [heq] at hopen
    obtain ⟨hopen, hfin⟩ := Bool.or_eq_false_iff.mp hopen
    obtain ⟨hnone, herr⟩ := h.opened hopen
    rw [hunseen, takes, hfin, if_neg Bool.false_ne_true, List.append_nil, heq]
    exact ⟨fun hmem => (List.mem_append.mp hmem).elim hnone (c.none_notMem_data payload push), herr⟩
  · rw [hunseen, heq]
    cases hbefore : c.closeWait with
    | true =>
        rw [takes_of_closeWait hbefore, List.append_nil]
        exact h.ended hbefore
    | false =>
        obtain ⟨hnone, herr⟩ := h.opened hbefore
        have hfin : c.acceptsFin payload fin = true := by
          rw [heq] at hclosed
          change (c.closeWait || c.acceptsFin payload fin) = true at hclosed
          rwa [hbefore, Bool.false_or] at hclosed
        refine Or.inl ⟨herr, _, ?_, fun hmem =>
          (List.mem_append.mp hmem).elim hnone (c.none_notMem_data payload push)⟩
        rw [takes, hfin, if_pos rfl, List.append_assoc]
  · rw [heq] at hmem ⊢
    exact h.eof hmem

/-- **A step loses nothing if it finds room.** -/
theorem Lossless.step (h : c.Lossless) {e : TcpEvent} (hroom : c.FindsRoom e) {c' : TcpConn}
    (hstep : c.step e = some c') : c'.Lossless := by
  obtain hmoves | ⟨payload, push, fin, rfl, rfl⟩ | rfl := h.toOk.step_cases hstep
  · exact h.moves hmoves
  · exact h.arrives hroom
  · exact h

/-- **A segment that finds no room is lost**, though it was acknowledged. -/
theorem Lossless.not_exact (h : c.Lossless) {payload : List UInt8} {push fin : Bool}
    (hroom : ¬ c.FindsRoom (.arrive payload push fin)) : ¬ (tcpInput payload push fin c).Exact := by
  intro hexact
  have hroom := Nat.not_le.mp hroom
  obtain ⟨rcvWnd, rcvevent, heq, -⟩ := h.toOk.arrives payload push fin
  obtain ⟨-, ⟨posted, hbegin, hposted⟩, -⟩ := h.mailbox.posts (c.takes payload push fin)
  have hreader : c.recvmbox.reader ≠ .waiting := by
    intro hwaiting
    have htwo := c.length_takes_le payload push fin
    rw [h.mailbox.waiting hwaiting, List.length_nil, Nat.zero_add] at hroom
    exact absurd (hroom.trans_le htwo) (by decide)
  have hne : posted ≠ c.takes payload push fin := by
    rintro rfl
    exact h.mailbox.posts_lost hreader hroom hposted
  have hopen : c.closeWait = false := by
    cases hclosed : c.closeWait with
    | false => rfl
    | true =>
        rw [takes_of_closeWait hclosed] at hroom
        exact absurd h.mailbox.room (Nat.not_le.mpr hroom)
  obtain ⟨hnone, hok⟩ := h.opened hopen
  cases hfin : c.acceptsFin payload fin with
  | true =>
      -- the `FIN` is the last message, so it is among those that are lost
      have hlost : none ∉ posted := by
        rw [takes, hfin, if_pos rfl, List.prefix_concat_iff] at hbegin
        rw [takes, hfin, if_pos rfl] at hne
        exact fun hmem => c.none_notMem_data payload push ((hbegin.resolve_left hne).subset hmem)
      have hseen := hexact.fin (by rw [heq, hfin]; exact Bool.or_true _)
      rw [heq, unseen] at hseen
      change none ∈ c.sock.pc.msgs ++ (c.recvmbox.posts _).messages ∨ c.lastErr = _ at hseen
      rw [hposted, ← List.append_assoc, hok] at hseen
      exact hseen.elim (fun hmem => (List.mem_append.mp hmem).elim hnone hlost) nofun
  | false =>
      -- the data is the only message
      have hnil : posted = [] := by
        rw [takes, hfin, if_neg Bool.false_ne_true, List.append_nil] at hbegin hne
        split at hbegin
        · exact List.prefix_nil.mp hbegin
        · next hdata =>
            rw [if_neg hdata] at hne
            obtain h | ⟨t, rfl, ht⟩ := List.prefix_cons_iff.mp hbegin
            · exact h
            · rw [List.prefix_nil.mp ht] at hne
              exact absurd rfl hne
      have hbytes := hexact.bytes
      rw [heq, stream, unread, waiting] at hbytes
      change c.acked ++ c.accepts payload =
        c.sock.delivered ++ (c.sock.inHand ++ (c.recvmbox.posts _).messages.flatMap payloadOf) at hbytes
      rw [hposted, hnil, List.append_nil, h.bytes] at hbytes
      have hdata : c.accepts payload = [] := List.append_right_eq_self.mp hbytes
      rw [hnil] at hne
      refine hne ?_
      rw [takes, if_pos hdata, hfin]
      rfl

/-- **The byte stream of a connection is exact just as long as every segment that arrives finds room in the
mailbox**: one that does not is acknowledged and dropped, and no timer and no later segment brings it again. The
segments are those of data and FINs in sequence, not an RST. -/
theorem stream_exact_iff (events : List TcpEvent) :
    AllReached TcpConn.step TcpConn.Exact .new events ↔ StepsMeet TcpConn.step TcpConn.FindsRoom .new events := by
  refine allReached_iff_stepsMeet (fun _ h => h.exact) (fun _ _ _ h hroom => h.step hroom)
    (fun c e c' h hroom hstep => ?_) lossless_new events
  cases e with
  | arrive payload push fin =>
      obtain rfl := Option.some.inj hstep
      exact h.not_exact hroom
  | fasttmr | recv | check | fetch | wake | took | recved => exact absurd trivial hroom

/-! ## A full mailbox -/

/-- A state behind one with a full mailbox: the mailbox is the same, and the reader has the same bytes. -/
structure BehindFull (c c' : TcpConn) : Prop where
  ok : c'.Ok
  recvmbox : c'.recvmbox = c.recvmbox
  fetches : c'.sock.pc.fetches = false
  bytes : c'.sock.delivered ++ c'.sock.inHand = c.sock.delivered ++ c.sock.inHand

/-- Neither the stack nor the reader touches a full mailbox. -/
theorem BehindFull.step {c₀ : TcpConn} (hfull : c₀.recvmbox.valid = false) (h : c₀.BehindFull c) {e : TcpEvent}
    {c' : TcpConn} (hstep : c.step e = some c') : c₀.BehindFull c' := by
  have hok := h.ok.step hstep
  rw [← h.recvmbox] at hfull
  obtain hmoves | ⟨payload, push, fin, -, rfl⟩ | rfl := h.ok.step_cases hstep
  · obtain ⟨hmbox, hfetches⟩ := hmoves.full hfull h.fetches
    refine ⟨hok, hmbox.trans h.recvmbox, hfetches, Eq.trans ?_ h.bytes⟩
    have hstream := hmoves.stream
    rw [stream, stream, unread, unread, waiting, waiting, hmbox, ← List.append_assoc, ← List.append_assoc] at hstream
    exact List.append_cancel_right hstream
  · obtain ⟨rcvWnd, rcvevent, heq, -⟩ := h.ok.arrives payload push fin
    rw [heq, h.ok.mailbox.posts_of_full hfull] at hok ⊢
    exact ⟨hok, h.recvmbox, h.fetches, h.bytes⟩
  · exact h

/-- **A full mailbox is the end of a connection**, unless the reader is in `sys_arch_mbox_fetch` already: whatever
arrives and however often the application calls `lwip_recv`, the messages in the mailbox stay there, the application
gets no byte more than the reader had, and `lwip_close` does not free them either. -/
theorem full_mailbox_stuck (events : List TcpEvent) :
    AllReached TcpConn.step
      (fun c => c.recvmbox.valid = false → c.sock.pc.fetches = false → ∀ later,
        AllReached TcpConn.step
          (fun c' => c'.recvmbox = c.recvmbox ∧ c'.close.recvmbox = c.recvmbox ∧
            c'.sock.delivered ++ c'.sock.inHand = c.sock.delivered ++ c.sock.inHand) c later) .new events := by
  have hrun : AllReached TcpConn.step Ok .new events :=
    allReached_of_step (fun _ _ _ h hstep => h.step hstep) ok_new events
  refine hrun.mono fun c h hfull hfetches later => ?_
  have hlater : AllReached TcpConn.step c.BehindFull c later :=
    allReached_of_step (fun _ _ _ hbehind hstep => hbehind.step hfull hstep) ⟨h, rfl, hfetches, rfl⟩ later
  refine hlater.mono fun c' hbehind => ⟨hbehind.recvmbox, ?_, hbehind.bytes⟩
  have hfull' : c'.recvmbox.valid = false := hbehind.recvmbox ▸ hfull
  rw [close, hfull']
  exact hbehind.recvmbox

/-- Twenty segments of one byte are enough, while the application is busy. -/
example : ¬ AllReached TcpConn.step (fun c => c.recvmbox.valid = true) .new
    (List.replicate 20 (.arrive [0] false false)) := by decide

/-! ## Large pieces -/

/-- 19 pieces of data of this length do not fit into the window. -/
def leastPiece : ℕ := 154

/-- The stack takes no small piece of data, from this segment at least. -/
def LargePiece (c : TcpConn) : TcpEvent → Prop
  | .arrive payload _ _ => c.accepts payload = [] ∨ leastPiece ≤ (c.accepts payload).length
  | _ => True

/-- Whether it does. -/
instance (c : TcpConn) (e : TcpEvent) : Decidable (c.LargePiece e) := by
  cases e <;> unfold LargePiece <;> infer_instance

/-- The invariant: what the reader has not got yet fits into the window. -/
structure Roomy (c : TcpConn) : Prop extends c.Lossless where
  pieces : ∀ p, some p ∈ c.unseen → leastPiece ≤ p.payload.length
  window : c.closeWait = false → c.rcvWnd + c.unread.length ≤ tcpWnd
  unread : c.unread.length ≤ tcpWnd
  error : .error ∉ c.sock.results

/-- A new connection. -/
theorem roomy_new : TcpConn.new.Roomy := ⟨lossless_new, nofun, fun _ => Nat.le_refl _, Nat.zero_le _, nofun⟩

/-- Many pieces are many bytes. -/
theorem length_pieces {msgs : List (Option Pbuf)} (hpieces : ∀ p, some p ∈ msgs → leastPiece ≤ p.payload.length)
    (hnone : none ∉ msgs) : leastPiece * msgs.length ≤ (msgs.flatMap payloadOf).length := by
  induction msgs with
  | nil => exact Nat.zero_le _
  | cons msg msgs ih =>
      have hrest := ih (fun p hmem => hpieces p (List.mem_cons_of_mem _ hmem)) fun hmem =>
        hnone (List.mem_cons_of_mem _ hmem)
      cases msg with
      | none => exact absurd List.mem_cons_self hnone
      | some p =>
          have hp := hpieces p List.mem_cons_self
          rw [List.flatMap_cons, List.length_append, List.length_cons, Nat.mul_succ, Nat.add_comm]
          exact Nat.add_le_add hp hrest

/-- The bytes of the messages are in the hands of the reader or waiting. -/
theorem length_unseen_le (c : TcpConn) : (c.unseen.flatMap payloadOf).length ≤ c.unread.length := by
  have hmsgs : (c.sock.pc.msgs.flatMap payloadOf).length ≤ c.sock.inHand.length := by
    rw [SockReader.inHand, List.length_append]
    cases c.sock.pc with
    | taken buf len mem =>
        rw [RecvPc.msgs, RecvPc.bytes, List.flatMap_singleton, List.length_append]
        omega
    | idle | top | fetching | recved => exact Nat.zero_le _
  rw [unseen, TcpConn.unread, waiting, List.flatMap_append, List.length_append, List.length_append]
  exact Nat.add_le_add_right hmsgs _

/-- So there are 18 pieces at most, and the `FIN`. -/
theorem Roomy.length_queue (h : c.Roomy) :
    c.recvmbox.queue.length ≤ 19 ∧ (c.closeWait = false → c.recvmbox.queue.length ≤ 18) := by
  have hqueue : c.recvmbox.queue.length ≤ c.unseen.length := by
    rw [unseen, List.length_append]
    exact Nat.le_add_left_of_le c.recvmbox.length_queue_le
  have hpieces : ∀ msgs, msgs <+: c.unseen → none ∉ msgs → msgs.length ≤ 18 := by
    intro msgs hbegin hnone
    have hbytes := length_pieces (fun p hmem => h.pieces p (hbegin.subset hmem)) hnone
    obtain ⟨rest, hrest⟩ := hbegin
    have hle : (msgs.flatMap payloadOf).length ≤ (c.unseen.flatMap payloadOf).length := by
      rw [← hrest, List.flatMap_append, List.length_append]
      exact Nat.le_add_right _ _
    have htotal := (hbytes.trans hle).trans (c.length_unseen_le.trans h.unread)
    rw [leastPiece, tcpWnd] at htotal
    omega
  cases hclosed : c.closeWait with
  | false =>
      have hall := hpieces c.unseen List.prefix_rfl (h.opened hclosed).1
      exact ⟨by omega, fun _ => by omega⟩
  | true =>
      refine ⟨?_, nofun⟩
      obtain ⟨-, msgs, hunseen, hnone⟩ | ⟨-, hunseen⟩ := h.ended hclosed
      · have hmsgs := hpieces msgs ⟨[none], hunseen.symm⟩ hnone
        rw [hunseen, List.length_append, List.length_singleton] at hqueue
        omega
      · rw [hunseen, List.length_nil] at hqueue
        omega

/-- The mailbox never fills. -/
theorem Roomy.valid (h : c.Roomy) : c.recvmbox.valid = true := by
  have hlength := h.length_queue.1
  exact decide_eq_true (hlength.trans_lt (by decide))

/-- So there is room for every segment. -/
theorem Roomy.findsRoom (h : c.Roomy) (e : TcpEvent) : c.FindsRoom e := by
  cases e with
  | arrive payload push fin =>
      rw [FindsRoom]
      cases hclosed : c.closeWait with
      | true =>
          rw [takes_of_closeWait hclosed]
          exact h.mailbox.room
      | false =>
          have hlength := h.length_queue.2 hclosed
          have htwo := c.length_takes_le payload push fin
          change _ ≤ 20
          omega
  | fasttmr | recv | check | fetch | wake | took | recved => trivial

/-- The reader makes room. -/
theorem Roomy.moves (h : c.Roomy) {c' : TcpConn} (hmoves : c.ReaderMoves c') : c'.Roomy := by
  have hlossless := h.toLossless.moves hmoves
  refine ⟨hlossless, fun p hmem => ?_, fun hopen => ?_, ?_, fun hmem => ?_⟩
  · obtain ⟨-, hsame | ⟨q, htail⟩⟩ | ⟨-, htail⟩ := hmoves.looked
    · exact h.pieces p (hsame ▸ hmem)
    · exact h.pieces p (htail ▸ List.mem_cons_of_mem _ hmem)
    · exact h.pieces p (htail ▸ List.mem_cons_of_mem _ hmem)
  · rw [hmoves.closeWait] at hopen
    obtain hle | hfin := hmoves.window
    · exact hle.trans (h.window hopen)
    · have hnone := (h.opened hopen).1
      rw [hfin] at hnone
      exact absurd List.mem_cons_self hnone
  · -- the results have grown by what is no longer unread
    have hlength := congrArg List.length hmoves.stream
    have hdelivered := hmoves.delivered.length_le
    rw [stream, stream, List.length_append, List.length_append] at hlength
    have hunread := h.unread
    omega
  · obtain hbefore | hfull := hmoves.error hmem
    · exact h.error hbefore
    · exact Bool.noConfusion (hfull.symm.trans h.valid)

/-- A large piece takes its room out of the window. -/
theorem Roomy.arrives (h : c.Roomy) {payload : List UInt8} {push fin : Bool}
    (hlarge : c.LargePiece (.arrive payload push fin)) : (tcpInput payload push fin c).Roomy := by
  have hroom := h.findsRoom (.arrive payload push fin)
  have hlossless := h.toLossless.arrives hroom
  obtain ⟨rcvWnd, rcvevent, heq, hwnd⟩ := h.toOk.arrives payload push fin
  have hmessages : (tcpInput payload push fin c).recvmbox.messages =
      c.recvmbox.messages ++ c.takes payload push fin := by
    rw [heq]
    exact h.mailbox.posts_room hroom
  have hunread : (tcpInput payload push fin c).unread.length = c.unread.length + (c.accepts payload).length := by
    rw [TcpConn.unread, TcpConn.unread, waiting, waiting, hmessages, List.flatMap_append, flatMap_takes, heq,
      ← List.append_assoc, List.length_append]
  refine ⟨hlossless, fun p hmem => ?_, fun hopen => ?_, ?_, ?_⟩
  · rw [unseen, hmessages, ← List.append_assoc, heq] at hmem
    obtain hmem | hmem := List.mem_append.mp hmem
    · exact h.pieces p hmem
    · rw [takes] at hmem
      obtain hdata | hfin := List.mem_append.mp hmem
      · split at hdata
        · exact absurd hdata List.not_mem_nil
        · next hne =>
            obtain rfl := Option.some.inj (List.mem_singleton.mp hdata)
            exact hlarge.resolve_left hne
      · split at hfin
        · exact absurd (List.mem_singleton.mp hfin) nofun
        · exact absurd hfin List.not_mem_nil
  · rw [hunread, heq]
    rw [heq] at hopen
    have hbefore := h.window (Bool.or_eq_false_iff.mp hopen).1
    have hwnd := hwnd hroom
    change rcvWnd + _ ≤ _
    omega
  · rw [hunread]
    cases hclosed : c.closeWait with
    | true =>
        rw [accepts, hclosed, if_pos rfl]
        exact h.unread
    | false =>
        have hbefore := h.window hclosed
        have hwnd := hwnd hroom
        omega
  · rw [heq]
    exact h.error

/-- Large pieces leave room for more. -/
theorem Roomy.step (h : c.Roomy) {e : TcpEvent} (hlarge : c.LargePiece e) {c' : TcpConn}
    (hstep : c.step e = some c') : c'.Roomy := by
  obtain hmoves | ⟨payload, push, fin, rfl, rfl⟩ | rfl := h.toOk.step_cases hstep
  · exact h.moves hmoves
  · exact h.arrives hlarge
  · exact h

/-- **While the peer sends no small pieces the window protects the mailbox**: the stream is exact, the mailbox
always has room, and no call of `lwip_recv` returns -1. -/
theorem large_pieces_exact {events : List TcpEvent} (hlarge : StepsMeet TcpConn.step LargePiece .new events) :
    AllReached TcpConn.step
      (fun c => c.Exact ∧ c.recvmbox.valid = true ∧ RecvResult.error ∉ c.sock.results) .new events :=
  (allReached_of_stepsMeet (fun _ _ _ h hlarge hstep => h.step hlarge hstep) roomy_new hlarge).mono
    fun _ h => ⟨h.toLossless.exact, h.valid, h.error⟩

/-- A segment of the usual length, the reader, and the end. -/
def pieceAndFin : List TcpEvent :=
  [.recv 512, .check, .fetch, .arrive (List.replicate 1460 7) true false, .wake, .took, .recved,
    .arrive [] false true, .recv 1000, .recved, .recv 512, .check, .fetch, .took]

/-- There the application gets all bytes. -/
theorem large_pieces_exact_pieceAndFin :
    AllReached TcpConn.step
      (fun c => c.Exact ∧ c.recvmbox.valid = true ∧ RecvResult.error ∉ c.sock.results) .new pieceAndFin :=
  large_pieces_exact (by decide +kernel)

end TcpConn

end RtuShuiwen
