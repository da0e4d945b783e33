import RtuShuiwen.Lwip.Mailbox
import Mathlib.Tactic.Linarith

/-! # Receiving from a connection

The way of the bytes of a connection from `tcp_input` over `recv_tcp`, the mailbox `recvmbox` and
`netconn_recv_data` to `lwip_recv`, which the file server calls for every command and every piece of a picture.
Segments arrive at any moment between the steps of the reader. `recv_tcp`, `netconn_recv_data` and
`netconn_drain` ask `sys_mbox_valid` whether the mailbox still exists, and it says no when it is full. -/

namespace RtuShuiwen

open TransitionSystem

/-! ## Data -/

/-- `TCP_WND`. -/
def tcpWnd : ℕ := 2 * 1460

/-- The `pbuf` of a segment, with its flag `PBUF_FLAG_PUSH`. -/
structure Pbuf where
  payload : List UInt8
  push : Bool
  deriving DecidableEq, Repr

/-- What `lwip_recv` returns: bytes, 0 for a closed connection, or -1. -/
inductive RecvResult
  | bytes (mem : List UInt8)
  | closed
  | error
  deriving DecidableEq, Repr

/-- The errors of a `netconn`: `ERR_OK`, `ERR_CLSD` and `ERR_CONN`. -/
inductive NetErr
  | ok
  | clsd
  | conn
  deriving DecidableEq, Repr

/-- Where the reader is in `lwip_recv`, with the room left in the caller's buffer and the bytes copied so far: not
in it, before `netconn_recv_data`, behind its tests, with what it took from the mailbox, or waiting for
`netconn_recved` at the end. -/
inductive RecvPc
  | idle
  | top (len : ℕ) (mem : List UInt8)
  | fetching (len : ℕ) (mem : List UInt8)
  | taken (buf : Option Pbuf) (len : ℕ) (mem : List UInt8)
  | recved (mem : List UInt8)

/-- The part of a socket that only its task uses: `lastdata` and `lastoffset`, where the task is, and as the
history what `lwip_recv` returned. -/
structure SockReader where
  lastdata : Option Pbuf
  lastoffset : ℕ
  pc : RecvPc
  results : List RecvResult

/-- A connection: of the `tcp_pcb` the window, whether the peer has closed, and `refused_data` with its `FIN`;
the mailbox and `last_err`; of the socket `rcvevent` and the part of the reader; and as the history the bytes that
were acknowledged. -/
structure TcpConn where
  rcvWnd : ℕ
  closeWait : Bool
  refusedData : Option (Pbuf × Bool)
  recvmbox : Mailbox Pbuf
  lastErr : NetErr
  rcvevent : ℤ
  sock : SockReader
  acked : List UInt8

/-- A new connection. -/
def TcpConn.new : TcpConn where
  rcvWnd := tcpWnd
  closeWait := false
  refusedData := none
  recvmbox := .new
  lastErr := .ok
  rcvevent := 0
  sock := ⟨none, 0, .idle, []⟩
  acked := []

/-! ## The stack -/

/-- `tcp_recved`: the window opens. -/
def tcpRecved (len : ℕ) (c : TcpConn) : TcpConn :=
  { c with rcvWnd := if c.rcvWnd + len > tcpWnd then tcpWnd else c.rcvWnd + len }

/-- `NETCONN_SET_SAFE_ERR`: a fatal error stays. -/
def setSafeErr (err : NetErr) (c : TcpConn) : TcpConn :=
  { c with lastErr := if c.lastErr = .ok then err else c.lastErr }

/-- `ERR_OK` changes nothing. -/
@[simp] theorem setSafeErr_ok (c : TcpConn) : setSafeErr .ok c = c := by
  rw [setSafeErr]
  split
  · next hok => rw [← hok]
  · rfl

/-- `recv_tcp`, with `true` for `ERR_OK` and `false` for `ERR_MEM`. -/
def recvTcp (p : Option Pbuf) (c : TcpConn) : Bool × TcpConn :=
  if !c.recvmbox.valid then
    -- taken for a connection that is being closed: the data is acknowledged, freed and lost
    match p with
    | some p => (true, tcpRecved p.payload.length c)
    | none => (true, c)
  else
    let c := setSafeErr .ok c
    let posted := c.recvmbox.trypost p
    if !posted.1 then (false, { c with recvmbox := posted.2 })
    else (true, { c with recvmbox := posted.2, rcvevent := c.rcvevent + 1 })

/-- The callback for data, which is kept when the callback does not take it. -/
def tcpEventRecv (p : Pbuf) (c : TcpConn) : TcpConn :=
  let answer := recvTcp (some p) c
  if answer.1 then answer.2 else { answer.2 with refusedData := some (p, false) }

/-- The callback for a `FIN`. -/
def tcpEventClosed (c : TcpConn) : TcpConn :=
  (recvTcp none { c with rcvWnd := if c.rcvWnd ≠ tcpWnd then c.rcvWnd + 1 else c.rcvWnd }).2

/-- `tcp_process_refused_data`. -/
def tcpProcessRefusedData (c : TcpConn) : TcpConn :=
  match c.refusedData with
  | none => c
  | some (p, fin) =>
      let answer := recvTcp (some p) { c with refusedData := none }
      if answer.1 then (if fin then tcpEventClosed answer.2 else answer.2)
      else { answer.2 with refusedData := some (p, fin) }

/-- The bytes of the next segment in sequence that `tcp_receive` takes: none when the peer has closed, and none
behind the window. -/
def TcpConn.accepts (c : TcpConn) (payload : List UInt8) : List UInt8 :=
  if c.closeWait then [] else payload.take c.rcvWnd

/-- Whether it takes the `FIN` of the segment, for which the window must have one more byte. -/
def TcpConn.acceptsFin (c : TcpConn) (payload : List UInt8) (fin : Bool) : Bool :=
  fin && !c.closeWait && payload.length < c.rcvWnd

/-- `tcp_receive` for the next segment in sequence, with the change of state for its `FIN`. -/
def tcpReceive (payload : List UInt8) (fin : Bool) (c : TcpConn) : TcpConn :=
  { c with
    rcvWnd := c.rcvWnd - (c.accepts payload).length - (if c.acceptsFin payload fin then 1 else 0)
    closeWait := c.closeWait || c.acceptsFin payload fin
    acked := c.acked ++ c.accepts payload }

/-- `tcp_input` behind the data that was refused. -/
def tcpInputSegment (payload : List UInt8) (push fin : Bool) (c : TcpConn) : TcpConn :=
  let recvData := c.accepts payload
  let gotFin := c.acceptsFin payload fin
  let c := tcpReceive payload fin c
  let c := if recvData = [] then c else tcpEventRecv ⟨recvData, push⟩ c
  if gotFin then
    -- the `FIN` waits behind data that was refused
    match c.refusedData with
    | some (p, _) => { c with refusedData := some (p, true) }
    | none => tcpEventClosed c
  else c

/-- `tcp_input` for the next segment in sequence. -/
def tcpInput (payload : List UInt8) (push fin : Bool) (c : TcpConn) : TcpConn :=
  let c := tcpProcessRefusedData c
  -- behind data that is refused again the segment is dropped
  if c.refusedData.isSome ∧ (payload ≠ [] ∨ fin) then c else tcpInputSegment payload push fin c

/-! ## The reader -/

namespace SockReader

/-- `lwip_recv` returns. -/
def returns (s : SockReader) (result : RecvResult) : SockReader :=
  { s with pc := .idle, results := s.results ++ [result] }

/-- The end of `lwip_recv`: bytes that were read let the window open first. -/
def returnBytes (s : SockReader) (mem : List UInt8) : SockReader :=
  if mem.length > 0 then { s with pc := .recved mem } else s.returns (.bytes mem)

/-- `lwip_recv` when `netconn_recv_tcp_pbuf` fails. -/
def fail (s : SockReader) (err : NetErr) (mem : List UInt8) : SockReader :=
  if mem.length > 0 then { s with pc := .recved mem }
  else if err = .clsd then s.returns .closed
  else s.returns .error

/-- `lwip_recv` copies from a `pbuf`, and returns or starts over. -/
def copy (s : SockReader) (rcvevent : ℤ) (p : Pbuf) (len : ℕ) (mem : List UInt8) : SockReader :=
  let buflen := p.payload.length - s.lastoffset
  let copylen := if len > buflen then buflen else len
  let mem := mem ++ (p.payload.drop s.lastoffset).take copylen
  let len := len - copylen
  let done := len ≤ 0 ∨ p.push = true ∨ rcvevent ≤ 0
  -- what is left of the `pbuf` stays for the next call
  let s :=
    if buflen - copylen > 0 then { s with lastdata := some p, lastoffset := s.lastoffset + copylen }
    else { s with lastdata := none, lastoffset := 0 }
  if done then s.returnBytes mem else { s with pc := .top len mem }

/-- The application calls `lwip_recv`. -/
def recv (s : SockReader) (rcvevent : ℤ) (len : ℕ) : SockReader :=
  match s.lastdata with
  | some p => s.copy rcvevent p len []
  | none => { s with pc := .top len [] }

end SockReader

/-- The tests at the beginning of `netconn_recv_data`. -/
def TcpConn.check (c : TcpConn) (len : ℕ) (mem : List UInt8) : TcpConn :=
  if !c.recvmbox.valid then { c with sock := c.sock.fail .conn mem }
  else if c.lastErr ≠ .ok then { c with sock := c.sock.fail c.lastErr mem }
  else { c with sock := { c.sock with pc := .fetching len mem } }

/-- The rest of `netconn_recv_data`, with what the mailbox gave: for `NULL` the connection is closed. -/
def TcpConn.took (c : TcpConn) (buf : Option Pbuf) (len : ℕ) (mem : List UInt8) : TcpConn :=
  match buf with
  | none =>
      let c := setSafeErr .clsd (tcpRecved 1 c)
      { c with rcvevent := c.rcvevent - 1, sock := c.sock.fail .clsd mem }
  | some p =>
      { c with
        rcvevent := c.rcvevent - 1
        sock := { c.sock with lastdata := some p }.copy (c.rcvevent - 1) p len mem }

/-- `netconn_drain` of the messages of the mailbox, one after the other. -/
def drainMessages : List (Option Pbuf) → TcpConn → TcpConn
  | [], c => c
  | some p :: queue, c => drainMessages queue (tcpRecved p.payload.length c)
  | none :: queue, c => drainMessages queue c

/-- `lwip_close`, of which `free_socket` frees `lastdata` and `netconn_drain` empties the mailbox. -/
def TcpConn.close (c : TcpConn) : TcpConn :=
  let c := { c with sock := { c.sock with lastdata := none, lastoffset := 0 } }
  if c.recvmbox.valid then
    { drainMessages c.recvmbox.queue c with recvmbox := { c.recvmbox with queue := [] } }
  else c

/-! ## The system -/

/-- What happens: the next segment arrives, or the fast timer fires; the application calls `lwip_recv`, which goes
through the tests of `netconn_recv_data`, asks the mailbox, comes back from waiting for it, goes on with what it
took, and has let the window open. A segment is one that comes in sequence, with data, a FIN or both; there is
none with an RST. -/
inductive TcpEvent
  | arrive (payload : List UInt8) (push fin : Bool)
  | fasttmr
  | recv (len : ℕ)
  | check
  | fetch
  | wake
  | took
  | recved

/-- One event. -/
def TcpConn.step (c : TcpConn) : TcpEvent → Option TcpConn
  | .arrive payload push fin => some (tcpInput payload push fin c)
  | .fasttmr => some (tcpProcessRefusedData c)
  | .recv len =>
      match c.sock.pc with
      | .idle => some { c with sock := c.sock.recv c.rcvevent len }
      | _ => none
  | .check =>
      match c.sock.pc with
      | .top len mem => some (c.check len mem)
      | _ => none
  | .fetch =>
      match c.sock.pc, c.recvmbox.reader with
      | .fetching len mem, .away =>
          match c.recvmbox.fetch with
          | (some buf, recvmbox) =>
              some { c with recvmbox := recvmbox, sock := { c.sock with pc := .taken buf len mem } }
          | (none, recvmbox) => some { c with recvmbox := recvmbox }
      | _, _ => none
  | .wake =>
      match c.sock.pc, c.recvmbox.wake with
      | .fetching len mem, some (buf, recvmbox) =>
          some { c with recvmbox := recvmbox, sock := { c.sock with pc := .taken buf len mem } }
      | _, _ => none
  | .took =>
      match c.sock.pc with
      | .taken buf len mem => some (c.took buf len mem)
      | _ => none
  | .recved =>
      match c.sock.pc with
      | .recved mem => some { tcpRecved mem.length c with sock := c.sock.returns (.bytes mem) }
      | _ => none

/-! ## The bytes of the reader -/

/-- The bytes of a message. -/
def payloadOf : Option Pbuf → List UInt8
  | some p => p.payload
  | none => []

/-- The bytes that a result gives to the application. -/
def RecvResult.mem : RecvResult → List UInt8
  | .bytes mem => mem
  | .closed | .error => []

namespace RecvPc

/-- The bytes that `lwip_recv` has copied or is about to copy. -/
def bytes : RecvPc → List UInt8
  | .idle => []
  | .top _ mem | .fetching _ mem | .recved mem => mem
  | .taken buf _ mem => mem ++ payloadOf buf

/-- The message that was taken and not looked at. -/
def msgs : RecvPc → List (Option Pbuf)
  | .taken buf _ _ => [buf]
  | _ => []

/-- Only at these places a message is on its way from the mailbox. -/
def atMailbox : RecvPc → Bool
  | .fetching .. | .taken .. => true
  | _ => false

/-- The reader is in `sys_arch_mbox_fetch`. -/
def fetches : RecvPc → Bool
  | .fetching .. => true
  | _ => false

/-- At these places there is no `lastdata`. -/
def needsData : RecvPc → Bool
  | .idle | .recved _ => false
  | .top .. | .fetching .. | .taken .. => true

/-- So it is not in `sys_arch_mbox_fetch` elsewhere. -/
theorem fetches_of_atMailbox {pc : RecvPc} (haway : pc.atMailbox = false) : pc.fetches = false := by
  cases pc with
  | idle | top | recved => rfl
  | fetching | taken => exact Bool.noConfusion haway

/-- Elsewhere none was taken. -/
theorem msgs_of_atMailbox {pc : RecvPc} (haway : pc.atMailbox = false) : pc.msgs = [] := by
  cases pc with
  | idle | top | recved => rfl
  | fetching | taken => exact Bool.noConfusion haway

end RecvPc

namespace SockReader

/-- The bytes that the application has received. -/
def delivered (s : SockReader) : List UInt8 := s.results.flatMap RecvResult.mem

/-- The bytes that the last call has left. -/
def rest (s : SockReader) : List UInt8 :=
  match s.lastdata with
  | some p => p.payload.drop s.lastoffset
  | none => []

/-- The bytes that were taken from the mailbox and not given to the application. -/
def inHand (s : SockReader) : List UInt8 := s.pc.bytes ++ s.rest

/-- `lastdata` is used up before the mailbox is asked. -/
structure Ok (s : SockReader) : Prop where
  needsData : s.pc.needsData = true → s.lastdata = none
  start : s.lastdata = none → s.lastoffset = 0

variable {s : SockReader}

/-- There is nothing left. -/
theorem rest_of_none (hlast : s.lastdata = none) : s.rest = [] := by rw [rest, hlast]

/-- Another result. -/
theorem delivered_append (results : List RecvResult) (result : RecvResult) :
    (results ++ [result]).flatMap RecvResult.mem = results.flatMap RecvResult.mem ++ result.mem := by
  rw [List.flatMap_append, List.flatMap_singleton]

/-- A piece of work without the mailbox, behind which the bytes `held` are in the hands of the reader; the two last
parts say when `lwip_recv` may have returned 0 and -1. -/
structure Works (s s' : SockReader) (held : List UInt8) (eof err : Prop) : Prop where
  ok : s'.Ok
  delivered : s'.delivered = s.delivered
  inHand : s'.inHand = held
  away : s'.pc.atMailbox = false
  closed : .closed ∈ s'.results → .closed ∈ s.results ∨ eof ∧ held = []
  error : .error ∈ s'.results → .error ∈ s.results ∨ err

/-- The end of `lwip_recv`. -/
theorem works_returnBytes (hstart : s.lastdata = none → s.lastoffset = 0) (mem : List UInt8) (eof err : Prop) :
    s.Works (s.returnBytes mem) (mem ++ s.rest) eof err := by
  rw [returnBytes]
  split
  · exact ⟨⟨nofun, hstart⟩, rfl, rfl, rfl, Or.inl, Or.inl⟩
  · next hempty =>
      obtain rfl := List.eq_nil_of_length_eq_zero (Nat.eq_zero_of_not_pos hempty)
      refine ⟨⟨nofun, hstart⟩, ?_, rfl, rfl, fun hmem => ?_, fun hmem => ?_⟩
      · exact (delivered_append _ _).trans (List.append_nil _)
      · exact Or.inl ((List.mem_append.mp hmem).resolve_right (by simp))
      · exact Or.inl ((List.mem_append.mp hmem).resolve_right (by simp))

/-- `lwip_recv` fails. -/
theorem works_fail (hlast : s.lastdata = none) (hstart : s.lastoffset = 0) (err : NetErr) (mem : List UInt8) :
    s.Works (s.fail err mem) mem (err = .clsd) (err ≠ .clsd) := by
  have hhand : ∀ pc : RecvPc, pc.bytes ++ s.rest = pc.bytes := by
    intro pc
    rw [rest_of_none hlast, List.append_nil]
  rw [fail]
  split
  · exact ⟨⟨nofun, fun _ => hstart⟩, rfl, hhand (.recved mem), rfl, Or.inl, Or.inl⟩
  · next hempty =>
      obtain rfl := List.eq_nil_of_length_eq_zero (Nat.eq_zero_of_not_pos hempty)
      split
      · next herr =>
          refine ⟨⟨nofun, fun _ => hstart⟩, ?_, hhand .idle, rfl, fun _ => Or.inr ⟨herr, rfl⟩, fun hmem => ?_⟩
          · exact (delivered_append _ _).trans (List.append_nil _)
          · exact Or.inl ((List.mem_append.mp hmem).resolve_right (by simp))
      · next herr =>
          refine ⟨⟨nofun, fun _ => hstart⟩, ?_, hhand .idle, rfl, fun hmem => ?_, fun _ => Or.inr herr⟩
          · exact (delivered_append _ _).trans (List.append_nil _)
          · exact Or.inl ((List.mem_append.mp hmem).resolve_right (by simp))

/-- **`lwip_recv` copies** and loses no byte of the `pbuf`. -/
theorem works_copy (s : SockReader) (rcvevent : ℤ) (p : Pbuf) (len : ℕ) (mem : List UInt8) (eof err : Prop) :
    s.Works (s.copy rcvevent p len mem) (mem ++ p.payload.drop s.lastoffset) eof err := by
  rw [copy]
  generalize hbuflen : p.payload.length - s.lastoffset = buflen
  generalize hcopylen : (if len > buflen then buflen else len) = copylen
  have hlength : (p.payload.drop s.lastoffset).length = buflen := by rw [List.length_drop, hbuflen]
  by_cases hleft : buflen - copylen > 0
  · -- the caller's buffer is full, and the rest stays in `lastdata`
    have hdone : len - copylen ≤ 0 := by
      split at hcopylen <;> omega
    rw [if_pos hleft, if_pos (Or.inl hdone)]
    have hworks := works_returnBytes
      (s := { s with lastdata := some p, lastoffset := s.lastoffset + copylen }) nofun
      (mem ++ (p.payload.drop s.lastoffset).take copylen) eof err
    have hheld : mem ++ (p.payload.drop s.lastoffset).take copylen ++ p.payload.drop (s.lastoffset + copylen) =
        mem ++ p.payload.drop s.lastoffset := by
      rw [List.append_assoc, ← List.drop_drop, List.take_append_drop]
    rw [← hheld]
    exact ⟨hworks.ok, hworks.delivered, hworks.inHand, hworks.away, hworks.closed, hworks.error⟩
  · have htake : (p.payload.drop s.lastoffset).take copylen = p.payload.drop s.lastoffset :=
      List.take_of_length_le (by omega)
    rw [if_neg hleft, htake]
    split
    · have hworks := works_returnBytes (s := { s with lastdata := none, lastoffset := 0 }) (fun _ => rfl)
        (mem ++ p.payload.drop s.lastoffset) eof err
      refine ⟨hworks.ok, hworks.delivered, ?_, hworks.away, fun hmem => ?_, hworks.error⟩
      · exact hworks.inHand.trans (List.append_nil _)
      · exact (hworks.closed hmem).imp_right fun h => ⟨h.1, (List.append_nil _).symm.trans h.2⟩
    · exact ⟨⟨fun _ => rfl, fun _ => rfl⟩, rfl, List.append_nil _, rfl, Or.inl, Or.inl⟩

/-- The application calls `lwip_recv`. -/
theorem Ok.works_recv (h : s.Ok) (hpc : s.pc = .idle) (rcvevent : ℤ) (len : ℕ) :
    s.Works (s.recv rcvevent len) s.inHand False False := by
  rw [inHand, hpc]
  cases hlast : s.lastdata with
  | some p =>
      have hrecv : s.recv rcvevent len = s.copy rcvevent p len [] := by rw [recv, hlast]
      have hrest : s.rest = p.payload.drop s.lastoffset := by rw [rest, hlast]
      rw [hrecv, hrest]
      exact s.works_copy rcvevent p len [] False False
  | none =>
      have hrecv : s.recv rcvevent len = { s with pc := .top len [] } := by rw [recv, hlast]
      rw [hrecv]
      exact ⟨⟨fun _ => hlast, h.start⟩, rfl, rfl, rfl, Or.inl, Or.inl⟩

end SockReader

end RtuShuiwen
