import RtuShuiwen.Ftp.Session
import RtuShuiwen.Library.CString
import RtuShuiwen.Memory.Calendar

/-! # One request of an FTP session

`ftp_process_request` as a whole: which of its commands a request is, what it leaves in the session and
in `filename`, what it returns, and in order all that it does on the way to memory, to sockets and to the
allocator. What the calls return that it makes is given from outside.

A missing parameter is used like an empty one; that it was used is part of what was done.

* **`ftpProcessRequest_login`**: the login of a session goes as in `RtuShuiwen.ftpProcessRequest`. -/

namespace RtuShuiwen

open ByteLayout CString

/-! ## The request -/

/-- The commands that `ftp_process_request` knows, and any other. -/
inductive FtpVerb
  | user | pass | list | nlst | pwd | type | pasv | retr | stor | size | mdtm | syst | cwd | cdup | port
  | rest | mkd | dele | rmd | quit
  | other
  deriving DecidableEq

/-- The words it asks for, in this order. -/
def ftpWords : List (List UInt8 × FtpVerb) :=
  [(ascii "USER", .user), (ascii "PASS", .pass), (ascii "LIST", .list), (ascii "NLST", .nlst),
    (ascii "PWD", .pwd), (ascii "XPWD", .pwd), (ascii "TYPE", .type), (ascii "PASV", .pasv),
    (ascii "RETR", .retr), (ascii "STOR", .stor), (ascii "SIZE", .size), (ascii "MDTM", .mdtm),
    (ascii "SYST", .syst), (ascii "CWD", .cwd), (ascii "CDUP", .cdup), (ascii "PORT", .port),
    (ascii "REST", .rest), (ascii "MKD", .mkd), (ascii "DELE", .dele), (ascii "RMD", .rmd),
    (ascii "QUIT", .quit)]

/-- The command of the first word that the request begins with. -/
def ftpVerb (request : List UInt8) : FtpVerb :=
  match ftpWords.find? fun w => strBeginWith request w.1 with
  | some w => w.2
  | none => .other

/-- No word begins with another one. -/
theorem ftpWords_exclusive : ∀ w ∈ ftpWords, ∀ w' ∈ ftpWords, w.1 <+: w'.1 → w = w' := by decide

/-- **The command of a request** is the one whose word it begins with. -/
theorem ftpVerb_of_word {request : List UInt8} {w : List UInt8 × FtpVerb} (hw : w ∈ ftpWords)
    (hbegin : strBeginWith request w.1 = true) : ftpVerb request = w.2 := by
  rw [ftpVerb]
  cases hfind : ftpWords.find? fun w => strBeginWith request w.1 with
  | none => exact absurd hbegin (List.find?_eq_none.mp hfind w hw)
  | some found =>
      have hmem := List.mem_of_find?_eq_some hfind
      have hfound : strBeginWith request found.1 = true :=
        List.find?_some (p := fun w : List UInt8 × FtpVerb => strBeginWith request w.1) hfind
      -- both words stand at the front of the request
      rcases List.prefix_or_prefix_of_prefix (List.isPrefixOf_iff_prefix.mp hbegin)
        (List.isPrefixOf_iff_prefix.mp hfound) with h | h
      · rw [ftpWords_exclusive w hw found hmem h]
      · rw [ftpWords_exclusive found hmem w hw h]

/-- A command comes with its word. -/
theorem exists_word_of_ftpVerb {request : List UInt8} (h : ftpVerb request ≠ .other) :
    ∃ w ∈ ftpWords, w.2 = ftpVerb request ∧ strBeginWith request w.1 = true := by
  rw [ftpVerb] at h ⊢
  cases hfind : ftpWords.find? fun w => strBeginWith request w.1 with
  | none => simp [hfind] at h
  | some found =>
      exact ⟨found, List.mem_of_find?_eq_some hfind, rfl,
        List.find?_some (p := fun w : List UInt8 × FtpVerb => strBeginWith request w.1) hfind⟩

/-- The loop that removes `\r\n`: up to the end of the string each of the two becomes an end. -/
def removeLineEnds : List UInt8 → List UInt8
  | [] => []
  | b :: buf =>
      if b = 0 then b :: buf else (if b = 0x0D ∨ b = 0x0A then 0 else b) :: removeLineEnds buf

/-- What is left as a string is the request. -/
theorem takeWhile_removeLineEnds (buf : List UInt8) :
    (removeLineEnds buf).takeWhile (· ≠ 0) = requestText buf := by
  induction buf with
  | nil => rfl
  | cons b buf ih =>
      by_cases hzero : b = 0
      · simp [removeLineEnds, requestText, hzero]
      · by_cases hend : b = 0x0D ∨ b = 0x0A
        · rcases hend with rfl | rfl <;> simp [removeLineEnds, requestText]
        · rw [not_or] at hend
          rw [requestText] at ih
          simpa [removeLineEnds, requestText, hzero, hend] using ih

/-- The request in the buffer is the one in the chunk. -/
theorem requestText_append (chunk behind : List UInt8) :
    requestText (chunk ++ 0 :: behind) = requestText chunk := by
  induction chunk with
  | nil => rfl
  | cons b chunk ih =>
      rw [requestText, requestText] at ih
      simp only [requestText, List.cons_append, List.takeWhile_cons, ih]

/-- `ftp_get_filesize`. -/
def ftpGetFilesize : ℤ := 0

/-- `is_absolute_path`. -/
def isAbsolutePath (path : List UInt8) : Bool := path.head? == some 0x2F

/-- `build_full_path`: what it writes to `new_path`. -/
def buildFullPath (currentdir path : List UInt8) : List UInt8 :=
  if isAbsolutePath path then path else currentdir ++ 0x2F :: path

/-- `atoi`: spaces, a sign and digits. -/
def atoi (s : List UInt8) : ℤ :=
  let number (s : List UInt8) : ℕ :=
    (s.takeWhile fun b => 0x30 ≤ b && b ≤ 0x39).foldl (fun value b => 10 * value + (b.toNat - 0x30)) 0
  let s := s.dropWhile fun b => b = 0x20 || (0x09 ≤ b && b ≤ 0x0D)
  match s with
  | [] => 0
  | b :: digits => if b = 0x2D then -number digits else if b = 0x2B then number digits else number s

/-- The separators of the fields of `PORT`. -/
def portDelim : List UInt8 := ascii ".,;()"

/-- The next `n` fields from a token on. -/
def nextFields (delim : List UInt8) : ℕ → Option Token → List (Option (List UInt8))
  | 0, _ => []
  | n + 1, token => token.map Token.text ::
      nextFields delim n ((strtokNext delim token).toOption.bind id)

/-- The six fields that `PORT` takes from its parameter. -/
def portFields (parameter : List UInt8) : List (Option (List UInt8)) :=
  nextFields portDelim 6 ((strtok portDelim (parameter ++ [0])).toOption.bind id)

/-! ### The directory of a picture -/

/-- `BCDToString`. -/
def bcdToString (bcdData : UInt8) : List UInt8 :=
  [((bcdData >>> 4) &&& 0x0F) + 0x30, (bcdData &&& 0x0F) + 0x30]

/-- `create_directory`: what it writes to `all_path`, unless one of the directories cannot be made. -/
def createDirectory (realTime : TimeDef) (made : Bool) : Option (List UInt8) :=
  let directoryPath := bcdToString realTime.year ++ ascii "/" ++ bcdToString realTime.month ++ ascii "/" ++
    bcdToString realTime.day ++ ascii "/" ++ bcdToString realTime.hour
  let pictureName := bcdToString realTime.year ++ bcdToString realTime.month ++
    bcdToString realTime.day ++ ascii "-" ++ bcdToString realTime.hour ++ bcdToString realTime.minute ++
    bcdToString realTime.second ++ ascii ".jpg"
  if made then some (ascii "0:" ++ directoryPath ++ ascii "/" ++ pictureName) else none

/-- Its length does not depend on the clock. -/
theorem length_of_createDirectory {realTime : TimeDef} {made : Bool} {allPath : List UInt8}
    (h : createDirectory realTime made = some allPath) : allPath.length = 31 := by
  cases made with
  | false => cases h
  | true =>
      obtain rfl := Option.some.inj h
      rfl

/-! ## What a request does -/

/-- What a socket of a session is there for. -/
inductive SocketRole
  | control
  | listener
  | data
  deriving DecidableEq

/-- What `ftp_process_request` does: it formats an answer into `sbuf` and sends it; receives, reads or
clears some bytes there; writes a string to `filename` or to `currentdir`; uses the parameter or a field
of it; opens a socket, closes one; and frees `sbuf`. -/
inductive FtpAct
  | reply (text : List UInt8)
  | fillSbuf (numbytes : ℕ)
  | writeFilename (text : List UInt8)
  | writeCurrentdir (text : List UInt8)
  | useParameter (parameter : Option (List UInt8))
  | useField (field : Option (List UInt8))
  | opened (sockfd : ℤ) (role : SocketRole)
  | closesocket (sockfd : ℤ)
  | freeSbuf
  deriving DecidableEq

/-- `struct ftp_session`, as far as it is read. -/
structure FtpBlock where
  isAnonymous : UInt8
  sockfd : ℤ
  pasvSockfd : ℤ
  currentdir : List UInt8

/-- What a request meets: whether `mymalloc` has a block for `sbuf`, `g_picture_count`, and what the
calls return that it makes. `dataReady` is the bit of the listening socket behind `select`, `reads` what
`read` finds, `madeDirectories` says that `create_directory` could make them, and `turns` is what comes in
the loop of `STOR` before `select` gives up. -/
structure FtpMet where
  sbuf : Bool
  gPictureCount : UInt8
  socket : ℤ
  setsockopt : ℤ
  bind : ℤ
  listen : ℤ
  dataReady : Bool
  accept : ℤ
  connect : ℤ
  connectRemote : ℤ
  reads : List Chunk
  realTime : TimeDef
  madeDirectories : Bool
  opened : FResult
  staleSbuf : ℤ → UInt8
  turns : List Turn

/-- A call of `ftp_process_request`: the session, `filename`, the memory from `buf` on, and what it
meets. -/
structure FtpCall where
  block : FtpBlock
  filename : List UInt8
  buf : List UInt8
  met : FtpMet

/-- What a call leaves, does and returns. -/
structure FtpResult where
  block : FtpBlock
  filename : List UInt8
  gPictureCount : UInt8
  acts : List FtpAct
  returned : ℤ

namespace FtpCall

/-- The request. -/
def text (c : FtpCall) : List UInt8 := c.buf.takeWhile (· ≠ 0)

/-- `parameter_ptr`. -/
def parameter (c : FtpCall) : Option (List UInt8) := parameterPtr c.text

/-- The path it makes with the directory of the session. -/
def fullPath (c : FtpCall) : List UInt8 := buildFullPath c.block.currentdir (c.parameter.getD [])

/-- The call ends after these acts with this value. -/
def done (c : FtpCall) (acts : List FtpAct) (returned : ℤ) : FtpResult :=
  ⟨c.block, c.filename, c.met.gPictureCount, acts, returned⟩

/-! ### The commands -/

def user (c : FtpCall) : FtpResult :=
  if c.parameter = some anonymousUser then
    { c.done [.useParameter c.parameter,
        .reply (ascii "331 Anonymous login OK send e-mail address for password." ++ anonymousUser ++
          ascii "\r\n"),
        .freeSbuf] 0 with
      block := { c.block with isAnonymous := rtTrue } }
  else if c.parameter = some ftpUser then
    { c.done [.useParameter c.parameter,
        .reply (ascii "331 Password required for " ++ ftpUser ++ ascii "\r\n"), .freeSbuf] 0 with
      block := { c.block with isAnonymous := rtFalse } }
  else
    c.done [.useParameter c.parameter, .reply (ascii "530 Login incorrect. Bye.\r\n"), .freeSbuf] (-1)

def pass (c : FtpCall) : FtpResult :=
  if c.parameter = some ftpPassword ∨ c.block.isAnonymous = rtTrue then
    c.done [.useParameter c.parameter, .reply (ascii "230 User logged in\r\n"), .freeSbuf] 0
  else
    c.done [.useParameter c.parameter, .reply (ascii "530 Login or Password incorrect. Bye!\r\n"),
      .freeSbuf] (-1)

/-- `LIST` and `NLST`, which differ in what they send. -/
def listing (c : FtpCall) : FtpResult :=
  c.done [.fillSbuf 1024, .reply (ascii "150 Opening Binary mode connection for file list.\r\n"),
    .closesocket c.block.pasvSockfd, .reply (ascii "226 Transfert Complete.\r\n"), .freeSbuf] 0

def pwd (c : FtpCall) : FtpResult :=
  c.done [.reply (ascii "257 \"" ++ c.block.currentdir ++ ascii "\" is current directory.\r\n"),
    .freeSbuf] 0

def type (c : FtpCall) : FtpResult :=
  c.done [.useParameter c.parameter,
    .reply (if c.parameter = some (ascii "I") then ascii "200 Type set to binary.\r\n"
      else ascii "200 Type set to ascii.\r\n"),
    .freeSbuf] 0

/-- The answer of `PASV` and `PORT` when a call has failed. -/
def cannotOpen : FtpAct := .reply (ascii "425 Can't open data connection.\r\n")

/-- The label `err1`, with the listening socket and its bit in `readfds`. -/
def err1 (c : FtpCall) (acts : List FtpAct) (sockfd : ℤ) (isset : Bool) : FtpResult :=
  c.done (acts ++
    (if isset ∧ c.block.pasvSockfd = 0 then [.closesocket c.block.pasvSockfd] else []) ++
    [.closesocket sockfd, .freeSbuf]) 0

/-- The session with another data socket. -/
def withPasv (c : FtpCall) (sockfd : ℤ) : FtpCall :=
  { c with block := { c.block with pasvSockfd := sockfd } }

def pasv (c : FtpCall) : FtpResult :=
  let listener := c.met.socket
  -- the descriptor -1 is closed like any other
  if listener = -1 then c.err1 [cannotOpen] listener false
  else if c.met.setsockopt = -1 ∨ c.met.bind = -1 ∨ c.met.listen = -1 then
    c.err1 [.opened listener .listener, cannotOpen] listener false
  else
    let entering := [.opened listener .listener,
      .reply (ascii "227 Entering passive mode (127,0,0,1,39,16)\r\n")]
    if c.met.dataReady then
      if c.met.accept = -1 then (c.withPasv (-1)).err1 (entering ++ [cannotOpen]) listener true
      else
        (c.withPasv c.met.accept).done (entering ++
          [.opened c.met.accept .data, .closesocket listener, .freeSbuf]) 0
    -- nobody has connected in time, and no answer says so
    else c.err1 entering listener false

/-- It sends what `sbuf` happens to hold before it reads. -/
def retr (c : FtpCall) : FtpResult :=
  let path := c.fullPath
  let acts := [.writeFilename ((c.buf.drop 5).takeWhile (· ≠ 0)), .useParameter c.parameter,
    .writeFilename path]
  if ftpGetFilesize = -1 then
    { c.done (acts ++ [.reply (ascii "550 \"" ++ path ++ ascii "\" : not a regular file\r\n"),
        .freeSbuf]) 0 with
      filename := path }
  else
    { c.done (acts ++ c.met.reads.map (fun r => .fillSbuf r.bytes.length) ++
        [.reply (ascii "226 Finished.\r\n"), .closesocket c.block.pasvSockfd, .freeSbuf]) 0 with
      filename := path }

/-- The answer to an anonymous session. -/
def permissionDenied (c : FtpCall) : FtpResult :=
  c.done [.reply (ascii "550 Permission denied.\r\n"), .freeSbuf] 0

/-- What the loop of `STOR` has received, and its way out; where nothing more comes `select` gives up. -/
def storReceived (c : FtpCall) : Receiving × Option Exit :=
  storLoop c.met.gPictureCount (.start c.met.opened c.met.staleSbuf) c.met.turns

/-- What `create_directory` writes to `filename`, if the picture is kept. -/
def storCreated (c : FtpCall) : Option (List UInt8) :=
  if c.met.gPictureCount = selectPictureCount then
    createDirectory c.met.realTime c.met.madeDirectories
  else none

/-- `filename` from then on. -/
def storFilename (c : FtpCall) : List UInt8 := c.storCreated.getD c.filename

/-- What `STOR` does, to each of its ends behind the loop. -/
def storActs (c : FtpCall) : List FtpAct :=
  c.storCreated.toList.map .writeFilename ++
    [.reply (ascii "150 Opening binary mode data connection for \"" ++ c.storFilename ++
      ascii "\".\r\n")] ++
    c.storReceived.1.received.map (fun r => .fillSbuf r.1.bytes.length) ++
    (if c.storReceived.2 = some .peerClosed then [.reply (ascii "226 Finished.\r\n")] else []) ++
    [.closesocket c.block.pasvSockfd, .freeSbuf]

def stor (c : FtpCall) : FtpResult :=
  if c.block.isAnonymous = rtTrue then c.permissionDenied
  -- `recv` has failed: the session ends, and the picture is not counted
  else if c.storReceived.2 = some .recvError then
    { c.done c.storActs (-1) with filename := c.storFilename }
  -- the session ends with the picture that is kept
  else if c.met.gPictureCount = selectPictureCount then
    { c.done c.storActs (-1) with filename := c.storFilename, gPictureCount := 1 }
  else
    { c.done c.storActs 0 with
      filename := c.storFilename
      gPictureCount := c.met.gPictureCount + 1 }

def size (c : FtpCall) : FtpResult :=
  let path := c.fullPath
  { c.done [.useParameter c.parameter, .writeFilename path,
      .reply (if ftpGetFilesize = -1 then ascii "550 \"" ++ path ++ ascii "\" : not a regular file\r\n"
        else ascii "213 0\r\n"),
      .freeSbuf] 0 with
    filename := path }

def mdtm (c : FtpCall) : FtpResult :=
  c.done [.reply (ascii "550 \"/\" : not a regular file\r\n"), .freeSbuf] 0

def syst (c : FtpCall) : FtpResult := c.done [.reply (ascii "215 RT-Thread RTOS\r\n"), .freeSbuf] 0

/-- The end of `CWD` and `CDUP`: `filename` becomes the directory of the session. -/
def changeDirectory (c : FtpCall) (acts : List FtpAct) (path : List UInt8) : FtpResult :=
  { c.done (acts ++ [.writeFilename path,
      .reply (ascii "250 Changed to directory \"" ++ path ++ ascii "\"\r\n"), .writeCurrentdir path,
      .freeSbuf]) 0 with
    block := { c.block with currentdir := path }
    filename := path }

def cwd (c : FtpCall) : FtpResult := c.changeDirectory [.useParameter c.parameter] c.fullPath

def cdup (c : FtpCall) : FtpResult := c.changeDirectory [] (c.block.currentdir ++ ascii "/..")

def port (c : FtpCall) : FtpResult :=
  let acts := .useParameter c.parameter :: (portFields (c.parameter.getD [])).map .useField
  -- the session has the new socket from here on, also where it is closed again
  let sockfd := c.met.socket
  if sockfd = -1 then
    (c.withPasv sockfd).done (acts ++ [cannotOpen, .closesocket sockfd, .freeSbuf]) 0
  else if c.met.connect = -1 ∧ c.met.connectRemote = -1 then
    (c.withPasv sockfd).done (acts ++ [.opened sockfd .data, cannotOpen, .closesocket sockfd,
      .freeSbuf]) 0
  else
    (c.withPasv sockfd).done (acts ++ [.opened sockfd .data,
      .reply (ascii "200 Port Command Successful.\r\n"), .freeSbuf]) 0

def rest (c : FtpCall) : FtpResult :=
  -- a negative offset is not answered
  c.done (.useParameter c.parameter ::
    (if 0 ≤ atoi (c.parameter.getD []) then
      [.reply (ascii "350 Send RETR or STOR to start transfert.\r\n")] else []) ++ [.freeSbuf]) 0

/-- `MKD`, `DELE` and `RMD`: they only make the path. -/
def pathCommand (c : FtpCall) (reply : List UInt8 → List FtpAct) : FtpResult :=
  if c.block.isAnonymous = rtTrue then c.permissionDenied
  else
    { c.done ([.useParameter c.parameter, .writeFilename c.fullPath] ++ reply c.fullPath ++
        [.freeSbuf]) 0 with
      filename := c.fullPath }

def mkd (c : FtpCall) : FtpResult :=
  c.pathCommand fun path =>
    [.reply (ascii "257 directory \"" ++ path ++ ascii "\" successfully created.\r\n")]

/-- It sends what `sbuf` happens to hold. -/
def dele (c : FtpCall) : FtpResult := c.pathCommand fun _ => []

def rmd (c : FtpCall) : FtpResult := c.pathCommand fun _ => []

def quit (c : FtpCall) : FtpResult := c.done [.reply (ascii "221 Bye!\r\n"), .freeSbuf] (-1)

def notImplemented (c : FtpCall) : FtpResult :=
  c.done [.reply (ascii "502 Not Implemented.\r\n"), .freeSbuf] 0

/-- The command that goes with a word. -/
def command (c : FtpCall) : FtpVerb → FtpResult
  | .user => c.user
  | .pass => c.pass
  | .list | .nlst => c.listing
  | .pwd => c.pwd
  | .type => c.type
  | .pasv => c.pasv
  | .retr => c.retr
  | .stor => c.stor
  | .size => c.size
  | .mdtm => c.mdtm
  | .syst => c.syst
  | .cwd => c.cwd
  | .cdup => c.cdup
  | .port => c.port
  | .rest => c.rest
  | .mkd => c.mkd
  | .dele => c.dele
  | .rmd => c.rmd
  | .quit => c.quit
  | .other => c.notImplemented

/-- `ftp_process_request`. -/
def ftpProcessRequest (c : FtpCall) : FtpResult :=
  if c.met.sbuf then
    let c := { c with buf := removeLineEnds c.buf }
    c.command (ftpVerb c.text)
  else c.done [] (-1)

/-- The string that is looked at. -/
theorem text_removeLineEnds (c : FtpCall) :
    text { c with buf := removeLineEnds c.buf } = requestText c.buf := takeWhile_removeLineEnds c.buf

end FtpCall

/-! ## The login in it -/

/-- The part of the commands that has to do with the login. -/
def FtpVerb.login (parameter : Option (List UInt8)) : FtpVerb → FtpCommand
  | .user => .user parameter
  | .pass => .pass parameter
  | .stor => .stor
  | .mkd => .mkd
  | .dele => .dele
  | .rmd => .rmd
  | .quit => .quit
  | _ => .other

/-- Both ways to tell the command agree. -/
theorem ftpCommand_eq_login (request : List UInt8) :
    ftpCommand request = (ftpVerb request).login (parameterPtr request) := by
  unfold ftpCommand
  split
  · next h => rw [ftpVerb_of_word (w := (ascii "USER", .user)) (by simp [ftpWords]) h]; rfl
  split
  · next h => rw [ftpVerb_of_word (w := (ascii "PASS", .pass)) (by simp [ftpWords]) h]; rfl
  split
  · next h => rw [ftpVerb_of_word (w := (ascii "STOR", .stor)) (by simp [ftpWords]) h]; rfl
  split
  · next h => rw [ftpVerb_of_word (w := (ascii "MKD", .mkd)) (by simp [ftpWords]) h]; rfl
  split
  · next h => rw [ftpVerb_of_word (w := (ascii "DELE", .dele)) (by simp [ftpWords]) h]; rfl
  split
  · next h => rw [ftpVerb_of_word (w := (ascii "RMD", .rmd)) (by simp [ftpWords]) h]; rfl
  split
  · next h => rw [ftpVerb_of_word (w := (ascii "QUIT", .quit)) (by simp [ftpWords]) h]; rfl
  · next huser hpass hstor hmkd hdele hrmd hquit =>
    by_cases hother : ftpVerb request = .other
    · rw [hother]
      rfl
    · obtain ⟨w, hw, hverb, hbegin⟩ := exists_word_of_ftpVerb hother
      rw [← hverb]
      -- the words of the login were asked for above, and the other ones play no role for it
      simp only [ftpWords, List.mem_cons, List.not_mem_nil, or_false] at hw
      rcases hw with rfl | rfl | rfl | rfl | rfl | rfl | rfl | rfl | rfl | rfl | rfl | rfl | rfl |
        rfl | rfl | rfl | rfl | rfl | rfl | rfl | rfl <;> first | rfl | contradiction

/-- What the login sees of a request. -/
def FtpCall.request (c : FtpCall) : FtpRequest :=
  ⟨c.buf, c.met.gPictureCount, c.storReceived.2.getD .gaveUp⟩

/-- **The login goes as before**: a command leaves `is_anonymous` and returns what the model of the login
says. -/
theorem FtpCall.ftpProcessRequest_login (c : FtpCall) (hsbuf : c.met.sbuf = true) :
    c.ftpProcessRequest.block.isAnonymous =
        (RtuShuiwen.ftpProcessRequest c.block.isAnonymous c.request).isAnonymous ∧
      c.ftpProcessRequest.returned =
        (RtuShuiwen.ftpProcessRequest c.block.isAnonymous c.request).returned := by
  have hcommand : c.request.command =
      (ftpVerb (requestText c.buf)).login (parameterPtr (requestText c.buf)) :=
    ftpCommand_eq_login _
  have hexit : c.request.exit = .recvError ↔ c.storReceived.2 = some .recvError := by
    cases h : c.storReceived.2 <;> simp [request, h]
  rw [ftpProcessRequest, if_pos hsbuf, RtuShuiwen.ftpProcessRequest, hcommand]
  dsimp only
  rw [text_removeLineEnds]
  have hparameter : parameter { c with buf := removeLineEnds c.buf } =
      parameterPtr (requestText c.buf) := by rw [parameter, text_removeLineEnds]
  -- the commands that the model of the login knows come first; the others leave `is_anonymous`
  cases ftpVerb (requestText c.buf)
  case user =>
    simp only [command, user, FtpVerb.login, hparameter]
    split
    · exact ⟨rfl, rfl⟩
    · split <;> exact ⟨rfl, rfl⟩
  case pass =>
    simp only [command, pass, FtpVerb.login, hparameter]
    split <;> exact ⟨rfl, rfl⟩
  case stor =>
    simp only [command, stor, FtpVerb.login, hexit]
    split
    · exact ⟨rfl, rfl⟩
    · have hreceived : storReceived { c with buf := removeLineEnds c.buf } = c.storReceived := rfl
      have hmet : c.request.gPictureCount = c.met.gPictureCount := rfl
      rw [hreceived, hmet]
      by_cases herror : c.storReceived.2 = some .recvError <;>
        by_cases hcount : c.met.gPictureCount = selectPictureCount <;> simp [herror, hcount, done]
  case mkd | dele | rmd =>
    simp only [command, mkd, dele, rmd, pathCommand, FtpVerb.login]
    split <;> exact ⟨rfl, rfl⟩
  case pasv =>
    simp only [command, pasv, FtpVerb.login]
    split_ifs <;> exact ⟨rfl, rfl⟩
  case retr =>
    simp only [command, retr, FtpVerb.login]
    split <;> exact ⟨rfl, rfl⟩
  case port =>
    simp only [command, port, FtpVerb.login]
    split_ifs <;> exact ⟨rfl, rfl⟩
  all_goals exact ⟨rfl, rfl⟩

end RtuShuiwen
