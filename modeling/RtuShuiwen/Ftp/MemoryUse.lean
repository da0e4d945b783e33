import RtuShuiwen.Ftp.Server

/-! # What FTP requests do to memory

The server receives a request into a buffer of 1024 bytes and ends it there, answers from another one, and
keeps paths in `filename` and in the `currentdir` of each session, 256 bytes long. `build_full_path` is
given the length of its target and does not look at it; no command looks whether there is a parameter.

* **`serverMemorySafe_iff`**: in which runs of the server all that is used is there. -/

namespace RtuShuiwen

open ByteLayout CString TransitionSystem

/-! ## The condition -/

/-- The length of the path that `build_full_path` makes. -/
def pathLength (currentdir path : List UInt8) : ℕ :=
  if isAbsolutePath path then path.length else currentdir.length + 1 + path.length

/-- There is a parameter, and the path made from it is shorter than 256 bytes. -/
def PathFits (block : FtpBlock) : Option (List UInt8) → Prop
  | none => False
  | some path => pathLength block.currentdir path < pathSize

instance (block : FtpBlock) : DecidablePred (PathFits block) := fun parameter => by
  cases parameter <;> unfold PathFits <;> infer_instance

/-- There is a parameter with at least six fields. -/
def HasPortFields : Option (List UInt8) → Prop
  | none => False
  | some parameter => 6 ≤ (tokens portDelim parameter).length

instance : DecidablePred HasPortFields := fun parameter => by
  cases parameter <;> unfold HasPortFields <;> infer_instance

/-- **When a request fits**, by its command: the parameter is there where it is used, and a path made from
it, or by `CDUP` from the directory, fits; `RETR` also copies the request itself behind its fifth byte. -/
def RequestFits (block : FtpBlock) (request : List UInt8) : Prop :=
  match ftpVerb request with
  | .user | .pass | .type | .rest => parameterPtr request ≠ none
  | .retr => request.length < pathSize + 5 ∧ PathFits block (parameterPtr request)
  | .size | .cwd => PathFits block (parameterPtr request)
  | .mkd | .dele | .rmd => block.isAnonymous = rtTrue ∨ PathFits block (parameterPtr request)
  | .cdup => block.currentdir.length + 3 < pathSize
  | .port => HasPortFields (parameterPtr request)
  | .list | .nlst | .pwd | .pasv | .stor | .mdtm | .syst | .quit | .other => True

instance (block : FtpBlock) (request : List UInt8) : Decidable (RequestFits block request) := by
  unfold RequestFits
  split <;> infer_instance

/-- **When an event does no harm to memory**: the server has its buffer, the chunk leaves room for the end
of the string, and the request in it fits, unless `mymalloc` has no block for the answer. -/
def MemoryOk (s : FtpServer) : FtpServerEvent → Prop
  | .received sid chunk _ met =>
      match s.sessions sid with
      | .listed block => s.buffer = true ∧ chunk.bytes.length < ftpBufferSize ∧
          (met.sbuf = true → RequestFits block (requestText chunk.bytes))
      | _ => True
  | _ => True

/-! ## Strings that fit -/

/-- All that was used is there. -/
def FtpResult.Safe (r : FtpResult) : Prop := ∀ act ∈ r.acts, act.Ok

/-- An answer with a path in it fits if the path does. -/
theorem reply_ok (front back : List UInt8) {path : List UInt8} (hfixed : front.length + back.length < 512)
    (hpath : path.length < pathSize) : (FtpAct.reply (front ++ path ++ back)).Ok := by
  show (front ++ path ++ back).length < 1024
  have hlt : path.length < 256 := hpath
  simp only [List.length_append]
  omega

@[simp] theorem length_buildFullPath (currentdir path : List UInt8) :
    (buildFullPath currentdir path).length = pathLength currentdir path := by
  unfold buildFullPath pathLength
  split
  · rfl
  · simp only [List.length_append, List.length_cons]
    omega

/-- The path of a request that has a parameter. -/
theorem pathFits_iff (c : FtpCall) :
    PathFits c.block c.parameter ↔ c.parameter ≠ none ∧ c.fullPath.length < pathSize := by
  rw [FtpCall.fullPath, length_buildFullPath]
  cases c.parameter <;> simp [PathFits]

/-- A parameter stands behind a space. -/
theorem exists_of_parameterPtr {request parameter : List UInt8}
    (h : parameterPtr request = some parameter) :
    ∃ front, request = front ++ 0x20 :: parameter ∧ ∀ b ∈ front, b ≠ 0x20 := by
  rw [parameterPtr] at h
  cases hrest : request.dropWhile (· != 0x20) with
  | nil => rw [hrest] at h; cases h
  | cons b rest =>
      rw [hrest] at h
      obtain rfl : rest = parameter := Option.some.inj h
      have hb := List.head_dropWhile_not (p := fun b : UInt8 => b != 0x20) (l := request)
        (by rw [hrest]; simp)
      simp only [hrest, List.head_cons, bne_eq_false_iff_eq] at hb
      subst hb
      refine ⟨request.takeWhile (· != 0x20), ?_, fun c hc => ?_⟩
      · rw [← hrest, List.takeWhile_append_dropWhile]
      · have hc := List.mem_takeWhile_imp hc
        simpa using hc

/-- A `RETR` with a parameter has a fifth byte. -/
theorem five_le_of_retr {request parameter : List UInt8} (hverb : ftpVerb request = .retr)
    (h : parameterPtr request = some parameter) : 5 ≤ request.length := by
  have hne : ftpVerb request ≠ .other := by rw [hverb]; decide
  obtain ⟨w, hw, hword, hbegin⟩ := exists_word_of_ftpVerb hne
  rw [hverb] at hword
  have hretr : ∀ w ∈ ftpWords, w.2 = .retr → w.1.length = 4 ∧ 0x20 ∉ w.1 := by decide
  obtain ⟨hlength, hspace⟩ := hretr w hw hword
  have hprefix := List.isPrefixOf_iff_prefix.mp hbegin
  have hle := hprefix.length_le
  by_contra hlt
  -- with four bytes the request is the word itself, which has no space
  obtain rfl : w.1 = request := hprefix.eq_of_length (by omega)
  obtain ⟨front, hrequest, -⟩ := exists_of_parameterPtr h
  rw [hrequest] at hspace
  exact hspace (List.mem_append_right _ List.mem_cons_self)

/-- The string that begins at the `n`-th byte of a string. -/
theorem takeWhile_drop {p : UInt8 → Bool} {n : ℕ} {l : List UInt8} (hn : n ≤ (l.takeWhile p).length) :
    (l.drop n).takeWhile p = (l.takeWhile p).drop n := by
  induction n generalizing l with
  | zero => rfl
  | succ n ih =>
      cases l with
      | nil => rfl
      | cons b l =>
          by_cases hb : p b = true
          · rw [List.takeWhile_cons_of_pos hb] at hn ⊢
            exact ih (by simpa using hn)
          · rw [List.takeWhile_cons_of_neg hb] at hn
            cases hn

/-! ## The fields of `PORT` -/

/-- Behind the last token there is none. -/
theorem nextFields_none (delim : List UInt8) (n : ℕ) :
    (∀ field ∈ nextFields delim n none, field ≠ none) ↔ n = 0 := by
  cases n <;> simp [nextFields]

/-- **Some fields are there** if the string has as many tokens. -/
theorem nextFields_strtok {delim : List UInt8} (hdelim : 0 ∉ delim) (n : ℕ) {s : List UInt8}
    (hs : ∀ b ∈ s, b ≠ 0) (behind : List UInt8) :
    (∀ field ∈ nextFields delim n ((strtok delim (s ++ 0 :: behind)).toOption.bind id), field ≠ none) ↔
      n ≤ (tokens delim s).length := by
  induction n generalizing s behind with
  | zero => simp [nextFields]
  | succ n ih =>
      rcases strtok_string hdelim hs behind with ⟨hnone, htokens⟩ |
        ⟨t, s', behind', hsome, hrest, hs', htokens⟩
      · rw [hnone, htokens]
        simpa [Except.toOption] using nextFields_none delim (n + 1)
      · have hnext := ih hs' behind'
        rw [← hrest] at hnext
        rw [hsome, htokens, List.length_cons, Nat.succ_le_succ_iff, ← hnext]
        simp [Except.toOption, nextFields, strtokNext]

/-- The six fields of a parameter. -/
theorem portFields_iff {parameter : List UInt8} (hzero : ∀ b ∈ parameter, b ≠ 0) :
    (∀ field ∈ portFields parameter, field ≠ none) ↔ 6 ≤ (tokens portDelim parameter).length :=
  nextFields_strtok (by decide) 6 hzero []

/-! ## The commands -/

namespace FtpCall

variable (c : FtpCall)

/-- A command that uses the parameter and answers with one of its own texts. -/
theorem safe_useParameter_iff {acts : List FtpAct} (hacts : ∀ act ∈ acts, act.Ok) (returned : ℤ) :
    (c.done (.useParameter c.parameter :: acts) returned).Safe ↔ c.parameter ≠ none :=
  List.forall_mem_cons.trans (and_iff_left hacts)

theorem user_safe_iff : c.user.Safe ↔ c.parameter ≠ none := by
  unfold user
  split
  · exact c.safe_useParameter_iff (by decide) 0
  split
  · exact c.safe_useParameter_iff (by decide) 0
  · exact c.safe_useParameter_iff (by decide) (-1)

theorem pass_safe_iff : c.pass.Safe ↔ c.parameter ≠ none := by
  unfold pass
  split
  · exact c.safe_useParameter_iff (by decide) 0
  · exact c.safe_useParameter_iff (by decide) (-1)

theorem type_safe_iff : c.type.Safe ↔ c.parameter ≠ none := by
  unfold type
  split
  · exact c.safe_useParameter_iff (by decide) 0
  · exact c.safe_useParameter_iff (by decide) 0

theorem rest_safe_iff : c.rest.Safe ↔ c.parameter ≠ none := by
  unfold rest
  split
  · exact c.safe_useParameter_iff (by decide) 0
  · exact c.safe_useParameter_iff (by decide) 0

theorem listing_safe : c.listing.Safe := by
  simp [FtpResult.Safe, listing, done, FtpAct.Ok, ftpBufferSize]
  decide

theorem pwd_safe (hdir : c.block.currentdir.length < pathSize) : c.pwd.Safe := by
  have hreply := reply_ok (ascii "257 \"") (ascii "\" is current directory.\r\n")
    (by decide) hdir
  simpa [FtpResult.Safe, pwd, done] using hreply

/-- The acts of `PASV` do not use memory that could be missing. -/
theorem err1_safe {acts : List FtpAct} (hacts : ∀ act ∈ acts, act.Ok) (sockfd : ℤ) (isset : Bool) :
    (c.err1 acts sockfd isset).Safe := by
  unfold err1 FtpResult.Safe done
  simp only [List.forall_mem_append]
  refine ⟨⟨hacts, ?_⟩, by simp [FtpAct.Ok]⟩
  split <;> simp [FtpAct.Ok]

theorem pasv_safe : c.pasv.Safe := by
  have hcannot : cannotOpen.Ok := by decide
  have hentering : (FtpAct.reply (ascii "227 Entering passive mode (127,0,0,1,39,16)\r\n")).Ok := by decide
  unfold pasv
  dsimp only
  split_ifs
  · exact c.err1_safe (by simp [hcannot]) _ _
  · exact c.err1_safe (by simp [hcannot]) _ _
  · exact err1_safe _ (by simp [hcannot, hentering]) _ _
  · simp [FtpResult.Safe, done, hentering]
  · exact c.err1_safe (by simp [hentering]) _ _

theorem retr_safe_iff (hverb : ftpVerb c.text = .retr) :
    c.retr.Safe ↔ c.text.length < pathSize + 5 ∧ PathFits c.block c.parameter := by
  have hfilesize : ftpGetFilesize ≠ -1 := by decide
  have hreads : ∀ act ∈ c.met.reads.map fun r => FtpAct.fillSbuf r.bytes.length, act.Ok := by
    simp only [List.forall_mem_map]
    exact fun r _ => r.le
  -- what is copied from the fifth byte on ends with the request, if that has five bytes
  have hcopy : c.parameter ≠ none →
      ((c.buf.drop 5).takeWhile (· ≠ 0)).length + 5 = c.text.length := by
    intro hparameter
    obtain ⟨parameter, hparameter⟩ := Option.ne_none_iff_exists'.mp hparameter
    have hfive := five_le_of_retr hverb hparameter
    rw [takeWhile_drop hfive, List.length_drop]
    exact Nat.sub_add_cancel hfive
  rw [pathFits_iff, retr, if_neg hfilesize]
  simp only [FtpResult.Safe, done, List.forall_mem_append, List.forall_mem_cons]
  constructor
  · rintro ⟨⟨⟨hwrite, hparameter, hpath, -⟩, -⟩, -⟩
    have hlength := hcopy hparameter
    have hlt : ((c.buf.drop 5).takeWhile (· ≠ 0)).length < pathSize := hwrite
    exact ⟨by omega, hparameter, hpath⟩
  · rintro ⟨hlt, hparameter, hpath⟩
    have hlength := hcopy hparameter
    have hwrite : ((c.buf.drop 5).takeWhile (· ≠ 0)).length < pathSize := by omega
    exact ⟨⟨⟨hwrite, hparameter, hpath, List.forall_mem_nil _⟩, hreads⟩, by decide, trivial, trivial,
      List.forall_mem_nil _⟩

theorem permissionDenied_safe : c.permissionDenied.Safe := by
  show ∀ act ∈ [FtpAct.reply (ascii "550 Permission denied.\r\n"), .freeSbuf], act.Ok
  decide

/-- What `create_directory` writes fits. -/
theorem length_of_storCreated {allPath : List UInt8} (h : c.storCreated = some allPath) :
    allPath.length < pathSize := by
  unfold storCreated at h
  split at h
  · rw [length_of_createDirectory h]
    decide
  · cases h

theorem length_storFilename (hname : c.filename.length < pathSize) :
    c.storFilename.length < pathSize := by
  unfold storFilename
  cases hcreated : c.storCreated with
  | none => exact hname
  | some allPath => exact c.length_of_storCreated hcreated

theorem stor_safe (hname : c.filename.length < pathSize) : c.stor.Safe := by
  have hreply := reply_ok (ascii "150 Opening binary mode data connection for \"")
    (ascii "\".\r\n") (by decide) (c.length_storFilename hname)
  have hacts : ∀ act ∈ c.storActs, act.Ok := by
    unfold storActs
    simp only [List.forall_mem_append, List.forall_mem_map, List.forall_mem_singleton]
    refine ⟨⟨⟨⟨?_, hreply⟩, fun r _ => r.1.le⟩, ?_⟩, by simp [FtpAct.Ok]⟩
    · exact fun allPath hallPath => c.length_of_storCreated (by simpa using hallPath)
    · split <;> decide
  unfold stor
  split_ifs
  · exact c.permissionDenied_safe
  · exact hacts
  · exact hacts
  · exact hacts

theorem size_safe_iff : c.size.Safe ↔ PathFits c.block c.parameter := by
  have hfilesize : ftpGetFilesize ≠ -1 := by decide
  have hend : ∀ act ∈ [FtpAct.reply (ascii "213 0\r\n"), .freeSbuf], act.Ok := by decide
  rw [pathFits_iff, size, if_neg hfilesize]
  simp only [FtpResult.Safe, done, List.forall_mem_cons] at hend ⊢
  constructor
  · rintro ⟨hparameter, hpath, -⟩
    exact ⟨hparameter, hpath⟩
  · rintro ⟨hparameter, hpath⟩
    exact ⟨hparameter, hpath, hend⟩

/-- Changing the directory is safe if what leads to it is and the new path fits. -/
theorem changeDirectory_safe_iff (acts : List FtpAct) (path : List UInt8) :
    (c.changeDirectory acts path).Safe ↔ (∀ act ∈ acts, act.Ok) ∧ path.length < pathSize := by
  simp only [FtpResult.Safe, changeDirectory, done, List.forall_mem_append, List.forall_mem_cons]
  constructor
  · rintro ⟨hacts, hpath, -⟩
    exact ⟨hacts, hpath⟩
  · rintro ⟨hacts, hpath⟩
    have hreply := reply_ok (ascii "250 Changed to directory \"") (ascii "\"\r\n")
      (by decide) hpath
    exact ⟨hacts, hpath, hreply, hpath, trivial, List.forall_mem_nil _⟩

theorem cwd_safe_iff : c.cwd.Safe ↔ PathFits c.block c.parameter := by
  rw [cwd, changeDirectory_safe_iff, pathFits_iff]
  simp [FtpAct.Ok]

theorem cdup_safe_iff : c.cdup.Safe ↔ c.block.currentdir.length + 3 < pathSize := by
  have hlength : (ascii "/..").length = 3 := by decide
  rw [cdup, changeDirectory_safe_iff, List.length_append, hlength]
  simp

theorem port_safe_iff : c.port.Safe ↔ HasPortFields c.parameter := by
  -- the parameter is part of a string
  have hzero : ∀ parameter, c.parameter = some parameter → ∀ b ∈ parameter, b ≠ 0 := by
    intro parameter hparameter b hb
    obtain ⟨front, htext, -⟩ := exists_of_parameterPtr hparameter
    have hmem : b ∈ c.text := by
      rw [htext]
      exact List.mem_append_right _ (List.mem_cons_of_mem _ hb)
    simpa using List.mem_takeWhile_imp hmem
  have hfields : ((∀ act ∈ FtpAct.useParameter c.parameter ::
      (portFields (c.parameter.getD [])).map .useField, act.Ok) ↔ HasPortFields c.parameter) := by
    rw [List.forall_mem_cons, List.forall_mem_map]
    cases hparameter : c.parameter with
    | none => simp [FtpAct.Ok, HasPortFields]
    | some parameter =>
        rw [HasPortFields, ← portFields_iff (hzero parameter hparameter)]
        simp [FtpAct.Ok]
  have happend : ∀ (c : FtpCall) {acts rest : List FtpAct} (returned : ℤ), (∀ act ∈ rest, act.Ok) →
      ((c.done (acts ++ rest) returned).Safe ↔ ∀ act ∈ acts, act.Ok) := fun c acts rest returned h =>
    List.forall_mem_append.trans (and_iff_left h)
  have hcannot : cannotOpen.Ok := by decide
  have hsuccess : (FtpAct.reply (ascii "200 Port Command Successful.\r\n")).Ok := by decide
  unfold port
  dsimp only
  rw [← hfields]
  split_ifs
  · exact happend _ _ (by simp [hcannot])
  · exact happend _ _ (by simp [hcannot])
  · exact happend _ _ (by simp [hsuccess])

theorem pathCommand_safe_iff {reply : List UInt8 → List FtpAct}
    (hreply : ∀ path : List UInt8, path.length < pathSize → ∀ act ∈ reply path, act.Ok) :
    (c.pathCommand reply).Safe ↔ c.block.isAnonymous = rtTrue ∨ PathFits c.block c.parameter := by
  unfold pathCommand
  split
  · next hanonymous => exact iff_of_true c.permissionDenied_safe (.inl hanonymous)
  · next hanonymous =>
    rw [pathFits_iff]
    simp only [FtpResult.Safe, done, List.forall_mem_append, List.forall_mem_cons, hanonymous, false_or]
    constructor
    · rintro ⟨⟨⟨hparameter, hpath, -⟩, -⟩, -⟩
      exact ⟨hparameter, hpath⟩
    · rintro ⟨hparameter, hpath⟩
      exact ⟨⟨⟨hparameter, hpath, List.forall_mem_nil _⟩, hreply _ hpath⟩, trivial, List.forall_mem_nil _⟩

/-- **What a command needs** of memory. -/
theorem command_safe_iff (hdir : c.block.currentdir.length < pathSize)
    (hname : c.filename.length < pathSize) :
    (c.command (ftpVerb c.text)).Safe ↔ RequestFits c.block c.text := by
  rw [RequestFits]
  cases hverb : ftpVerb c.text
  case user => exact c.user_safe_iff
  case pass => exact c.pass_safe_iff
  case type => exact c.type_safe_iff
  case rest => exact c.rest_safe_iff
  case list | nlst => exact iff_true_intro c.listing_safe
  case pwd => exact iff_true_intro (c.pwd_safe hdir)
  case pasv => exact iff_true_intro c.pasv_safe
  case retr => exact c.retr_safe_iff hverb
  case stor => exact iff_true_intro (c.stor_safe hname)
  case size => exact c.size_safe_iff
  case cwd => exact c.cwd_safe_iff
  case cdup => exact c.cdup_safe_iff
  case port => exact c.port_safe_iff
  case mkd =>
    refine c.pathCommand_safe_iff fun path hpath act hact => ?_
    rw [List.mem_singleton.mp hact]
    exact reply_ok _ _ (by decide) hpath
  case dele | rmd => exact c.pathCommand_safe_iff fun _ _ => List.forall_mem_nil _
  case mdtm => exact iff_true_intro (by show ∀ act ∈ [_, _], FtpAct.Ok act; decide)
  case syst => exact iff_true_intro (by show ∀ act ∈ [_, _], FtpAct.Ok act; decide)
  case quit => exact iff_true_intro (by show ∀ act ∈ [_, _], FtpAct.Ok act; decide)
  case other => exact iff_true_intro (by show ∀ act ∈ [_, _], FtpAct.Ok act; decide)

/-- **What a call needs** of memory. -/
theorem ftpProcessRequest_safe_iff (hdir : c.block.currentdir.length < pathSize)
    (hname : c.filename.length < pathSize) :
    c.ftpProcessRequest.Safe ↔ (c.met.sbuf = true → RequestFits c.block (requestText c.buf)) := by
  rw [ftpProcessRequest]
  split
  · next hsbuf =>
    have hcommand := command_safe_iff { c with buf := removeLineEnds c.buf } hdir hname
    rw [text_removeLineEnds] at hcommand
    simpa [hsbuf, text_removeLineEnds] using hcommand
  · next hsbuf =>
    refine iff_of_true ?_ fun h => absurd h hsbuf
    exact List.forall_mem_nil _

/-! ### The strings a command leaves -/

/-- A string of the session that has changed was written. -/
structure Written (r : FtpResult) : Prop where
  filename : r.filename = c.filename ∨ .writeFilename r.filename ∈ r.acts
  currentdir : r.block.currentdir = c.block.currentdir ∨ .writeCurrentdir r.block.currentdir ∈ r.acts

variable {c}

theorem written_done (acts : List FtpAct) (returned : ℤ) : c.Written (c.done acts returned) :=
  ⟨.inl rfl, .inl rfl⟩

theorem written_pathCommand (reply : List UInt8 → List FtpAct) : c.Written (c.pathCommand reply) := by
  unfold pathCommand
  split
  · exact written_done _ _
  · exact ⟨.inr (by simp [done]), .inl rfl⟩

theorem written_changeDirectory (acts : List FtpAct) (path : List UInt8) :
    c.Written (c.changeDirectory acts path) :=
  ⟨.inr (by simp [changeDirectory, done]), .inr (by simp [changeDirectory, done])⟩

/-- A picture that is stored has its name written, unless the directories could not be made. -/
theorem written_stor : c.Written c.stor := by
  have hname : c.storFilename = c.filename ∨ .writeFilename c.storFilename ∈ c.storActs := by
    unfold storFilename storActs
    cases c.storCreated with
    | none => exact .inl rfl
    | some allPath => exact .inr (by simp)
  unfold stor
  split_ifs
  · exact written_done _ _
  · exact ⟨hname, .inl rfl⟩
  · exact ⟨hname, .inl rfl⟩
  · exact ⟨hname, .inl rfl⟩

/-- **A command changes no string but by writing it.** -/
theorem written_command (verb : FtpVerb) : c.Written (c.command verb) := by
  cases verb
  case user =>
    simp only [command, user]
    split_ifs <;> exact ⟨.inl rfl, .inl rfl⟩
  case pass =>
    simp only [command, pass]
    split <;> exact written_done _ _
  case pasv =>
    simp only [command, pasv]
    split_ifs <;> exact ⟨.inl rfl, .inl rfl⟩
  case retr =>
    simp only [command, retr]
    split <;> exact ⟨.inr (by simp [done]), .inl rfl⟩
  case stor => exact written_stor
  case size => exact ⟨.inr (by simp [command, size, done]), .inl rfl⟩
  case cwd | cdup => exact written_changeDirectory _ _
  case port =>
    simp only [command, port]
    split_ifs <;> exact ⟨.inl rfl, .inl rfl⟩
  case mkd | dele | rmd =>
    simp only [command, mkd, dele, rmd]
    exact written_pathCommand _
  all_goals exact written_done _ _

/-- **A safe call leaves strings that fit.** -/
theorem fits_of_safe (hdir : c.block.currentdir.length < pathSize) (hname : c.filename.length < pathSize)
    (hsafe : c.ftpProcessRequest.Safe) :
    c.ftpProcessRequest.filename.length < pathSize ∧
      c.ftpProcessRequest.block.currentdir.length < pathSize := by
  have hwritten : c.Written c.ftpProcessRequest := by
    unfold ftpProcessRequest
    split
    · obtain ⟨hfilename, hcurrentdir⟩ :=
        written_command (c := { c with buf := removeLineEnds c.buf })
          (ftpVerb (text { c with buf := removeLineEnds c.buf }))
      exact ⟨hfilename, hcurrentdir⟩
    · exact written_done _ _
  refine ⟨?_, ?_⟩
  · rcases hwritten.filename with hsame | hact
    · rwa [hsame]
    · exact hsafe _ hact
  · rcases hwritten.currentdir with hsame | hact
    · rwa [hsame]
    · exact hsafe _ hact

end FtpCall

/-! ## Runs of the server -/

/-- **Memory was used well**: all that was used was there, and the paths fit. -/
structure FtpServer.MemorySafe (s : FtpServer) : Prop where
  safe : s.safe = true
  filename : s.filename.length < pathSize
  currentdir : ∀ sid block, s.sessions sid = .listed block → block.currentdir.length < pathSize

/-- The root fits. -/
theorem length_ftpSrvRoot : ftpSrvRoot.length < pathSize := by decide

namespace FtpServer

/-- **What an event does to memory**: it stays safe just when the event does no harm. -/
theorem MemorySafe.step_iff {s s' : FtpServer} {e : FtpServerEvent} (hsafe : s.MemorySafe)
    (hstep : s.step e = some s') : s'.MemorySafe ↔ MemoryOk s e := by
  rcases step_cases hstep with ⟨sid, comSocket, isAnonymous, pasvSockfd, rfl, haccepted⟩ |
    ⟨sid, block, rfl, hblock, rfl⟩ | ⟨sid, chunk, behind, met, block, sockets, rfl, hblock, -, rfl⟩
  · -- a new session is in the root directory
    refine iff_of_true ?_ trivial
    rcases haccepted with ⟨-, rfl⟩ | ⟨-, -, sockets, -, rfl⟩
    · exact hsafe
    · refine ⟨hsafe.safe, hsafe.filename, fun sid' block h => ?_⟩
      by_cases hsid : sid' = sid
      · subst hsid
        simp only [Function.update_self, FtpSessionState.listed.injEq] at h
        rw [← h]
        exact length_ftpSrvRoot
      · exact hsafe.currentdir sid' block (by simpa [hsid] using h)
  · refine iff_of_true ?_ trivial
    refine ⟨hsafe.safe, hsafe.filename, fun sid' block' h => ?_⟩
    by_cases hsid : sid' = sid
    · subst hsid
      simp [remove] at h
    · exact hsafe.currentdir sid' block' (by simpa [remove, hsid] using h)
  · have hdir := hsafe.currentdir sid block hblock
    have hcall := (s.call block chunk behind met).ftpProcessRequest_safe_iff hdir hsafe.filename
    have htext : requestText (s.call block chunk behind met).buf = requestText chunk.bytes :=
      requestText_append chunk.bytes behind
    rw [htext] at hcall
    -- so the condition on the event is what the server's `safe` asks for
    have hok : MemoryOk s (.received sid chunk behind met) ↔ (s.buffer = true ∧
        chunk.bytes.length + 1 ≤ ftpBufferSize ∧
        (s.call block chunk behind met).ftpProcessRequest.Safe) := by
      rw [hcall, MemoryOk, hblock]
      exact Iff.rfl
    rw [hok]
    constructor
    · intro h
      have hall := h.safe
      rw [answer_safe, hsafe.safe, Bool.true_and, decide_eq_true_eq] at hall
      exact hall
    · rintro ⟨hbuffer, hroom, hrequest⟩
      obtain ⟨hfilename, hcurrentdir⟩ := FtpCall.fits_of_safe hdir hsafe.filename hrequest
      refine ⟨?_, by rwa [answer_filename], fun sid' block' h => ?_⟩
      · rw [answer_safe, hsafe.safe, Bool.true_and, decide_eq_true_eq]
        exact ⟨hbuffer, hroom, hrequest⟩
      · rcases listed_of_answer h with ⟨-, rfl, -⟩ | ⟨-, hlisted⟩
        · exact hcurrentdir
        · exact hsafe.currentdir sid' block' hlisted

theorem start_memorySafe (buffer : Bool) (others : List ℕ) : (start buffer others).MemorySafe :=
  ⟨rfl, Nat.zero_lt_succ _, fun _ _ h => FtpSessionState.noConfusion h⟩

end FtpServer

/-- **In which runs memory is used well**: in those in which the server has its buffer, no chunk fills it,
and every request fits. -/
theorem serverMemorySafe_iff (buffer : Bool) (others : List ℕ) (events : List FtpServerEvent) :
    AllReached FtpServer.step FtpServer.MemorySafe (.start buffer others) events ↔
      StepsMeet FtpServer.step MemoryOk (.start buffer others) events :=
  allReached_iff_stepsMeet (fun _ hsafe => hsafe)
    (fun _ _ _ hsafe hok hstep => (hsafe.step_iff hstep).mpr hok)
    (fun _ _ _ hsafe hharm hstep hsafe' => hharm ((hsafe.step_iff hstep).mp hsafe'))
    (FtpServer.start_memorySafe buffer others) events

/-- A client that connects and sends `CWD` without a directory. -/
def bareCwd : List FtpServerEvent :=
  [.accepted 0 1 0 (-1), .received 0 ⟨ascii "CWD\r\n", by decide, by decide⟩ [] quietMet]

/-- **`CWD` then uses a parameter that is not there.** -/
theorem bareCwd_not_memorySafe :
    ¬ AllReached FtpServer.step FtpServer.MemorySafe (.start true [0]) bareCwd := by
  intro hall
  have hsafe := ((hall.2 _ rfl).2 _ rfl).safe
  revert hsafe
  decide

end RtuShuiwen
