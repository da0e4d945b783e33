import RtuShuiwen.Gprs.PictureUpload

/-! # The serial number of a picture

The number of a picture is kept where it is sent from, in the union of the frame: the first packet counts
it up and swaps its bytes in place, and the data of the other packets stand over it. `packetSn` says what a
packet leaves there; **`serialNumbers_iff`** says for which runs the `k`-th upload is numbered `k`. -/

namespace RtuShuiwen

open ByteLayout CellMemory TransitionSystem

/-- `picture.pic_info.sn`. -/
def UpFrame.sn (frame : UpFrame) : UInt16 := ofBytes16 (frame.picture 1) (frame.picture 0)

/-- The serial number that a first packet carries, behind header and packet numbers. -/
def pictureSn (frame : List UInt8) : UInt16 := ofBytes16 (frame.getD 17 0) (frame.getD 18 0)

/-- **The first packet of the `k`-th upload carries `k`**, counted from one and modulo 65536. -/
def LinkState.SerialNumbers (s : LinkState) : Prop :=
  ∀ k u, s.uploads[k]? = some u → ∀ r ∈ u.calls.head?, pictureSn r.frame = .ofNat (k + 1)

/-! ## What is left in the field -/

/-- What a packet leaves in the field: the number it carries with its bytes swapped when it has a picture
header, and the start of its data when it has none. -/
def packetSn (curSn : UInt16) (buf : List UInt8) (sn : UInt16) : UInt16 :=
  if curSn &&& 0xfff = 0x1 then swap16 (sn + 1)
  else ofBytes16 (buf.getD 1 (sn >>> 8).toUInt8) (buf.getD 0 sn.toUInt8)

/-- What some packets leave in the field. -/
def snAfter : UInt16 → List (List UInt8) → UInt16 → UInt16
  | _, [], sn => sn
  | curSn, buf :: packets, sn => snAfter (curSn + 1) packets (packetSn curSn buf sn)

/-- The packets that an upload makes: up to the first read that fails, and up to the packet at which the
count of failed prompts reaches the limit. -/
def madePackets : LoopAnswers → ℕ → List (List UInt8) → List (List UInt8)
  | _, _, [] => []
  | a, erroCount, buf :: packets =>
      if a.reads 0 then
        buf :: if nextErroCount erroCount (a.prompts 0) = maxAtCipsendErroTimes then []
          else madePackets a.next (nextErroCount erroCount (a.prompts 0)) packets
      else []

/-- **Every upload that makes a packet finds the number of the upload before it in the field.** `sn` is the
field, `erroCount` the count of failed prompts and `k` the number of uploads so far. -/
def SnFits : UInt16 → ℕ → ℕ → List LinkEvent → Prop
  | _, _, _, [] => True
  | sn, erroCount, k, .reply prompt _ _ :: events => SnFits sn (nextErroCount erroCount prompt) k events
  | sn, erroCount, k, .picture a :: events =>
      let made := madePackets a.toLoopAnswers erroCount (filePackets a.file)
      if a.opened then
        (made ≠ [] → sn = .ofNat k) ∧
          SnFits (snAfter 1 made sn) (erroCountAfter erroCount a.prompts made.length) (k + 1) events
      else SnFits sn erroCount k events

/-! ## One packet -/

section Packet

variable (p : RtuOperationParameters) (sysTime : TimeDef) (buf : List UInt8) (openNewPicture : Bool)
  (s : PictureState)

/-- The bytes of the field. -/
theorem UpFrame.sn_bytes (frame : UpFrame) :
    frame.sn.toUInt8 = frame.picture 0 ∧ (frame.sn >>> 8).toUInt8 = frame.picture 1 := by
  obtain ⟨hlo, hrest⟩ := List.cons.inj (u16le_ofBytes16 (frame.picture 1) (frame.picture 0))
  exact ⟨hlo, (List.cons.inj hrest).1⟩

/-- The header of a picture starts with its number. -/
theorem patch_picInfoHead (picture : CellMemory UInt8) (sn : UInt16) :
    patch (patch picture 0 (picInfoHead p sn sysTime)) picInfoHeadLen buf 0 = sn.toUInt8 ∧
      patch (patch picture 0 (picInfoHead p sn sysTime)) picInfoHeadLen buf 1 = (sn >>> 8).toUInt8 := by
  constructor
  · rw [patch_of_lt _ _ (by decide)]
    rfl
  · rw [patch_of_lt _ _ (by decide)]
    rfl

/-- **A packet leaves `packetSn` in the field.** -/
theorem sn_updateFrameContentData :
    (updateFrameContentData p sysTime buf openNewPicture s).1.frame.sn =
      packetSn (if openNewPicture then 1 else s.curSn) buf s.frame.sn := by
  unfold updateFrameContentData packetSn UpFrame.sn
  dsimp only
  generalize (if openNewPicture then 1 else s.curSn) = curSn
  split
  · obtain ⟨hlo, hhi⟩ := patch_picInfoHead p sysTime buf s.frame.picture
      (swap16 (ofBytes16 (s.frame.picture 1) (s.frame.picture 0) + 1))
    rw [hlo, hhi, ofBytes16_toBytes]
  · obtain ⟨hlo, hhi⟩ := s.frame.sn_bytes
    rw [UpFrame.sn] at hlo hhi
    rw [hlo, hhi]
    rfl

/-- The first packet of an upload has a picture header. -/
theorem updateFrameContentData_first :
    (updateFrameContentData p sysTime buf true s).2 = buf.length + 3 + picInfoHeadLen ∧
      (updateFrameContentData p sysTime buf true s).1.frame.picture =
        patch (patch s.frame.picture 0 (picInfoHead p (swap16 (s.frame.sn + 1)) sysTime)) picInfoHeadLen
          buf := by
  have hfirst : (1 : UInt16) &&& 0xfff = 0x1 := rfl
  unfold updateFrameContentData UpFrame.sn
  simp only [if_true, hfirst, and_self]

/-- The field goes out as it stands in the memory. -/
theorem pictureSn_wpSendData (frame : UpFrame) {len : ℕ} (hlen : 5 ≤ len) :
    pictureSn (wpSendData frame len) = ofBytes16 (frame.picture 0) (frame.picture 1) := by
  obtain ⟨n, rfl⟩ := Nat.exists_eq_add_of_le hlen
  -- header and packet numbers stand before the union, and at least two bytes of it are sent
  have hpayload : (frame.totalPktsAndCurSn.toList ++ slice frame.picture 0 pictureLen).take (5 + n) =
      frame.totalPktsAndCurSn.toList ++ (frame.picture 0 :: frame.picture 1 ::
        (slice frame.picture 2 (pictureLen - 2)).take n) := by
    have hsplit : ∀ k, slice frame.picture 0 (2 + k) =
        frame.picture 0 :: frame.picture 1 :: slice frame.picture 2 k := slice_add frame.picture 0 2
    have hcount : 5 + n = frame.totalPktsAndCurSn.toList.length + (n + 2) := by
      rw [Vector.length_toList]
      omega
    have hunion : pictureLen = 2 + (pictureLen - 2) := rfl
    rw [hunion, hsplit, hcount, List.take_length_add_append, List.take_succ_cons, List.take_succ_cons,
      Nat.add_sub_cancel_left]
  have hfront : (frame.header.toBytes ++ frame.totalPktsAndCurSn.toList).length = 17 := by
    rw [List.length_append, Vector.length_toList, MessageHeader.length_toBytes]
  obtain ⟨rest, hbytes⟩ : ∃ rest, wpSendData frame (5 + n) =
      (frame.header.toBytes ++ frame.totalPktsAndCurSn.toList) ++
        (frame.picture 0 :: frame.picture 1 :: rest) := by
    unfold wpSendData
    dsimp only
    rw [hpayload]
    simp only [List.append_assoc, List.cons_append]
    exact ⟨_, rfl⟩
  rw [pictureSn, hbytes, List.getD_append_right _ _ _ _ (by rw [hfront]),
    List.getD_append_right _ _ _ _ (by rw [hfront]; decide), hfront]
  rfl

/-- **What a first packet carries**: the field, counted up. -/
theorem pictureSn_sendTurn {a : LoopAnswers} {u : UploadState} :
    pictureSn (sendTurn p a buf true u).1.frame = u.picture.frame.sn + 1 := by
  obtain ⟨hlen, hpicture⟩ := updateFrameContentData_first p (a.clock 0) buf u.picture
  obtain ⟨hlo, hhi⟩ := patch_picInfoHead p (a.clock 0) buf u.picture.frame.picture
    (swap16 (u.picture.frame.sn + 1))
  have hlong : 5 ≤ (updateFrameContentData p (a.clock 0) buf true u.picture).2 := by
    rw [hlen, picInfoHeadLen]
    omega
  have hcarried := pictureSn_wpSendData
    (updateFrameContentData p (a.clock 0) buf true u.picture).1.frame hlong
  rw [hpicture, hlo, hhi, swap16_lo, swap16_hi, ofBytes16_toBytes] at hcarried
  exact hcarried

end Packet

/-! ## One upload -/

section Upload

variable (p : RtuOperationParameters) (a : LoopAnswers) (packets : List (List UInt8))
  (openNewPicture : Bool) (s : UploadState)

/-- No packet is made when nothing is read. -/
theorem madePackets_of_not_read (erroCount : ℕ) (hread : a.reads 0 ≠ true) :
    madePackets a erroCount packets = [] := by
  cases packets with
  | nil => rfl
  | cons buf packets => exact if_neg hread

/-- **What an upload leaves behind**: in the field what its packets leave there, and the count behind their
prompts. -/
theorem uploadLoop_made :
    (uploadLoop p a packets openNewPicture s).2.picture.frame.sn =
        snAfter (if openNewPicture then 1 else s.picture.curSn)
          (madePackets a s.sendAtcipsendErroCount packets) s.picture.frame.sn ∧
      (uploadLoop p a packets openNewPicture s).2.sendAtcipsendErroCount =
        erroCountAfter s.sendAtcipsendErroCount a.prompts
          (madePackets a s.sendAtcipsendErroCount packets).length := by
  refine uploadLoop_induction p (motive := fun a packets openNewPicture s upload =>
    upload.2.picture.frame.sn = snAfter (if openNewPicture then 1 else s.picture.curSn)
        (madePackets a s.sendAtcipsendErroCount packets) s.picture.frame.sn ∧
      upload.2.sendAtcipsendErroCount = erroCountAfter s.sendAtcipsendErroCount a.prompts
        (madePackets a s.sendAtcipsendErroCount packets).length)
    ?unread ?ended ?limit ?sent a packets openNewPicture s
  case unread =>
    intro a packets openNewPicture s hread
    rw [madePackets_of_not_read _ _ _ hread]
    exact ⟨rfl, rfl⟩
  case ended => exact fun a openNewPicture s _ => ⟨rfl, rfl⟩
  case limit =>
    intro a buf packets openNewPicture s hread hlimit
    rw [madePackets, if_pos hread, if_pos hlimit]
    exact ⟨sn_updateFrameContentData .., erroCount_sendTurn p openNewPicture s⟩
  case sent =>
    intro a buf packets openNewPicture s upload hread hlimit hupload
    have hsn : (sendTurn p a buf openNewPicture s).2.picture.frame.sn =
        packetSn (if openNewPicture then 1 else s.picture.curSn) buf s.picture.frame.sn :=
      sn_updateFrameContentData ..
    have hcurSn : (sendTurn p a buf openNewPicture s).2.picture.curSn =
        (if openNewPicture then 1 else s.picture.curSn) + 1 := rfl
    obtain ⟨hrest, hcount⟩ := hupload
    rw [erroCount_checkTurn, picture_checkTurn, erroCount_sendTurn, hsn, hcurSn] at hrest
    rw [erroCount_checkTurn, erroCount_sendTurn] at hcount
    rw [madePackets, if_pos hread, if_neg hlimit, List.length_cons, erroCountAfter_succ]
    exact ⟨hrest, hcount⟩

/-- **An upload carries `k + 1` just when it finds `k` in the field**, unless it makes no packet. -/
theorem pictureSn_uploadLoop (k : ℕ) :
    (∀ r ∈ (uploadLoop p a packets true s).1.calls.head?, pictureSn r.frame = .ofNat (k + 1)) ↔
      (madePackets a s.sendAtcipsendErroCount packets ≠ [] → s.picture.frame.sn = .ofNat k) := by
  have hempty : ∀ {r : SendRecord}, r ∉ ([] : List SendRecord).head? := fun h => nomatch h
  by_cases hread : a.reads 0 = true
  · cases packets with
    | nil =>
        rw [uploadLoop_nil p true s hread]
        exact ⟨fun _ h => absurd rfl h, fun _ r hr => absurd hr hempty⟩
    | cons buf packets =>
        have hfirst : (uploadLoop p a (buf :: packets) true s).1.calls.head? =
            some (sendTurn p a buf true s).1 := by
          by_cases hlimit : nextErroCount s.sendAtcipsendErroCount (a.prompts 0) = maxAtCipsendErroTimes
          · rw [uploadLoop_of_limit p true s hread hlimit]
            rfl
          · rw [uploadLoop_of_sent p true s hread hlimit]
            rfl
        have hmade : madePackets a s.sendAtcipsendErroCount (buf :: packets) ≠ [] := by
          rw [madePackets, if_pos hread]
          exact List.cons_ne_nil _ _
        have hcarried := pictureSn_sendTurn p buf (a := a) (u := s)
        have hnext : UInt16.ofNat (k + 1) = .ofNat k + 1 := UInt16.ofNat_add k 1
        rw [hfirst, hnext]
        constructor
        · intro h _
          exact add_right_cancel (hcarried.symm.trans (h _ rfl))
        · rintro h r hr
          obtain rfl := Option.some.inj hr
          rw [hcarried, h hmade]
  · rw [uploadLoop_of_not_read p true s hread, madePackets_of_not_read _ _ _ hread]
    exact ⟨fun _ h => absurd rfl h, fun _ r hr => absurd hr hempty⟩

end Upload

/-! ## Runs -/

/-- One more upload. -/
theorem serialNumbers_append {s : LinkState} {upload : UploadState} {calls : List SendRecord}
    (u : UploadRecord) :
    (⟨upload, calls, s.uploads ++ [u]⟩ : LinkState).SerialNumbers ↔ s.SerialNumbers ∧
      ∀ r ∈ u.calls.head?, pictureSn r.frame = .ofNat (s.uploads.length + 1) := by
  constructor
  · intro h
    refine ⟨fun k v hv => h k v ?_, h s.uploads.length u ?_⟩
    · obtain ⟨hk, -⟩ := List.getElem?_eq_some_iff.mp hv
      rw [List.getElem?_append_left hk]
      exact hv
    · exact List.getElem?_concat_length
  · rintro ⟨hearlier, hlast⟩ k v hv
    rcases Nat.lt_trichotomy k s.uploads.length with hlt | rfl | hgt
    · rw [List.getElem?_append_left hlt] at hv
      exact hearlier k v hv
    · rw [List.getElem?_concat_length] at hv
      obtain rfl := Option.some.inj hv
      exact hlast
    · rw [List.getElem?_eq_none (by rw [List.length_append]; exact hgt)] at hv
      cases hv

/-- **What an upload does to a run**: it is numbered rightly just when it finds the number before, and the
field and the count are what its packets leave. -/
theorem sendPicture_opened {a : UploadAnswers} (hopened : a.opened = true) (s : UploadState) (k : ℕ) :
    ((∀ r ∈ (sendPicture a s).1.calls.head?, pictureSn r.frame = .ofNat (k + 1)) ↔
        (madePackets a.toLoopAnswers s.sendAtcipsendErroCount (filePackets a.file) ≠ [] →
          s.picture.frame.sn = .ofNat k)) ∧
      (sendPicture a s).2.picture.frame.sn =
        snAfter 1 (madePackets a.toLoopAnswers s.sendAtcipsendErroCount (filePackets a.file))
          s.picture.frame.sn ∧
      (sendPicture a s).2.sendAtcipsendErroCount = erroCountAfter s.sendAtcipsendErroCount a.prompts
        (madePackets a.toLoopAnswers s.sendAtcipsendErroCount (filePackets a.file)).length := by
  obtain ⟨u, hupload, hsn, hcount⟩ : ∃ u, sendPicture a s =
      uploadLoop a.parameters a.toLoopAnswers (filePackets a.file) true u ∧
        u.picture.frame.sn = s.picture.frame.sn ∧
          u.sendAtcipsendErroCount = s.sendAtcipsendErroCount := ⟨_, if_pos hopened, rfl, rfl⟩
  rw [hupload, ← hsn, ← hcount]
  exact ⟨pictureSn_uploadLoop _ _ _ _ k, uploadLoop_made _ _ _ _ _⟩

/-- The runs from a state in which all numbers are right. -/
theorem serialNumbers_from {s : LinkState} (hs : s.SerialNumbers) (events : List LinkEvent) :
    AllReached LinkState.step LinkState.SerialNumbers s events ↔
      SnFits s.upload.picture.frame.sn s.upload.sendAtcipsendErroCount s.uploads.length events := by
  induction events generalizing s with
  | nil => exact ⟨fun _ => trivial, fun _ => hs⟩
  | cons e events ih =>
      have hnext : ∀ s', s.step e = some s' →
          (AllReached LinkState.step LinkState.SerialNumbers s (e :: events) ↔
            AllReached LinkState.step LinkState.SerialNumbers s' events) := fun s' hs' =>
        ⟨fun h => h.2 s' hs', fun h => ⟨hs, fun s'' hs'' => Option.some.inj (hs'.symm.trans hs'') ▸ h⟩⟩
      cases e with
      | reply prompt ok frame =>
          rw [hnext _ rfl, SnFits, ← gprsSendStringLenCall_count _ prompt ok frame]
          exact ih hs
      | picture a =>
          rw [hnext _ rfl, SnFits]
          by_cases hopened : a.opened = true
          · obtain ⟨hnumber, hsn, hcount⟩ := sendPicture_opened hopened s.upload s.uploads.length
            rw [if_pos hopened, if_pos hopened, ← hnumber, ← hsn, ← hcount]
            constructor
            · intro h
              obtain ⟨hs', hlast⟩ := (serialNumbers_append _).mp h.start
              have hrest := (ih h.start).mp h
              rw [List.length_append] at hrest
              exact ⟨hlast, hrest⟩
            · rintro ⟨hlast, hrest⟩
              refine (ih ((serialNumbers_append _).mpr ⟨hs, hlast⟩)).mpr ?_
              rw [List.length_append]
              exact hrest
          · rw [if_neg hopened, if_neg hopened, sendPicture, if_neg hopened]
            exact ih hs

/-- At power-up nothing is numbered yet. -/
theorem serialNumbers_start : LinkState.start.SerialNumbers := by
  intro k u hu
  rw [LinkState.start, List.getElem?_nil] at hu
  cases hu

/-- **Uploads are numbered rightly in exactly those runs in which every upload that makes a packet finds
the number of the upload before it in the field.** -/
theorem serialNumbers_iff (events : List LinkEvent) :
    AllReached LinkState.step LinkState.SerialNumbers LinkState.start events ↔ SnFits 0 0 0 events :=
  serialNumbers_from serialNumbers_start events

/-- Two pictures of one packet each: the number of the first is left in the field with its bytes swapped. -/
theorem not_serialNumbers_of_two_pictures :
    ¬ AllReached LinkState.step LinkState.SerialNumbers LinkState.start
      [.picture (constantAnswers [0xFF, 0xD8] true true),
        .picture (constantAnswers [0xFF, 0xD8] true true)] := by
  intro hnumbers
  have hpackets : filePackets [0xFF, 0xD8] = [[0xFF, 0xD8]] := by
    rw [filePackets, transContentLen, List.take_of_length_le (by decide),
      List.drop_of_length_le (by decide), filePackets]
  have hfits := (serialNumbers_from serialNumbers_start _).mp hnumbers
  simp only [SnFits, constantAnswers, hpackets] at hfits
  obtain ⟨-, hsecond, -⟩ := hfits
  exact absurd (hsecond (by decide)) (by decide)

end RtuShuiwen
