import RtuShuiwen.Gprs.Envelope

/-! # The receive path of the GPRS module

A burst from the module lies in a buffer of 200 bytes that nothing ends. `CheckReceive` looks for a frame in
it and `GetDownFrameFunId` for an envelope.

* **`checkReceiveBuffer_of_ok`**: as long as it stays in the buffer, the check is the one on the whole
  buffer;
* **`receivePath_iff`**: for which contents and which length of the burst both stay in their buffers, and
  nothing but an envelope is answered with a function code. -/

namespace RtuShuiwen

open ByteLayout CString

/-! ## The accesses of the receive path -/

/-- The comparison of `CheckReceive` on a frame: the bytes under the checksum, then the checksum. -/
def crcStatus (downFrame : List UInt8) : ℤ :=
  let calculateCrc := swap16 (crc16Modbus (downFrame.take (downFrameSize - 2)))
  let receiveCrc := ofBytes16 (downFrame.getD 27 0) (downFrame.getD 26 0)
  if receiveCrc ≠ calculateCrc then -1 else 0

/-- `CheckReceive` after a burst of `gUsart2ReceiveCnt` bytes. It is told of bursts that are not empty. -/
def checkReceiveMemory (dmaUsart2Buf : List UInt8) (gUsart2ReceiveCnt : ℕ) : Except Fault ℤ :=
  if gUsart2ReceiveCnt = 0 then return -1
  else if dmaUsart2Buf.length ≤ gUsart2ReceiveCnt then throw .writeOutside
  else do
    match ← CString.strstr frameMark (dmaUsart2Buf.set gUsart2ReceiveCnt 0) with
    | none => return -1
    | some downFrame =>
        if downFrame.length < downFrameSize then throw .readOutside
        else return crcStatus downFrame

/-- In bounded memory the same is found. -/
theorem strstr_eq_of_ok {pattern memory : List UInt8} {found : Pointer}
    (h : CString.strstr pattern memory = .ok found) : strstr pattern memory = found := by
  induction memory with
  | nil => cases h
  | cons b s ih =>
      rw [CString.strstr] at h
      rw [strstr]
      split at h
      · next hfound =>
          cases h
          exact if_pos hfound
      · next hfound =>
          rw [if_neg hfound]
          split at h
          · next hb =>
              cases h
              exact if_pos hb
          · next hb =>
              rw [if_neg hb]
              exact ih h

/-- **Where it stays in its buffer, the check is the one on the whole buffer.** -/
theorem checkReceiveBuffer_of_ok {dmaUsart2Buf : List UInt8} {count : ℕ} {r : ℤ}
    (hcount : count ≠ 0) (h : checkReceiveMemory dmaUsart2Buf count = .ok r) :
    checkReceiveBuffer (dmaUsart2Buf.set count 0) = r := by
  rw [checkReceiveMemory, if_neg hcount] at h
  split at h
  · cases h
  · obtain ⟨found, hfound, h⟩ := bind_eq_ok_iff.mp h
    have hsame := strstr_eq_of_ok hfound
    rw [frameMark] at hsame
    rw [checkReceiveBuffer, hsame]
    cases found with
    | none =>
        cases h
        rfl
    | some downFrame =>
        dsimp only at h ⊢
        split at h
        · cases h
        · cases h
          rfl

/-- A start mark that the check finds has a whole frame in the buffer, behind the zero byte that ends
the burst. -/
def FrameInside (dmaUsart2Buf : List UInt8) (count : ℕ) : Prop :=
  count < dmaUsart2Buf.length ∧
    ∀ k, OccursAt frameMark (dmaUsart2Buf.set count 0) k →
      ∃ j, OccursAt frameMark (dmaUsart2Buf.set count 0) j ∧ j + downFrameSize ≤ dmaUsart2Buf.length

/-- **When `CheckReceive` stays in its buffer.** -/
theorem checkReceiveMemory_ok_iff {dmaUsart2Buf : List UInt8} {count : ℕ} :
    (∃ r, checkReceiveMemory dmaUsart2Buf count = .ok r) ↔
      count = 0 ∨ FrameInside dmaUsart2Buf count := by
  by_cases hzero : count = 0
  · simp only [hzero, true_or, iff_true]
    exact ⟨-1, rfl⟩
  rw [or_iff_right hzero, FrameInside]
  by_cases hlt : count < dmaUsart2Buf.length
  · have hend : 0 ∈ dmaUsart2Buf.set count 0 := List.mem_set hlt 0
    simp only [checkReceiveMemory, if_neg hzero, if_neg (Nat.not_le.mpr hlt), and_iff_right hlt]
    constructor
    · rintro ⟨r, hr⟩ k hk
      obtain ⟨found, hfound, hr⟩ := bind_eq_ok_iff.mp hr
      obtain ⟨found', hfound'⟩ := exists_strstr (by decide) hk
      obtain rfl : found = some found' := Except.ok.inj (hfound.symm.trans hfound')
      obtain ⟨j, hj, rfl, -⟩ := (strstr_eq_some_iff (by decide)).mp hfound'
      refine ⟨j, hj, ?_⟩
      dsimp only at hr
      split at hr
      · cases hr
      · next hlong =>
          rw [List.length_drop, List.length_set, downFrameSize] at hlong
          rw [downFrameSize]
          omega
    · intro hinside
      by_cases hoccurs : ∃ k, OccursAt frameMark (dmaUsart2Buf.set count 0) k
      · obtain ⟨k, hk⟩ := hoccurs
        obtain ⟨found, hfound⟩ := exists_strstr (by decide) hk
        obtain ⟨first, -, hdrop, hmin⟩ := (strstr_eq_some_iff (by decide)).mp hfound
        obtain ⟨j, hj, hle⟩ := hinside k hk
        have hfirst := hmin j hj
        have hlong : ¬ found.length < downFrameSize := by
          rw [hdrop, List.length_drop, List.length_set]
          rw [downFrameSize] at *
          omega
        exact ⟨crcStatus found, bind_eq_ok_iff.mpr ⟨_, hfound, if_neg hlong⟩⟩
      · have hnone := strstr_eq_none_iff.mpr ⟨hend, fun k hk => hoccurs ⟨k, hk⟩⟩
        exact ⟨_, bind_eq_ok_iff.mpr ⟨_, hnone, rfl⟩⟩
  · simp only [checkReceiveMemory, if_neg hzero, if_pos (Nat.not_lt.mp hlt)]
    constructor
    · rintro ⟨r, ⟨⟩⟩
    · rintro ⟨h, -⟩
      exact absurd h hlt

/-- What was received is an envelope of the module. -/
def WellFormedEnvelope (received : List UInt8) : Prop := ∃ d : Datagram, received = d.bytes

/-- **The receive path stays inside its buffers** for a burst of `count` bytes: the check of a frame and the
parser of an envelope both return, and what is no envelope is answered with no code. -/
def ReceivePathSafe (dmaUsart2Buf : Vector UInt8 200) (count : ℕ) : Prop :=
  (∃ r, checkReceiveMemory dmaUsart2Buf.toList count = .ok r) ∧
    ∃ funId, gprsDownFrameFunId dmaUsart2Buf.toList = .ok funId ∧
      (¬ WellFormedEnvelope (dmaUsart2Buf.toList.take count) → funId = noMatchFunid)

/-- The data of an envelope reach a function code that is known. -/
def EnvelopeCut.NamesCode {memory : List UInt8} (cut : EnvelopeCut memory) : Prop :=
  headerFunId (cut.dataMemory.take (strtol cut.digits)) ∈ knownFunids ∧
    headerFunId (cut.dataMemory.take (strtol cut.digits)) ≠ noMatchFunid

/-- The buffer holds a string without the mark, or an envelope whose tokens fit and which names a code
only if it was received as the module writes it. -/
def EnvelopeInside (dmaUsart2Buf : List UInt8) (count : ℕ) : Prop :=
  (0 ∈ dmaUsart2Buf ∧ ∀ k, ¬ OccursAt (ascii "RECV FROM") dmaUsart2Buf k) ∨
    (∃ k, OccursAt (ascii "RECV FROM") dmaUsart2Buf k) ∧
      ∃ cut : EnvelopeCut dmaUsart2Buf, cut.Fits ∧
        (cut.NamesCode → WellFormedEnvelope (dmaUsart2Buf.take count))

/-- The code that the data of an envelope name. -/
theorem getDownFrameFunId_eq_noMatch_iff (buf : List UInt8) :
    getDownFrameFunId buf = noMatchFunid ↔
      ¬ (headerFunId buf ∈ knownFunids ∧ headerFunId buf ≠ noMatchFunid) := by
  rw [getDownFrameFunId]
  split
  · next hknown => simp [hknown]
  · next hunknown => simp [hunknown]

/-- The result for the data of an envelope that fits. -/
theorem EnvelopeCut.take_recvData {memory : List UInt8} {cut : EnvelopeCut memory}
    (hfits : cut.Fits) :
    cut.result.recvData.take (UInt8.ofNat cut.result.dataLength).toNat =
      cut.dataMemory.take (strtol cut.digits) := by
  have hle := hfits.length_le
  have hbyte : (UInt8.ofNat (strtol cut.digits)).toNat = strtol cut.digits := by
    rw [UInt8.toNat_ofNat']
    omega
  rw [result, hbyte, List.take_take, Nat.min_self]

/-- **When the parser stays in its buffers and answers nothing but envelopes.** -/
theorem gprsDownFrameFunId_iff {dmaUsart2Buf : List UInt8} {count : ℕ} :
    (∃ funId, gprsDownFrameFunId dmaUsart2Buf = .ok funId ∧
      (¬ WellFormedEnvelope (dmaUsart2Buf.take count) → funId = noMatchFunid)) ↔
      EnvelopeInside dmaUsart2Buf count := by
  constructor
  · rintro ⟨funId, hrun, hanswer⟩
    obtain ⟨data, hdata, hfun⟩ := bind_eq_ok_iff.mp hrun
    cases hfun
    rcases analysisDataFromGprs_eq_ok_iff.mp hdata with ⟨hzero, hnot, -⟩ | ⟨hmark, cut, hfits, rfl⟩
    · exact .inl ⟨hzero, hnot⟩
    · refine .inr ⟨hmark, cut, hfits, fun hcode => ?_⟩
      by_contra hmalformed
      have hno := hanswer hmalformed
      rw [EnvelopeCut.take_recvData hfits, getDownFrameFunId_eq_noMatch_iff] at hno
      exact hno hcode
  · rintro (⟨hzero, hnot⟩ | ⟨hmark, cut, hfits, hcode⟩)
    · have hdata := analysisDataFromGprs_eq_ok_iff.mpr (.inl ⟨hzero, hnot, rfl⟩)
      refine ⟨_, bind_eq_ok_iff.mpr ⟨_, hdata, rfl⟩, fun _ => ?_⟩
      decide
    · have hdata := analysisDataFromGprs_eq_ok_iff.mpr (.inr ⟨hmark, cut, hfits, rfl⟩)
      refine ⟨_, bind_eq_ok_iff.mpr ⟨_, hdata, rfl⟩, fun hmalformed => ?_⟩
      rw [EnvelopeCut.take_recvData hfits, getDownFrameFunId_eq_noMatch_iff]
      exact fun hnames => hmalformed (hcode hnames)

/-- **When the receive path is safe**: the burst leaves room for the zero byte behind it and has no start
mark without a whole frame, and the buffer holds no envelope or one whose tokens fit. -/
theorem receivePath_iff (dmaUsart2Buf : Vector UInt8 200) (count : ℕ) :
    ReceivePathSafe dmaUsart2Buf count ↔
      (count = 0 ∨ FrameInside dmaUsart2Buf.toList count) ∧
        EnvelopeInside dmaUsart2Buf.toList count := by
  rw [ReceivePathSafe, checkReceiveMemory_ok_iff, gprsDownFrameFunId_iff]

/-- A burst that fills the buffer makes the check write behind it; an envelope that stops behind the mark
makes the parser copy from a token that is not there. -/
theorem fullBurst_not_receivePathSafe :
    ¬ ReceivePathSafe (Vector.replicate 200 0) 200 ∧
      gprsDownFrameFunId (ascii "RECV FROM:" ++ [0]) = .error .nullPointer := by
  refine ⟨fun hsafe => ?_, by decide⟩
  obtain ⟨hlt, -⟩ := (checkReceiveMemory_ok_iff.mp hsafe.1).resolve_left (by decide)
  rw [Vector.length_toList] at hlt
  exact absurd hlt (lt_irrefl 200)

end RtuShuiwen
