import RtuShuiwen.Library.CString
import RtuShuiwen.Thread.ReceiveCommand

/-! # What the GPRS module wraps a downlink in

The module hands a datagram on as `RECV FROM:` address `:` port, a line `+IPD` with the length, and the
bytes. `Analysis_Data_FromGPRS` takes this apart with `strtok`, in the receive buffer itself, and copies
the parts into buffers of fixed sizes.

* **`analysisDataFromGprs_eq_ok_iff`**: for which contents of the receive buffer no memory outside the
  buffers is touched and no missing token is used;
* **`datagram_unwrapped_iff`**: which datagrams come out as they were put in: the tokens are texts, so the
  bytes before the first zero must not contain a line end, and must not be empty. -/

namespace RtuShuiwen

open ByteLayout CString

/-! ## The parser -/

/-- The separator before the address and the port. -/
def colon : List UInt8 := [0x3A]

/-- The separators of lines. -/
def crlf : List UInt8 := [0x0D, 0x0A]

/-- The test of `GetIntData_FromString`. -/
def isDigit (b : UInt8) : Bool := 0x30 ≤ b && b ≤ 0x39

/-- The length of `data_buff`. -/
def dataBuffSize : ℕ := 5

/-- The loop of `GetIntData_FromString`: what it puts behind `dataBuff`. -/
def collectDigits : List UInt8 → List UInt8 → Except Fault (List UInt8)
  | [], _ => .error .readOutside
  | b :: buff, dataBuff =>
      if b ≠ 0 then
        if isDigit b then
          if dataBuff.length < dataBuffSize then collectDigits buff (dataBuff ++ [b])
          else .error .writeOutside
        else collectDigits buff dataBuff
      else .ok dataBuff

/-- `strtol` of digits. -/
def strtol (digits : List UInt8) : ℕ :=
  digits.foldl (fun value b => 10 * value + (b.toNat - 0x30)) 0

/-- `GetIntData_FromString`. If `data_buff` is full, no byte of it ends the number. -/
def getIntDataFromString : Pointer → Except Fault ℕ
  | none => .error .nullPointer
  | some buff => do
      let dataBuff ← collectDigits buff []
      if dataBuff.length < dataBuffSize then return strtol dataBuff else throw .readOutside

/-- What `Analysis_Data_FromGPRS` returns and copies. -/
structure GprsData where
  dataLength : ℕ
  ip : List UInt8
  port : List UInt8
  recvData : List UInt8
  deriving DecidableEq

/-- `Analysis_Data_FromGPRS`, for the buffers of its caller: 20 bytes for the address, 10 for the port
and `GPRS_RECEIVE_LEN` for the data. -/
def analysisDataFromGprs (srcBuff : List UInt8) : Except Fault GprsData := do
  match ← CString.strstr (ascii "RECV FROM") srcBuff with
  | none => return ⟨0, [], [], []⟩
  | some _ =>
      let result ← strtok colon srcBuff
      let result ← strtokNext colon result
      let ipInformation ← strcpy 20 (pointer result)
      let result ← strtokNext crlf result
      let port ← strcpy 10 (pointer result)
      let result ← strtokNext crlf result
      let dataLength ← getIntDataFromString (pointer result)
      let result ← strtokNext crlf result
      let recvData ← memcpy 200 (pointer result) dataLength
      return ⟨dataLength, ipInformation, port, recvData⟩

/-- `GetDownFrameFunId` for `SERIAL_2`. The length of the data is kept in a byte. -/
def gprsDownFrameFunId (dmaUsart2Buf : List UInt8) : Except Fault UInt8 := do
  let data ← analysisDataFromGprs dmaUsart2Buf
  return getDownFrameFunId (data.recvData.take (UInt8.ofNat data.dataLength).toNat)

/-! ## Steps of the parser -/

/-- The digits of a token are collected as far as they fit. -/
theorem collectDigits_eq {text : List UInt8} (htext : ∀ b ∈ text, b ≠ 0) (rest : List UInt8) :
    ∀ {dataBuff : List UInt8}, dataBuff.length ≤ dataBuffSize →
      collectDigits (text ++ 0 :: rest) dataBuff =
        if (dataBuff ++ text.filter isDigit).length ≤ dataBuffSize then
          .ok (dataBuff ++ text.filter isDigit)
        else .error .writeOutside := by
  induction text with
  | nil =>
      intro dataBuff hlen
      simp [collectDigits, hlen]
  | cons b text ih =>
      intro dataBuff hlen
      have htail : ∀ b ∈ text, b ≠ 0 := fun c hc => htext c (List.mem_cons_of_mem _ hc)
      rw [List.cons_append, collectDigits, if_pos (htext b List.mem_cons_self)]
      by_cases hdigit : isDigit b
      · rw [if_pos hdigit, List.filter_cons_of_pos hdigit]
        split
        · next hlt =>
            rw [ih htail (by simp only [List.length_append, List.length_singleton]; omega),
              List.append_assoc, List.singleton_append]
        · next hfull =>
            rw [if_neg]
            simp only [List.length_append, List.length_cons]
            omega
      · rw [if_neg hdigit, List.filter_cons_of_neg hdigit, ih htail hlen]

/-- **The number in a token**: it has to have at most four digits. -/
theorem getIntDataFromString_eq_ok_iff {text : List UInt8} (htext : ∀ b ∈ text, b ≠ 0)
    {rest : List UInt8} {n : ℕ} :
    getIntDataFromString (some (text ++ 0 :: rest)) = .ok n ↔
      (text.filter isDigit).length < dataBuffSize ∧ n = strtol (text.filter isDigit) := by
  rw [getIntDataFromString, collectDigits_eq htext rest (Nat.zero_le _), List.nil_append]
  constructor
  · intro h
    obtain ⟨dataBuff, hdigits, hnumber⟩ := bind_eq_ok_iff.mp h
    split at hdigits
    · cases hdigits
      split at hnumber
      · next hlt =>
          cases hnumber
          exact ⟨hlt, rfl⟩
      · cases hnumber
    · cases hdigits
  · rintro ⟨hlt, rfl⟩
    rw [if_pos (Nat.le_of_lt hlt)]
    apply bind_eq_ok_iff.mpr
    exact ⟨_, rfl, if_pos hlt⟩

/-! ## The envelope as it lies in memory -/

/-- The five tokens of an envelope, all of them ended by a separator but perhaps the last. -/
structure EnvelopeCut (memory : List UInt8) where
  mark : List UInt8
  ip : List UInt8
  port : List UInt8
  ipd : List UInt8
  data : List UInt8
  /-- What is skipped before each token. -/
  skipped : Fin 5 → List UInt8
  /-- The byte behind each token. -/
  stop : Fin 5 → UInt8
  /-- The memory behind that. -/
  rest : Fin 5 → List UInt8
  mark_splits : Splits colon memory (skipped 0) mark (stop 0) (rest 0)
  ip_splits : Splits colon (rest 0) (skipped 1) ip (stop 1) (rest 1)
  port_splits : Splits crlf (rest 1) (skipped 2) port (stop 2) (rest 2)
  ipd_splits : Splits crlf (rest 2) (skipped 3) ipd (stop 3) (rest 3)
  data_splits : Splits crlf (rest 3) (skipped 4) data (stop 4) (rest 4)
  stop_ne : ∀ i < 4, stop i ≠ 0

namespace EnvelopeCut

variable {memory : List UInt8} (cut : EnvelopeCut memory)

/-- The digits in the line with the length. -/
def digits : List UInt8 := cut.ipd.filter isDigit

/-- The memory from the data on, when `strtok` has ended the last token. -/
def dataMemory : List UInt8 := cut.data ++ 0 :: cut.rest 4

/-- The tokens fit the buffers that they are copied to, and the data lie in the receive buffer. -/
structure Fits : Prop where
  ip_lt : cut.ip.length < 20
  port_lt : cut.port.length < 10
  digits_lt : cut.digits.length < dataBuffSize
  length_le : strtol cut.digits ≤ 200
  inside : strtol cut.digits ≤ cut.dataMemory.length

/-- What is copied from the envelope. -/
def result : GprsData :=
  ⟨strtol cut.digits, cut.ip, cut.port, cut.dataMemory.take (strtol cut.digits)⟩

end EnvelopeCut

/-- An envelope whose tokens fit is taken apart into them. -/
theorem EnvelopeCut.analysisDataFromGprs_eq {srcBuff : List UInt8} (cut : EnvelopeCut srcBuff)
    (hfits : cut.Fits) {k : ℕ} (hk : OccursAt (ascii "RECV FROM") srcBuff k) :
    analysisDataFromGprs srcBuff = .ok cut.result := by
  obtain ⟨found, hfound⟩ := exists_strstr (by decide) hk
  have hmark := cut.mark_splits.strtok_eq_of_ne (cut.stop_ne 0 (by decide))
  have hip := cut.ip_splits.strtok_eq_of_ne (cut.stop_ne 1 (by decide))
  have hport := cut.port_splits.strtok_eq_of_ne (cut.stop_ne 2 (by decide))
  have hipd := cut.ipd_splits.strtok_eq_of_ne (cut.stop_ne 3 (by decide))
  unfold analysisDataFromGprs
  apply bind_eq_ok_iff.mpr
  refine ⟨_, hfound, bind_eq_ok_iff.mpr ⟨_, hmark, bind_eq_ok_iff.mpr ⟨_, hip, ?_⟩⟩⟩
  -- the address is copied
  apply bind_eq_ok_iff.mpr
  refine ⟨_, (strcpy_token_eq_ok_iff cut.ip_splits.isText).mpr ⟨rfl, hfits.ip_lt⟩, ?_⟩
  -- the port is found and copied
  apply bind_eq_ok_iff.mpr
  refine ⟨_, hport, bind_eq_ok_iff.mpr ⟨_,
    (strcpy_token_eq_ok_iff cut.port_splits.isText).mpr ⟨rfl, hfits.port_lt⟩, ?_⟩⟩
  -- the length is found and read
  apply bind_eq_ok_iff.mpr
  refine ⟨_, hipd, bind_eq_ok_iff.mpr ⟨_,
    (getIntDataFromString_eq_ok_iff cut.ipd_splits.isText.ne_zero).mpr
      ⟨hfits.digits_lt, rfl⟩, ?_⟩⟩
  -- the data are found and copied
  apply bind_eq_ok_iff.mpr
  refine ⟨_, cut.data_splits.strtok_eq, bind_eq_ok_iff.mpr ⟨_, memcpy_eq_ok_iff.mpr
    ⟨_, rfl, hfits.inside, hfits.length_le, rfl⟩, rfl⟩⟩

/-- What is taken apart behind the mark is an envelope whose tokens fit. -/
theorem exists_envelopeCut {srcBuff found : List UInt8} {data : GprsData}
    (hfound : CString.strstr (ascii "RECV FROM") srcBuff = .ok (some found))
    (h : analysisDataFromGprs srcBuff = .ok data) :
    ∃ cut : EnvelopeCut srcBuff, cut.Fits ∧ data = cut.result := by
  unfold analysisDataFromGprs at h
  rw [hfound] at h
  obtain ⟨_, ⟨⟩, h⟩ := bind_eq_ok_iff.mp h
  obtain ⟨token₀, hmark, h⟩ := bind_eq_ok_iff.mp h
  obtain ⟨token₁, hip, h⟩ := bind_eq_ok_iff.mp h
  obtain ⟨ip, hipCopy, h⟩ := bind_eq_ok_iff.mp h
  obtain ⟨token₂, hport, h⟩ := bind_eq_ok_iff.mp h
  obtain ⟨port, hportCopy, h⟩ := bind_eq_ok_iff.mp h
  obtain ⟨token₃, hipd, h⟩ := bind_eq_ok_iff.mp h
  obtain ⟨dataLength, hlength, h⟩ := bind_eq_ok_iff.mp h
  obtain ⟨token₄, hdata, h⟩ := bind_eq_ok_iff.mp h
  obtain ⟨recvData, hrecv, h⟩ := bind_eq_ok_iff.mp h
  cases h
  -- every token but the first is used, so it is there, and the one before it ended at a separator
  obtain ⟨t₁, rfl⟩ := exists_of_strcpy hipCopy
  obtain ⟨s₀, mark, stop₀, rest₀, hsplits₀, hstop₀, -, hip⟩ :=
    splits_of_strtokNext (by decide) hmark hip
  obtain ⟨t₂, rfl⟩ := exists_of_strcpy hportCopy
  obtain ⟨s₁, text₁, stop₁, rest₁, hsplits₁, hstop₁, htoken₁, hport⟩ :=
    splits_of_strtokNext (by decide) hip hport
  obtain ⟨t₃, rfl⟩ : ∃ t, token₃ = some t := by
    cases token₃ with
    | none => cases hlength
    | some t => exact ⟨t, rfl⟩
  obtain ⟨s₂, text₂, stop₂, rest₂, hsplits₂, hstop₂, htoken₂, hipd⟩ :=
    splits_of_strtokNext (by decide) hport hipd
  obtain ⟨memory, hpointer, hinside, hsize, rfl⟩ := memcpy_eq_ok_iff.mp hrecv
  obtain ⟨t₄, rfl, rfl⟩ := Option.map_eq_some_iff.mp hpointer
  obtain ⟨s₃, text₃, stop₃, rest₃, hsplits₃, hstop₃, htoken₃, hdata⟩ :=
    splits_of_strtokNext (by decide) hipd hdata
  obtain ⟨s₄, stop₄, rest₄, hsplits₄, hmemory₄, -⟩ := strtok_eq_some_iff.mp hdata
  -- so the copies tell how long the tokens are
  rw [htoken₁, pointer, Option.map_some, strcpy_token_eq_ok_iff hsplits₁.isText] at hipCopy
  rw [htoken₂, pointer, Option.map_some, strcpy_token_eq_ok_iff hsplits₂.isText] at hportCopy
  rw [htoken₃, pointer, Option.map_some,
    getIntDataFromString_eq_ok_iff hsplits₃.isText.ne_zero] at hlength
  obtain ⟨rfl, hipLt⟩ := hipCopy
  obtain ⟨rfl, hportLt⟩ := hportCopy
  obtain ⟨hdigits, rfl⟩ := hlength
  rw [hmemory₄] at hinside
  have hstops : ∀ i < 4, (![stop₀, stop₁, stop₂, stop₃, stop₄] : Fin 5 → UInt8) i ≠ 0 := by
    intro i hi
    match i with
    | 0 => exact hstop₀
    | 1 => exact hstop₁
    | 2 => exact hstop₂
    | 3 => exact hstop₃
  refine ⟨⟨mark, _, _, text₃, t₄.text, ![s₀, s₁, s₂, s₃, s₄],
    ![stop₀, stop₁, stop₂, stop₃, stop₄], ![rest₀, rest₁, rest₂, rest₃, rest₄], hsplits₀,
    hsplits₁, hsplits₂, hsplits₃, hsplits₄, hstops⟩,
    ⟨hipLt, hportLt, hdigits, hsize, hinside⟩, ?_⟩
  rw [hmemory₄]
  rfl

/-- **When `Analysis_Data_FromGPRS` returns**: the buffer holds a string without the mark, or an envelope
whose tokens fit. -/
theorem analysisDataFromGprs_eq_ok_iff {srcBuff : List UInt8} {data : GprsData} :
    analysisDataFromGprs srcBuff = .ok data ↔
      (0 ∈ srcBuff ∧ (∀ k, ¬ OccursAt (ascii "RECV FROM") srcBuff k) ∧ data = ⟨0, [], [], []⟩) ∨
        (∃ k, OccursAt (ascii "RECV FROM") srcBuff k) ∧
          ∃ cut : EnvelopeCut srcBuff, cut.Fits ∧ data = cut.result := by
  constructor
  · intro h
    obtain ⟨found, hfound, hrest⟩ := bind_eq_ok_iff.mp h
    cases found with
    | none =>
        cases hrest
        obtain ⟨hzero, hnot⟩ := strstr_eq_none_iff.mp hfound
        exact .inl ⟨hzero, hnot, rfl⟩
    | some found =>
        obtain ⟨k, hk, -⟩ := (strstr_eq_some_iff (by decide)).mp hfound
        exact .inr ⟨⟨k, hk⟩, exists_envelopeCut hfound h⟩
  · rintro (⟨hzero, hnot, rfl⟩ | ⟨⟨k, hk⟩, cut, hfits, rfl⟩)
    · rw [analysisDataFromGprs, strstr_eq_none_iff.mpr ⟨hzero, hnot⟩]
      rfl
    · exact cut.analysisDataFromGprs_eq hfits hk

/-! ## The envelope as the module writes it -/

/-- The decimal digits of a number. -/
def decimal (n : ℕ) : List UInt8 :=
  if n = 0 then [0x30] else (Nat.digits 10 n).reverse.map fun d => .ofNat (0x30 + d)

/-- A decimal digit is written as a digit. -/
theorem toNat_digit {d : ℕ} (hd : d < 10) : (UInt8.ofNat (0x30 + d)).toNat = 0x30 + d := by
  rw [UInt8.toNat_ofNat']
  omega

/-- A number is written in digits. -/
theorem isDigit_of_mem_decimal {n : ℕ} : ∀ b ∈ decimal n, isDigit b := by
  intro b hb
  rw [decimal] at hb
  split at hb
  · rw [List.mem_singleton.mp hb]
    rfl
  · obtain ⟨d, hd, rfl⟩ := List.mem_map.mp hb
    have hlt : d < 10 := Nat.digits_lt_base (by decide) (List.mem_reverse.mp hd)
    simp only [isDigit, Bool.and_eq_true, decide_eq_true_eq, UInt8.le_iff_toNat_le, toNat_digit hlt]
    exact ⟨Nat.le_add_right _ _, by simp; omega⟩

/-- **A number is read as it was written.** -/
theorem strtol_decimal (n : ℕ) : strtol (decimal n) = n := by
  rw [decimal]
  split
  · next hzero => rw [hzero]; rfl
  · have hdigits : ∀ digits : List ℕ, (∀ d ∈ digits, d < 10) →
        digits.foldr (fun d value => 10 * value + ((UInt8.ofNat (0x30 + d)).toNat - 0x30)) 0 =
          Nat.ofDigits 10 digits := by
      intro digits hlt
      induction digits with
      | nil => rfl
      | cons d digits ih =>
          rw [List.foldr_cons, ih fun e he => hlt e (List.mem_cons_of_mem _ he),
            toNat_digit (hlt d List.mem_cons_self), Nat.ofDigits_cons]
          omega
    rw [strtol, List.foldl_map, List.foldl_reverse,
      hdigits _ fun d hd => Nat.digits_lt_base (by decide) hd, Nat.ofDigits_digits]

/-- A number of three digits. -/
theorem length_decimal_le {n : ℕ} (h : n < 1000) : (decimal n).length ≤ 3 := by
  rw [decimal]
  split
  · decide
  · rw [List.length_map, List.length_reverse]
    exact (Nat.digits_length_le_iff (by decide) n).mpr h

/-- A datagram as it comes in: the address of the sender, its port in decimal digits, and the bytes. -/
structure Datagram where
  quad : Fin 4 → UInt8
  port : List UInt8
  payload : List UInt8
  port_ne : port ≠ []
  port_digits : ∀ b ∈ port, isDigit b

namespace Datagram

variable (d : Datagram)

/-- The address as a dotted quad. -/
def ip : List UInt8 :=
  decimal (d.quad 0).toNat ++ 0x2E :: (decimal (d.quad 1).toNat ++ 0x2E ::
    (decimal (d.quad 2).toNat ++ 0x2E :: decimal (d.quad 3).toNat))

/-- The line with the length, without its end. -/
def ipd : List UInt8 := ascii "+IPD" ++ decimal d.payload.length

/-- What the module sends to the station for it. -/
def bytes : List UInt8 :=
  ascii "RECV FROM:" ++ d.ip ++ ascii ":" ++ d.port ++ crlf ++ d.ipd ++ crlf ++ d.payload

/-- The address is written in digits and dots. -/
theorem mem_ip {b : UInt8} (hb : b ∈ d.ip) : isDigit b ∨ b = 0x2E := by
  simp only [ip, List.mem_append, List.mem_cons] at hb
  rcases hb with h | h | h | h | h | h | h
  · exact .inl (isDigit_of_mem_decimal b h)
  · exact .inr h
  · exact .inl (isDigit_of_mem_decimal b h)
  · exact .inr h
  · exact .inl (isDigit_of_mem_decimal b h)
  · exact .inr h
  · exact .inl (isDigit_of_mem_decimal b h)

/-- The address fits its buffer. -/
theorem length_ip_lt : d.ip.length < 20 := by
  have hlen : ∀ i, (decimal (d.quad i).toNat).length ≤ 3 := fun i => by
    have hlt := (d.quad i).toNat_lt
    exact length_decimal_le (by omega)
  have h₀ := hlen 0
  have h₁ := hlen 1
  have h₂ := hlen 2
  have h₃ := hlen 3
  simp only [ip, List.length_append, List.length_cons]
  omega

end Datagram

/-- Neither separator is a digit. -/
theorem not_isDigit_of_mem_colon : ∀ b ∈ colon, ¬ isDigit b := by simp [colon, isDigit]

/-- No line end is a digit. -/
theorem not_isDigit_of_mem_crlf : ∀ b ∈ crlf, ¬ isDigit b := by simp [crlf, isDigit]

/-- A digit is no separator. -/
theorem inToken_of_isDigit {delim : List UInt8} (hdelim : ∀ b ∈ delim, ¬ isDigit b) {b : UInt8}
    (hb : isDigit b) : inToken delim b := by
  rw [inToken, decide_eq_true_eq]
  refine ⟨?_, fun hmem => hdelim b hmem hb⟩
  rintro rfl
  cases hb

namespace Datagram

variable (d : Datagram) (rest : List UInt8)

/-- The memory from the line end before the payload on. -/
def payloadMemory : List UInt8 := 0x0A :: (d.payload ++ rest)

/-- The memory from the line with the length on. -/
def ipdMemory : List UInt8 := 0x0A :: (d.ipd ++ 0x0D :: d.payloadMemory rest)

/-- The memory from the port on. -/
def portMemory : List UInt8 := d.port ++ 0x0D :: d.ipdMemory rest

/-- The memory from the address on. -/
def ipMemory : List UInt8 := d.ip ++ 0x3A :: d.portMemory rest

/-- The mark is the first token. -/
theorem splits_mark :
    Splits colon (d.bytes ++ rest) [] (ascii "RECV FROM") 0x3A (d.ipMemory rest) where
  memory_eq := by
    simp only [bytes, ipMemory, portMemory, ipdMemory, payloadMemory, crlf, ascii]
    simp
  skipped_mem := by simp
  isText := by decide
  stop_mem := by decide

/-- The address is the second. -/
theorem splits_ip : Splits colon (d.ipMemory rest) [] d.ip 0x3A (d.portMemory rest) where
  memory_eq := rfl
  skipped_mem := by simp
  isText := by
    refine ⟨by simp [ip], fun b hb => ?_⟩
    rcases d.mem_ip hb with hdigit | rfl
    · exact inToken_of_isDigit not_isDigit_of_mem_colon hdigit
    · decide
  stop_mem := by decide

/-- The port is the third. -/
theorem splits_port : Splits crlf (d.portMemory rest) [] d.port 0x0D (d.ipdMemory rest) where
  memory_eq := rfl
  skipped_mem := by simp
  isText := ⟨d.port_ne, fun b hb =>
    inToken_of_isDigit not_isDigit_of_mem_crlf (d.port_digits b hb)⟩
  stop_mem := by decide

/-- The line with the length is the fourth, behind the rest of the line end before it. -/
theorem splits_ipd :
    Splits crlf (d.ipdMemory rest) [0x0A] d.ipd 0x0D (d.payloadMemory rest) where
  memory_eq := rfl
  skipped_mem := by simp [crlf]
  isText := by
    refine ⟨by simp [ipd, ascii], fun b hb => ?_⟩
    rcases List.mem_append.mp hb with hname | hdigit
    · have htext : ∀ b ∈ ascii "+IPD", inToken crlf b := by simp [ascii, inToken, crlf]
      exact htext b hname
    · exact inToken_of_isDigit not_isDigit_of_mem_crlf (isDigit_of_mem_decimal b hdigit)
  stop_mem := by decide

/-- The digits of that line are those of the length. -/
theorem filter_ipd : d.ipd.filter isDigit = decimal d.payload.length := by
  have hname : (ascii "+IPD").filter isDigit = [] := by decide
  rw [ipd, List.filter_append, hname, List.nil_append, List.filter_eq_self]
  exact isDigit_of_mem_decimal

/-- The datagram starts with the mark. -/
theorem occursAt_mark : OccursAt (ascii "RECV FROM") (d.bytes ++ rest) 0 := by
  rw [occursAt_zero, (d.splits_mark rest).memory_eq, List.nil_append]
  exact List.prefix_append _ _

/-- However it is cut, the first four tokens are those. -/
theorem rest_cut (cut : EnvelopeCut (d.bytes ++ rest)) : cut.rest 3 = d.payloadMemory rest := by
  have hmark := cut.mark_splits.unique (d.splits_mark rest) (cut.stop_ne 0 (by decide)) (by decide)
  have hip := cut.ip_splits
  rw [hmark.2] at hip
  have hip := hip.unique (d.splits_ip rest) (cut.stop_ne 1 (by decide)) (by decide)
  have hport := cut.port_splits
  rw [hip.2] at hport
  have hport := hport.unique (d.splits_port rest) (cut.stop_ne 2 (by decide)) (by decide)
  have hipd := cut.ipd_splits
  rw [hport.2] at hipd
  exact (hipd.unique (d.splits_ipd rest) (cut.stop_ne 3 (by decide)) (by decide)).2

variable {rest} {skipped data rest' : List UInt8} {stop : UInt8}

/-- The cut with a last token behind the line end. -/
def cut (hsplits : Splits crlf (d.payload ++ rest) skipped data stop rest') :
    EnvelopeCut (d.bytes ++ rest) where
  mark := ascii "RECV FROM"
  ip := d.ip
  port := d.port
  ipd := d.ipd
  data := data
  skipped := ![[], [], [], [0x0A], 0x0A :: skipped]
  stop := ![0x3A, 0x3A, 0x0D, 0x0D, stop]
  rest := ![d.ipMemory rest, d.portMemory rest, d.ipdMemory rest, d.payloadMemory rest, rest']
  mark_splits := d.splits_mark rest
  ip_splits := d.splits_ip rest
  port_splits := d.splits_port rest
  ipd_splits := d.splits_ipd rest
  data_splits := (splits_cons_iff (List.mem_cons_of_mem _ List.mem_cons_self)).mpr ⟨skipped, rfl, hsplits⟩
  stop_ne := by
    intro i hi
    match i with
    | 0 | 1 => exact (by decide : (0x3A : UInt8) ≠ 0)
    | 2 | 3 => exact (by decide : (0x0D : UInt8) ≠ 0)

/-- Its length is the one that was written. -/
theorem strtol_digits_cut (hsplits : Splits crlf (d.payload ++ rest) skipped data stop rest') :
    strtol (d.cut hsplits).digits = d.payload.length := by
  rw [EnvelopeCut.digits, cut, d.filter_ipd, strtol_decimal]

/-- It fits if the port does and the data lie in the buffer. -/
theorem fits_cut (hsplits : Splits crlf (d.payload ++ rest) skipped data stop rest')
    (hport : d.port.length < 10) (hle : d.payload.length ≤ 150)
    (hinside : d.payload.length ≤ (data ++ 0 :: rest').length) : (d.cut hsplits).Fits where
  ip_lt := d.length_ip_lt
  port_lt := hport
  digits_lt := by
    have hthree := length_decimal_le (n := d.payload.length) (by omega)
    rw [EnvelopeCut.digits, cut, d.filter_ipd, dataBuffSize]
    omega
  length_le := by
    rw [strtol_digits_cut]
    omega
  inside := by
    rw [strtol_digits_cut]
    exact hinside

end Datagram

/-- The datagram comes out as it was put in, whatever it is made of and what lies behind it in the
buffer. -/
def Unwrapped (d : Datagram) (rest : List UInt8) : Prop :=
  analysisDataFromGprs (d.bytes ++ rest) = .ok ⟨d.payload.length, d.ip, d.port, d.payload⟩

/-- The bytes of a datagram are found as a token and left as they are: those before the first zero byte
are a text, and the end of the token is found before that of the buffer. -/
def PayloadFound (payload rest : List UInt8) : Prop :=
  IsText crlf (payload.takeWhile (· ≠ 0)) ∧ (0 ∈ payload ∨ ∃ b ∈ rest, inToken crlf b = false)

instance (payload rest : List UInt8) : Decidable (PayloadFound payload rest) :=
  decidable_of_iff (IsText crlf (payload.takeWhile (· ≠ 0)) ∧
    (0 ∈ payload ∨ rest.any (fun b => !inToken crlf b) = true)) (by simp [PayloadFound])

/-- A datagram that comes out is one whose bytes are the start of the last token and of what the end of
it has left. -/
theorem unwrapped_iff_splits (d : Datagram) (rest : List UInt8) (hle : d.payload.length ≤ 150) :
    Unwrapped d rest ↔ d.port.length < 10 ∧
      ∃ skipped data stop rest', Splits crlf (d.payload ++ rest) skipped data stop rest' ∧
        d.payload.length ≤ (data ++ 0 :: rest').length ∧
          (data ++ 0 :: rest').take d.payload.length = d.payload := by
  rw [Unwrapped, analysisDataFromGprs_eq_ok_iff]
  constructor
  · rintro (⟨-, hnot, -⟩ | ⟨-, cut, hfits, hresult⟩)
    · exact absurd (d.occursAt_mark rest) (hnot 0)
    · simp only [EnvelopeCut.result, GprsData.mk.injEq] at hresult
      obtain ⟨hlength, -, hport, hdata⟩ := hresult
      have hlast := cut.data_splits
      rw [d.rest_cut] at hlast
      -- the line end before the payload is skipped
      obtain ⟨skipped, -, hsplits⟩ := (splits_cons_iff (by simp [crlf])).mp hlast
      refine ⟨hport ▸ hfits.port_lt, _, _, _, _, hsplits, ?_, ?_⟩
      · rw [hlength]
        exact hfits.inside
      · rw [hlength, EnvelopeCut.dataMemory] at *
        exact hdata.symm
  · rintro ⟨hport, skipped, data, stop, rest', hsplits, hinside, hdata⟩
    refine .inr ⟨⟨0, d.occursAt_mark rest⟩, d.cut hsplits, d.fits_cut hsplits hport hle hinside, ?_⟩
    rw [EnvelopeCut.result, d.strtol_digits_cut, EnvelopeCut.dataMemory]
    exact congrArg _ hdata.symm

/-- The start of the last token can only be the payload if nothing was skipped before it. -/
theorem payloadFound_of_splits {payload rest skipped data rest' : List UInt8} {stop : UInt8}
    (hpos : 1 ≤ payload.length) (hsplits : Splits crlf (payload ++ rest) skipped data stop rest')
    (hdata : (data ++ 0 :: rest').take payload.length = payload) : PayloadFound payload rest := by
  have hskipped : skipped = [] := by
    -- the first byte of the token is the first byte of the datagram
    obtain ⟨first, data', rfl⟩ := List.exists_cons_of_ne_nil hsplits.isText.1
    obtain ⟨b, payload', rfl⟩ := List.exists_cons_of_length_pos hpos
    have hsame : first = b := by simpa using congrArg List.head? hdata
    have hfirst := hsplits.isText.2 first List.mem_cons_self
    simp only [inToken, decide_eq_true_eq, hsame] at hfirst
    exact Splits.skipped_eq_nil hsplits hfirst.2
  obtain ⟨hmemory, -, htext, hstop⟩ := hsplits
  rw [hskipped, List.nil_append] at hmemory
  rcases List.append_eq_append_iff.mp hmemory with ⟨more, hmore, hrest⟩ | ⟨more, hmore, hrest⟩
  · -- the token goes beyond the datagram
    have hzero : ∀ b ∈ payload, b ≠ 0 := fun b hb => htext.ne_zero b (by rw [hmore]; simp [hb])
    refine ⟨?_, .inr ⟨stop, by rw [hrest]; simp, hstop⟩⟩
    rw [List.takeWhile_eq_self_iff.mpr (by simpa using hzero)]
    exact ⟨List.ne_nil_of_length_pos hpos, fun b hb => htext.2 b (by rw [hmore]; simp [hb])⟩
  · cases more with
    | nil =>
        -- it is the datagram
        rw [List.append_nil] at hmore
        rw [List.nil_append] at hrest
        rw [hmore, PayloadFound, List.takeWhile_eq_self_iff.mpr (by simpa using htext.ne_zero)]
        exact ⟨htext, .inr ⟨stop, by rw [← hrest]; simp, hstop⟩⟩
    | cons b more =>
        -- it ends in the datagram, at a byte that is overwritten with zero
        simp only [List.cons_append, List.cons.injEq] at hrest
        obtain ⟨rfl, hrest⟩ := hrest
        have hlen : payload.length = data.length + (more.length + 1) := by
          rw [hmore, List.length_append, List.length_cons]
        rw [hlen, List.take_length_add_append, hmore, List.take_succ_cons] at hdata
        have hzero := List.append_cancel_left hdata
        rw [List.cons.injEq] at hzero
        rw [hmore, ← hzero.1]
        refine ⟨?_, .inl (by simp)⟩
        rwa [takeWhile_append_cons (by simpa using htext.ne_zero) (by simp)]

/-- A payload that is found is the start of the last token. -/
theorem PayloadFound.exists_splits {payload rest : List UInt8} (h : PayloadFound payload rest) :
    ∃ data stop rest', Splits crlf (payload ++ rest) [] data stop rest' ∧
      payload.length ≤ (data ++ 0 :: rest').length ∧
        (data ++ 0 :: rest').take payload.length = payload := by
  obtain ⟨htext, hend⟩ := h
  by_cases hzero : 0 ∈ payload
  · -- the first zero byte ends the token
    obtain ⟨stop, tail, hsplit, hstop⟩ :=
      exists_stop (p := fun b => decide (b ≠ 0)) ⟨0, hzero, by simp⟩
    have hstop : stop = 0 := by simpa using hstop
    rw [hstop] at hsplit
    generalize payload.takeWhile (fun b => decide (b ≠ 0)) = front at *
    refine ⟨front, 0, tail ++ rest, ⟨?_, by simp, htext, by simp [inToken]⟩, ?_, ?_⟩
    · rw [hsplit, List.nil_append, List.append_assoc, List.cons_append]
    · simp only [hsplit, List.length_append, List.length_cons]
      omega
    · rw [← List.cons_append, ← List.append_assoc, ← hsplit, List.take_left]
  · -- the token is the datagram and what follows it up to the end of the string
    obtain ⟨stop, tail, hsplit, hstop⟩ := exists_stop (hend.resolve_left hzero)
    have hfront : payload.takeWhile (fun b => decide (b ≠ 0)) = payload := by
      rw [List.takeWhile_eq_self_iff]
      intro b hb
      rw [decide_eq_true_eq]
      rintro rfl
      exact hzero hb
    rw [hfront] at htext
    refine ⟨payload ++ rest.takeWhile (inToken crlf), stop, tail,
      ⟨?_, by simp, ⟨?_, ?_⟩, hstop⟩, ?_, ?_⟩
    · rw [List.nil_append, List.append_assoc, ← hsplit]
    · exact List.append_ne_nil_of_left_ne_nil htext.1 _
    · intro b hb
      rcases List.mem_append.mp hb with hpayload | hrest
      · exact htext.2 b hpayload
      · exact List.mem_takeWhile_imp hrest
    · simp only [List.length_append]
      omega
    · rw [List.append_assoc, List.take_left]

/-- **Which bytes the last token leaves as they are.** -/
theorem splits_payload_iff {payload rest : List UInt8} (hpos : 1 ≤ payload.length) :
    (∃ skipped data stop rest', Splits crlf (payload ++ rest) skipped data stop rest' ∧
      payload.length ≤ (data ++ 0 :: rest').length ∧
        (data ++ 0 :: rest').take payload.length = payload) ↔ PayloadFound payload rest := by
  constructor
  · rintro ⟨skipped, data, stop, rest', hsplits, -, hdata⟩
    exact payloadFound_of_splits hpos hsplits hdata
  · intro hfound
    obtain ⟨data, stop, rest', hsplits⟩ := hfound.exists_splits
    exact ⟨[], data, stop, rest', hsplits⟩

/-- **Which datagrams come out as they were put in**: those with a port number of at most nine digits
whose bytes are found as a token and left as they are. -/
theorem datagram_unwrapped_iff (d : Datagram) (rest : List UInt8) (hpos : 1 ≤ d.payload.length)
    (hle : d.payload.length ≤ 150) :
    Unwrapped d rest ↔ d.port.length < 10 ∧ PayloadFound d.payload rest := by
  rw [unwrapped_iff_splits d rest hle, splits_payload_iff hpos]

/-- A datagram of the start mark and a zero byte comes out. -/
def markDatagram : Datagram where
  quad := ![10, 0, 0, 1]
  port := [0x35, 0x30]
  payload := [0x7E, 0x7E, 0x00]
  port_ne := by decide
  port_digits := by simp [isDigit]

theorem markDatagram_unwrapped : Unwrapped markDatagram [] :=
  (datagram_unwrapped_iff markDatagram [] (by decide) (by decide)).mpr (by decide)

/-- A datagram with a line end in it. -/
def lineDatagram : Datagram := { markDatagram with payload := [0x7E, 0x7E, 0x0D, 0x38] }

/-- Its line end is overwritten. -/
theorem lineDatagram_not_unwrapped : ¬ Unwrapped lineDatagram (List.replicate 150 0) := by
  intro h
  have hsplits := ((unwrapped_iff_splits lineDatagram _ (by decide)).mp h).2
  exact absurd ((splits_payload_iff (by decide)).mp hsplits) (by decide)

end RtuShuiwen
