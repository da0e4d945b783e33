import Mathlib.Data.UInt
import Mathlib.Tactic.Common
import RtuShuiwen.Library.CountedLoop

/-! # The FIFOs of the UART expander

`Wk2xxxGetBuf` fetches what has arrived and `Wk2xxxSendBuf` queues what is to be sent, each by a status
register, a level register and a transfer loop. The FIFOs hold 256 bytes, the level registers and the loop
counters have eight bits: **`fifoTransfer_iff`** says for which levels and lengths that is enough. -/

namespace RtuShuiwen

open CountedLoop

/-! ## The chip -/

/-- A FIFO of the chip. -/
structure Fifo where
  bytes : List UInt8
  /-- It holds at most 256 bytes. -/
  fits : bytes.length ≤ 256

/-- Taking the oldest byte out. -/
def Fifo.pop (f : Fifo) : Fifo where
  bytes := f.bytes.tail
  fits := Nat.le_trans (List.tail_sublist f.bytes).length_le f.fits

/-- Putting a byte in; a full FIFO loses it. -/
def Fifo.push (f : Fifo) (b : UInt8) : Fifo where
  bytes := (f.bytes ++ [b]).take 256
  fits := List.length_take_le 256 (f.bytes ++ [b])

/-- One of the chip's UARTs. -/
structure Uart where
  rxFifo : Fifo
  txFifo : Fifo
  /-- The other bits of the status register. -/
  status : UInt8
  /-- What is read from an empty FIFO. -/
  idle : UInt8

/-- `WK2XXX_RDAT`: the receive FIFO is not empty. -/
def wk2xxxRdat : UInt8 := 0x08

/-- `WK2XXX_TFULL`: the transmit FIFO is full. -/
def wk2xxxTfull : UInt8 := 0x02

/-- The register `WK2XXX_FSR`. -/
def Uart.fsr (u : Uart) : UInt8 :=
  (u.status &&& ~~~(wk2xxxRdat ||| wk2xxxTfull)) |||
    (if u.rxFifo.bytes.length = 0 then 0 else wk2xxxRdat) |||
    if u.txFifo.bytes.length = 256 then wk2xxxTfull else 0

/-- The register `WK2XXX_RFCNT`. -/
def Uart.rfcnt (u : Uart) : UInt8 := .ofNat u.rxFifo.bytes.length

/-- The register `WK2XXX_TFCNT`. -/
def Uart.tfcnt (u : Uart) : UInt8 := .ofNat u.txFifo.bytes.length

/-! ## The driver -/

/-- The chip and what has been stored in a buffer: index and byte of every store. -/
structure Transfer where
  uart : Uart
  stores : List (ℕ × UInt8)

/-- The body of the loop of `Wk2xxxReadFifo`. -/
def readFifoBody (n : ℕ) (t : Transfer) : Transfer where
  uart := { t.uart with rxFifo := t.uart.rxFifo.pop }
  stores := t.stores ++ [(n, t.uart.rxFifo.bytes.headD t.uart.idle)]

/-- `Wk2xxxReadFifo`: the loop counts in an `unsigned char`. -/
def wk2xxxReadFifo (fuel : ℕ) (u : Uart) (len : UInt32) : Option Transfer :=
  run (w := 8) readFifoBody len.toNat fuel ⟨u, []⟩

/-- The body of the loop of `Wk2xxxWriteFifo`. -/
def writeFifoBody (wbuf : ℕ → UInt8) (n : ℕ) (u : Uart) : Uart :=
  { u with txFifo := u.txFifo.push (wbuf n) }

/-- `Wk2xxxWriteFifo`: so does this one. -/
def wk2xxxWriteFifo (fuel : ℕ) (u : Uart) (wbuf : ℕ → UInt8) (len : UInt32) : Option Uart :=
  run (w := 8) (writeFifoBody wbuf) len.toNat fuel u

/-- `Wk2xxxGetBuf`. -/
def wk2xxxGetBuf (fuel : ℕ) (u : Uart) : Option (UInt32 × Transfer) :=
  if u.fsr &&& wk2xxxRdat ≠ 0 then
    let rfcnt : UInt32 := if u.rfcnt.toUInt32 = 0 then 256 else u.rfcnt.toUInt32
    (wk2xxxReadFifo fuel u rfcnt).map fun t => (rfcnt, t)
  else some (0, ⟨u, []⟩)

/-- `Wk2xxxSendBuf`: `ret` is what the variable of that name holds before anything is assigned to it. -/
def wk2xxxSendBuf (fuel : ℕ) (ret : UInt32) (u : Uart) (sendbuf : ℕ → UInt8) (len : UInt32) :
    Option (UInt32 × Uart) :=
  if ~~~u.fsr &&& wk2xxxTfull ≠ 0 then
    let sendlen : UInt32 := 256 - u.tfcnt.toUInt32
    if sendlen < len then (wk2xxxWriteFifo fuel u sendbuf sendlen).map fun u => (sendlen, u)
    else (wk2xxxWriteFifo fuel u sendbuf len).map fun u => (len, u)
  else some (ret, u)

/-! ## The property -/

/-- `Wk2xxxGetBuf` comes to an end, returns the fill level and delivers the bytes in order. -/
def Receives (u : Uart) : Prop :=
  ∃ fuel t, wk2xxxGetBuf fuel u = some (.ofNat u.rxFifo.bytes.length, t) ∧
    t.stores = (List.range u.rxFifo.bytes.length).zip u.rxFifo.bytes ∧ t.uart.rxFifo.bytes = []

/-- What `Wk2xxxSendBuf` may queue: as many bytes as there is room for. -/
def roomFor (u : Uart) (len : UInt32) : ℕ := min len.toNat (256 - u.txFifo.bytes.length)

/-- `Wk2xxxSendBuf` comes to an end, returns the number of bytes there is room for and queues these. -/
def Queues (ret : UInt32) (u : Uart) (sendbuf : ℕ → UInt8) (len : UInt32) : Prop :=
  ∃ fuel u', wk2xxxSendBuf fuel ret u sendbuf len = some (.ofNat (roomFor u len), u') ∧
    u'.txFifo.bytes = u.txFifo.bytes ++ (List.range (roomFor u len)).map sendbuf

/-! ## The registers -/

/-- A flag is masked out of each part of a register. -/
theorem or_and_flag (a b flag : UInt8) : (a ||| b) &&& flag = (a &&& flag) ||| (b &&& flag) := by
  apply UInt8.toBitVec_inj.mp
  apply BitVec.eq_of_getLsbD_eq
  intro i hi
  simp [Bool.and_or_distrib_right]

/-- Masking the complement needs the masked bits only. -/
theorem not_and_flag (a flag : UInt8) : ~~~a &&& flag = ~~~(a &&& flag) &&& flag := by
  apply UInt8.toBitVec_inj.mp
  apply BitVec.eq_of_getLsbD_eq
  intro i hi
  simp only [UInt8.toBitVec_and, UInt8.toBitVec_not, BitVec.getLsbD_and, BitVec.getLsbD_not]
  cases a.toBitVec.getLsbD i <;> cases flag.toBitVec.getLsbD i <;> simp

/-- The receive flag. -/
theorem fsr_and_rdat (u : Uart) :
    u.fsr &&& wk2xxxRdat = if u.rxFifo.bytes.length = 0 then 0 else wk2xxxRdat := by
  have hother : ~~~(wk2xxxRdat ||| wk2xxxTfull) &&& wk2xxxRdat = 0 := by decide
  rw [Uart.fsr, or_and_flag, or_and_flag, UInt8.and_assoc, hother, UInt8.and_zero, UInt8.zero_or]
  split <;> split <;> decide

/-- The transmit flag. -/
theorem fsr_and_tfull (u : Uart) :
    u.fsr &&& wk2xxxTfull = if u.txFifo.bytes.length = 256 then wk2xxxTfull else 0 := by
  have hother : ~~~(wk2xxxRdat ||| wk2xxxTfull) &&& wk2xxxTfull = 0 := by decide
  rw [Uart.fsr, or_and_flag, or_and_flag, UInt8.and_assoc, hother, UInt8.and_zero, UInt8.zero_or]
  split <;> split <;> decide

/-- The status register shows whether something has arrived. -/
theorem rdat_iff (u : Uart) : u.fsr &&& wk2xxxRdat ≠ 0 ↔ u.rxFifo.bytes.length ≠ 0 := by
  rw [fsr_and_rdat]
  split
  · next hempty => exact ⟨fun hne => absurd rfl hne, fun hne => absurd hempty hne⟩
  · next hdata => exact ⟨fun _ => hdata, fun _ => by decide⟩

/-- It shows whether something can be sent. -/
theorem tfull_iff (u : Uart) : ~~~u.fsr &&& wk2xxxTfull ≠ 0 ↔ u.txFifo.bytes.length ≠ 256 := by
  rw [not_and_flag, fsr_and_tfull]
  split
  · next hfull => exact ⟨fun hne => absurd (by decide) hne, fun hne => absurd hfull hne⟩
  · next hroom => exact ⟨fun _ => hroom, fun _ => by decide⟩

/-! ## The loops -/

/-- What has been read after `k` turns. -/
theorem work_readFifoBody (u : Uart) {k : ℕ} (hk : k ≤ u.rxFifo.bytes.length) :
    (work readFifoBody k ⟨u, []⟩).stores = (List.range k).zip (u.rxFifo.bytes.take k) ∧
      (work readFifoBody k ⟨u, []⟩).uart.rxFifo.bytes = u.rxFifo.bytes.drop k := by
  induction k with
  | zero => exact ⟨rfl, rfl⟩
  | succ k ih =>
      obtain ⟨hstores, hrest⟩ := ih (Nat.le_of_succ_le hk)
      have hnext : u.rxFifo.bytes.drop k = u.rxFifo.bytes[k] :: u.rxFifo.bytes.drop (k + 1) :=
        List.drop_eq_getElem_cons hk
      have hlength : (List.range k).length = (u.rxFifo.bytes.take k).length := by
        rw [List.length_range, List.length_take, Nat.min_eq_left (Nat.le_of_succ_le hk)]
      rw [work_succ, List.range_succ, List.take_succ_eq_append_getElem hk, List.zip_append hlength, ← hstores]
      constructor
      · show _ ++ [(k, (work readFifoBody k ⟨u, []⟩).uart.rxFifo.bytes.headD _)] = _
        rw [hrest, hnext]
        rfl
      · show (work readFifoBody k ⟨u, []⟩).uart.rxFifo.bytes.tail = _
        rw [hrest, hnext]
        rfl

/-- What has been queued after `k` turns that there was room for. -/
theorem work_writeFifoBody (u : Uart) (wbuf : ℕ → UInt8) {k : ℕ} (hk : u.txFifo.bytes.length + k ≤ 256) :
    (work (writeFifoBody wbuf) k u).txFifo.bytes = u.txFifo.bytes ++ (List.range k).map wbuf := by
  induction k with
  | zero => exact (List.append_nil _).symm
  | succ k ih =>
      have hlength : (u.txFifo.bytes ++ (List.range (k + 1)).map wbuf).length ≤ 256 := by
        rw [List.length_append, List.length_map, List.length_range]
        exact hk
      have hbytes := ih (Nat.le_of_succ_le hk)
      rw [work_succ]
      show ((work (writeFifoBody wbuf) k u).txFifo.bytes ++ [wbuf k]).take 256 = _
      rw [hbytes, List.append_assoc, ← List.map_singleton, ← List.map_append, ← List.range_succ]
      exact List.take_of_length_le hlength

/-! ## Receiving -/

/-- The number of bytes `Wk2xxxGetBuf` asks for is the fill level. -/
theorem rfcnt_eq (u : Uart) (hdata : u.rxFifo.bytes.length ≠ 0) :
    (if u.rfcnt.toUInt32 = 0 then 256 else u.rfcnt.toUInt32) = UInt32.ofNat u.rxFifo.bytes.length := by
  have hfits := u.rxFifo.fits
  have hcount : u.rfcnt.toUInt32.toNat = u.rxFifo.bytes.length % 256 := by
    rw [UInt8.toNat_toUInt32]
    exact UInt8.toNat_ofNat'
  apply UInt32.toNat_inj.mp
  rw [UInt32.toNat_ofNat']
  split
  · next hzero =>
      rw [hzero] at hcount
      have hcount : 0 = u.rxFifo.bytes.length % 256 := hcount
      show 256 = _
      omega
  · next hsome =>
      have hsome : u.rfcnt.toUInt32.toNat ≠ 0 := fun h => hsome (UInt32.toNat_inj.mp h)
      omega

/-- It fits the variable it is put into. -/
theorem toNat_level (u : Uart) : (UInt32.ofNat u.rxFifo.bytes.length).toNat = u.rxFifo.bytes.length := by
  have hfits := u.rxFifo.fits
  rw [UInt32.toNat_ofNat']
  omega

/-- `Wk2xxxGetBuf` on an empty FIFO. -/
theorem wk2xxxGetBuf_of_empty (fuel : ℕ) {u : Uart} (hempty : u.rxFifo.bytes.length = 0) :
    wk2xxxGetBuf fuel u = some (0, ⟨u, []⟩) :=
  if_neg fun hdata => (rdat_iff u).mp hdata hempty

/-- `Wk2xxxGetBuf` on a FIFO with something in it reads as many bytes as there are. -/
theorem wk2xxxGetBuf_of_data (fuel : ℕ) {u : Uart} (hdata : u.rxFifo.bytes.length ≠ 0) :
    wk2xxxGetBuf fuel u = (run (w := 8) readFifoBody u.rxFifo.bytes.length fuel ⟨u, []⟩).map
      fun t => (UInt32.ofNat u.rxFifo.bytes.length, t) := by
  rw [wk2xxxGetBuf, if_pos ((rdat_iff u).mpr hdata), rfcnt_eq u hdata]
  dsimp only
  rw [wk2xxxReadFifo, toNat_level]

/-- **`Wk2xxxGetBuf` works unless the FIFO is full.** -/
theorem receives_iff (u : Uart) : Receives u ↔ u.rxFifo.bytes.length < 256 := by
  by_cases hdata : u.rxFifo.bytes.length = 0
  · refine ⟨fun _ => by omega, fun _ => ⟨0, ⟨u, []⟩, ?_, ?_, List.length_eq_zero_iff.mp hdata⟩⟩
    · rw [wk2xxxGetBuf_of_empty 0 hdata, hdata]
      rfl
    · rw [hdata]
      rfl
  constructor
  · rintro ⟨fuel, t, hreturn, -⟩
    by_contra hfull
    rw [wk2xxxGetBuf_of_data fuel hdata, run_eq_none (Nat.not_lt.mp hfull)] at hreturn
    cases hreturn
  · intro hlt
    obtain ⟨hstores, hrest⟩ := work_readFifoBody u (Nat.le_refl _)
    rw [List.take_length] at hstores
    rw [List.drop_length] at hrest
    refine ⟨u.rxFifo.bytes.length, _, ?_, hstores, hrest⟩
    rw [wk2xxxGetBuf_of_data _ hdata, run_eq_some hlt (Nat.le_refl _)]
    rfl

/-! ## Sending -/

/-- The room that `Wk2xxxSendBuf` computes from the level register of a FIFO that is not full. -/
theorem sendlen_eq (u : Uart) (hroom : u.txFifo.bytes.length ≠ 256) :
    (256 - u.tfcnt.toUInt32 : UInt32).toNat = 256 - u.txFifo.bytes.length := by
  have hfits := u.txFifo.fits
  have hcount : u.tfcnt.toUInt32.toNat = u.txFifo.bytes.length := by
    rw [UInt8.toNat_toUInt32]
    exact UInt8.toNat_ofNat_of_lt' (show _ < 256 by omega)
  have hle : u.tfcnt.toUInt32 ≤ 256 := by
    rw [UInt32.le_iff_toNat_le, hcount]
    exact hfits
  rw [UInt32.toNat_sub_of_le _ _ hle, hcount]
  rfl

/-- Into a FIFO that is not full it writes as much as there is room for. -/
theorem wk2xxxSendBuf_eq (fuel : ℕ) (ret : UInt32) (u : Uart) (sendbuf : ℕ → UInt8) (len : UInt32)
    (hroom : u.txFifo.bytes.length ≠ 256) :
    wk2xxxSendBuf fuel ret u sendbuf len =
      (run (w := 8) (writeFifoBody sendbuf) (roomFor u len) fuel u).map
        fun u' => (UInt32.ofNat (roomFor u len), u') := by
  have hsendlen := sendlen_eq u hroom
  rw [wk2xxxSendBuf, if_pos ((tfull_iff u).mpr hroom)]
  dsimp only
  split
  · next hlt =>
      have hmin : roomFor u len = (256 - u.tfcnt.toUInt32 : UInt32).toNat := by
        rw [UInt32.lt_iff_toNat_lt] at hlt
        rw [roomFor, ← hsendlen]
        omega
      rw [hmin, UInt32.ofNat_toNat]
      rfl
  · next hge =>
      have hmin : roomFor u len = len.toNat := by
        rw [UInt32.lt_iff_toNat_lt] at hge
        rw [roomFor, ← hsendlen]
        omega
      rw [hmin, UInt32.ofNat_toNat]
      rfl

/-- **`Wk2xxxSendBuf` works** unless 256 bytes would go into an empty FIFO, or the FIFO is full and the
variable that is returned happens not to be zero. -/
theorem queues_iff (ret : UInt32) (u : Uart) (sendbuf : ℕ → UInt8) (len : UInt32) :
    Queues ret u sendbuf len ↔
      (u.txFifo.bytes.length = 0 → len.toNat < 256) ∧ (u.txFifo.bytes.length = 256 → ret = 0) := by
  have hfits := u.txFifo.fits
  by_cases hroom : u.txFifo.bytes.length = 256
  · have hfull : ¬ ~~~u.fsr &&& wk2xxxTfull ≠ 0 := fun h => (tfull_iff u).mp h hroom
    have hnone : roomFor u len = 0 := by
      rw [roomFor]
      omega
    have hcall : ∀ fuel, wk2xxxSendBuf fuel ret u sendbuf len = some (ret, u) := fun fuel => if_neg hfull
    constructor
    · rintro ⟨fuel, u', hreturn, -⟩
      rw [hcall, hnone] at hreturn
      refine ⟨fun hempty => by omega, fun _ => ?_⟩
      exact congrArg Prod.fst (Option.some.inj hreturn)
    · rintro ⟨-, hzero⟩
      refine ⟨0, u, ?_, ?_⟩
      · rw [hcall, hnone, hzero hroom]
        rfl
      · rw [hnone]
        exact (List.append_nil _).symm
  constructor
  · rintro ⟨fuel, u', hreturn, -⟩
    refine ⟨fun hempty => ?_, fun hfull => absurd hfull hroom⟩
    by_contra hlen
    have hcount : 2 ^ 8 ≤ roomFor u len := by
      rw [roomFor]
      omega
    rw [wk2xxxSendBuf_eq fuel ret u sendbuf len hroom, run_eq_none hcount] at hreturn
    cases hreturn
  · rintro ⟨hlen, -⟩
    have hcount : roomFor u len < 2 ^ 8 := by
      rw [roomFor]
      by_cases hempty : u.txFifo.bytes.length = 0
      · have hlen := hlen hempty
        omega
      · omega
    have hinside : u.txFifo.bytes.length + roomFor u len ≤ 256 := by
      rw [roomFor]
      omega
    refine ⟨roomFor u len, _, ?_, work_writeFifoBody u sendbuf hinside⟩
    rw [wk2xxxSendBuf_eq _ ret u sendbuf len hroom, run_eq_some hcount (Nat.le_refl _)]
    rfl

/-! ## Both directions -/

/-- **FIFO transfer**: the driver receives what has arrived and queues what there is room for. -/
structure FifoTransfer (ret : UInt32) (u : Uart) (sendbuf : ℕ → UInt8) (len : UInt32) : Prop where
  receives : Receives u
  queues : Queues ret u sendbuf len

/-- **For which levels and lengths the driver transfers**: eight bits are not enough for 256 received
bytes, nor for 256 bytes into an empty FIFO, and the answer for a full FIFO is what happened to be in a
variable. -/
theorem fifoTransfer_iff (ret : UInt32) (u : Uart) (sendbuf : ℕ → UInt8) (len : UInt32) :
    FifoTransfer ret u sendbuf len ↔ u.rxFifo.bytes.length < 256 ∧
      (u.txFifo.bytes.length = 0 → len.toNat < 256) ∧ (u.txFifo.bytes.length = 256 → ret = 0) := by
  rw [← receives_iff, ← queues_iff ret u sendbuf len]
  exact ⟨fun h => ⟨h.receives, h.queues⟩, fun h => ⟨h.1, h.2⟩⟩

/-- A FIFO with a number of bytes in it. -/
def fifoOf (k : ℕ) (hk : k ≤ 256) : Fifo where
  bytes := List.replicate k 0
  fits := by rw [List.length_replicate]; exact hk

/-- A full receive FIFO, 256 bytes into an empty transmit FIFO, and one byte into a full one. -/
theorem not_fifoTransfer :
    ¬ FifoTransfer 0 ⟨fifoOf 256 (by decide), fifoOf 1 (by decide), 0, 0⟩ (fun _ => 0) 1 ∧
      ¬ FifoTransfer 0 ⟨fifoOf 0 (by decide), fifoOf 0 (by decide), 0, 0⟩ (fun _ => 0) 256 ∧
      ¬ FifoTransfer 7 ⟨fifoOf 0 (by decide), fifoOf 256 (by decide), 0, 0⟩ (fun _ => 0) 1 := by
  refine ⟨fun h => ?_, fun h => ?_, fun h => ?_⟩
  · have hlevel := (receives_iff _).mp h.receives
    rw [fifoOf, List.length_replicate] at hlevel
    exact absurd hlevel (by decide)
  · have hlen := ((queues_iff _ _ _ _).mp h.queues).1 List.length_replicate
    exact absurd hlen (by decide)
  · have hret := ((queues_iff _ _ _ _).mp h.queues).2 List.length_replicate
    exact absurd hret (by decide)

end RtuShuiwen
