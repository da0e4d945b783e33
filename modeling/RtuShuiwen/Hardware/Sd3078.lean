import RtuShuiwen.Library.CellMemory
import RtuShuiwen.Library.I2cBus
import RtuShuiwen.Library.TransitionSystem
import RtuShuiwen.Hardware.Alarm

/-! # The driver of the SD3078 clock

`sd3078rtc.c` drives the two wires of the clock chip bit by bit. Its functions are modelled down to the
edges of the wires (`I2Cdelay` is left out), against a chip of registers that the bus library describes.

* **`serialTransfers_rest`**: what comes of a transfer, register by register, for the clock and for a chip
  that is not there, whatever its length;
* **`driver_run`**: over whole runs of driver calls, mixed with what the chip does on its own, the bus is at
  rest between two calls, the chip is write-protected, and `RTC_ReadDate` delivers the date of the chip. -/

namespace RtuShuiwen

open CellMemory I2cBus TransitionSystem

/-! ## Registers -/

/-- `RTC_Address`. -/
def rtcAddress : UInt8 := 0x64

/-- `Alarm_SC`. -/
def alarmSc : UInt8 := 0x07

/-- `CTR1`. -/
def ctr1 : UInt8 := 0x0F

/-- `CTR2`. -/
def ctr2 : UInt8 := 0x10

/-- `Bat_H8`. -/
def batH8 : UInt8 := 0x1A

variable {ρ : Type} (chip : RegisterChip ρ)

/-! ## The wires -/

/-- `SCL_H`. -/
def sclH (b : Bus ρ) : Bus ρ := b.setScl chip true

/-- `SCL_L`. -/
def sclL (b : Bus ρ) : Bus ρ := b.setScl chip false

/-- `SDA_H`. -/
def sdaH (b : Bus ρ) : Bus ρ := b.setSda true

/-- `SDA_L`. -/
def sdaL (b : Bus ρ) : Bus ρ := b.setSda false

/-- `SDA_read`. -/
def sdaRead (b : Bus ρ) : Bool := b.line

/-- `I2CStart`. -/
def i2cStart (b : Bus ρ) : Bool × Bus ρ :=
  let b := sclH chip (sdaH b)
  -- a line that stays low is held by somebody else
  if !sdaRead b then (false, b) else (true, sclL chip (sdaL b))

/-- `I2CStop`. -/
def i2cStop (b : Bus ρ) : Bus ρ := sdaH (sclH chip (sdaL (sclL chip b)))

/-- `I2CAck`. -/
def i2cAck (b : Bus ρ) : Bus ρ := sclL chip (sclH chip (sdaL (sclL chip b)))

/-- `I2CNoAck`. -/
def i2cNoAck (b : Bus ρ) : Bus ρ := sclL chip (sclH chip (sdaH (sclL chip b)))

/-- `I2CWaitAck`. -/
def i2cWaitAck (b : Bus ρ) : Bool × Bus ρ :=
  let b := sclH chip (sdaH (sclL chip b))
  if sdaRead b then (false, sclL chip b) else (true, sclL chip b)

/-- The loop of `I2CSendByte`. -/
def i2cSendByteLoop : ℕ → UInt8 → Bus ρ → Bus ρ
  | 0, _, b => b
  | i + 1, sendByte, b =>
      let b := sclL chip b
      let b := if sendByte &&& 0x80 ≠ 0 then sdaH b else sdaL b
      i2cSendByteLoop i (sendByte <<< 1) (sclH chip b)

/-- `I2CSendByte`. -/
def i2cSendByte (sendByte : UInt8) (b : Bus ρ) : Bus ρ := sclL chip (i2cSendByteLoop chip 8 sendByte b)

/-- The loop of `I2CReceiveByte`. -/
def i2cReceiveByteLoop : ℕ → UInt8 → Bus ρ → UInt8 × Bus ρ
  | 0, receiveByte, b => (receiveByte, b)
  | i + 1, receiveByte, b =>
      let receiveByte := receiveByte <<< 1
      let b := sclH chip (sclL chip b)
      i2cReceiveByteLoop i (if sdaRead b then receiveByte ||| 0x1 else receiveByte) b

/-- `I2CReceiveByte`. -/
def i2cReceiveByte (b : Bus ρ) : UInt8 × Bus ρ :=
  let answer := i2cReceiveByteLoop chip 8 0 (sdaH b)
  (answer.1, sclL chip answer.2)

/-! ## Transfers -/

/-- `I2CSendByte` and the `I2CWaitAck` behind it. -/
def sendByteWait (v : UInt8) (b : Bus ρ) : Bool × Bus ρ := i2cWaitAck chip (i2cSendByte chip v b)

/-- Several of them whose answers are not looked at. -/
def sendBytesWait (vs : List UInt8) (b : Bus ρ) : Bus ρ :=
  vs.foldl (fun b v => (sendByteWait chip v b).2) b

/-- `I2CReceiveByte` and the `I2CAck` behind it, `n` times. -/
def receiveBytesAck : ℕ → Bus ρ → List UInt8 × Bus ρ
  | 0, b => ([], b)
  | n + 1, b =>
      let v := i2cReceiveByte chip b
      let rest := receiveBytesAck n (i2cAck chip v.2)
      (v.1 :: rest.1, rest.2)

/-- `WriteRTC_Enable`. -/
def writeRtcEnable (b : Bus ρ) : Bool × Bus ρ :=
  let start := i2cStart chip b
  if start.1 = false then (false, start.2)
  else
    let address := sendByteWait chip rtcAddress start.2
    if address.1 = false then (false, i2cStop chip address.2)
    else
      let b := i2cStop chip (sendBytesWait chip [ctr2, 0x80] address.2)
      -- neither the start nor the answers of the second transfer are looked at
      let b := sendBytesWait chip [rtcAddress, ctr1, 0x84] (i2cStart chip b).2
      (true, i2cStop chip b)

/-- `WriteRTC_Disable`. -/
def writeRtcDisable (b : Bus ρ) : Bool × Bus ρ :=
  let start := i2cStart chip b
  if start.1 = false then (false, start.2)
  else
    let address := sendByteWait chip rtcAddress start.2
    if address.1 = false then (false, i2cStop chip address.2)
    else (true, i2cStop chip (sendBytesWait chip [ctr1, 0x0, 0x0] address.2))

/-- `RTC_WriteDate`. -/
def rtcWriteDate (psRTC : TimeDef) (b : Bus ρ) : Bool × Bus ρ :=
  let b := (writeRtcEnable chip b).2
  let address := sendByteWait chip rtcAddress (i2cStart chip b).2
  if address.1 = false then (false, i2cStop chip address.2)
  else
    -- the register to start with, and the date; bit 7 of the hour selects the 24-hour mode
    let b := sendBytesWait chip
      [0, psRTC.second, psRTC.minute, psRTC.hour ||| 0x80, psRTC.week, psRTC.day, psRTC.month, psRTC.year]
      address.2
    (true, (writeRtcDisable chip (i2cStop chip b)).2)

/-- The registers of the date as `RTC_ReadDate` stores them. -/
def readDateFields : List UInt8 → TimeDef → TimeDef
  | [second, minute, hour, week, day, month, year], _ =>
      { second, minute, hour := hour &&& 0x7F, week, day, month, year }
  | _, psRTC => psRTC

/-- `RTC_ReadDate`: the answer, the record and the bus. -/
def rtcReadDate (psRTC : TimeDef) (b : Bus ρ) : Bool × TimeDef × Bus ρ :=
  let address := sendByteWait chip rtcAddress (i2cStart chip b).2
  if address.1 = false then (false, psRTC, i2cStop chip address.2)
  else
    let b := sendBytesWait chip [0] address.2
    let b := sendBytesWait chip [rtcAddress + 1] (i2cStart chip b).2
    let fields := receiveBytesAck chip 6 b
    let year := i2cReceiveByte chip fields.2
    (true, readDateFields (fields.1 ++ [year.1]) psRTC, i2cStop chip (i2cNoAck chip year.2))

/-- `I2CWriteSerial`. -/
def i2cWriteSerial (deviceAddress address length : UInt8) (ps : CellMemory UInt8) (b : Bus ρ) :
    Bool × Bus ρ :=
  let b := if deviceAddress = rtcAddress then (writeRtcEnable chip b).2 else b
  let device := sendByteWait chip deviceAddress (i2cStart chip b).2
  if device.1 = false then (false, i2cStop chip device.2)
  else
    let b := sendBytesWait chip [address] device.2
    -- behind the data the driver acknowledges itself, so that it does not notice a chip that does not
    let b := (slice ps 0 length.toNat).foldl (fun b v => i2cAck chip (i2cSendByte chip v b)) b
    let b := i2cStop chip b
    (true, if deviceAddress = rtcAddress then (writeRtcDisable chip b).2 else b)

/-- `I2CReadSerial`: the answer, the buffer and the bus. The loop runs while `--length > 0`. -/
def i2cReadSerial (deviceAddress address length : UInt8) (ps : CellMemory UInt8) (b : Bus ρ) :
    Bool × CellMemory UInt8 × Bus ρ :=
  let device := sendByteWait chip deviceAddress (i2cStart chip b).2
  if device.1 = false then (false, ps, i2cStop chip device.2)
  else
    let b := sendBytesWait chip [address] device.2
    let b := sendBytesWait chip [deviceAddress + 1] (i2cStart chip b).2
    let most := receiveBytesAck chip (length - 1).toNat b
    let last := i2cReceiveByte chip most.2
    (true, patch ps 0 (most.1 ++ [last.1]), i2cStop chip (i2cNoAck chip last.2))

/-! ## What is written where -/

/-- A buffer with the given bytes. -/
def bufferOf (bytes : List UInt8) : CellMemory UInt8 := patch (fun _ => 0) 0 bytes

/-- `CountDown_Def`. -/
structure CountDownDef where
  dClk : UInt8
  im : UInt8
  initVal : UInt32

/-- `Set_CountDown`. -/
def setCountDown (init : CountDownDef) (b : Bus ρ) : Bus ρ :=
  let buf := [(init.im <<< 6) ||| 0xB4, init.dClk <<< 4, 0, (init.initVal &&& 0x0000FF).toUInt8,
    ((init.initVal &&& 0x00FF00) >>> 8).toUInt8, ((init.initVal &&& 0xFF0000) >>> 16).toUInt8]
  let b := (i2cWriteSerial chip rtcAddress ctr2 1 (bufferOf [0xF0]) b).2
  (i2cWriteSerial chip rtcAddress ctr2 6 (bufferOf buf) b).2

/-- The buffer of `Set_Alarm`. -/
def AlarmRegisters.bytes (r : AlarmRegisters) : List UInt8 :=
  [r.alarm.second, r.alarm.minute, r.alarm.hour, r.alarm.week, r.alarm.day, r.alarm.month, r.alarm.year,
    r.enable, r.ctr1, r.ctr2]

/-- `Set_Alarm` sends its registers. -/
def sendAlarm (enableConfig : UInt8) (psRTC : TimeDef) (b : Bus ρ) : Bus ρ :=
  (i2cWriteSerial chip rtcAddress alarmSc 10 (bufferOf (setAlarm enableConfig psRTC).bytes) b).2

/-- `SetFrq`. -/
def setFrq (fOut : UInt8) (b : Bus ρ) : Bus ρ :=
  (i2cWriteSerial chip rtcAddress ctr2 2 (bufferOf [0xA1, fOut]) b).2

/-- `ClrINT`. -/
def clrInt (intEN : UInt8) (b : Bus ρ) : Bus ρ :=
  (i2cWriteSerial chip rtcAddress ctr2 1 (bufferOf [0x80 &&& ~~~intEN]) b).2

/-- `GetSD3078Voltage`. -/
def getSd3078Voltage (b : Bus ρ) : UInt16 × Bus ρ :=
  let answer := i2cReadSerial chip rtcAddress batH8 2 (fun _ => 0) b
  ((answer.2.1 0 >>> 7).toUInt16 * 255 + (answer.2.1 1).toUInt16, answer.2.2)

/-! ## The functions on the wires are the patterns of the bus -/

variable {chip} {b : Bus ρ} {sda : Bool} {pointer : UInt8} {regs : ρ}

/-- A transfer is opened. -/
theorem i2cStart_eq : i2cStart chip b = Bus.openTransfer chip b := by
  show (if !(sclH chip (sdaH b)).line then _ else _) = if (sclH chip (sdaH b)).line then _ else _
  cases (sclH chip (sdaH b)).line <;> rfl

/-- It is closed. -/
theorem i2cStop_eq : i2cStop chip b = Bus.closeTransfer chip b := rfl

/-- The master waits for an acknowledgement. -/
theorem i2cWaitAck_eq : i2cWaitAck chip b = (!(Bus.ackSlot chip true b).1, (Bus.ackSlot chip true b).2) := by
  show (if (sclH chip (sdaH (sclL chip b))).line then _ else _) =
    (!(sclH chip (sdaH (sclL chip b))).line, _)
  cases (sclH chip (sdaH (sclL chip b))).line <;> rfl

/-- The bits of a byte go out from the top. -/
theorem i2cSendByteLoop_eq (n : ℕ) (v : UInt8) :
    i2cSendByteLoop chip n v b = (topBits n v).foldl (Bus.putBit chip) b := by
  induction n generalizing v b with
  | zero => rfl
  | succ n ih =>
      have hbit : sclH chip (if v &&& 0x80 ≠ 0 then sdaH (sclL chip b) else sdaL (sclL chip b)) =
          Bus.putBit chip b (decide (v &&& 0x80 ≠ 0)) := by
        by_cases hv : v &&& 0x80 ≠ 0
        · rw [if_pos hv, decide_eq_true hv]
          rfl
        · rw [if_neg hv, decide_eq_false hv]
          rfl
      rw [i2cSendByteLoop, topBits, List.foldl_cons, ← hbit]
      exact ih _

/-- A byte whose acknowledgement is waited for. -/
theorem sendByteWait_eq (v : UInt8) : sendByteWait chip v b =
    (!(Bus.byteOut chip true v b).1, (Bus.byteOut chip true v b).2) := by
  rw [sendByteWait, i2cWaitAck_eq, i2cSendByte, i2cSendByteLoop_eq]
  rfl

/-- A byte behind which `sda` is pulled low. -/
theorem i2cAck_i2cSendByte (v : UInt8) :
    i2cAck chip (i2cSendByte chip v b) = (Bus.byteOut chip false v b).2 := by
  rw [i2cSendByte, i2cSendByteLoop_eq]
  rfl

/-- The bits of a byte come in from the top. -/
theorem i2cReceiveByteLoop_eq (n : ℕ) (v : UInt8) : i2cReceiveByteLoop chip n v b =
    ((Bus.readBits chip n b).1.foldl shiftIn v, (Bus.readBits chip n b).2) := by
  induction n generalizing v b with
  | zero => rfl
  | succ n ih => exact ih _

/-- A byte behind which the master wants another one. -/
theorem i2cReceiveByte_ack :
    ((i2cReceiveByte chip b).1, i2cAck chip (i2cReceiveByte chip b).2) = Bus.byteIn chip false b := by
  rw [i2cReceiveByte, i2cReceiveByteLoop_eq]
  rfl

/-- The last byte. -/
theorem i2cReceiveByte_noAck :
    ((i2cReceiveByte chip b).1, i2cNoAck chip (i2cReceiveByte chip b).2) = Bus.byteIn chip true b := by
  rw [i2cReceiveByte, i2cReceiveByteLoop_eq]
  rfl

/-! ## Bytes in a transfer -/

/-- The address of a device is sent from rest: the chip that has it answers. -/
theorem sendByteWait_address {deviceAddress : UInt8} (heven : deviceAddress.toNat % 2 = 0) :
    sendByteWait chip deviceAddress (i2cStart chip (.rest pointer regs)).2 =
      if deviceAddress = chip.address then (true, ⟨true, false, .taking .pointer [], pointer, regs⟩)
      else (false, ⟨true, false, .off, pointer, regs⟩) := by
  rw [i2cStart_eq, openTransfer_rest, sendByteWait_eq]
  -- an even address is one to write to; another one leaves the chip out of the transfer
  by_cases hdevice : deviceAddress = chip.address
  · rw [if_pos hdevice, hdevice, byteOut_address]
    rfl
  · rw [if_neg hdevice, byteOut_otherAddress true heven hdevice]
    rfl

/-- The pointer and the bytes behind it. -/
theorem sendBytesWait_pointer (r : UInt8) (vs : List UInt8) : ∃ sda',
    sendBytesWait chip (r :: vs) ⟨sda, false, .taking .pointer [], pointer, regs⟩ =
      ⟨sda', false, .taking .data [], chip.after r vs.length, chip.writeAll regs (chip.spread r vs)⟩ := by
  have hwait : ∀ (b : Bus ρ) v, (sendByteWait chip v b).2 = (Bus.byteOut chip true v b).2 := by
    intro b v
    rw [sendByteWait_eq]
  rw [sendBytesWait, List.foldl_cons, hwait, byteOut_pointer]
  simp only [hwait]
  exact foldl_byteOut_data true vs

/-- Bytes behind which `sda` is pulled low. -/
theorem foldl_i2cAck (vs : List UInt8) : ∃ sda',
    vs.foldl (fun b v => i2cAck chip (i2cSendByte chip v b)) ⟨sda, false, .taking .data [], pointer, regs⟩ =
      ⟨sda', false, .taking .data [], chip.after pointer vs.length,
        chip.writeAll regs (chip.spread pointer vs)⟩ := by
  simp only [i2cAck_i2cSendByte]
  exact foldl_byteOut_data false vs

/-- The chip sends register `r`, from the first bit on. -/
def sending (chip : RegisterChip ρ) (sda : Bool) (r : UInt8) (regs : ρ) : Bus ρ :=
  ⟨sda, false, .giving (topBits 8 (chip.read regs r)), chip.next r, regs⟩

/-- The reading address, in a transfer that is opened again. -/
theorem sendBytesWait_readAddress :
    sendBytesWait chip [chip.address + 1]
      (i2cStart chip ⟨sda, false, .taking .data [], pointer, regs⟩).2 = sending chip true pointer regs := by
  rw [i2cStart_eq, openTransfer_taking, sendBytesWait, List.foldl_cons, sendByteWait_eq,
    byteOut_readAddress]
  rfl

/-- Registers come in as long as the master acknowledges. -/
theorem receiveBytesAck_sending (n : ℕ) (r : UInt8) (sda : Bool) : ∃ sda',
    receiveBytesAck chip n (sending chip sda r regs) =
      (chip.loadFrom regs r n, sending chip sda' (chip.after r n) regs) := by
  -- behind each byte the chip is where it was, one register further
  induction n generalizing r sda with
  | zero => exact ⟨sda, rfl⟩
  | succ n ih =>
      have hbyte := @i2cReceiveByte_ack _ chip (sending chip sda r regs)
      rw [sending, byteIn_giving, if_neg Bool.false_ne_true] at hbyte
      obtain ⟨hv, hb⟩ := Prod.mk.inj hbyte
      obtain ⟨sda', hrest⟩ := ih (chip.next r) false
      refine ⟨sda', ?_⟩
      rw [receiveBytesAck, sending, hv, hb]
      change (_ :: (receiveBytesAck chip n (sending chip false (chip.next r) regs)).1,
        (receiveBytesAck chip n (sending chip false (chip.next r) regs)).2) = _
      rw [hrest]
      rfl

/-- The last register ends the transfer. -/
theorem i2cReceiveByte_last (r : UInt8) :
    (i2cReceiveByte chip (sending chip sda r regs)).1 = chip.read regs r ∧
      i2cStop chip (i2cNoAck chip (i2cReceiveByte chip (sending chip sda r regs)).2) =
        .rest (chip.next r) regs := by
  have hbyte := @i2cReceiveByte_noAck _ chip (sending chip sda r regs)
  rw [sending, byteIn_giving, if_pos rfl] at hbyte
  obtain ⟨hv, hb⟩ := Prod.mk.inj hbyte
  rw [sending, hv, hb, i2cStop_eq, closeTransfer_off]
  exact ⟨rfl, rfl⟩

/-- A transfer that writes. -/
theorem i2cStop_sendBytesWait (r : UInt8) (vs : List UInt8) :
    i2cStop chip (sendBytesWait chip (r :: vs) ⟨sda, false, .taking .pointer [], pointer, regs⟩) =
      .rest (chip.after r vs.length) (chip.writeAll regs (chip.spread r vs)) := by
  obtain ⟨sda', hsent⟩ := @sendBytesWait_pointer _ chip sda pointer regs r vs
  rw [hsent, i2cStop_eq, closeTransfer_taking]

/-! ## Write protection -/

/-- What `WriteRTC_Enable` writes. -/
def enableWrites : List (UInt8 × UInt8) := [(ctr2, 0x80), (ctr1, 0x84)]

/-- What `WriteRTC_Disable` writes. -/
def disableWrites (chip : RegisterChip ρ) : List (UInt8 × UInt8) := chip.spread ctr1 [0x0, 0x0]

/-- The address of the clock is a writing address. -/
theorem rtcAddress_even : rtcAddress.toNat % 2 = 0 := by decide

/-- `WriteRTC_Enable` on the wires. -/
theorem writeRtcEnable_rest : ∃ pointer', writeRtcEnable chip (.rest pointer regs) =
    (decide (rtcAddress = chip.address), .rest pointer'
      (if rtcAddress = chip.address then chip.writeAll regs enableWrites else regs)) := by
  have hstart : (i2cStart chip (.rest pointer regs)).1 = true := rfl
  rw [writeRtcEnable, if_neg (by rw [hstart]; nofun), sendByteWait_address rtcAddress_even]
  by_cases hclock : rtcAddress = chip.address
  · refine ⟨chip.after ctr1 1, ?_⟩
    rw [if_pos hclock, if_neg (by nofun), if_pos hclock, decide_eq_true hclock]
    -- the second transfer sends its address like the bytes behind it
    have hsecond : ∀ pointer (regs : ρ),
        sendBytesWait chip [rtcAddress, ctr1, 0x84] (i2cStart chip (.rest pointer regs)).2 =
          sendBytesWait chip [ctr1, 0x84] ⟨true, false, .taking .pointer [], pointer, regs⟩ := by
      intro pointer regs
      have haddress := @sendByteWait_address _ chip pointer regs _
        rtcAddress_even
      rw [if_pos hclock] at haddress
      rw [sendBytesWait, List.foldl_cons, haddress]
      rfl
    rw [i2cStop_sendBytesWait]
    dsimp only
    rw [hsecond, i2cStop_sendBytesWait]
    rfl
  · exact ⟨pointer, by rw [if_neg hclock, if_pos rfl, if_neg hclock, decide_eq_false hclock]; rfl⟩

/-- `WriteRTC_Disable` on the wires. -/
theorem writeRtcDisable_rest : ∃ pointer', writeRtcDisable chip (.rest pointer regs) =
    (decide (rtcAddress = chip.address), .rest pointer'
      (if rtcAddress = chip.address then chip.writeAll regs (disableWrites chip) else regs)) := by
  have hstart : (i2cStart chip (.rest pointer regs)).1 = true := rfl
  rw [writeRtcDisable, if_neg (by rw [hstart]; nofun), sendByteWait_address rtcAddress_even]
  by_cases hclock : rtcAddress = chip.address
  · refine ⟨chip.after ctr1 2, ?_⟩
    rw [if_pos hclock, if_neg (by nofun), if_pos hclock, decide_eq_true hclock, i2cStop_sendBytesWait]
    rfl
  · exact ⟨pointer, by rw [if_neg hclock, if_pos rfl, if_neg hclock, decide_eq_false hclock]; rfl⟩

/-! ## Transfers from rest to rest -/

/-- What `I2CWriteSerial` writes. -/
def serialWrites (chip : RegisterChip ρ) (deviceAddress address : UInt8) (bytes : List UInt8) :
    List (UInt8 × UInt8) :=
  if deviceAddress = rtcAddress then enableWrites ++ chip.spread address bytes ++ disableWrites chip
  else chip.spread address bytes

/-- The bytes of `RTC_WriteDate`. -/
def TimeDef.bytes (t : TimeDef) : List UInt8 :=
  [t.second, t.minute, t.hour ||| 0x80, t.week, t.day, t.month, t.year]

/-- A transfer that writes, behind the address. -/
theorem i2cStop_foldl_i2cAck (r : UInt8) (vs : List UInt8) :
    i2cStop chip (vs.foldl (fun b v => i2cAck chip (i2cSendByte chip v b))
      (sendBytesWait chip [r] ⟨sda, false, .taking .pointer [], pointer, regs⟩)) =
      .rest (chip.after r vs.length) (chip.writeAll regs (chip.spread r vs)) := by
  obtain ⟨sda', hpointer⟩ := @sendBytesWait_pointer _ chip sda pointer regs r []
  obtain ⟨sda'', hdata⟩ := @foldl_i2cAck _ chip sda' r regs vs
  rw [hpointer]
  change i2cStop chip (vs.foldl _ ⟨sda', false, .taking .data [], r, regs⟩) = _
  rw [hdata, i2cStop_eq, closeTransfer_taking]

/-- **`I2CWriteSerial` on the wires**: from rest to rest, the chip that has the address gets each byte once,
in order, in the register after the one before, the clock between its unlocking and its locking; without such
a chip the call fails and nothing is written. -/
theorem i2cWriteSerial_rest {deviceAddress : UInt8} (heven : deviceAddress.toNat % 2 = 0)
    (chip : RegisterChip ρ) (address length : UInt8) (ps : CellMemory UInt8) (pointer : UInt8) (regs : ρ) :
    ∃ pointer', i2cWriteSerial chip deviceAddress address length ps (.rest pointer regs) =
      (decide (deviceAddress = chip.address), .rest pointer'
        (if deviceAddress = chip.address then
          chip.writeAll regs (serialWrites chip deviceAddress address (slice ps 0 length.toNat))
        else regs)) := by
  rw [i2cWriteSerial]
  -- only transfers to the address of the clock are put between unlocking and locking, whatever chip there is
  by_cases hclock : deviceAddress = rtcAddress
  · subst hclock
    obtain ⟨p₁, henable⟩ := @writeRtcEnable_rest _ chip pointer regs
    rw [if_pos rfl, henable]
    dsimp only
    rw [sendByteWait_address heven]
    by_cases hdevice : rtcAddress = chip.address
    · rw [if_pos hdevice, if_pos hdevice, if_neg (by nofun), if_pos hdevice, if_pos rfl,
        i2cStop_foldl_i2cAck, decide_eq_true hdevice]
      obtain ⟨p₂, hdisable⟩ := @writeRtcDisable_rest _ chip
        (chip.after address (slice ps 0 length.toNat).length)
        (chip.writeAll (chip.writeAll regs enableWrites)
          (chip.spread address (slice ps 0 length.toNat)))
      refine ⟨p₂, ?_⟩
      rw [hdisable, if_pos hdevice, serialWrites, if_pos rfl, writeAll_append, writeAll_append]
    · refine ⟨p₁, ?_⟩
      rw [if_neg hdevice, if_neg hdevice, if_pos rfl, if_neg hdevice, decide_eq_false hdevice, i2cStop_eq,
        closeTransfer_off]
  · rw [if_neg hclock]
    dsimp only
    rw [sendByteWait_address heven]
    by_cases hdevice : deviceAddress = chip.address
    · refine ⟨chip.after address (slice ps 0 length.toNat).length, ?_⟩
      rw [if_pos hdevice, if_neg (by nofun), if_pos hdevice, if_neg hclock, i2cStop_foldl_i2cAck,
        decide_eq_true hdevice, serialWrites, if_neg hclock]
    · refine ⟨pointer, ?_⟩
      rw [if_neg hdevice, if_pos rfl, if_neg hdevice, decide_eq_false hdevice, i2cStop_eq,
        closeTransfer_off]

/-- `RTC_WriteDate` on the wires. -/
theorem rtcWriteDate_rest (chip : RegisterChip ρ) (psRTC : TimeDef) (pointer : UInt8) (regs : ρ) :
    ∃ pointer', rtcWriteDate chip psRTC (.rest pointer regs) =
      (decide (rtcAddress = chip.address), .rest pointer'
        (if rtcAddress = chip.address then
          chip.writeAll regs (serialWrites chip rtcAddress 0 psRTC.bytes) else regs)) := by
  obtain ⟨p₁, henable⟩ := @writeRtcEnable_rest _ chip pointer regs
  rw [rtcWriteDate, henable]
  dsimp only
  rw [sendByteWait_address rtcAddress_even]
  by_cases hdevice : rtcAddress = chip.address
  · rw [if_pos hdevice, if_pos hdevice, if_neg (by nofun), if_pos hdevice, i2cStop_sendBytesWait,
      decide_eq_true hdevice]
    obtain ⟨p₂, hdisable⟩ := @writeRtcDisable_rest _ chip (chip.after 0 7)
      (chip.writeAll (chip.writeAll regs enableWrites) (chip.spread 0 psRTC.bytes))
    refine ⟨p₂, ?_⟩
    rw [serialWrites, if_pos rfl, writeAll_append, writeAll_append]
    rw [if_pos hdevice] at hdisable
    exact congrArg (Prod.mk true) (congrArg Prod.snd hdisable)
  · refine ⟨p₁, ?_⟩
    rw [if_neg hdevice, if_neg hdevice, if_pos rfl, if_neg hdevice, decide_eq_false hdevice, i2cStop_eq,
      closeTransfer_off]

/-- The reading half of a transfer: from the register `address` on, `n` registers and one more. -/
theorem receive_rest (address : UInt8) (n : ℕ) :
    let b := sendBytesWait chip [address] ⟨sda, false, .taking .pointer [], pointer, regs⟩
    let b := sendBytesWait chip [chip.address + 1] (i2cStart chip b).2
    let most := receiveBytesAck chip n b
    let last := i2cReceiveByte chip most.2
    most.1 ++ [last.1] = chip.loadFrom regs address (n + 1) ∧
      i2cStop chip (i2cNoAck chip last.2) = .rest (chip.after address (n + 1)) regs := by
  obtain ⟨sda', hpointer⟩ := @sendBytesWait_pointer _ chip sda pointer regs address []
  have hpointer : sendBytesWait chip [address] ⟨sda, false, .taking .pointer [], pointer, regs⟩ =
      ⟨sda', false, .taking .data [], address, regs⟩ := hpointer
  obtain ⟨sda'', hmost⟩ := @receiveBytesAck_sending _ chip regs n address true
  obtain ⟨hlast, hstop⟩ := @i2cReceiveByte_last _ chip sda'' regs
    (chip.after address n)
  dsimp only
  rw [hpointer, sendBytesWait_readAddress, hmost]
  dsimp only
  rw [hlast, hstop, loadFrom_succ, RegisterChip.after, RegisterChip.after, Function.iterate_succ_apply']
  exact ⟨rfl, rfl⟩

/-- **`I2CReadSerial` on the wires**: from rest to rest, the chip that has the address sends its registers
from `address` on, each once and in order, `length` of them, or 256 for a length of zero, and keeps them; without such
a chip the call fails and the buffer is left alone. -/
theorem i2cReadSerial_rest {deviceAddress : UInt8} (heven : deviceAddress.toNat % 2 = 0)
    (chip : RegisterChip ρ) (address length : UInt8) (ps : CellMemory UInt8) (pointer : UInt8) (regs : ρ) :
    ∃ pointer', i2cReadSerial chip deviceAddress address length ps (.rest pointer regs) =
      (decide (deviceAddress = chip.address),
        if deviceAddress = chip.address then
          patch ps 0 (chip.loadFrom regs address (if length = 0 then 256 else length.toNat))
        else ps,
        .rest pointer' regs) := by
  -- the loop counts down before it compares, so that a length of 0 wraps around
  have hcount : (length - 1).toNat + 1 = if length = 0 then 256 else length.toNat := by
    split
    · next hzero =>
        rw [hzero]
        decide
    · next hpos =>
        have hpos : length.toNat ≠ 0 := fun hzero => hpos (UInt8.toNat_inj.mp hzero)
        have hlt := length.toNat_lt
        rw [UInt8.toNat_sub]
        change (2 ^ 8 - 1 + length.toNat) % 2 ^ 8 + 1 = _
        omega
  rw [i2cReadSerial, sendByteWait_address heven]
  by_cases hdevice : deviceAddress = chip.address
  · subst hdevice
    obtain ⟨hbytes, hrest⟩ := @receive_rest _ chip true pointer regs address (length - 1).toNat
    refine ⟨chip.after address ((length - 1).toNat + 1), ?_⟩
    rw [if_pos rfl, if_neg (by nofun), if_pos rfl, decide_eq_true rfl, ← hcount, ← hbytes, ← hrest]
  · refine ⟨pointer, ?_⟩
    rw [if_neg hdevice, if_pos rfl, if_neg hdevice, decide_eq_false hdevice, i2cStop_eq, closeTransfer_off]

/-- `RTC_ReadDate` on the wires. -/
theorem rtcReadDate_rest (chip : RegisterChip ρ) (psRTC : TimeDef) (pointer : UInt8) (regs : ρ) :
    ∃ pointer', rtcReadDate chip psRTC (.rest pointer regs) =
      (decide (rtcAddress = chip.address),
        if rtcAddress = chip.address then readDateFields (chip.loadFrom regs 0 7) psRTC else psRTC,
        .rest pointer' regs) := by
  rw [rtcReadDate, sendByteWait_address rtcAddress_even]
  by_cases hdevice : rtcAddress = chip.address
  · obtain ⟨hbytes, hrest⟩ := @receive_rest _ chip true pointer regs 0 6
    refine ⟨chip.after 0 7, ?_⟩
    rw [if_pos hdevice, if_neg (by nofun), if_pos hdevice, decide_eq_true hdevice, hdevice]
    dsimp only
    rw [hbytes, hrest]
  · refine ⟨pointer, ?_⟩
    rw [if_neg hdevice, if_pos rfl, if_neg hdevice, decide_eq_false hdevice, i2cStop_eq, closeTransfer_off]

/-! ## The clock chip -/

/-- The three bits that allow writing are set: WRTC1 in `CTR2`, WRTC2 and WRTC3 in `CTR1`. -/
def WriteEnabled (chip : RegisterChip ρ) (regs : ρ) : Prop :=
  chip.read regs ctr2 &&& 0x80 = 0x80 ∧ chip.read regs ctr1 &&& 0x84 = 0x84

/-- What the registers of the date hold when the chip shows a date. -/
def TimeDef.registers (t : TimeDef) : List (UInt8 × UInt8) :=
  [(0, t.second), (1, t.minute), (2, t.hour ||| 0x80), (3, t.week), (4, t.day), (5, t.month), (6, t.year)]

/-- A date that the chip can be set to; its week has the days 0 to 6. -/
def TimeDef.IsSettable (t : TimeDef) : Prop := t.IsClock ∧ t.week ≤ 6

instance (t : TimeDef) : Decidable t.IsSettable := by
  unfold TimeDef.IsSettable
  infer_instance

/-- What the driver relies on in the chip. -/
structure Sd3078 (chip : RegisterChip ρ) : Prop where
  /-- It has the address of the clock. -/
  address : chip.address = rtcAddress
  /-- Its registers follow each other, `00H` to `1AH`. -/
  next : ∀ r : UInt8, r < batH8 → chip.next r = r + 1
  /-- WRTC1 can be written at any time. -/
  wrtc1 : ∀ regs v, chip.read (chip.write regs ctr2 v) ctr2 &&& 0x80 = v &&& 0x80
  /-- WRTC2 and WRTC3 can be written when WRTC1 is set, and WRTC1 stays as it is. -/
  wrtc23 : ∀ regs v, chip.read regs ctr2 &&& 0x80 = 0x80 →
    chip.read (chip.write regs ctr1 v) ctr1 &&& 0x84 = v &&& 0x84 ∧
      chip.read (chip.write regs ctr1 v) ctr2 &&& 0x80 = 0x80
  /-- When writing is allowed a register of the date takes its value of a date that there is. -/
  date_write : ∀ regs (t : TimeDef), WriteEnabled chip regs → t.IsSettable → ∀ w ∈ t.registers,
    chip.read (chip.write regs w.1 w.2) w.1 = w.2
  /-- A write to another register leaves it alone. -/
  date_frame : ∀ regs (r s : UInt8) v, s < 7 → s ≠ r → chip.read (chip.write regs r v) s = chip.read regs s
  /-- Writing the date leaves the write protection alone. -/
  control_frame : ∀ regs (r : UInt8) v, r < 7 → chip.read (chip.write regs r v) ctr1 = chip.read regs ctr1 ∧
    chip.read (chip.write regs r v) ctr2 = chip.read regs ctr2

/-- The date the chip shows. -/
def dateOf (chip : RegisterChip ρ) (regs : ρ) : TimeDef where
  second := chip.read regs 0
  minute := chip.read regs 1
  hour := chip.read regs 2 &&& 0x7F
  week := chip.read regs 3
  day := chip.read regs 4
  month := chip.read regs 5
  year := chip.read regs 6

/-- The driver calls, and the chip that counts or sets a flag. -/
inductive ClockEvent (ρ : Type)
  | writeDate (psRTC : TimeDef)
  | readDate (psRTC : TimeDef)
  | sendAlarm (enableConfig : UInt8) (psRTC : TimeDef)
  | setCountDown (init : CountDownDef)
  | setFrq (fOut : UInt8)
  | clrInt (intEN : UInt8)
  | getVoltage
  | own (regs : ρ)

/-- The bus, and the date that `RTC_ReadDate` should deliver. -/
structure ClockSystem (ρ : Type) where
  bus : Bus ρ
  date : TimeDef

instance (chip : RegisterChip ρ) (regs : ρ) : Decidable (WriteEnabled chip regs) := by
  unfold WriteEnabled
  infer_instance

/-- The date that `RTC_WriteDate` is to set: the bit of the 24-hour mode is the driver's. -/
def TimeDef.toSet (psRTC : TimeDef) : TimeDef := { psRTC with hour := psRTC.hour &&& 0x7F }

/-- One event. The chip does not allow writing on its own. What it makes of bytes that are no date is left
to it. -/
def ClockSystem.step (chip : RegisterChip ρ) (s : ClockSystem ρ) :
    ClockEvent ρ → Option (ClockSystem ρ)
  | .writeDate psRTC =>
      let bus := (rtcWriteDate chip psRTC s.bus).2
      some ⟨bus, if psRTC.toSet.IsSettable then psRTC.toSet else dateOf chip bus.regs⟩
  | .readDate psRTC => some ⟨(rtcReadDate chip psRTC s.bus).2.2, s.date⟩
  | .sendAlarm enableConfig psRTC => some ⟨sendAlarm chip enableConfig psRTC s.bus, s.date⟩
  | .setCountDown init => some ⟨setCountDown chip init s.bus, s.date⟩
  | .setFrq fOut => some ⟨setFrq chip fOut s.bus, s.date⟩
  | .clrInt intEN => some ⟨clrInt chip intEN s.bus, s.date⟩
  | .getVoltage => some ⟨(getSd3078Voltage chip s.bus).2, s.date⟩
  | .own regs =>
      if WriteEnabled chip regs then none else some ⟨{ s.bus with regs }, dateOf chip regs⟩

/-- **What holds between two events**: nobody uses the bus, the chip is write-protected, and the next
`RTC_ReadDate` succeeds and delivers the date. -/
structure ClockSystem.Ok (chip : RegisterChip ρ) (s : ClockSystem ρ) : Prop where
  rest : ∃ pointer regs, s.bus = .rest pointer regs ∧ ¬ WriteEnabled chip regs
  read : ∀ psRTC, (rtcReadDate chip psRTC s.bus).1 = true ∧ (rtcReadDate chip psRTC s.bus).2.1 = s.date

/-! ## Registers of the clock -/

/-- Two chips that agree on the registers of the date show the same date. -/
theorem dateOf_congr {regs regs' : ρ} (hsame : ∀ s : UInt8, s < 7 → chip.read regs' s = chip.read regs s) :
    dateOf chip regs' = dateOf chip regs := by
  rw [dateOf, dateOf, hsame 0 (by decide), hsame 1 (by decide), hsame 2 (by decide), hsame 3 (by decide),
    hsame 4 (by decide), hsame 5 (by decide), hsame 6 (by decide)]

namespace Sd3078

variable (h : Sd3078 chip)
include h

/-- The registers that a few bytes reach. -/
theorem le_of_mem_spread {r : UInt8} {vs : List UInt8} (hend : r.toNat + vs.length ≤ batH8.toNat + 1)
    {w : UInt8 × UInt8} (hw : w ∈ chip.spread r vs) : r ≤ w.1 := by
  -- up to its last register the pointer of the chip goes on by one, so it does not come around to the date
  induction vs generalizing r with
  | nil => exact absurd hw List.not_mem_nil
  | cons v vs ih =>
      rcases List.mem_cons.mp hw with rfl | hrest
      · exact UInt8.le_refl _
      · rw [List.length_cons] at hend
        have hbat : batH8.toNat = 26 := rfl
        cases vs with
        | nil => exact absurd hrest List.not_mem_nil
        | cons v' vs =>
            rw [List.length_cons] at hend
            have hlt : r < batH8 := UInt8.lt_iff_toNat_lt.mpr (by omega)
            have hsucc : (r + 1).toNat = r.toNat + 1 := by
              rw [UInt8.toNat_add]
              change (r.toNat + 1) % 256 = _
              omega
            rw [h.next r hlt] at hrest
            have hle := UInt8.le_iff_toNat_le.mp (ih (r := r + 1)
              (by rw [hsucc, List.length_cons]; omega) hrest)
            exact UInt8.le_iff_toNat_le.mpr (by omega)

/-- Writes to other registers leave a register of the date alone. -/
theorem read_writeAll {s : UInt8} (hs : s < 7) {writes : List (UInt8 × UInt8)}
    (hwrites : ∀ w ∈ writes, s ≠ w.1) (regs : ρ) :
    chip.read (chip.writeAll regs writes) s = chip.read regs s := by
  induction writes generalizing regs with
  | nil => rfl
  | cons w writes ih =>
      have hrest : ∀ w' ∈ writes, s ≠ w'.1 := fun w' hw' => hwrites w' (List.mem_cons_of_mem _ hw')
      calc chip.read (chip.writeAll regs (w :: writes)) s
          = chip.read (chip.write regs w.1 w.2) s := ih hrest _
        _ = chip.read regs s := h.date_frame regs w.1 s w.2 hs (hwrites w List.mem_cons_self)

/-- The register behind `CTR1`. -/
theorem disableWrites_eq : disableWrites chip = [(ctr1, 0x0), (ctr2, 0x0)] := by
  rw [disableWrites, RegisterChip.spread, RegisterChip.spread, RegisterChip.spread,
    h.next ctr1 (by decide)]
  rfl

/-- The bytes of a date and their registers. -/
theorem spread_date (t : TimeDef) : chip.spread 0 t.bytes = t.registers := by
  simp only [TimeDef.bytes, RegisterChip.spread, h.next 0 (by decide)]
  simp only [UInt8.zero_add, h.next 1 (by decide)]
  rw [h.next (1 + 1) (by decide), h.next (1 + 1 + 1) (by decide), h.next (1 + 1 + 1 + 1) (by decide),
    h.next (1 + 1 + 1 + 1 + 1) (by decide)]
  rfl

/-- The registers of the date are read in their order. -/
theorem readDateFields_loadFrom (regs : ρ) (psRTC : TimeDef) :
    readDateFields (chip.loadFrom regs 0 7) psRTC = dateOf chip regs := by
  simp only [RegisterChip.loadFrom, h.next 0 (by decide)]
  simp only [UInt8.zero_add, h.next 1 (by decide)]
  rw [h.next (1 + 1) (by decide), h.next (1 + 1 + 1) (by decide), h.next (1 + 1 + 1 + 1) (by decide),
    h.next (1 + 1 + 1 + 1 + 1) (by decide)]
  rfl

/-- `WriteRTC_Enable` allows writing. -/
theorem writeEnabled_enableWrites (regs : ρ) : WriteEnabled chip (chip.writeAll regs enableWrites) := by
  have hone : chip.read (chip.write regs ctr2 0x80) ctr2 &&& 0x80 = 0x80 := h.wrtc1 regs 0x80
  obtain ⟨hctr1, hctr2⟩ := h.wrtc23 (chip.write regs ctr2 0x80) 0x84 hone
  exact ⟨hctr2, hctr1⟩

/-- `WriteRTC_Disable` forbids it. -/
theorem not_writeEnabled_serialWrites (regs : ρ) (address : UInt8) (bytes : List UInt8) :
    ¬ WriteEnabled chip (chip.writeAll regs (serialWrites chip rtcAddress address bytes)) := by
  rw [serialWrites, if_pos rfl, writeAll_append, h.disableWrites_eq]
  -- the last write clears WRTC1, whatever was written before
  rintro ⟨hctr2, -⟩
  have hzero := h.wrtc1 (chip.write (chip.writeAll regs (enableWrites ++ chip.spread address bytes)) ctr1 0x0)
    0x0
  exact absurd (hctr2.symm.trans hzero) (by decide)

/-- The bytes of a date arrive. -/
theorem read_writeAll_of_mem {writes : List (UInt8 × UInt8)} (hdate : ∀ w ∈ writes, w.1 < 7)
    (harrive : ∀ w ∈ writes, ∀ regs, WriteEnabled chip regs → chip.read (chip.write regs w.1 w.2) w.1 = w.2)
    (hnodup : (writes.map Prod.fst).Nodup) {regs : ρ} (hopen : WriteEnabled chip regs) {w : UInt8 × UInt8}
    (hmem : w ∈ writes) : chip.read (chip.writeAll regs writes) w.1 = w.2 := by
  -- each register is written once, and writing stays allowed, as no register of the date is a control register
  induction writes generalizing regs with
  | nil => exact absurd hmem List.not_mem_nil
  | cons w' writes ih =>
      rw [List.map_cons, List.nodup_cons] at hnodup
      have hw := hdate w' List.mem_cons_self
      have hrest : ∀ v ∈ writes, v.1 < 7 := fun v hv => hdate v (List.mem_cons_of_mem _ hv)
      rcases List.mem_cons.mp hmem with rfl | hmem
      · have hother : ∀ v ∈ writes, w.1 ≠ v.1 := by
          intro v hv heq
          exact hnodup.1 (List.mem_map.mpr ⟨v, hv, heq.symm⟩)
        exact (h.read_writeAll hw hother _).trans (harrive w List.mem_cons_self regs hopen)
      · obtain ⟨hctr1, hctr2⟩ := h.control_frame regs w'.1 w'.2 hw
        have hopen' : WriteEnabled chip (chip.write regs w'.1 w'.2) := by
          rw [WriteEnabled, hctr1, hctr2]
          exact hopen
        exact ih hrest (fun v hv => harrive v (List.mem_cons_of_mem _ hv)) hnodup.2 hopen' hmem

/-- Neither unlocking nor locking touches the date. -/
theorem read_controlWrites {s : UInt8} (hs : s < 7) (regs : ρ) :
    chip.read (chip.writeAll regs enableWrites) s = chip.read regs s ∧
      chip.read (chip.writeAll regs (disableWrites chip)) s = chip.read regs s := by
  have hctr1 : s ≠ ctr1 := by
    rintro rfl
    exact absurd hs (by decide)
  have hctr2 : s ≠ ctr2 := by
    rintro rfl
    exact absurd hs (by decide)
  rw [h.disableWrites_eq]
  constructor
  · exact h.read_writeAll hs (by simp [enableWrites, hctr1, hctr2]) regs
  · exact h.read_writeAll hs (by simp [hctr1, hctr2]) regs

/-- **The date that was written is the date of the chip**, if there is such a date. -/
theorem dateOf_serialWrites (regs : ρ) {t : TimeDef} (ht : t.toSet.IsSettable) :
    dateOf chip (chip.writeAll regs (serialWrites chip rtcAddress 0 t.bytes)) = t.toSet := by
  have hall : ∀ a : BitVec 8, (a &&& 0x7F#8) ||| 0x80#8 = a ||| 0x80#8 ∧
      ((a &&& 0x7F#8) ||| 0x80#8) &&& 0x7F#8 = a &&& 0x7F#8 := by decide
  have hregisters : t.registers = t.toSet.registers := by
    have hhour : (t.hour &&& 0x7F) ||| 0x80 = t.hour ||| 0x80 :=
      UInt8.eq_of_toBitVec_eq (hall t.hour.toBitVec).1
    rw [TimeDef.registers, TimeDef.registers, TimeDef.toSet, hhour]
  have hhour : (t.toSet.hour ||| 0x80) &&& 0x7F = t.toSet.hour :=
    UInt8.eq_of_toBitVec_eq (hall t.hour.toBitVec).2
  rw [serialWrites, if_pos rfl, writeAll_append, writeAll_append, h.spread_date,
    dateOf_congr fun s hs => (h.read_controlWrites hs _).2, hregisters]
  have hdate : ∀ w ∈ t.toSet.registers, w.1 < 7 := by
    simp only [TimeDef.registers, List.forall_mem_cons, List.not_mem_nil, false_imp_iff, implies_true,
      and_true]
    decide
  have hread := fun w => h.read_writeAll_of_mem (w := w) hdate (fun w hw regs hopen =>
    h.date_write regs t.toSet hopen ht w hw) (by simp only [TimeDef.registers, List.map]; decide)
    (h.writeEnabled_enableWrites regs)
  rw [dateOf, hread (0, t.toSet.second) (by simp [TimeDef.registers]),
    hread (1, t.toSet.minute) (by simp [TimeDef.registers]),
    hread (2, t.toSet.hour ||| 0x80) (by simp [TimeDef.registers]),
    hread (3, t.toSet.week) (by simp [TimeDef.registers]), hread (4, t.toSet.day) (by simp [TimeDef.registers]),
    hread (5, t.toSet.month) (by simp [TimeDef.registers]),
    hread (6, t.toSet.year) (by simp [TimeDef.registers]), hhour]

/-- Writing behind the date leaves the date alone. -/
theorem dateOf_serialWrites_behind (regs : ρ) {address : UInt8} {bytes : List UInt8} (hbehind : 7 ≤ address)
    (hend : address.toNat + bytes.length ≤ batH8.toNat + 1) :
    dateOf chip (chip.writeAll regs (serialWrites chip rtcAddress address bytes)) = dateOf chip regs := by
  refine dateOf_congr fun s hs => ?_
  rw [serialWrites, if_pos rfl, writeAll_append, writeAll_append, (h.read_controlWrites hs _).2,
    h.read_writeAll hs ?_, (h.read_controlWrites hs _).1]
  rintro w hw rfl
  exact absurd (UInt8.le_trans hbehind (h.le_of_mem_spread hend hw)) (UInt8.not_le.mpr hs)

end Sd3078

/-! ## Runs -/

/-- The invariant: the bus is at rest, and the chip write-protected and at the date. -/
def ClockSystem.Inv (chip : RegisterChip ρ) (s : ClockSystem ρ) : Prop :=
  ∃ pointer regs, s.bus = .rest pointer regs ∧ ¬ WriteEnabled chip regs ∧ s.date = dateOf chip regs

namespace ClockSystem

variable {s : ClockSystem ρ}

/-- Then the date can be read. -/
theorem Inv.ok (h : Sd3078 chip) (hinv : s.Inv chip) : s.Ok chip := by
  obtain ⟨pointer, regs, hbus, hlocked, hdate⟩ := hinv
  refine ⟨⟨pointer, regs, hbus, hlocked⟩, fun psRTC => ?_⟩
  obtain ⟨pointer', hread⟩ := rtcReadDate_rest chip psRTC pointer regs
  have hclock := h.address.symm
  rw [hbus, hread, if_pos hclock, h.readDateFields_loadFrom, hdate, decide_eq_true hclock]
  exact ⟨rfl, rfl⟩

/-- Registers behind the date are written. -/
theorem Inv.i2cWriteSerial (h : Sd3078 chip) (hinv : s.Inv chip) {address length : UInt8}
    (ps : CellMemory UInt8) (hbehind : 7 ≤ address)
    (hend : address.toNat + length.toNat ≤ batH8.toNat + 1) :
    Inv chip ⟨(i2cWriteSerial chip rtcAddress address length ps s.bus).2, s.date⟩ := by
  obtain ⟨pointer, regs, hbus, hlocked, hdate⟩ := hinv
  obtain ⟨pointer', hwrite⟩ :=
    i2cWriteSerial_rest rtcAddress_even chip address length ps pointer regs
  rw [if_pos h.address.symm] at hwrite
  refine ⟨pointer', chip.writeAll regs (serialWrites chip rtcAddress address (slice ps 0 length.toNat)),
    ?_, h.not_writeEnabled_serialWrites _ _ _, ?_⟩
  · rw [hbus, hwrite]
  · rw [hdate, h.dateOf_serialWrites_behind regs hbehind (by rwa [length_slice])]

/-- The date is written. -/
theorem Inv.rtcWriteDate (h : Sd3078 chip) (hinv : s.Inv chip) (psRTC : TimeDef) :
    Inv chip ⟨(rtcWriteDate chip psRTC s.bus).2,
      if psRTC.toSet.IsSettable then psRTC.toSet
      else dateOf chip (rtcWriteDate chip psRTC s.bus).2.regs⟩ := by
  obtain ⟨pointer, regs, hbus, hlocked, hdate⟩ := hinv
  obtain ⟨pointer', hwrite⟩ := rtcWriteDate_rest chip psRTC pointer regs
  rw [if_pos h.address.symm] at hwrite
  refine ⟨pointer', chip.writeAll regs (serialWrites chip rtcAddress 0 psRTC.bytes), ?_,
    h.not_writeEnabled_serialWrites _ _ _, ?_⟩
  · rw [hbus, hwrite]
  · by_cases hsettable : psRTC.toSet.IsSettable
    · rw [if_pos hsettable, h.dateOf_serialWrites regs hsettable]
    · rw [if_neg hsettable, hbus, hwrite]
      rfl

/-- Registers are read. -/
theorem Inv.i2cReadSerial (hinv : s.Inv chip) (address length : UInt8) (ps : CellMemory UInt8) :
    Inv chip ⟨(i2cReadSerial chip rtcAddress address length ps s.bus).2.2, s.date⟩ := by
  obtain ⟨pointer, regs, hbus, hlocked, hdate⟩ := hinv
  obtain ⟨pointer', hread⟩ := i2cReadSerial_rest rtcAddress_even chip address length ps pointer regs
  exact ⟨pointer', regs, by rw [hbus, hread], hlocked, hdate⟩

/-- **Every event keeps the invariant.** -/
theorem Inv.step (h : Sd3078 chip) (hinv : s.Inv chip) {e : ClockEvent ρ} {s' : ClockSystem ρ}
    (hstep : s.step chip e = some s') : s'.Inv chip := by
  cases e with
  | writeDate psRTC =>
      obtain rfl := Option.some.inj hstep
      exact hinv.rtcWriteDate h psRTC
  | readDate psRTC =>
      obtain rfl := Option.some.inj hstep
      obtain ⟨pointer, regs, hbus, hlocked, hdate⟩ := hinv
      obtain ⟨pointer', hread⟩ := rtcReadDate_rest chip psRTC pointer regs
      exact ⟨pointer', regs, by rw [hbus, hread], hlocked, hdate⟩
  | sendAlarm enableConfig psRTC =>
      obtain rfl := Option.some.inj hstep
      exact hinv.i2cWriteSerial h _ (by decide) (by decide)
  | setCountDown init =>
      obtain rfl := Option.some.inj hstep
      exact (hinv.i2cWriteSerial h _ (by decide) (by decide)).i2cWriteSerial h _ (by decide) (by decide)
  | setFrq fOut =>
      obtain rfl := Option.some.inj hstep
      exact hinv.i2cWriteSerial h _ (by decide) (by decide)
  | clrInt intEN =>
      obtain rfl := Option.some.inj hstep
      exact hinv.i2cWriteSerial h _ (by decide) (by decide)
  | getVoltage =>
      obtain rfl := Option.some.inj hstep
      exact hinv.i2cReadSerial _ _ _
  | own regs' =>
      -- the chip may have counted, but it has not unlocked itself
      obtain ⟨pointer, regs, hbus, -, -⟩ := hinv
      by_cases hopen : WriteEnabled chip regs'
      · exact absurd hstep (by rw [ClockSystem.step, if_pos hopen]; nofun)
      · rw [ClockSystem.step, if_neg hopen] at hstep
        obtain rfl := Option.some.inj hstep
        exact ⟨pointer, regs', by rw [hbus]; rfl, hopen, rfl⟩

end ClockSystem

/-- **Between any two driver calls** the bus is at rest, the chip write-protected, and `RTC_ReadDate`
delivers the date that was last written or counted; of bytes that are no date it delivers what the chip made
of them. -/
theorem driver_run (h : Sd3078 chip) (pointer : UInt8) {regs : ρ} (hlocked : ¬ WriteEnabled chip regs)
    (events : List (ClockEvent ρ)) :
    AllReached (ClockSystem.step chip) (ClockSystem.Ok chip) ⟨.rest pointer regs, dateOf chip regs⟩ events := by
  have hrun : AllReached (ClockSystem.step chip) (ClockSystem.Inv chip)
      ⟨.rest pointer regs, dateOf chip regs⟩ events :=
    allReached_of_step (fun s e s' hinv hstep => ClockSystem.Inv.step h hinv hstep)
      ⟨pointer, regs, rfl, hlocked, rfl⟩ events
  exact hrun.mono fun s hinv => ClockSystem.Inv.ok h hinv

/-- **What comes of a transfer.** The device address is even, the one for writing; `I2CReadSerial` makes the one
for reading of it. A write arrives register by register, between unlocking and locking when it is for the clock; a
read delivers the registers in their order, 256 of them for the length 0, and changes none. A chip that is not
there makes both fail, and the bus is at rest after either. -/
theorem serialTransfers_rest {deviceAddress : UInt8} (heven : deviceAddress.toNat % 2 = 0)
    (chip : RegisterChip ρ) (address length : UInt8) (ps : CellMemory UInt8) (pointer : UInt8) (regs : ρ) :
    (∃ pointer', i2cWriteSerial chip deviceAddress address length ps (.rest pointer regs) =
      (decide (deviceAddress = chip.address), .rest pointer'
        (if deviceAddress = chip.address then
          chip.writeAll regs (serialWrites chip deviceAddress address (slice ps 0 length.toNat))
        else regs))) ∧
    ∃ pointer', i2cReadSerial chip deviceAddress address length ps (.rest pointer regs) =
      (decide (deviceAddress = chip.address),
        if deviceAddress = chip.address then
          patch ps 0 (chip.loadFrom regs address (if length = 0 then 256 else length.toNat))
        else ps,
        .rest pointer' regs) :=
  ⟨i2cWriteSerial_rest heven chip address length ps pointer regs,
    i2cReadSerial_rest heven chip address length ps pointer regs⟩

/-! ## A chip -/

/-- A clock whose registers are memory, written when writing is allowed. -/
def memoryClock : RegisterChip (UInt8 → UInt8) where
  address := rtcAddress
  address_even := by decide
  read regs r := regs r
  write regs r v :=
    if r = ctr1 ∨ r = ctr2 ∨ regs ctr2 &&& 0x80 = 0x80 ∧ regs ctr1 &&& 0x84 = 0x84 then
      Function.update regs r v
    else regs
  next r := r + 1

/-- A write either arrives or is refused. -/
theorem memoryClock_write (regs : UInt8 → UInt8) (r v : UInt8) :
    memoryClock.write regs r v = Function.update regs r v ∨
      memoryClock.write regs r v = regs ∧ r ≠ ctr1 ∧ r ≠ ctr2 ∧ ¬ WriteEnabled memoryClock regs := by
  by_cases hallowed : r = ctr1 ∨ r = ctr2 ∨ regs ctr2 &&& 0x80 = 0x80 ∧ regs ctr1 &&& 0x84 = 0x84
  · exact .inl (if_pos hallowed)
  · obtain ⟨hctr1, hctr2, hopen⟩ := not_or.mp hallowed |>.imp_right not_or.mp
    exact .inr ⟨if_neg hallowed, hctr1, hctr2, hopen⟩

/-- Its registers are its memory. -/
theorem memoryClock_read (regs : UInt8 → UInt8) (r : UInt8) : memoryClock.read regs r = regs r := rfl

/-- A register that takes a value. -/
theorem memoryClock_read_update (regs : UInt8 → UInt8) (r v : UInt8) :
    memoryClock.read (Function.update regs r v) r = v := by
  rw [memoryClock_read, Function.update_self]

/-- The other registers. -/
theorem memoryClock_read_update_of_ne (regs : UInt8 → UInt8) {r s : UInt8} (v : UInt8) (hne : s ≠ r) :
    memoryClock.read (Function.update regs r v) s = memoryClock.read regs s := by
  rw [memoryClock_read, Function.update_of_ne hne, memoryClock_read]

/-- A write leaves the other registers alone. -/
theorem memoryClock_frame (regs : UInt8 → UInt8) {r s : UInt8} (v : UInt8) (hne : s ≠ r) :
    memoryClock.read (memoryClock.write regs r v) s = memoryClock.read regs s := by
  rcases memoryClock_write regs r v with hwrite | ⟨hwrite, -⟩
  · rw [hwrite, memoryClock_read_update_of_ne regs v hne]
  · rw [hwrite]

/-- It is one the driver can rely on. -/
theorem sd3078_memoryClock : Sd3078 memoryClock where
  address := rfl
  next _ _ := rfl
  wrtc1 regs v := by
    rcases memoryClock_write regs ctr2 v with hwrite | ⟨-, -, hne, -⟩
    · rw [hwrite, memoryClock_read_update]
    · exact absurd rfl hne
  wrtc23 regs v hone := by
    rcases memoryClock_write regs ctr1 v with hwrite | ⟨-, hne, -, -⟩
    · have hne : ctr2 ≠ ctr1 := by decide
      rw [memoryClock_frame regs v hne, hwrite, memoryClock_read_update]
      exact ⟨rfl, hone⟩
    · exact absurd rfl hne
  date_write regs t hopen _ w _ := by
    rcases memoryClock_write regs w.1 w.2 with hwrite | ⟨-, -, -, hclosed⟩
    · rw [hwrite, memoryClock_read_update]
    · exact absurd hopen hclosed
  date_frame regs _ _ v _ hne := memoryClock_frame regs v hne
  control_frame regs r v hdate := by
    have hctr1 : ctr1 ≠ r := by
      rintro rfl
      exact absurd hdate (by decide)
    have hctr2 : ctr2 ≠ r := by
      rintro rfl
      exact absurd hdate (by decide)
    exact ⟨memoryClock_frame regs v hctr1, memoryClock_frame regs v hctr2⟩

/-- A date is set, an alarm is set, the chip counts a second. -/
theorem driver_run_memoryClock :
    AllReached (ClockSystem.step memoryClock) (ClockSystem.Ok memoryClock)
      ⟨.rest 0 fun _ => 0, dateOf memoryClock fun _ => 0⟩
      [.writeDate ⟨0x58, 0x59, 0x23, 0x02, 0x31, 0x12, 0x24⟩, .sendAlarm (minAlm ||| secAlm) ⟨0x50, 4, 0, 0, 0, 0, 0⟩,
        .own fun r => if r = 0 then 0x59 else 0] :=
  driver_run sd3078_memoryClock 0 (by decide) _

/-- A byte for the user registers of that chip, and all 256 registers in one transfer of length 0. -/
theorem serialTransfers_memoryClock :
    (∃ pointer', i2cWriteSerial memoryClock rtcAddress 0x2C 1 (fun _ => 7) (.rest 0 fun _ => 0) =
      (true, .rest pointer'
        (memoryClock.writeAll (fun _ => 0) (serialWrites memoryClock rtcAddress 0x2C [7])))) ∧
    ∃ pointer', i2cReadSerial memoryClock rtcAddress 0 0 (fun _ => 7) (.rest 0 fun _ => 0) =
      (true, patch (fun _ => 7) 0 (memoryClock.loadFrom (fun _ => 0) 0 256), .rest pointer' fun _ => 0) :=
  ⟨(serialTransfers_rest (by decide) memoryClock 0x2C 1 (fun _ => 7) 0 fun _ => 0).1,
    (serialTransfers_rest (by decide) memoryClock 0 0 (fun _ => 7) 0 fun _ => 0).2⟩

end RtuShuiwen
