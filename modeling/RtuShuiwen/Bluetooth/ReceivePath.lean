import RtuShuiwen.Bluetooth.ModifyParameters
import RtuShuiwen.Hardware.Wk2124
import RtuShuiwen.Library.AccessTrace

/-! # The Bluetooth receive path

`bluetooth_task` fetches what the UART has received into a buffer of 50 bytes, takes the function code out
of it, carries the command out and answers. Nothing compares the number of bytes with the buffer, or with
what a command reads. **`bluetoothInside_iff`** says for which contents of the receive FIFO a turn of the
task stays inside its buffers and inside what was received. -/

namespace RtuShuiwen.Bluetooth

open AccessTrace ByteLayout CountedLoop

/-! ## Buffers and frames -/

/-- The buffer of `bluetooth_task`, the answer in `chang_upid_upframe`, and the data in
`modify_4g_parameters`. -/
inductive BtBuffer
  | buff
  | sendBuff
  | contentData
  deriving DecidableEq

/-- The declared sizes. -/
def BtBuffer.size : BtBuffer → ℕ
  | .buff => 50
  | .sendBuff => 50
  | .contentData => 20

/-- What a command does: `RTC_WriteDate`, a new station address, or `BlueTooth_Sendbuff`. -/
inductive BtAction
  | writeDate (fields : List UInt8)
  | writeRemoteAddr (addr : List UInt8)
  | sendbuff (bytes : List UInt8)

/-- `BT_START_ID`. -/
def btStartId : UInt16 := 0x7E7E

/-- `BT_CONTENT_START_ID`. -/
def btContentStartId : UInt8 := 0x02

/-- `BT_QUIT_FUNID`. -/
def btQuitFunid : UInt8 := 0x1B

/-- `BT_SETTIME_FUNID`. -/
def btSettimeFunid : UInt8 := 0x4A

/-- `BT_QUERY_TIME_FUNID`. -/
def btQueryTimeFunid : UInt8 := 0x50

/-- `BT_READ_RTU_FUNID`. -/
def btReadRtuFunid : UInt8 := 0x41

/-- `BT_MODIFY_4G_PARAMETERS_FUNID`. -/
def btModify4gParametersFunid : UInt8 := 0x44

/-- `BT_QUERY_REALDATA_FUNID`. -/
def btQueryRealdataFunid : UInt8 := 0x3A

/-- `BT_SENDATA_MANUALLY_FUNID`. -/
def btSendataManuallyFunid : UInt8 := 0x33

/-- The header of an answer. -/
def btHeader (funId : UInt8) (updownidContentlength : UInt16) : List UInt8 :=
  u16le btStartId ++ [funId] ++ u16le (swap16 updownidContentlength) ++ [btContentStartId]

/-! ## The commands -/

/-- A function of the receive path. -/
abbrev BtProgram := Program BtBuffer UInt8

/-- `set_real_time`. -/
def setRealTime : BtProgram (List BtAction) := do
  let fields ← loads .buff 8 6
  pure [.writeDate fields]

/-- `get_bluetooth_content_data`: the length is in the upper five bits of the eighth byte. -/
def getBluetoothContentData : BtProgram ℕ := do
  let dataLength ← load .buff 7
  copy .contentData 0 .buff 8 (dataLength >>> 3).toNat
  pure (dataLength >>> 3).toNat

/-- `modify_4g_parameters`, which prints the data. -/
def modify4gParameters : BtProgram (List BtAction) := do
  let contentDataLength ← getBluetoothContentData
  let _ ← loads .contentData 0 contentDataLength
  pure []

/-- `modify_rtu_parameters`. -/
def modifyRtuParameters : BtProgram (List BtAction) := do
  let guideId ← load .buff 6
  if guideId = btRemoteAddrGuideId then do
    let remoteAddr ← loads .buff 8 5
    pure [.writeRemoteAddr remoteAddr]
  else pure []

/-- `Execute_commanad`. -/
def executeCommanad (funId : UInt8) : BtProgram (ℤ × List BtAction) := do
  if funId = btSettimeFunid then do
    let actions ← setRealTime
    pure (0, actions)
  else if funId = btModifyRtuParametersFunid then do
    let actions ← modifyRtuParameters
    pure (0, actions)
  else if funId = btModify4gParametersFunid then do
    let actions ← modify4gParameters
    pure (0, actions)
  else pure (0, [])

/-! ## The answers -/

/-- `set_time_upframe`: the content and the end mark are copied from the frame. -/
def setTimeUpframe : BtProgram (List BtAction) := do
  let content ← loads .buff 6 10
  pure [.sendbuff (btHeader btSettimeFunid 0x0008 ++ content)]

/-- `read_time_upframe`, for a reading of the clock. -/
def readTimeUpframe (realTime : TimeDef) : List BtAction :=
  [.sendbuff (btHeader btQueryTimeFunid 0x0008 ++ [0xF0, 0x30] ++
    [realTime.year, realTime.month, realTime.day, realTime.hour, realTime.minute, realTime.second] ++
    u16le (swap16 0x0D0A))]

/-- `qerry_realdata_upframe`: water level, temperature and voltage are constants. -/
def qerryRealdataUpframe : List BtAction :=
  [.sendbuff (btHeader btQueryRealdataFunid 0x000D ++
    [0x0E, 0x1A, 0x00, 0x00, 0x12, 0x03, 0x11, 0x02, 0x24, 0x38, 0x12, 0x07, 0x33] ++
    u16le (swap16 0x0D0A))]

/-- `chang_upid_upframe`. -/
def changUpidUpframe (length : UInt32) : BtProgram (List BtAction) := do
  stores .sendBuff ((List.range' 0 50).zip (List.replicate 50 0))
  copy .sendBuff 0 .buff 0 length.toNat
  let x ← load .sendBuff 3
  store .sendBuff 3 (x &&& 0x7f)
  let bytes ← loads .sendBuff 0 length.toNat
  pure [.sendbuff bytes]

/-- The function codes that are answered with the frame itself. -/
def EchoFunid (funId : UInt8) : Prop :=
  funId = btQuitFunid ∨ funId = btReadRtuFunid ∨ funId = btModifyRtuParametersFunid ∨
    funId = btModify4gParametersFunid ∨ funId = btSendataManuallyFunid

instance (funId : UInt8) : Decidable (EchoFunid funId) := by
  unfold EchoFunid
  infer_instance

/-- `Response_upframe`. -/
def responseUpframe (realTime : TimeDef) (length : UInt32) (funId : UInt8) :
    BtProgram (ℤ × List BtAction) := do
  if EchoFunid funId then do
    let actions ← changUpidUpframe length
    pure (0, actions)
  else if funId = btSettimeFunid then do
    let actions ← setTimeUpframe
    pure (0, actions)
  else if funId = btQueryTimeFunid then pure (0, readTimeUpframe realTime)
  else if funId = btQueryRealdataFunid then pure (0, qerryRealdataUpframe)
  else pure (-1, [])

/-! ## The task -/

/-- What the loop of `Wk2xxxReadFifo` has stored after `fuel` turns, when `Wk2xxxGetBuf` comes to it. -/
def getBufStores (fuel : ℕ) (u : Uart) : List (ℕ × UInt8) :=
  if u.fsr &&& wk2xxxRdat ≠ 0 then
    let rfcnt : UInt32 := if u.rfcnt.toUInt32 = 0 then 256 else u.rfcnt.toUInt32
    ((turn (w := 8) readFifoBody rfcnt.toNat)^[fuel] (0, ⟨u, []⟩)).2.stores
  else []

/-- A turn of `bluetooth_task` from the call of `bluetooth_getbuff` on. -/
def bluetoothCommand (realTime : TimeDef) (length : UInt32) : BtProgram (List BtAction) := do
  if 0 < length then do
    let _ ← loads .buff 0 length.toNat
    let funId ← load .buff 2
    let executed ← executeCommanad funId
    if executed.1 = 0 then do
      let response ← responseUpframe realTime length funId
      pure (executed.2 ++ response.2)
    else pure executed.2
  else pure []

/-- A turn of `bluetooth_task`, when the loop that reads the FIFO has made at most `fuel` turns. -/
def bluetoothTask (fuel : ℕ) (realTime : TimeDef) (u : Uart) : BtProgram (List BtAction) := do
  stores .buff (getBufStores fuel u)
  match wk2xxxGetBuf fuel u with
  | none => pure []
  | some (length, _) => bluetoothCommand realTime length

/-! ## The property and its condition -/

/-- Stores stay inside the buffers. Loads from the buffer of the task are of bytes that were received, and
loads from the others stay inside. -/
def Inside (level : ℕ) : Access BtBuffer → Prop
  | .load .buff i => i < level
  | .load b i => i < b.size
  | .store b i => i < b.size

/-- **A turn of the task stays inside its buffers and inside what was received**, as long as it takes. -/
def BluetoothInside (u : Uart) (m : Buffers BtBuffer UInt8) : Prop :=
  ∀ fuel realTime, Within (Inside u.rxFifo.bytes.length) (bluetoothTask fuel realTime u) m

/-- The bytes that a command reads are in its frame, and its data fit. -/
structure CommandFits (frame : List UInt8) : Prop where
  settime : frame.getD 2 0 = btSettimeFunid → 16 ≤ frame.length
  modifyRtu : frame.getD 2 0 = btModifyRtuParametersFunid →
    7 ≤ frame.length ∧ (frame.getD 6 0 = btRemoteAddrGuideId → 13 ≤ frame.length)
  modify4g : frame.getD 2 0 = btModify4gParametersFunid →
    8 ≤ frame.length ∧ (frame.getD 7 0 >>> 3).toNat ≤ 20 ∧
      8 + (frame.getD 7 0 >>> 3).toNat ≤ frame.length

/-- **What may be received**: nothing, or a frame of at most 50 bytes that has a function code and all that
its command reads. -/
def FrameFits (frame : List UInt8) : Prop :=
  frame = [] ∨ 3 ≤ frame.length ∧ frame.length ≤ 50 ∧ CommandFits frame

/-! ## Fetching the bytes -/

/-- What has been stored, by the turns of the loop. -/
theorem getBufStores_eq (fuel : ℕ) (u : Uart) :
    getBufStores fuel u =
      ((turn (w := 8) readFifoBody u.rxFifo.bytes.length)^[fuel] (0#8, ⟨u, []⟩)).2.stores := by
  by_cases hdata : u.rxFifo.bytes.length = 0
  · have hnone : turn (w := 8) readFifoBody 0 (0#8, (⟨u, []⟩ : Transfer)) = (0#8, ⟨u, []⟩) := rfl
    rw [hdata, Function.iterate_fixed hnone]
    exact if_neg fun h => (rdat_iff u).mp h hdata
  · rw [getBufStores, if_pos ((rdat_iff u).mpr hdata), rfcnt_eq u hdata]
    dsimp only
    rw [toNat_level]
    rfl

/-- The bytes are stored in their order. -/
theorem getBufStores_of_le {fuel : ℕ} {u : Uart} (hfuel : fuel ≤ u.rxFifo.bytes.length) :
    getBufStores fuel u = (List.range fuel).zip (u.rxFifo.bytes.take fuel) := by
  rw [getBufStores_eq, iterate_turn hfuel (Nat.le_trans hfuel u.rxFifo.fits)]
  exact (work_readFifoBody u hfuel).1

/-- When there are less than 256, it ends there. -/
theorem getBufStores_of_ge {fuel : ℕ} {u : Uart} (hlevel : u.rxFifo.bytes.length < 256)
    (hfuel : u.rxFifo.bytes.length ≤ fuel) :
    getBufStores fuel u = (List.range u.rxFifo.bytes.length).zip u.rxFifo.bytes := by
  have hall := (work_readFifoBody u (Nat.le_refl _)).1
  rw [List.take_length] at hall
  rw [getBufStores_eq, iterate_turn_min hlevel, Nat.min_eq_right hfuel]
  exact hall

/-- The loop has ended when all bytes are read. -/
theorem wk2xxxGetBuf_of_lt {fuel : ℕ} {u : Uart} (hlevel : u.rxFifo.bytes.length < 256) :
    (fuel < u.rxFifo.bytes.length → wk2xxxGetBuf fuel u = none) ∧
      (u.rxFifo.bytes.length ≤ fuel →
        ∃ t, wk2xxxGetBuf fuel u = some (.ofNat u.rxFifo.bytes.length, t)) := by
  by_cases hdata : u.rxFifo.bytes.length = 0
  · refine ⟨fun hlt => by omega, fun _ => ⟨⟨u, []⟩, ?_⟩⟩
    rw [hdata]
    exact wk2xxxGetBuf_of_empty fuel hdata
  · rw [wk2xxxGetBuf_of_data fuel hdata, run_of_lt hlevel]
    refine ⟨fun hlt => ?_, fun hge => ⟨work readFifoBody u.rxFifo.bytes.length ⟨u, []⟩, ?_⟩⟩
    · rw [if_pos hlt]
      rfl
    · rw [if_neg (Nat.not_lt.mpr hge)]
      rfl

/-! ## What a command accesses -/

section Accesses

variable (level : ℕ) (m : Buffers BtBuffer UInt8)

/-- Consecutive indices below a bound. -/
theorem forall_add_lt {a b n : ℕ} (h : n = 0 → a ≤ b) : (∀ i < n, a + i < b) ↔ a + n ≤ b := by
  constructor
  · intro hall
    cases n with
    | zero => exact h rfl
    | succ n => exact hall n (Nat.lt_succ_self n)
  · intro hle i hi
    omega

/-- `set_real_time` reads up to the fourteenth byte. -/
theorem within_setRealTime : Within (Inside level) setRealTime m ↔ 14 ≤ level := by
  rw [setRealTime, within_bind, within_loads, within_pure, and_true]
  exact forall_add_lt nofun

/-- `set_time_upframe` reads up to the sixteenth. -/
theorem within_setTimeUpframe : Within (Inside level) setTimeUpframe m ↔ 16 ≤ level := by
  rw [setTimeUpframe, within_bind, within_loads, within_pure, and_true]
  exact forall_add_lt nofun

/-- `modify_rtu_parameters` reads the guide identifier, and the address behind that of an address. -/
theorem within_modifyRtuParameters : Within (Inside level) modifyRtuParameters m ↔
    7 ≤ level ∧ (m .buff 6 = btRemoteAddrGuideId → 13 ≤ level) := by
  rw [modifyRtuParameters, within_bind, within_load]
  refine and_congr Iff.rfl ?_
  show Within (Inside level) (if m .buff 6 = btRemoteAddrGuideId then _ else _) m ↔ _
  split
  · next hguide =>
      rw [within_bind, within_loads, within_pure, and_true, forall_prop_of_true hguide]
      exact forall_add_lt nofun
  · next hguide => exact ⟨fun _ h => absurd h hguide, fun _ => (within_pure _ _ _).mpr trivial⟩

/-- `modify_4g_parameters` reads a length, and copies as many bytes. -/
theorem within_modify4gParameters : Within (Inside level) modify4gParameters m ↔
    8 ≤ level ∧ (m .buff 7 >>> 3).toNat ≤ 20 ∧ 8 + (m .buff 7 >>> 3).toNat ≤ level := by
  rw [modify4gParameters, within_bind, getBluetoothContentData, within_bind, within_load]
  show (7 < level ∧ Within (Inside level) (copy _ 0 _ 8 (m .buff 7 >>> 3).toNat >>= _) m) ∧
    Within (Inside level) (loads .contentData 0 (m .buff 7 >>> 3).toNat >>= _) _ ↔ _
  generalize (m .buff 7 >>> 3).toNat = n
  rw [within_bind, within_copy, within_pure, and_true, within_bind, within_loads, within_pure, and_true]
  constructor
  · rintro ⟨⟨hlength, hcopy⟩, hprint⟩
    refine ⟨hlength, ?_, ?_⟩
    · have hle := (forall_add_lt (fun _ => Nat.zero_le 20)).mp hprint
      rwa [Nat.zero_add] at hle
    · exact (forall_add_lt fun _ => hlength).mp fun i hi => (hcopy i hi).1
  · rintro ⟨hlength, hsize, hdata⟩
    have hinside : ∀ i < n, 0 + i < 20 := (forall_add_lt fun _ => Nat.zero_le 20).mpr (by omega)
    exact ⟨⟨hlength, fun i hi => ⟨(forall_add_lt fun _ => hlength).mpr hdata i hi, hinside i hi⟩⟩, hinside⟩

/-- **What carrying out a command accesses.** -/
theorem within_executeCommanad (funId : UInt8) : Within (Inside level) (executeCommanad funId) m ↔
    (funId = btSettimeFunid → 14 ≤ level) ∧
      (funId = btModifyRtuParametersFunid →
        7 ≤ level ∧ (m .buff 6 = btRemoteAddrGuideId → 13 ≤ level)) ∧
      (funId = btModify4gParametersFunid →
        8 ≤ level ∧ (m .buff 7 >>> 3).toNat ≤ 20 ∧ 8 + (m .buff 7 >>> 3).toNat ≤ level) := by
  unfold executeCommanad
  by_cases hsettime : funId = btSettimeFunid
  · have hrtu : funId ≠ btModifyRtuParametersFunid := by rw [hsettime]; decide
    have h4g : funId ≠ btModify4gParametersFunid := by rw [hsettime]; decide
    rw [if_pos hsettime, within_bind, within_setRealTime, within_pure, and_true]
    exact ⟨fun h => ⟨fun _ => h, fun h => absurd h hrtu, fun h => absurd h h4g⟩, fun h => h.1 hsettime⟩
  rw [if_neg hsettime]
  by_cases hrtu : funId = btModifyRtuParametersFunid
  · have h4g : funId ≠ btModify4gParametersFunid := by rw [hrtu]; decide
    rw [if_pos hrtu, within_bind, within_modifyRtuParameters, within_pure, and_true]
    exact ⟨fun h => ⟨fun h => absurd h hsettime, fun _ => h, fun h => absurd h h4g⟩, fun h => h.2.1 hrtu⟩
  rw [if_neg hrtu]
  by_cases h4g : funId = btModify4gParametersFunid
  · rw [if_pos h4g, within_bind, within_modify4gParameters, within_pure, and_true]
    exact ⟨fun h => ⟨fun h => absurd h hsettime, fun h => absurd h hrtu, fun _ => h⟩, fun h => h.2.2 h4g⟩
  · rw [if_neg h4g, within_pure, true_iff]
    exact ⟨fun h => absurd h hsettime, fun h => absurd h hrtu, fun h => absurd h h4g⟩

/-- `chang_upid_upframe` copies the whole frame. -/
theorem within_changUpidUpframe (length : UInt32) :
    Within (Inside level) (changUpidUpframe length) m ↔ length.toNat ≤ 50 ∧ length.toNat ≤ level := by
  have hzeros : ∀ x ∈ (List.range' 0 50).zip (List.replicate 50 (0 : UInt8)),
      Inside level (.store .sendBuff x.1) := by
    intro x hx
    obtain ⟨hindex, -⟩ := List.of_mem_zip hx
    exact (List.mem_range'_1.mp hindex).2
  rw [changUpidUpframe, within_bind, within_stores, within_bind, within_copy, within_bind, within_load,
    within_bind, within_store, within_bind, within_loads, within_pure, and_true]
  constructor
  · rintro ⟨-, hcopy, -⟩
    have hsize := (forall_add_lt fun _ => Nat.zero_le 50).mp fun i hi => (hcopy i hi).2
    have hlevel := (forall_add_lt fun _ => Nat.zero_le level).mp fun i hi => (hcopy i hi).1
    rw [Nat.zero_add] at hsize hlevel
    exact ⟨hsize, hlevel⟩
  · rintro ⟨hsize, hlevel⟩
    have hinside : ∀ i < length.toNat, 0 + i < 50 := (forall_add_lt fun _ => Nat.zero_le 50).mpr (by omega)
    have hreceived : ∀ i < length.toNat, 0 + i < level :=
      (forall_add_lt fun _ => Nat.zero_le level).mpr (by omega)
    have hfourth : 3 < 50 := by decide
    exact ⟨hzeros, fun i hi => ⟨hreceived i hi, hinside i hi⟩, hfourth, hfourth, hinside⟩

/-- **What an answer accesses.** -/
theorem within_responseUpframe (realTime : TimeDef) (length : UInt32) (funId : UInt8) :
    Within (Inside level) (responseUpframe realTime length funId) m ↔
      (EchoFunid funId → length.toNat ≤ 50 ∧ length.toNat ≤ level) ∧
        (funId = btSettimeFunid → 16 ≤ level) := by
  unfold responseUpframe
  by_cases hecho : EchoFunid funId
  · have hsettime : funId ≠ btSettimeFunid := by
      rintro rfl
      exact absurd hecho (by decide)
    rw [if_pos hecho, within_bind, within_changUpidUpframe, within_pure, and_true]
    exact ⟨fun h => ⟨fun _ => h, fun h => absurd h hsettime⟩, fun h => h.1 hecho⟩
  rw [if_neg hecho]
  by_cases hsettime : funId = btSettimeFunid
  · rw [if_pos hsettime, within_bind, within_setTimeUpframe, within_pure, and_true]
    exact ⟨fun h => ⟨fun h => absurd h hecho, fun _ => h⟩, fun h => h.2 hsettime⟩
  · have hnone : ∀ p : ℤ × List BtAction, Within (Inside level) (pure p : BtProgram _) m := fun p =>
      (within_pure _ _ p).mpr trivial
    refine iff_of_true ?_ ⟨fun h => absurd h hecho, fun h => absurd h hsettime⟩
    rw [if_neg hsettime]
    split
    · exact hnone _
    · split
      · exact hnone _
      · exact hnone _

end Accesses

/-! ## A turn of the task -/

/-- Carrying out a command never fails. -/
theorem executeCommanad_status (funId : UInt8) (m : Buffers BtBuffer UInt8) :
    (executeCommanad funId m).value.1 = 0 := by
  unfold executeCommanad
  split
  · rfl
  · split
    · rfl
    · split
      · rfl
      · rfl

/-- **What a command of some length accesses.** -/
theorem within_bluetoothCommand (level : ℕ) (m : Buffers BtBuffer UInt8) (realTime : TimeDef)
    {length : UInt32} (hlength : 0 < length) (hlevel : length.toNat = level) :
    Within (Inside level) (bluetoothCommand realTime length) m ↔
      3 ≤ level ∧ Within (Inside level) (executeCommanad (m .buff 2)) m ∧
        (EchoFunid (m .buff 2) → level ≤ 50) ∧ (m .buff 2 = btSettimeFunid → 16 ≤ level) := by
  have hprint : ∀ i < level, Inside level (.load .buff (0 + i)) :=
    (forall_add_lt fun _ => Nat.zero_le level).mpr (by omega)
  rw [bluetoothCommand, if_pos hlength, within_bind, within_loads, (loads_eq m .buff 0 _).2, within_bind,
    within_load, within_bind]
  show _ ∧ 2 < level ∧ Within _ (executeCommanad (m .buff 2)) m ∧
    Within _ (if (executeCommanad (m .buff 2) m).value.1 = 0 then _ else _) _ ↔ _
  rw [if_pos (executeCommanad_status _ _), within_bind, within_pure, and_true, within_responseUpframe, hlevel]
  have hsame : level ≤ 50 ∧ level ≤ level ↔ level ≤ 50 := and_iff_left (Nat.le_refl level)
  rw [hsame]
  exact and_iff_right hprint

/-- Once everything is read, the buffer starts with what was received. -/
theorem buff_received (u : Uart) (m : Buffers BtBuffer UInt8) {i : ℕ} (hi : i < u.rxFifo.bytes.length) :
    (stores .buff ((List.range u.rxFifo.bytes.length).zip u.rxFifo.bytes) m).buffers .buff i =
      u.rxFifo.bytes.getD i 0 := by
  have hrange : List.range u.rxFifo.bytes.length = List.range' 0 u.rxFifo.bytes.length :=
    List.range_eq_range'
  have hcell := CellMemory.patch_add (m .buff) 0 u.rxFifo.bytes i hi
  rw [Nat.zero_add] at hcell
  rw [hrange, buffers_stores _ _ _ rfl, hcell, List.getD_eq_getElem _ _ hi]

/-- **The loop that reads the FIFO stays inside the buffer for 50 turns.** -/
theorem within_getBufStores (level : ℕ) {fuel : ℕ} {u : Uart} (hfuel : fuel ≤ u.rxFifo.bytes.length)
    (m : Buffers BtBuffer UInt8) :
    Within (Inside level) (stores .buff (getBufStores fuel u)) m ↔ fuel ≤ 50 := by
  have hturns : (u.rxFifo.bytes.take fuel).length = fuel := by
    rw [List.length_take]
    exact Nat.min_eq_left hfuel
  rw [within_stores, getBufStores_of_le hfuel]
  constructor
  · intro h
    by_contra hlong
    have hlast : (50, (u.rxFifo.bytes.take fuel)[50]) ∈ (List.range fuel).zip (u.rxFifo.bytes.take fuel) := by
      refine List.mem_iff_getElem.mpr ⟨50, ?_, ?_⟩
      · rw [List.length_zip, List.length_range, hturns, Nat.min_self]
        exact Nat.not_le.mp hlong
      · rw [List.getElem_zip, List.getElem_range]
    exact absurd (h _ hlast) (Nat.lt_irrefl 50)
  · intro hle x hx
    obtain ⟨hindex, -⟩ := List.of_mem_zip hx
    exact Nat.lt_of_lt_of_le (List.mem_range.mp hindex) hle

/-- **A turn that has read everything**, frame by frame. -/
theorem within_bluetoothTask {fuel : ℕ} {u : Uart} (hlevel : u.rxFifo.bytes.length ≤ 50)
    (hfuel : u.rxFifo.bytes.length ≤ fuel) (realTime : TimeDef) (m : Buffers BtBuffer UInt8) :
    Within (Inside u.rxFifo.bytes.length) (bluetoothTask fuel realTime u) m ↔ FrameFits u.rxFifo.bytes := by
  have hshort : u.rxFifo.bytes.length < 256 := Nat.lt_of_le_of_lt hlevel (by decide)
  obtain ⟨t, hread⟩ := (wk2xxxGetBuf_of_lt hshort).2 hfuel
  have hstores : getBufStores fuel u = getBufStores u.rxFifo.bytes.length u := by
    rw [getBufStores_of_ge hshort hfuel, getBufStores_of_ge hshort (Nat.le_refl _)]
  rw [bluetoothTask, within_bind, hstores, within_getBufStores _ (Nat.le_refl _), and_iff_right hlevel, hread,
    getBufStores_of_ge hshort (Nat.le_refl _)]
  dsimp only
  by_cases hdata : u.rxFifo.bytes.length = 0
  · rw [hdata]
    refine iff_of_true ?_ (.inl (List.length_eq_zero_iff.mp hdata))
    exact (within_pure _ _ _).mpr trivial
  · have hpos : 0 < UInt32.ofNat u.rxFifo.bytes.length := by
      rw [UInt32.lt_iff_toNat_lt, toNat_level]
      exact Nat.pos_of_ne_zero hdata
    rw [within_bluetoothCommand _ _ _ hpos (toNat_level u), within_executeCommanad]
    have hbuff := fun i hi => buff_received u m (i := i) hi
    generalize (stores .buff ((List.range u.rxFifo.bytes.length).zip u.rxFifo.bytes) m).buffers = m' at hbuff ⊢
    constructor
    · rintro ⟨hfun, ⟨-, hrtu, h4g⟩, -, hsettime⟩
      rw [hbuff 2 hfun] at hrtu h4g hsettime
      refine .inr ⟨hfun, hlevel, hsettime, fun hid => ?_, fun hid => ?_⟩
      · obtain ⟨hguide, haddr⟩ := hrtu hid
        rw [hbuff 6 hguide] at haddr
        exact ⟨hguide, haddr⟩
      · obtain ⟨hlength, hcontent⟩ := h4g hid
        rw [hbuff 7 hlength] at hcontent
        exact ⟨hlength, hcontent⟩
    · rintro (hempty | ⟨hfun, -, hfits⟩)
      · exact absurd (List.length_eq_zero_iff.mpr hempty) hdata
      rw [hbuff 2 hfun]
      refine ⟨hfun, ⟨fun hid => ?_, fun hid => ?_, fun hid => ?_⟩, fun _ => hlevel, hfits.settime⟩
      · exact Nat.le_trans (by decide) (hfits.settime hid)
      · obtain ⟨hguide, haddr⟩ := hfits.modifyRtu hid
        rw [hbuff 6 hguide]
        exact ⟨hguide, haddr⟩
      · obtain ⟨hlength, hcontent⟩ := hfits.modify4g hid
        rw [hbuff 7 hlength]
        exact ⟨hlength, hcontent⟩

/-- A task that stays inside has received something that fits. -/
theorem BluetoothInside.frameFits {u : Uart} {m : Buffers BtBuffer UInt8} (hinside : BluetoothInside u m) :
    FrameFits u.rxFifo.bytes := by
  have hlevel : u.rxFifo.bytes.length ≤ 50 := by
    by_contra hlong
    -- the first 51 turns of the loop are made in any case
    have hstores := ((within_bind _ _ _ _).mp (hinside 51 ⟨0, 0, 0, 0, 0, 0, 0⟩)).1
    rw [within_getBufStores _ (Nat.not_le.mp hlong)] at hstores
    exact absurd hstores (by decide)
  exact (within_bluetoothTask hlevel (Nat.le_refl _) ⟨0, 0, 0, 0, 0, 0, 0⟩ m).mp (hinside _ _)

/-- What fits can be received. -/
theorem FrameFits.bluetoothInside {u : Uart} (hfits : FrameFits u.rxFifo.bytes)
    (m : Buffers BtBuffer UInt8) : BluetoothInside u m := by
  intro fuel realTime
  have hlevel : u.rxFifo.bytes.length ≤ 50 := by
    rcases hfits with hempty | ⟨-, hle, -⟩
    · rw [hempty]
      exact Nat.zero_le 50
    · exact hle
  rcases Nat.lt_or_ge fuel u.rxFifo.bytes.length with hrunning | hdone
  · have hread := (wk2xxxGetBuf_of_lt (Nat.lt_of_le_of_lt hlevel (by decide))).1 hrunning
    have hle := Nat.le_of_lt hrunning
    rw [bluetoothTask, within_bind, within_getBufStores _ hle, hread]
    exact ⟨Nat.le_trans hle hlevel, (within_pure _ _ _).mpr trivial⟩
  · exact (within_bluetoothTask hlevel hdone realTime m).mpr hfits

/-- **For which contents of the receive FIFO the task stays inside**: none, or a frame of at most 50 bytes
with all that its command reads. -/
theorem bluetoothInside_iff (u : Uart) (m : Buffers BtBuffer UInt8) :
    BluetoothInside u m ↔ FrameFits u.rxFifo.bytes :=
  ⟨fun hinside => hinside.frameFits, fun hfits => hfits.bluetoothInside m⟩

/-- A UART that has received some bytes. -/
def uartOf (bytes : List UInt8) (hfits : bytes.length ≤ 256) : Uart :=
  ⟨⟨bytes, hfits⟩, fifoOf 0 (Nat.zero_le _), 0, 0⟩

/-- 51 bytes are one more than the buffer takes, and the data of a 4G parameter may be 31 bytes long. -/
theorem not_bluetoothInside :
    ¬ BluetoothInside (uartOf (List.replicate 51 0x7E) (by decide)) (fun _ _ => 0) ∧
      ¬ BluetoothInside (uartOf ([0x7E, 0x7E, 0x44, 0x80, 0x21, 0x02, 0xD4, 0xF8] ++ List.replicate 31 0x30)
        (by decide)) (fun _ _ => 0) := by
  constructor
  · intro hinside
    rcases hinside.frameFits with hempty | ⟨-, hle, -⟩
    · cases hempty
    · exact absurd hle (by decide)
  · intro hinside
    rcases hinside.frameFits with hempty | ⟨-, -, hfits⟩
    · cases hempty
    · exact absurd (hfits.modify4g (by decide)).2.1 (by decide)

/-! ## What a turn does to the parameters -/

/-- An action on the two images of the parameters. -/
def BtAction.apply (s : ParameterImages) : BtAction → ParameterImages
  | .writeRemoteAddr addr =>
      let gRtuParameters := { s.gRtuParameters with rtuRemoteAddr := (split 5 addr).1 }
      { gRtuParameters, store := rtuParametersWritedata gRtuParameters s.store }
  | _ => s

/-- What a command of some length does. -/
theorem value_bluetoothCommand (realTime : TimeDef) (m : Buffers BtBuffer UInt8) {length : UInt32}
    (hlength : 0 < length) :
    (bluetoothCommand realTime length m).value = (executeCommanad (m .buff 2) m).value.2 ++
      (responseUpframe realTime length (m .buff 2) (executeCommanad (m .buff 2) m).buffers).value.2 := by
  have hloads := (loads_eq m .buff 0 length.toNat).2
  rw [bluetoothCommand, if_pos hlength]
  show ((if (executeCommanad _ _).value.1 = 0 then _ else _ : BtProgram _) _).value = _
  rw [if_pos (executeCommanad_status _ _), hloads]
  rfl

/-- An answer does nothing to them. -/
theorem apply_responseUpframe (realTime : TimeDef) (length : UInt32) (funId : UInt8)
    (m : Buffers BtBuffer UInt8) (s : ParameterImages) :
    (responseUpframe realTime length funId m).value.2.foldl BtAction.apply s = s := by
  unfold responseUpframe
  split
  · rfl
  · split
    · rfl
    · split
      · rfl
      · split
        · rfl
        · rfl

section Parameters

variable {frame : List UInt8} {m : Buffers BtBuffer UInt8}

/-- The address is taken from the frame. -/
theorem split_loads (hbuff : ∀ i < frame.length, m .buff i = frame.getD i 0) (hlength : 13 ≤ frame.length) :
    (split 5 (loads .buff 8 5 m).value).1 = btRemoteAddr frame := by
  apply Vector.ext
  intro i hi
  have hcell : (CellMemory.slice (m .buff) 8 5).getD i 0 = m .buff (8 + i) := by
    have hslice : i < (CellMemory.slice (m .buff) 8 5).length := by rwa [CellMemory.length_slice]
    rw [List.getD_eq_getElem _ _ hslice, CellMemory.getElem_slice]
  rw [(loads_eq m .buff 8 5).1, btRemoteAddr, split, split, Vector.getElem_ofFn, Vector.getElem_ofFn, hcell,
    getD_drop, hbuff _ (by omega)]

/-- **Carrying out a frame that fits** does to the parameters what is said of `Execute_commanad` there. -/
theorem apply_executeCommanad (hbuff : ∀ i < frame.length, m .buff i = frame.getD i 0)
    (hfits : CommandFits frame) (s : ParameterImages) :
    (executeCommanad (frame.getD 2 0) m).value.2.foldl BtAction.apply s =
      RtuShuiwen.executeCommanad frame (frame.getD 2 0) s := by
  unfold executeCommanad RtuShuiwen.executeCommanad
  by_cases hrtu : frame.getD 2 0 = btModifyRtuParametersFunid
  · have hsettime : frame.getD 2 0 ≠ btSettimeFunid := by rw [hrtu]; decide
    obtain ⟨hlength, haddr⟩ := hfits.modifyRtu hrtu
    rw [if_neg hsettime, if_pos hrtu, if_pos hrtu, RtuShuiwen.modifyRtuParameters, ← hbuff 6 hlength]
    have hvalue : (modifyRtuParameters m).value = if m .buff 6 = btRemoteAddrGuideId then
        [.writeRemoteAddr (loads .buff 8 5 m).value] else [] := by
      show ((if m .buff 6 = btRemoteAddrGuideId then _ else _ : BtProgram _) m).value = _
      split
      · rfl
      · rfl
    show (modifyRtuParameters m).value.foldl BtAction.apply s = _
    rw [hvalue]
    split
    · next hguide =>
        rw [← split_loads hbuff (haddr (hbuff 6 hlength ▸ hguide))]
        rfl
    · rfl
  · rw [if_neg hrtu, if_neg hrtu]
    split
    · rfl
    · split
      · rfl
      · rfl

/-- **A turn of the task on a frame that fits** changes the parameters as the frame says, whatever was in
the buffer before. -/
theorem apply_bluetoothTask {fuel : ℕ} {u : Uart} (hfits : FrameFits u.rxFifo.bytes)
    (hdata : u.rxFifo.bytes ≠ []) (hfuel : u.rxFifo.bytes.length ≤ fuel) (realTime : TimeDef)
    (m : Buffers BtBuffer UInt8) (s : ParameterImages) :
    (bluetoothTask fuel realTime u m).value.foldl BtAction.apply s =
      RtuShuiwen.executeCommanad u.rxFifo.bytes (u.rxFifo.bytes.getD 2 0) s := by
  obtain ⟨hfun, hlevel, hcommand⟩ := hfits.resolve_left hdata
  have hshort : u.rxFifo.bytes.length < 256 := Nat.lt_of_le_of_lt hlevel (by decide)
  obtain ⟨t, hread⟩ := (wk2xxxGetBuf_of_lt hshort).2 hfuel
  have hpos : 0 < UInt32.ofNat u.rxFifo.bytes.length := by
    rw [UInt32.lt_iff_toNat_lt, toNat_level]
    exact Nat.lt_of_lt_of_le (by decide : 0 < 3) hfun
  have hbuff := fun i hi => buff_received u m (i := i) hi
  have hturn : (bluetoothTask fuel realTime u m).value = (bluetoothCommand realTime
      (.ofNat u.rxFifo.bytes.length)
      (stores .buff ((List.range u.rxFifo.bytes.length).zip u.rxFifo.bytes) m).buffers).value := by
    rw [← getBufStores_of_ge hshort hfuel]
    show ((match wk2xxxGetBuf fuel u with | none => _ | some (length, _) => _ : BtProgram _) _).value = _
    rw [hread]
  rw [hturn, value_bluetoothCommand _ _ hpos, List.foldl_append, apply_responseUpframe, hbuff 2 hfun]
  exact apply_executeCommanad hbuff hcommand s

end Parameters

end RtuShuiwen.Bluetooth
