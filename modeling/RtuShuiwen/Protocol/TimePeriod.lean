import RtuShuiwen.Memory.FlashStore
import RtuShuiwen.Protocol.Builders
import RtuShuiwen.Protocol.HourGroups
import Mathlib.Data.Nat.Choose.Basic

/-! # The reply to a time-period query

`test_SendTimePeriodData` answers a query with packets of at most twelve hours of records.
`packetData_fullPackets` gives the addresses its loop reads: the offset added in each turn grows with
the packet number, so packet `k + 1` starts `k * (k + 1) / 2` packets behind the first. The reply is
the requested range exactly when at most two full packets are followed by at most one short one,
which is `timePeriod_iff`. -/

namespace RtuShuiwen

open ByteLayout CellMemory

/-! ## Records of the query -/

/-- The fields of `querrytimeperiod_downmessage_t` that the reply depends on. -/
structure QuerrytimeperiodDownmessage where
  startTime : Timeperiod
  endTime : Timeperiod
  /-- The element identifier as it is loaded, low byte first. -/
  precipitId : UInt16

/-- `querrytimeperiod_upmessage_t`, with the address and the length of the flash range that stand in
its last two fields. -/
structure QuerrytimeperiodUpmessage where
  header : MessageHeader
  totalPktsSn : Vector UInt8 3
  head : ContentHead
  timePeriodId : Vector UInt8 5
  elementId : UInt16
  startAddr : UInt32
  dataLength : UInt32

/-- `sizeof(querrytimeperiod_up_content_t)`. -/
def timePeriodContentSize : ℕ := 38

/-- `TIMEPERIOD_CONTENT_HOURGROUPS`. -/
abbrev timeperiodContentHourgroups : ℕ := 12

/-- The bytes of the record up to the flash range. -/
def QuerrytimeperiodUpmessage.leadBytes (m : QuerrytimeperiodUpmessage) : List UInt8 :=
  m.header.toBytes ++ m.totalPktsSn.toList ++
    (m.head.toBytes ++ m.timePeriodId.toList ++ u16le m.elementId)

/-- Before the data lie the header, the packet numbers and the content less its last two fields. -/
@[simp] theorem QuerrytimeperiodUpmessage.length_leadBytes (m : QuerrytimeperiodUpmessage) :
    m.leadBytes.length = 14 + 3 + (timePeriodContentSize - 8) := by
  simp [leadBytes, timePeriodContentSize]

/-! ## Building and sending a packet -/

/-- `QUERY_TIME_PERIOD_FUNID`. -/
def queryTimePeriodFunid : UInt8 := 0x38

/-- `QueryTimePeriodData_Init`. -/
def queryTimePeriodDataInit (p : RtuOperationParameters) (systime : TimeDef) (elementId : UInt16) :
    QuerrytimeperiodUpmessage where
  header := {
    startId := networkS0h
    centerAddr := 0x00
    remoteAddr := p.rtuRemoteAddr
    password := passwordWord p
    funId := queryTimePeriodFunid
    frameIdLen := swap16 0x025E
    contentStartId := networkStx }
  totalPktsSn := #v[0, 0, 0]
  head := { contentHead 0 systime p.rtuRemoteAddr with sn := 0x0000 }
  timePeriodId := #v[0x04, 0x18, 0x00, 0x00, 0x05]
  elementId := swap16 elementId
  startAddr := 0
  dataLength := 0

/-- The end mark and the checksum behind the bytes of a packet. -/
def sealPacket (buff : List UInt8) : List UInt8 :=
  buff ++ [networkEtb] ++ u16be (crc16Modbus (buff ++ [networkEtb]))

/-- Set the serial number of the message. -/
def QuerrytimeperiodUpmessage.withSn (m : QuerrytimeperiodUpmessage) (sn : UInt16) :
    QuerrytimeperiodUpmessage :=
  { m with head := { m.head with sn := swap16 sn } }

/-- `SendTimePerioadData_upframe`: the bytes it sends. -/
def sendTimePerioadDataUpframe (flash : Flash) (sn : UInt16) (m : QuerrytimeperiodUpmessage) :
    List UInt8 :=
  sealPacket ((m.withSn sn).leadBytes ++
    w25qxxRead flash m.startAddr.toNat (toU16 m.dataLength.toNat))

/-- Set the flash range of a packet. -/
def QuerrytimeperiodUpmessage.withRange (m : QuerrytimeperiodUpmessage) (startAddr dataLength : UInt32) :
    QuerrytimeperiodUpmessage :=
  { m with startAddr := startAddr, dataLength := dataLength }

/-- Set the frame length in the header. -/
def QuerrytimeperiodUpmessage.withFrameIdLen (m : QuerrytimeperiodUpmessage) (frameIdLength : UInt16) :
    QuerrytimeperiodUpmessage :=
  { m with header := { m.header with frameIdLen := swap16 frameIdLength } }

/-- Set the number of the packet, twelve bits behind the twelve of the total. -/
def QuerrytimeperiodUpmessage.withSerial (m : QuerrytimeperiodUpmessage) (i : UInt32) :
    QuerrytimeperiodUpmessage :=
  { m with totalPktsSn := setPacketNumber m.totalPktsSn ((i >>> 8) &&& 0x0f).toUInt8 i.toUInt8 }

/-- The frame length of a packet with `dataLength` bytes of data: packet numbers, content and data. -/
def frameIdLength (dataLength : ℕ) : UInt16 := .ofNat (3 + timePeriodContentSize - 8 + dataLength)

/-! ## The reply -/

/-- The loop over the full packets. `len` is the record length; `i` counts from 1 and there are
`n` turns left. The result is the frames and the last address read. -/
def fullPackets (flash : Flash) (len : ℕ) (m : QuerrytimeperiodUpmessage) :
    ℕ → UInt32 → UInt32 → UInt16 → List (List UInt8) × UInt32
  | 0, _, readAddress, _ => ([], readAddress)
  | n + 1, i, readAddress, sn =>
      let dataLength := .ofNat (timeperiodContentHourgroups * 12 * len)
      let readAddress := readAddress + (i - 1) * 12 * 12 * .ofNat len
      let frame :=
        sendTimePerioadDataUpframe flash sn ((m.withRange readAddress dataLength).withSerial i)
      let (frames, last) := fullPackets flash len m n (i + 1) readAddress (sn + 1)
      (frame :: frames, last)

/-- The reply of one packet, for at most twelve hours. -/
def singlePacket (flash : Flash) (len : ℕ) (m : QuerrytimeperiodUpmessage) (readAddress : UInt32)
    (hourGroups : ℕ) (sn : UInt16) : List (List UInt8) :=
  let m := { m with totalPktsSn := #v[0x00, 0x10, 0x01] }
  let m := m.withFrameIdLen (frameIdLength (hourGroups * 12 * len))
  [sendTimePerioadDataUpframe flash sn (m.withRange readAddress (.ofNat (hourGroups * 12 * len)))]

/-- The total number of packets, in the first twelve bits of the packet numbers. -/
def QuerrytimeperiodUpmessage.withTotal (m : QuerrytimeperiodUpmessage) (totalPkts : UInt16) :
    QuerrytimeperiodUpmessage :=
  { m with totalPktsSn :=
      #v[(totalPkts >>> 4).toUInt8, ((totalPkts <<< 4) &&& 0x00f0).toUInt8, 0x01] }

/-- The short packet behind the full ones, if hours remain. -/
def remainderPacket (flash : Flash) (len : ℕ) (m : QuerrytimeperiodUpmessage)
    (readAddress : UInt32) (hourGroups : ℕ) (sn : UInt16) : List (List UInt8) :=
  let remainderHourGroups := hourGroups % timeperiodContentHourgroups
  if remainderHourGroups ≠ 0 then
    let dataLength := remainderHourGroups * 12 * len
    let m := m.withRange (readAddress + .ofNat (12 * 12 * len)) (.ofNat dataLength)
    let m := m.withFrameIdLen (frameIdLength dataLength)
    [sendTimePerioadDataUpframe flash sn
      (m.withSerial (.ofNat (hourGroups / timeperiodContentHourgroups + 1)))]
  else []

/-- The reply of several packets: full ones of twelve hours each, announced with the frame length
for records of `fullLen` bytes, and a short one for the remaining hours. -/
def multiPackets (flash : Flash) (len fullLen : ℕ) (m : QuerrytimeperiodUpmessage)
    (readAddress : UInt32) (hourGroups : ℕ) (sn : UInt16) : List (List UInt8) :=
  let integerTotalPkts := hourGroups / timeperiodContentHourgroups
  let remainderPkts := if hourGroups % timeperiodContentHourgroups ≠ 0 then 1 else 0
  let m := m.withTotal (.ofNat (integerTotalPkts + remainderPkts))
  let m := m.withFrameIdLen (frameIdLength (timeperiodContentHourgroups * 12 * fullLen))
  let full := fullPackets flash len m integerTotalPkts 1 readAddress sn
  full.1 ++ remainderPacket flash len m full.2 hourGroups (sn + .ofNat integerTotalPkts)

/-- The record that the packets of a reply of several are sent from: total and frame length are set
once. -/
def multiRecord (fullLen : ℕ) (m : QuerrytimeperiodUpmessage) (hourGroups : ℕ) :
    QuerrytimeperiodUpmessage :=
  (m.withTotal (.ofNat (hourGroups / 12 + if hourGroups % 12 ≠ 0 then 1 else 0))).withFrameIdLen
    (frameIdLength (timeperiodContentHourgroups * 12 * fullLen))

/-- A reply of several packets is the full ones, and the short one behind them. -/
theorem multiPackets_eq (flash : Flash) (len fullLen : ℕ) (m : QuerrytimeperiodUpmessage)
    (readAddress : UInt32) (hourGroups : ℕ) (sn : UInt16) :
    multiPackets flash len fullLen m readAddress hourGroups sn =
      (fullPackets flash len (multiRecord fullLen m hourGroups) (hourGroups / 12) 1 readAddress
        sn).1 ++
        remainderPacket flash len (multiRecord fullLen m hourGroups)
          (fullPackets flash len (multiRecord fullLen m hourGroups) (hourGroups / 12) 1 readAddress
            sn).2
          hourGroups (sn + .ofNat (hourGroups / 12)) := rfl

/-- What `GetAddress` leaves in `read_address`, which is 0 before. -/
def readAddressOf : Except AddressError ℤ → UInt32
  | .ok address => .ofInt address
  | .error _ => 0

/-- `test_SendTimePeriodData`: the frames it sends, in order, if it returns. The full packets of
both elements are announced with the frame length for rainfall records. -/
def testSendTimePeriodData (st : StoreState) (systime : TimeDef) (sn : UInt16)
    (stray : ℤ → UInt8) (query : QuerrytimeperiodDownmessage) : Option (List (List UInt8)) :=
  let startDate := timeperiodToDate query.startTime
  let elementId := swap16 query.precipitId
  let m := queryTimePeriodDataInit (rtuParametersReaddata st) systime elementId
  let (hourGroups, monthday) :=
    getHourGroupsByTimperiod query.startTime query.endTime stray st.monthday
  hourGroups.map fun hourGroups =>
    if hourGroups.toNat ≤ timeperiodContentHourgroups then
      if elementId = cumulaPrecipitId then
        singlePacket st.flash 3 m (readAddressOf (getAddress startDate rainfallType monthday).1)
          hourGroups.toNat sn
      else if elementId = waterLevelElementId then
        singlePacket st.flash 4 m (readAddressOf (getAddress startDate waterlevelType monthday).1)
          hourGroups.toNat sn
      else []
    else
      if elementId = cumulaPrecipitId then
        multiPackets st.flash 3 3 m (readAddressOf (getAddress startDate rainfallType monthday).1)
          hourGroups.toNat sn
      else if elementId = waterLevelElementId then
        multiPackets st.flash 4 3 m (readAddressOf (getAddress startDate waterlevelType monthday).1)
          hourGroups.toNat sn
      else []

/-- The data field of a packet: what stands between its content and its last three bytes. -/
def packetData (frame : List UInt8) : List UInt8 := (frame.drop 47).take (frame.length - 50)

/-! ## The parts of one packet -/

/-- **What a packet is made of**: header, packet numbers, content, data, end mark and checksum. -/
theorem upframe_parts (flash : Flash) (sn : UInt16) (m : QuerrytimeperiodUpmessage) :
    ∃ crc : List UInt8, crc.length = 2 ∧ sendTimePerioadDataUpframe flash sn m = m.header.toBytes ++
      (m.totalPktsSn.toList ++ ((m.withSn sn).head.toBytes ++ (m.timePeriodId.toList ++ u16le m.elementId ++
        w25qxxRead flash m.startAddr.toNat (toU16 m.dataLength.toNat)))) ++ [networkEtb] ++ crc := by
  refine ⟨u16be (crc16Modbus ((m.withSn sn).leadBytes ++
    w25qxxRead flash m.startAddr.toNat (toU16 m.dataLength.toNat) ++ [networkEtb])), length_u16be _, ?_⟩
  simp only [sendTimePerioadDataUpframe, sealPacket, QuerrytimeperiodUpmessage.leadBytes,
    QuerrytimeperiodUpmessage.withSn, List.append_assoc]

/-- The content starts with the serial number. -/
theorem head_withSn (m : QuerrytimeperiodUpmessage) (sn : UInt16) :
    (m.withSn sn).head.toBytes = u16be sn ++ (pktTimeBytes m.head.pktTime ++ (u16le m.head.remoteAddrId ++
      (m.head.remoteAddr.toList ++ ([m.head.classId] ++ observTimeBytes m.head.observId m.head.observTime)))) := by
  simp only [QuerrytimeperiodUpmessage.withSn, ContentHead.toBytes, u16le_swap16, List.append_assoc]

/-- A packet carries the flash range that its record names. -/
theorem packetData_upframe (flash : Flash) (sn : UInt16) (m : QuerrytimeperiodUpmessage) :
    packetData (sendTimePerioadDataUpframe flash sn m) =
      w25qxxRead flash m.startAddr.toNat (toU16 m.dataLength.toNat) := by
  have hlead : (m.withSn sn).leadBytes.length = 47 := (m.withSn sn).length_leadBytes
  rw [packetData, sendTimePerioadDataUpframe, sealPacket, List.append_assoc, List.append_assoc,
    List.drop_left' hlead, List.take_left']
  simp only [List.length_append, hlead, length_w25qxxRead, List.length_singleton, length_u16be]
  omega

/-! ## The loop over the full packets -/

/-- `read_address` after `j` turns of the loop: the turns add 0, 1, 2, … packets. -/
def turnAddress (readAddress : UInt32) (len j : ℕ) : UInt32 :=
  readAddress + .ofNat (144 * len * j.choose 2)

/-- One turn moves on by as many packets as there were turns before. -/
theorem turnAddress_succ (readAddress : UInt32) (len j : ℕ) :
    turnAddress readAddress len j + (.ofNat (j + 1) - 1) * 12 * 12 * .ofNat len =
      turnAddress readAddress len (j + 1) := by
  have hsub : UInt32.ofNat (j + 1) - 1 = .ofNat j := by
    rw [UInt32.ofNat_add, UInt32.ofNat_one, UInt32.add_sub_cancel]
  have hstep : UInt32.ofNat j * 12 * 12 * .ofNat len = .ofNat (j * 12 * 12 * len) := by
    rw [UInt32.ofNat_mul, UInt32.ofNat_mul, UInt32.ofNat_mul]
    rfl
  rw [hsub, hstep, turnAddress, turnAddress, UInt32.add_assoc, ← UInt32.ofNat_add,
    Nat.choose_succ_succ' j 1, Nat.choose_one_right]
  congr 2
  ring

/-- **The data of the full packets**: packet `k`, counted from 0, carries the range at the address
after `k + 1` turns. -/
theorem packetData_fullPackets (flash : Flash) (len : ℕ) (m : QuerrytimeperiodUpmessage)
    (readAddress : UInt32) (n j : ℕ) (sn : UInt16) :
    (fullPackets flash len m n (.ofNat (j + 1)) (turnAddress readAddress len j) sn).2 =
        turnAddress readAddress len (j + n) ∧
      (fullPackets flash len m n (.ofNat (j + 1)) (turnAddress readAddress len j) sn).1.map
          packetData =
        (List.range n).map fun k =>
          w25qxxRead flash (turnAddress readAddress len (j + k + 1)).toNat
            (toU16 (UInt32.ofNat (timeperiodContentHourgroups * 12 * len)).toNat) := by
  -- the induction is on the turns left; `j` turns have moved the address already
  induction n generalizing j sn with
  | zero => exact ⟨rfl, rfl⟩
  | succ n ih =>
      obtain ⟨hlast, hdata⟩ := ih (j + 1) (sn + 1)
      have hcount : UInt32.ofNat (j + 1) + 1 = .ofNat (j + 1 + 1) := by rw [UInt32.ofNat_add (j + 1)]; rfl
      simp only [fullPackets, turnAddress_succ, hcount]
      refine ⟨?_, ?_⟩
      · rw [hlast, Nat.add_assoc, Nat.add_comm 1 n]
      · rw [List.map_cons, hdata, packetData_upframe, List.range_succ_eq_map, List.map_cons,
          List.map_map]
        congr 1
        apply List.map_congr_left
        intro k _
        simp only [Function.comp_apply]
        rw [show j + 1 + k + 1 = j + (k + 1) + 1 by omega]

/-- The data of the short packet. -/
theorem packetData_remainderPacket (flash : Flash) (len : ℕ) (m : QuerrytimeperiodUpmessage)
    (readAddress : UInt32) (hourGroups : ℕ) (sn : UInt16) :
    (remainderPacket flash len m readAddress hourGroups sn).flatMap packetData =
      if hourGroups % 12 ≠ 0 then
        w25qxxRead flash (readAddress + .ofNat (144 * len)).toNat
          (toU16 (UInt32.ofNat (hourGroups % 12 * 12 * len)).toNat)
      else [] := by
  rw [remainderPacket]
  split
  · rw [List.flatMap_singleton, packetData_upframe]
    rfl
  · rfl

/-- The data of a reply of several packets: the full packets and the rest, read one full packet
behind the last of them. -/
theorem packetData_multiPackets (flash : Flash) (len fullLen : ℕ) (m : QuerrytimeperiodUpmessage)
    (readAddress : UInt32) (hourGroups : ℕ) (sn : UInt16) :
    (multiPackets flash len fullLen m readAddress hourGroups sn).flatMap packetData =
      ((List.range (hourGroups / 12)).flatMap fun k =>
        w25qxxRead flash (turnAddress readAddress len (k + 1)).toNat
          (toU16 (UInt32.ofNat (144 * len)).toNat)) ++
      if hourGroups % 12 ≠ 0 then
        w25qxxRead flash
          (turnAddress readAddress len (hourGroups / 12) + .ofNat (144 * len)).toNat
          (toU16 (UInt32.ofNat (hourGroups % 12 * 12 * len)).toNat)
      else [] := by
  have hzero : turnAddress readAddress len 0 = readAddress := UInt32.add_zero readAddress
  have hfull := fun m => packetData_fullPackets flash len m readAddress (hourGroups / 12) 0 sn
  rw [hzero] at hfull
  simp only [Nat.zero_add] at hfull
  rw [multiPackets, List.flatMap_append, List.flatMap_def, UInt32.ofNat_one.symm, (hfull _).1,
    (hfull _).2, ← List.flatMap_def, packetData_remainderPacket]
  rfl

/-! ## Valid queries -/

/-- The element under which records of a type are queried. -/
def elementOf : DataType → UInt16
  | .rainfall => cumulaPrecipitId
  | .waterLevel => waterLevelElementId

/-- **What a reply consists of**: nothing, or the packets for one of the two elements and the count
of hours. -/
theorem testSendTimePeriodData_cases (st : StoreState) (systime : TimeDef) (sn : UInt16)
    (stray : ℤ → UInt8) (query : QuerrytimeperiodDownmessage) :
    (testSendTimePeriodData st systime sn stray query).getD [] = [] ∨
      ∃ (ty : DataType) (m : QuerrytimeperiodUpmessage) (readAddress : UInt32),
        ∃ hourGroups ∈
            (getHourGroupsByTimperiod query.startTime query.endTime stray st.monthday).1,
          m = queryTimePeriodDataInit (rtuParametersReaddata st) systime (swap16 query.precipitId) ∧
          swap16 query.precipitId = elementOf ty ∧
            (testSendTimePeriodData st systime sn stray query).getD [] =
              if hourGroups.toNat ≤ timeperiodContentHourgroups then
                singlePacket st.flash ty.singleDatalen m readAddress hourGroups.toNat sn
              else multiPackets st.flash ty.singleDatalen 3 m readAddress hourGroups.toNat sn := by
  simp only [testSendTimePeriodData]
  generalize hinit : queryTimePeriodDataInit (rtuParametersReaddata st) systime
    (swap16 query.precipitId) = m
  generalize readAddressOf (getAddress (timeperiodToDate query.startTime) rainfallType
    (getHourGroupsByTimperiod query.startTime query.endTime stray st.monthday).2).1 = rainAddress
  generalize readAddressOf (getAddress (timeperiodToDate query.startTime) waterlevelType
    (getHourGroupsByTimperiod query.startTime query.endTime stray st.monthday).2).1 = waterAddress
  cases (getHourGroupsByTimperiod query.startTime query.endTime stray st.monthday).1 with
  | none => exact .inl rfl
  | some hourGroups =>
      -- the two copies of the source differ in record length and address
      by_cases hrain : swap16 query.precipitId = cumulaPrecipitId
      · refine .inr ⟨.rainfall, m, rainAddress, hourGroups, rfl, rfl, hrain, ?_⟩
        simp only [Option.map_some, Option.getD_some, hrain, if_true]
        rfl
      · by_cases hwater : swap16 query.precipitId = waterLevelElementId
        · refine .inr ⟨.waterLevel, m, waterAddress, hourGroups, rfl, rfl, hwater, ?_⟩
          have hne : waterLevelElementId ≠ cumulaPrecipitId := by decide
          simp only [Option.map_some, Option.getD_some, hwater, hne, if_true, if_false]
          rfl
        · left
          simp only [Option.map_some, Option.getD_some, hrain, hwater, if_false, ite_self]

/-- Two records of one reply: they differ in packet numbers, flash range and frame length only. -/
structure QuerrytimeperiodUpmessage.SameReply (m m' : QuerrytimeperiodUpmessage) : Prop where
  /-- The header is the same but for the length. -/
  header : m'.header = { m.header with frameIdLen := m'.header.frameIdLen }
  /-- The fields before the data are the same. -/
  head : m'.head = m.head

/-- The full packets are sent from records of one reply. -/
theorem mem_fullPackets (flash : Flash) (len : ℕ) (m : QuerrytimeperiodUpmessage) (turns : ℕ)
    (i readAddress : UInt32) (sn : UInt16) :
    ∀ frame ∈ (fullPackets flash len m turns i readAddress sn).1,
      ∃ m' sn', m.SameReply m' ∧ frame = sendTimePerioadDataUpframe flash sn' m' := by
  induction turns generalizing i readAddress sn with
  | zero => simp [fullPackets]
  | succ turns ih =>
      intro frame hframe
      rcases List.mem_cons.mp hframe with hfirst | hrest
      · refine ⟨_, _, ?_, hfirst⟩
        exact ⟨rfl, rfl⟩
      · exact ih _ _ _ frame hrest

/-- So are all packets of a reply of several. -/
theorem mem_multiPackets (flash : Flash) (len fullLen : ℕ) (m : QuerrytimeperiodUpmessage)
    (readAddress : UInt32) (hourGroups : ℕ) (sn : UInt16) :
    ∀ frame ∈ multiPackets flash len fullLen m readAddress hourGroups sn,
      ∃ m' sn', m.SameReply m' ∧ frame = sendTimePerioadDataUpframe flash sn' m' := by
  intro frame hframe
  rw [multiPackets_eq] at hframe
  rcases List.mem_append.mp hframe with hfull | hrest
  · obtain ⟨m', sn', hsame, hsent⟩ := mem_fullPackets _ _ _ _ _ _ _ frame hfull
    exact ⟨m', sn', ⟨hsame.header, hsame.head⟩, hsent⟩
  · rw [remainderPacket] at hrest
    split at hrest
    · have hsent := List.mem_singleton.mp hrest
      refine ⟨_, _, ?_, hsent⟩
      exact ⟨rfl, rfl⟩
    · cases hrest

/-- **Every packet of a reply is sent from a record of that reply.** -/
theorem mem_testSendTimePeriodData (st : StoreState) (systime : TimeDef) (sn : UInt16)
    (stray : ℤ → UInt8) (query : QuerrytimeperiodDownmessage) :
    ∀ frame ∈ (testSendTimePeriodData st systime sn stray query).getD [],
      ∃ m' sn', (queryTimePeriodDataInit (rtuParametersReaddata st) systime
          (swap16 query.precipitId)).SameReply m' ∧
        frame = sendTimePerioadDataUpframe st.flash sn' m' := by
  intro frame hframe
  rcases testSendTimePeriodData_cases st systime sn stray query with
    hnone | ⟨ty, m, readAddress, hourGroups, -, hinit, -, hreply⟩
  · rw [hnone] at hframe
    cases hframe
  rw [hreply] at hframe
  rw [← hinit]
  split at hframe
  · rw [singlePacket] at hframe
    have hsent := List.mem_singleton.mp hframe
    refine ⟨_, _, ?_, hsent⟩
    exact ⟨rfl, rfl⟩
  · exact mem_multiPackets _ _ _ _ _ _ _ frame hframe

/-- A query for the records of one type between two full hours of a year. -/
structure ValidQuery where
  startTime : Timeperiod
  endTime : Timeperiod
  ty : DataType
  /-- The times are in BCD. -/
  digits : ∀ t ∈ [startTime, endTime], ∀ b ∈ [t.year, t.month, t.day, t.hour], Bcd.IsDigits b
  /-- The start exists. -/
  start_valid : (timeperiodToDate startTime).Valid
  /-- The end exists. -/
  end_valid : (timeperiodToDate endTime).Valid
  /-- Both lie in one year. -/
  same_year : startTime.year = endTime.year
  /-- The start comes first. -/
  before : (timeperiodToDate startTime).Before (timeperiodToDate endTime)

namespace ValidQuery

/-- The downlink message of the query. -/
def message (q : ValidQuery) : QuerrytimeperiodDownmessage :=
  ⟨q.startTime, q.endTime, swap16 (elementOf q.ty)⟩

/-- The hours from start to end. -/
def hours (q : ValidQuery) : ℕ :=
  (timeperiodToDate q.endTime).hourOfYear - (timeperiodToDate q.startTime).hourOfYear

/-- The address of the first record asked for. -/
def address (q : ValidQuery) : ℕ := (timeperiodToDate q.startTime).recordAddress q.ty

end ValidQuery

/-- **The reply is the history asked for**: whatever the flash holds, the data fields of the packets
make up the records from start to end. -/
def TimePeriodOk (q : ValidQuery) : Prop :=
  ∀ (st : StoreState) (systime : TimeDef) (sn : UInt16) (stray : ℤ → UInt8),
    ∃ frames, testSendTimePeriodData st systime sn stray q.message = some frames ∧
      frames.flatMap packetData =
        slice st.flash q.address (12 * q.ty.singleDatalen * q.hours)

/-! ## What the reply to a valid query contains -/

namespace ValidQuery

variable (q : ValidQuery)

/-- A query asks for at least one hour and at most a year. -/
theorem hours_lt : q.hours < 8784 := by
  have hday := MonthCalendar.dayOfYear_lt_sum q.end_valid.inYear
  have hsum := sum_monthLengths_le (timeperiodToDate q.endTime).year
  have hhour := q.end_valid.hour_le
  simp only [hours, Date.hourOfYear]
  omega

/-- A query asks for an hour at least. -/
theorem hours_pos : 0 < q.hours := by
  have hyear : (timeperiodToDate q.startTime).year = (timeperiodToDate q.endTime).year := by
    rw [timeperiodToDate, timeperiodToDate, q.same_year]
  rw [hours]
  rcases Date.hourOfYear_le_of_before q.start_valid q.end_valid hyear q.before with hlt | ⟨-, hminute⟩
  · omega
  · exact absurd hminute (Nat.lt_irrefl 0)

/-- Many bytes follow the first record asked for. -/
theorem address_add_le : q.address + 65536 ≤ 2 ^ 24 :=
  recordAddress_add_le ((Slot.index_lt ⟨_, q.start_valid, rfl⟩).trans (by decide)) q.ty

/-- **A valid query is answered** by one packet up to twelve hours and by several beyond. -/
theorem testSend_eq (st : StoreState) (systime : TimeDef) (sn : UInt16) (stray : ℤ → UInt8) :
    testSendTimePeriodData st systime sn stray q.message =
      let m := queryTimePeriodDataInit (rtuParametersReaddata st) systime (elementOf q.ty)
      some (if q.hours ≤ 12 then
          singlePacket st.flash q.ty.singleDatalen m (.ofNat q.address) q.hours sn
        else multiPackets st.flash q.ty.singleDatalen 3 m (.ofNat q.address) q.hours sn) := by
  have hyear : (timeperiodToDate q.startTime).year = (timeperiodToDate q.endTime).year := by
    rw [timeperiodToDate, timeperiodToDate, q.same_year]
  have hgroups := getHourGroups_eq q.start_valid q.end_valid hyear q.before stray st.monthday
  have hhours : (UInt32.ofNat q.hours).toNat = q.hours := by
    have hlt := q.hours_lt
    rw [UInt32.toNat_ofNat']
    omega
  have haddress := fun dataType t => getAddress_of_inYear q.start_valid.inYear rfl dataType t
  simp only [testSendTimePeriodData, message, hgroups, Option.map_some, haddress, readAddressOf,
    ofInt_natCast]
  rw [← hours, hhours, address]
  cases q.ty <;> rfl

end ValidQuery

/-- Reading at an address of the chip. -/
theorem w25qxxRead_ofNat (flash : Flash) {a n : ℕ} (h : a + n ≤ 2 ^ 24) (hn : n < 65536) :
    w25qxxRead flash (UInt32.ofNat a).toNat (toU16 (UInt32.ofNat n).toNat) = slice flash a n := by
  have ha : (UInt32.ofNat a).toNat = a := by
    rw [UInt32.toNat_ofNat']
    omega
  have hlen : toU16 (UInt32.ofNat n).toNat = n := by
    rw [UInt32.toNat_ofNat', toU16]
    omega
  rw [ha, hlen, w25qxxRead_eq_slice flash h]

/-- Turns from an address of the chip. -/
theorem turnAddress_ofNat (a len j : ℕ) :
    turnAddress (.ofNat a) len j = .ofNat (a + 144 * len * j.choose 2) := by
  rw [turnAddress, UInt32.ofNat_add]

/-- The number of the packet that the loop reads in turn `k`, as long as there are at most two. -/
theorem choose_two_of_lt : ∀ {k : ℕ}, k < 2 → (k + 1).choose 2 = k
  | 0, _ => rfl
  | 1, _ => rfl

/-- Up to two full packets lie one behind the other. -/
theorem flatMap_fullPackets (flash : Flash) {a len n : ℕ} (hn : n ≤ 2) (hlen : len ≤ 4)
    (ha : a + 65536 ≤ 2 ^ 24) :
    ((List.range n).flatMap fun k => w25qxxRead flash (turnAddress (.ofNat a) len (k + 1)).toNat
      (toU16 (UInt32.ofNat (144 * len)).toNat)) = slice flash a (144 * len * n) := by
  rw [← flatMap_slice]
  apply List.flatMap_congr
  intro k hk
  have hk2 : k < 2 := by have := List.mem_range.mp hk; omega
  have hle : 144 * len * k ≤ 144 * 4 * 2 := Nat.mul_le_mul (by omega) (by omega)
  rw [turnAddress_ofNat, choose_two_of_lt hk2, w25qxxRead_ofNat flash (by omega) (by omega)]

/-- **Up to 35 hours the reply is the history asked for.** -/
theorem timePeriodOk_of_hours_lt {q : ValidQuery} (h : q.hours < 36) : TimePeriodOk q := by
  intro st systime sn stray
  refine ⟨_, q.testSend_eq st systime sn stray, ?_⟩
  have ha := q.address_add_le
  have hlen : q.ty.singleDatalen ≤ 4 := by cases q.ty <;> decide
  have hsize : q.hours * 12 * q.ty.singleDatalen ≤ 36 * 12 * 4 :=
    Nat.mul_le_mul (by omega) hlen
  split
  · rw [singlePacket, List.flatMap_singleton, packetData_upframe,
      show 12 * q.ty.singleDatalen * q.hours = q.hours * 12 * q.ty.singleDatalen by ring]
    exact w25qxxRead_ofNat st.flash (by omega) (by omega)
  · next hgt =>
      -- one or two full packets, and the rest right behind them
      obtain ⟨n, hn⟩ : ∃ n, q.hours / 12 = n + 1 := ⟨q.hours / 12 - 1, by omega⟩
      have hrest : q.hours % 12 * 12 * q.ty.singleDatalen ≤ 11 * 12 * 4 :=
        Nat.mul_le_mul (by omega) hlen
      have hfull : 144 * q.ty.singleDatalen * (n + 1) ≤ 144 * 4 * 2 :=
        Nat.mul_le_mul (by omega) (by omega)
      have hsplit : 12 * q.ty.singleDatalen * q.hours =
          144 * q.ty.singleDatalen * (n + 1) + q.hours % 12 * 12 * q.ty.singleDatalen := by
        rw [← hn]
        conv_lhs => rw [← Nat.div_add_mod q.hours 12]
        ring
      have hnext : turnAddress (.ofNat q.address) q.ty.singleDatalen (n + 1) +
          .ofNat (144 * q.ty.singleDatalen) =
            .ofNat (q.address + 144 * q.ty.singleDatalen * (n + 1)) := by
        rw [turnAddress_ofNat, choose_two_of_lt (by omega), ← UInt32.ofNat_add]
        congr 1
        ring
      rw [packetData_multiPackets, hn, flatMap_fullPackets st.flash (by omega) hlen ha, hnext,
        hsplit, slice_add]
      split
      · rw [w25qxxRead_ofNat st.flash (by omega) (by omega)]
      · next hzero =>
          rw [not_not.mp hzero]
          simp [slice]

/-- **From 36 hours on it is not**: the third packet is read from the place of the fourth. -/
theorem not_timePeriodOk_of_le_hours {q : ValidQuery} (h : 36 ≤ q.hours) : ¬ TimePeriodOk q := by
  intro hok
  have ha := q.address_add_le
  have hpos : 0 < q.ty.singleDatalen := by cases q.ty <;> decide
  have hlen : q.ty.singleDatalen ≤ 4 := by cases q.ty <;> decide
  obtain ⟨packet, hpacket⟩ : ∃ packet, packet = 144 * q.ty.singleDatalen := ⟨_, rfl⟩
  have hthree : (2 + 1).choose 2 = 3 := rfl
  -- a flash that shows where the third packet was read
  obtain ⟨frames, hframes, hdata⟩ :=
    hok (markedStore (q.address + packet * 2)) ⟨0, 0, 0, 0, 0, 0, 0⟩ 0 fun _ => 0
  rw [q.testSend_eq, Option.some.injEq, if_neg (by omega)] at hframes
  obtain ⟨n, hn⟩ : ∃ n, q.hours / 12 = 3 + n := ⟨q.hours / 12 - 3, by omega⟩
  rw [← hframes, packetData_multiPackets, hn, List.range_add, List.flatMap_append,
    show List.range 3 = List.range 2 ++ [2] from rfl, List.flatMap_append,
    flatMap_fullPackets _ le_rfl hlen ha, List.flatMap_singleton, turnAddress_ofNat,
    hthree, ← hpacket, w25qxxRead_ofNat _ (by omega) (by omega)] at hdata
  have hlong : ∃ k, 12 * q.ty.singleDatalen * q.hours = packet * 2 + (packet + k) := by
    refine ⟨12 * q.ty.singleDatalen * (q.hours - 36), ?_⟩
    obtain ⟨r, hr⟩ := Nat.exists_eq_add_of_le h
    rw [hpacket, hr, Nat.add_sub_cancel_left]
    ring
  obtain ⟨k, hk⟩ := hlong
  rw [hk, slice_add, slice_add, List.append_assoc, List.append_assoc] at hdata
  -- the two full packets before agree, so the third would have to be the same data
  have hthird := List.append_inj_left (List.append_cancel_left hdata) (by simp)
  have hne : q.address + packet * 2 ≠ q.address + packet * 3 := by omega
  exact markedStore_ne hne (eq_of_slice_eq hthird 0 (by omega)).symm

/-- **When the reply to a time-period query is the history asked for**: exactly when the query spans
fewer than 36 hours, that is, when it takes at most two full packets. -/
theorem timePeriod_iff (q : ValidQuery) : TimePeriodOk q ↔ q.hours < 36 :=
  ⟨fun hok => by_contra fun h => not_timePeriodOk_of_le_hours (by omega) hok,
    timePeriodOk_of_hours_lt⟩

/-- The query for the rainfall from 2020-01-01 00h to 2020-01-02 12h. -/
def newYearQuery : ValidQuery where
  startTime := ⟨0x20, 0x01, 0x01, 0x00⟩
  endTime := ⟨0x20, 0x01, 0x02, 0x12⟩
  ty := .rainfall
  digits := by decide
  start_valid := by decide
  end_valid := by decide
  same_year := rfl
  before := by decide

/-- A query of 36 hours is answered with other records than those asked for. -/
theorem newYearQuery_not_timePeriodOk : newYearQuery.hours = 36 ∧ ¬ TimePeriodOk newYearQuery :=
  ⟨by decide, not_timePeriodOk_of_le_hours (by decide)⟩

end RtuShuiwen
