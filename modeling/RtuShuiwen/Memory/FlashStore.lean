import RtuShuiwen.Hardware.W25qxx
import RtuShuiwen.Memory.SlotLayout

/-! # The store in the flash chip

`SaveDataToFlash`, `ReadDataFromFlash`, the parameter block and the day-start word over the
W25QXX driver. Every store operation writes one region of `storeMap` and so refines an update of a
key-value store (`load_exec`); `store_read_over_write` is the resulting law for whole runs. -/

namespace RtuShuiwen

open CellMemory ByteLayout MonthCalendar

/-- The chip and the static month table. -/
structure StoreState where
  flash : Flash
  monthday : MonthTable

/-- A store in which one byte differs from all others. -/
def markedStore (x : ℕ) : StoreState := ⟨fun y => if y = x then 1 else 0, .initial⟩

/-- The marked byte is told apart from every other. -/
theorem markedStore_ne {x y : ℕ} (h : x ≠ y) : (markedStore x).flash x ≠ (markedStore x).flash y := by
  have hx : (markedStore x).flash x = 1 := if_pos rfl
  have hy : (markedStore x).flash y = 0 := if_neg h.symm
  rw [hx, hy]
  decide

/-! ## The functions of the store -/

/-- An `int` passed as the `u32` address of the driver. -/
def toU32 (a : ℤ) : ℕ := (a % 2 ^ 32).toNat

/-- An `int` passed as the `u16` byte count of the driver. -/
def toU16 (n : ℕ) : ℕ := n % 2 ^ 16

/-- `SaveDataToFlash` of `dataLen` records. -/
def saveDataToFlash (date : Date) (dataType : UInt8) (data : List UInt8) (dataLen : ℕ)
    (st : StoreState) : Except AddressError Unit × StoreState :=
  match getAddress date dataType st.monthday with
  | (.ok address, monthday) =>
      let numByteToWrite := toU16 (dataLen * (DataType.ofByte dataType).singleDatalen)
      (.ok (), ⟨w25qxxWrite st.flash (toU32 address) (data.take numByteToWrite), monthday⟩)
  | (.error e, monthday) => (.error e, ⟨st.flash, monthday⟩)

/-- `ReadDataFromFlash` of `dataLen` bytes. -/
def readDataFromFlash (date : Date) (dataType : UInt8) (dataLen : ℕ) (st : StoreState) :
    Except AddressError (List UInt8) × StoreState :=
  match getAddress date dataType st.monthday with
  | (.ok address, monthday) =>
      (.ok (w25qxxRead st.flash (toU32 address) (toU16 dataLen)), ⟨st.flash, monthday⟩)
  | (.error e, monthday) => (.error e, ⟨st.flash, monthday⟩)

/-- `RTU_parameters_Writedata`. -/
def rtuParametersWritedata (parameter : RtuOperationParameters) (st : StoreState) : StoreState :=
  { st with flash := w25qxxWrite st.flash idrRtuParameters parameter.toBytes }

/-- `RTU_parameters_Readdata`. -/
def rtuParametersReaddata (st : StoreState) : RtuOperationParameters :=
  .ofBytes (w25qxxRead st.flash idrRtuParameters RtuOperationParameters.byteSize)

/-- `SaveDayStartRainfall`, of the pulse count `dayStartRainfall`. -/
def saveDayStartRainfall (dayStartRainfall : UInt32) (st : StoreState) : StoreState :=
  { st with flash := w25qxxWrite st.flash rainfallDayStartValue (u32le dayStartRainfall) }

/-- `ReadDayStartRainfall`. -/
def readDayStartRainfall (st : StoreState) : UInt32 :=
  ofU32le (w25qxxRead st.flash rainfallDayStartValue 4)

/-! ## Store operations -/

/-- A write to the store: one record, the parameter block or the day-start word. -/
inductive StoreOp
  | saveRecord (s : Slot) (dataType : UInt8)
      (data : Vector UInt8 (DataType.ofByte dataType).singleDatalen)
  | writeParameters (parameter : RtuOperationParameters)
  | saveDayStart (dayStartRainfall : UInt32)

namespace StoreOp

/-- Carry out a write. -/
def exec (st : StoreState) : StoreOp → StoreState
  | saveRecord s dataType data => (saveDataToFlash s.toDate dataType data.toList 1 st).2
  | writeParameters parameter => rtuParametersWritedata parameter st
  | saveDayStart dayStartRainfall => saveDayStartRainfall dayStartRainfall st

/-- The region an operation writes and what it writes there. -/
def write : StoreOp → storeMap.Write UInt8
  | saveRecord s dataType data => ⟨s.key (.ofByte dataType), data.toList, by simp⟩
  | writeParameters parameter => ⟨.parameters, parameter.toBytes, by simp [storeMap, StoreKey.size]⟩
  | saveDayStart dayStartRainfall =>
      ⟨.dayStart, u32le dayStartRainfall, by simp [storeMap, StoreKey.size]⟩

/-- The bytes saved for a slot, if the operation saves a record of its type, year parity and
number. -/
def recordFor (s : Slot) (ty : DataType) : StoreOp → Option (List UInt8)
  | saveRecord u dataType data =>
      if DataType.ofByte dataType = ty ∧ u.year % 2 = s.year % 2 ∧ u.index = s.index then
        some data.toList
      else none
  | _ => none

/-- The parameter block written, if the operation writes it. -/
def parametersOf : StoreOp → Option RtuOperationParameters
  | writeParameters parameter => some parameter
  | _ => none

/-- The day-start value written, if the operation writes it. -/
def dayStartOf : StoreOp → Option UInt32
  | saveDayStart dayStartRainfall => some dayStartRainfall
  | _ => none

end StoreOp

/-- Carry out a list of writes, one after the other. -/
def runStore (st : StoreState) (ops : List StoreOp) : StoreState := ops.foldl StoreOp.exec st

/-! ## Each operation is one write of the region map -/

/-- Every region of the store lies inside the chip. -/
theorem region_in_chip (k : StoreKey) :
    storeMap.base k < 2 ^ 24 ∧ storeMap.base k + storeMap.size k ≤ 2 ^ 24 := by
  cases k with
  | record ty odd index =>
      have hrange := (record_range ty odd index).2.1
      have hbank : bankBase ty odd + bankSize ≤ 2 ^ 24 := by cases ty <;> cases odd <;> decide
      have hpos : 0 < ty.singleDatalen := by cases ty <;> decide
      change (StoreKey.record ty odd index).base < _ ∧
        (StoreKey.record ty odd index).base + ty.singleDatalen ≤ _
      omega
  | dayStart => decide
  | parameters => decide

/-- **Writing a region through the driver is a store of the region map.** -/
theorem w25qxxWrite_region (m : Flash) (w : storeMap.Write UInt8) :
    w25qxxWrite m (storeMap.base w.key) w.data = storeMap.store m w := by
  obtain ⟨hlt, hle⟩ := region_in_chip w.key
  exact w25qxxWrite_eq_patch m hlt (by rw [w.fits]; exact hle)

/-- **Reading a region through the driver is a load of the region map.** -/
theorem w25qxxRead_region (m : Flash) (k : StoreKey) :
    w25qxxRead m (storeMap.base k) (storeMap.size k) = storeMap.load m k :=
  w25qxxRead_eq_slice m (region_in_chip k).2

/-- The address of a slot survives its passage to the driver. -/
theorem toU32_recordAddress (s : Slot) (ty : DataType) :
    toU32 (s.recordAddress ty) = s.recordAddress ty := by
  have hlt := (region_in_chip (s.key ty)).1
  rw [base_key] at hlt
  rw [toU32]
  omega

/-- Up to the end of the chip there are many bytes behind a record. -/
theorem recordAddress_add_le {d : Date} (h : d.slotIndex < 200000) (ty : DataType) :
    d.recordAddress ty + 65536 ≤ 2 ^ 24 := by
  cases ty <;> cases hodd : d.oddYear <;>
    simp only [Date.recordAddress, hodd, bankBase, DataType.singleDatalen] <;> omega

/-- A read that starts at a day of the calendar is a slice of the chip. -/
theorem readDataFromFlash_of_inYear (st : StoreState) {d : Date}
    (h : InYear (monthLengths d.year) d.month d.day) (halign : d.minute % 5 = 0)
    (hindex : d.slotIndex < 200000) (dataType : UInt8) {n : ℕ} (hn : n < 65536) :
    readDataFromFlash d dataType n st =
      (.ok (slice st.flash (d.recordAddress (.ofByte dataType)) n),
        ⟨st.flash, isleapyear (d.year + 2000) st.monthday⟩) := by
  have hchip := recordAddress_add_le hindex (.ofByte dataType)
  have haddr : toU32 (d.recordAddress (.ofByte dataType)) = d.recordAddress (.ofByte dataType) := by
    rw [toU32]
    omega
  have hlen : toU16 n = n := Nat.mod_eq_of_lt hn
  simp only [readDataFromFlash, getAddress_of_inYear h halign, haddr, hlen]
  rw [w25qxxRead_eq_slice _ (by omega)]

/-- A record is short enough for the byte count of the driver. -/
theorem toU16_singleDatalen (ty : DataType) : toU16 ty.singleDatalen = ty.singleDatalen := by
  cases ty <;> rfl

/-- **Every operation carries out its write.** -/
theorem flash_exec (st : StoreState) (op : StoreOp) :
    (op.exec st).flash = storeMap.store st.flash op.write := by
  cases op with
  | saveRecord s dataType data =>
      have hall : data.toList.take (DataType.ofByte dataType).singleDatalen = data.toList :=
        List.take_of_length_le (by simp)
      simp only [StoreOp.exec, saveDataToFlash, getAddress_slot, Nat.one_mul, toU16_singleDatalen,
        toU32_recordAddress, hall]
      exact w25qxxWrite_region st.flash (StoreOp.saveRecord s dataType data).write
  | writeParameters parameter =>
      exact w25qxxWrite_region st.flash (StoreOp.writeParameters parameter).write
  | saveDayStart dayStartRainfall =>
      exact w25qxxWrite_region st.flash (StoreOp.saveDayStart dayStartRainfall).write

/-- **The store refines a key-value store**: an operation updates the contents at one key. -/
theorem load_exec (st : StoreState) (op : StoreOp) :
    storeMap.load (op.exec st).flash =
      Function.update (storeMap.load st.flash) op.write.key op.write.data := by
  rw [flash_exec, RegionMap.load_store]

/-- A run of operations carries out their writes. -/
theorem flash_runStore (st : StoreState) (ops : List StoreOp) :
    (runStore st ops).flash = storeMap.storeAll st.flash (ops.map StoreOp.write) := by
  induction ops generalizing st with
  | nil => rfl
  | cons op ops ih =>
      rw [runStore, List.foldl_cons, ← runStore, ih, flash_exec, List.map_cons,
        RegionMap.storeAll_cons]

/-- The contents of a region after a run. -/
theorem load_runStore (st : StoreState) (ops : List StoreOp) (k : StoreKey) :
    storeMap.load (runStore st ops).flash k =
      (ops.reverse.findSome? fun op => op.write.at storeMap k).getD (storeMap.load st.flash k) := by
  rw [flash_runStore, RegionMap.load_storeAll, RegionMap.lastData, ← List.map_reverse,
    List.findSome?_map]
  rfl

/-- The contents of a region to which a run writes, and one thing only. -/
theorem load_runStore_of_unique (st : StoreState) {ops : List StoreOp} {k : StoreKey} {bs : List UInt8}
    (hex : ∃ op ∈ ops, op.write.key = k) (hunique : ∀ op ∈ ops, op.write.key = k → op.write.data = bs) :
    storeMap.load (runStore st ops).flash k = bs := by
  have hlast : storeMap.lastData (ops.map StoreOp.write) k = some bs := by
    apply RegionMap.lastData_eq_some
    · simpa using hex
    · simpa using hunique
  rw [flash_runStore, RegionMap.load_storeAll, hlast, Option.getD_some]

/-! ## Reading back -/

/-- Reading the record of a slot loads its region. -/
theorem readDataFromFlash_slot (st : StoreState) (s : Slot) (dataType : UInt8) :
    (readDataFromFlash s.toDate dataType (DataType.ofByte dataType).singleDatalen st).1 =
      .ok (storeMap.load st.flash (s.key (.ofByte dataType))) := by
  have hlen : (DataType.ofByte dataType).singleDatalen < 65536 := by
    cases DataType.ofByte dataType <;> decide
  rw [readDataFromFlash_of_inYear st s.valid.inYear s.aligned (s.index_lt.trans (by decide)) _
    hlen]
  rfl

/-- Reading the parameters loads their region. -/
theorem rtuParametersReaddata_eq (st : StoreState) :
    rtuParametersReaddata st = .ofBytes (storeMap.load st.flash .parameters) :=
  congrArg RtuOperationParameters.ofBytes (w25qxxRead_region st.flash .parameters)

/-- **The parameters read back are those written.** -/
@[simp] theorem rtuParametersReaddata_writedata (parameter : RtuOperationParameters)
    (st : StoreState) : rtuParametersReaddata (rtuParametersWritedata parameter st) = parameter := by
  have hload := load_exec st (.writeParameters parameter)
  have hdata : storeMap.load (rtuParametersWritedata parameter st).flash .parameters =
      parameter.toBytes := by
    rw [show rtuParametersWritedata parameter st = StoreOp.exec st (.writeParameters parameter) from
      rfl, hload]
    exact Function.update_self ..
  rw [rtuParametersReaddata_eq, hdata, RtuOperationParameters.ofBytes_toBytes]

/-- Reading the day-start word loads its region. -/
theorem readDayStartRainfall_eq (st : StoreState) :
    readDayStartRainfall st = ofU32le (storeMap.load st.flash .dayStart) :=
  congrArg ofU32le (w25qxxRead_region st.flash .dayStart)

/-- What an operation does to the region of a record. -/
theorem write_at_key (op : StoreOp) (s : Slot) (ty : DataType) :
    op.write.at storeMap (s.key ty) = op.recordFor s ty := by
  cases op with
  | saveRecord u dataType data =>
      simp only [RegionMap.Write.at, StoreOp.write, StoreOp.recordFor, key_eq_iff]
  | writeParameters parameter => rfl
  | saveDayStart dayStartRainfall => rfl

/-- What an operation does to the parameter block. -/
theorem write_at_parameters (op : StoreOp) :
    op.write.at storeMap .parameters = op.parametersOf.map RtuOperationParameters.toBytes := by
  cases op <;> rfl

/-- What an operation does to the day-start word. -/
theorem write_at_dayStart (op : StoreOp) :
    op.write.at storeMap .dayStart = op.dayStartOf.map u32le := by
  cases op <;> rfl

/-- The parameters after a run are those last written. -/
theorem rtuParametersReaddata_runStore (st : StoreState) (ops : List StoreOp) :
    rtuParametersReaddata (runStore st ops) =
      (ops.reverse.findSome? StoreOp.parametersOf).getD (rtuParametersReaddata st) := by
  rw [rtuParametersReaddata_eq, rtuParametersReaddata_eq, load_runStore]
  simp only [write_at_parameters]
  rw [show (fun op : StoreOp => op.parametersOf.map RtuOperationParameters.toBytes) =
    Option.map RtuOperationParameters.toBytes ∘ StoreOp.parametersOf from rfl,
    ← List.map_findSome?]
  cases ops.reverse.findSome? StoreOp.parametersOf <;> simp

/-- **Read over write, for whole runs of the store.** After any run of saves, whatever the flash and
the month table held before, a record read back is the one last saved for its type, year parity and
slot number, the parameters are those last written and the day-start word is the one last saved; what
was never written reads as it did before the run. -/
theorem store_read_over_write (st : StoreState) (ops : List StoreOp) :
    (∀ (s : Slot) (dataType : UInt8),
      (readDataFromFlash s.toDate dataType (DataType.ofByte dataType).singleDatalen
          (runStore st ops)).1 =
        match ops.reverse.findSome? (StoreOp.recordFor s (.ofByte dataType)) with
        | some bs => .ok bs
        | none =>
            (readDataFromFlash s.toDate dataType (DataType.ofByte dataType).singleDatalen st).1) ∧
    rtuParametersReaddata (runStore st ops) =
      (ops.reverse.findSome? StoreOp.parametersOf).getD (rtuParametersReaddata st) ∧
    readDayStartRainfall (runStore st ops) =
      (ops.reverse.findSome? StoreOp.dayStartOf).getD (readDayStartRainfall st) := by
  refine ⟨fun s dataType => ?_, rtuParametersReaddata_runStore st ops, ?_⟩
  · rw [readDataFromFlash_slot, readDataFromFlash_slot, load_runStore]
    simp only [write_at_key]
    cases ops.reverse.findSome? (StoreOp.recordFor s (.ofByte dataType)) <;> rfl
  · rw [readDayStartRainfall_eq, readDayStartRainfall_eq, load_runStore]
    simp only [write_at_dayStart]
    rw [show (fun op : StoreOp => op.dayStartOf.map u32le) =
      Option.map u32le ∘ StoreOp.dayStartOf from rfl, ← List.map_findSome?]
    cases ops.reverse.findSome? StoreOp.dayStartOf <;> simp

end RtuShuiwen
