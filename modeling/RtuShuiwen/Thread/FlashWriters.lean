import RtuShuiwen.Hardware.W25qxxShared
import RtuShuiwen.Library.TransitionSystem
import RtuShuiwen.Memory.FlashStore

/-! # Two tasks that write the flash

`basic_message_task` saves a record while `bluetooth_task` or `receive_command` writes the parameter block.
Their writes go to different sectors, but both keep the image of a sector in `W25QXX_BUFFER`, and each can be
cut by the other between two transactions.

* **`flashWrites_serialisable`**: the chip ends as after one write behind the other, in the runs in which no
  task reads or fills a buffer that the other still takes bytes from;
* **`exists_not_serialisable`**: the condition leaves nothing out. -/

namespace RtuShuiwen

open CellMemory TransitionSystem

/-! ## The two tasks -/

/-- The tasks that write: `basic_message_task`, and `bluetooth_task` or `receive_command`. -/
inductive FlashTask
  | basicMessage
  | parameterTask
  deriving DecidableEq

/-- The other one. -/
def FlashTask.other : FlashTask → FlashTask
  | basicMessage => parameterTask
  | parameterTask => basicMessage

/-- The driver, and a call of `W25QXX_Write` in each task. -/
structure FlashTasks where
  driver : FlashDriver
  writer : FlashTask → FlashWriter

/-- A step of one task. -/
def FlashTasks.turn (s : FlashTasks) (t : FlashTask) : FlashTasks :=
  let next := (s.writer t).step s.driver
  ⟨next.1, Function.update s.writer t next.2⟩

/-- Any task can make the next step. -/
def FlashTasks.step (s : FlashTasks) (t : FlashTask) : Option FlashTasks := some (s.turn t)

/-- Both writes begin: a record of the slot `slot`, and the parameter block. -/
def FlashTasks.start (d : FlashDriver) (slot : Slot) (dataType : UInt8)
    (data : Vector UInt8 (DataType.ofByte dataType).singleDatalen)
    (parameter : RtuOperationParameters) : FlashTasks where
  driver := d
  writer
    | .basicMessage => .start (slot.recordAddress (.ofByte dataType)) data.toList
    | .parameterTask => .start idrRtuParameters parameter.toBytes

/-- Both writes are at their end. -/
def FlashTasks.Done (s : FlashTasks) : Prop := ∀ t, (s.writer t).stage = .done

/-- **The writes are serialised**: when both are at their end, the chip holds what one serial order leaves,
the two ranges hold the data, and no other byte has changed. -/
structure FlashTasks.Serialised (m : Flash) (slot : Slot) (dataType : UInt8)
    (data : Vector UInt8 (DataType.ofByte dataType).singleDatalen) (parameter : RtuOperationParameters)
    (s : FlashTasks) : Prop where
  serial : s.Done → ∀ monthday : MonthTable,
    s.driver.flash = (rtuParametersWritedata parameter
        (saveDataToFlash slot.toDate dataType data.toList 1 ⟨m, monthday⟩).2).flash ∨
      s.driver.flash = (saveDataToFlash slot.toDate dataType data.toList 1
        (rtuParametersWritedata parameter ⟨m, monthday⟩)).2.flash
  record : s.Done →
    slice s.driver.flash (slot.recordAddress (.ofByte dataType))
      (DataType.ofByte dataType).singleDatalen = data.toList
  parameters : s.Done →
    slice s.driver.flash idrRtuParameters RtuOperationParameters.byteSize = parameter.toBytes
  others : s.Done → ∀ x,
    (x < slot.recordAddress (.ofByte dataType) ∨
      slot.recordAddress (.ofByte dataType) + (DataType.ofByte dataType).singleDatalen ≤ x) →
    (x < idrRtuParameters ∨ idrRtuParameters + RtuOperationParameters.byteSize ≤ x) →
    s.driver.flash x = m x

/-- **When a step spares the image of the other task.** A read of a sector into the buffer, and the filling
of the buffer, leave a buffer that serves the other write. -/
def ImageSpared (s : FlashTasks) (t : FlashTask) : Prop :=
  match (s.writer t).stage with
  | .read =>
      (s.writer t.other).Serves s.driver
        (patch s.driver.w25qxxBuffer 0 (w25qxxRead s.driver.flash ((s.writer t).secpos * 4096) 4096))
  | .fill =>
      (s.writer t.other).Serves s.driver
        (patch s.driver.w25qxxBuffer (s.writer t).secoff (s.writer t).turnData)
  | .check | .erase | .program _ | .done => True

/-! ## Runs -/

theorem FlashTask.eq_or_other (t u : FlashTask) : u = t ∨ u = t.other := by
  cases t <;> cases u <;> simp [other]

theorem FlashTask.other_ne (t : FlashTask) : t.other ≠ t := by
  cases t <;> simp [other]

@[simp] theorem FlashTask.other_other (t : FlashTask) : t.other.other = t := by
  cases t <;> rfl

/-- The writes of two tasks on their way in different sectors. -/
structure FlashTasks.Inv (call : FlashTask → WriteCall) (m : Flash) (s : FlashTasks) : Prop where
  course : ∀ t, (s.writer t).OnCourse (call t) m s.driver
  /-- What neither of them touches. -/
  frame : ∀ x, (∀ t, ¬ (call t).Touches x) → s.driver.flash x = m x

section

variable {call : FlashTask → WriteCall} {m : Flash} {s : FlashTasks} {t : FlashTask}

@[simp] theorem FlashTasks.turn_writer_self : (s.turn t).writer t = ((s.writer t).step s.driver).2 :=
  Function.update_self ..

@[simp] theorem FlashTasks.turn_writer_other : (s.turn t).writer t.other = s.writer t.other :=
  Function.update_of_ne t.other_ne _ _

/-- A step spares the image just when it leaves a buffer that serves the other write. -/
theorem FlashTasks.Inv.imageSpared_iff (hinv : s.Inv call m) :
    ImageSpared s t ↔ (s.writer t.other).Serves s.driver (s.turn t).driver.w25qxxBuffer := by
  have hself : (s.writer t.other).Serves s.driver s.driver.w25qxxBuffer :=
    ((hinv.course t.other).serves_iff _).mpr (hinv.course t.other).outcome
  unfold ImageSpared FlashTasks.turn FlashWriter.step
  cases hs : (s.writer t).stage with
  | read | fill =>
      dsimp only
      exact Iff.rfl
  | check | erase | program v | done =>
      dsimp only
      exact iff_of_true trivial hself

/-- **Every step that spares the image keeps both writes on course.** -/
theorem FlashTasks.Inv.turn (hdisjoint : ∀ t x, (call t).Touches x → ¬ (call t.other).Touches x)
    (hinv : s.Inv call m) (hspared : ImageSpared s t) : (s.turn t).Inv call m := by
  refine ⟨fun u => ?_, fun x hx => ?_⟩
  · rcases FlashTask.eq_or_other t u with rfl | rfl
    · rw [turn_writer_self]
      exact (hinv.course u).step
    · rw [turn_writer_other]
      refine (hinv.course t.other).other (fun x hx => ?_) (hinv.imageSpared_iff.mp hspared)
      exact (hinv.course t).within.flash_step _ (by simpa using hdisjoint _ x hx)
  · rw [← hinv.frame x hx]
    exact (hinv.course t).within.flash_step _ (hx t)

/-- **At the end** every address holds the result of the write that touches it. -/
theorem FlashTasks.Inv.flash_of_done
    (hdisjoint : ∀ t x, (call t).Touches x → ¬ (call t.other).Touches x) (hinv : s.Inv call m)
    (hdone : s.Done) (t : FlashTask) : s.driver.flash = (call t.other).result ((call t).result m) := by
  have hresult : ∀ u x, (call u).Touches x → s.driver.flash x = (call u).result m x := by
    intro u x hx
    have houtcome := (hinv.course u).outcome x hx
    unfold FlashWriter.outcome at houtcome
    rw [hdone u] at houtcome
    exact houtcome
  -- one write touches the address, the other one, or none
  funext x
  by_cases hx : (call t).Touches x
  · rw [WriteCall.result_of_not_touches _ _ (hdisjoint t x hx)]
    exact hresult t x hx
  · have hkeep : (call t).result m x = m x := WriteCall.result_of_not_touches _ _ hx
    by_cases hx' : (call t.other).Touches x
    · rw [hresult _ x hx']
      exact (patch_congr hkeep _ _).symm
    · rw [WriteCall.result_of_not_touches _ _ hx', hkeep]
      refine hinv.frame x fun u => ?_
      rcases FlashTask.eq_or_other t u with rfl | rfl
      · exact hx
      · exact hx'

end

/-! ## The record and the parameter block -/

section

variable (slot : Slot) (dataType : UInt8) (data : Vector UInt8 (DataType.ofByte dataType).singleDatalen)
  (parameter : RtuOperationParameters)

/-- The two calls. -/
def flashCalls : FlashTask → WriteCall
  | .basicMessage =>
      { writeAddr := slot.recordAddress (.ofByte dataType)
        pBuffer := data.toList
        pos := by
          rw [Vector.length_toList]
          cases DataType.ofByte dataType <;> decide
        chip := by
          rw [Vector.length_toList]
          exact (region_in_chip (slot.key (.ofByte dataType))).2 }
  | .parameterTask =>
      { writeAddr := idrRtuParameters
        pBuffer := parameter.toBytes
        pos := by rw [RtuOperationParameters.length_toBytes]; decide
        chip := by rw [RtuOperationParameters.length_toBytes]; decide }

/-- **No record lies in the sector of the parameter block.** -/
theorem record_sector (ty : DataType) :
    slot.recordAddress ty + ty.singleDatalen ≤ 128 * 4096 ∨ 129 * 4096 ≤ slot.recordAddress ty := by
  have hlt : slot.slotIndex < 105408 := slot.index_lt
  cases ty <;> cases hodd : slot.oddYear <;>
    simp only [Date.recordAddress, hodd, bankBase, DataType.singleDatalen] <;> omega

/-- The parameter block lies in one sector. -/
theorem touches_parameters {x : ℕ}
    (hx : (flashCalls slot dataType data parameter .parameterTask).Touches x) : x / 4096 = 128 := by
  obtain ⟨hlow, hhigh⟩ := hx
  simp only [flashCalls, RtuOperationParameters.length_toBytes, idrRtuParameters,
    RtuOperationParameters.byteSize] at hlow hhigh
  omega

theorem not_touches_record {x : ℕ} (hx : x / 4096 = 128) :
    ¬ (flashCalls slot dataType data parameter .basicMessage).Touches x := by
  rintro ⟨hlow, hhigh⟩
  have hsector := record_sector slot (.ofByte dataType)
  simp only [flashCalls, Vector.length_toList] at hlow hhigh
  omega

/-- **The two calls write to different sectors.** -/
theorem flashCalls_disjoint (t : FlashTask) (x : ℕ)
    (hx : (flashCalls slot dataType data parameter t).Touches x) :
    ¬ (flashCalls slot dataType data parameter t.other).Touches x := by
  cases t with
  | basicMessage =>
      exact fun hx' => not_touches_record slot dataType data parameter
        (touches_parameters slot dataType data parameter hx') hx
  | parameterTask =>
      exact not_touches_record slot dataType data parameter
        (touches_parameters slot dataType data parameter hx)

theorem FlashTasks.inv_start (d : FlashDriver) :
    (start d slot dataType data parameter).Inv (flashCalls slot dataType data parameter) d.flash := by
  refine ⟨fun t => ?_, fun _ _ => rfl⟩
  cases t with
  | basicMessage =>
      exact FlashWriter.onCourse_start (flashCalls slot dataType data parameter .basicMessage) d
  | parameterTask =>
      exact FlashWriter.onCourse_start (flashCalls slot dataType data parameter .parameterTask) d

/-- The serial orders are the two orders of the calls. -/
theorem flash_saveDataToFlash (st : StoreState) :
    (saveDataToFlash slot.toDate dataType data.toList 1 st).2.flash =
      (flashCalls slot dataType data parameter .basicMessage).result st.flash :=
  flash_exec st (.saveRecord slot dataType data)

theorem flash_rtuParametersWritedata (st : StoreState) :
    (rtuParametersWritedata parameter st).flash =
      (flashCalls slot dataType data parameter .parameterTask).result st.flash :=
  flash_exec st (.writeParameters parameter)

variable {slot dataType data parameter}

/-- The invariant implies the law. -/
theorem FlashTasks.Inv.serialised {m : Flash} {s : FlashTasks}
    (hinv : s.Inv (flashCalls slot dataType data parameter) m) :
    s.Serialised m slot dataType data parameter := by
  have hdisjoint := flashCalls_disjoint slot dataType data parameter
  refine ⟨fun hdone monthday => .inl ?_, fun hdone => ?_, fun hdone => ?_, fun hdone x hrecord hparam => ?_⟩
  · rw [flash_rtuParametersWritedata slot dataType data, flash_saveDataToFlash slot dataType data parameter]
    exact hinv.flash_of_done hdisjoint hdone .basicMessage
  · rw [hinv.flash_of_done hdisjoint hdone .parameterTask]
    exact storeMap.load_store_self _ (StoreOp.saveRecord slot dataType data).write
  · rw [hinv.flash_of_done hdisjoint hdone .basicMessage]
    exact storeMap.load_store_self _ (StoreOp.writeParameters parameter).write
  · rw [hinv.flash_of_done hdisjoint hdone .basicMessage]
    refine (WriteCall.result_of_notMem _ _ ?_).trans (WriteCall.result_of_notMem _ _ ?_)
    · simpa [flashCalls, FlashTask.other] using hparam
    · simpa [flashCalls] using hrecord

variable (slot dataType data parameter)

/-- **Concurrent flash writes are serialisable** in the runs whose steps all spare the image of the other
task. -/
theorem flashWrites_serialisable (d : FlashDriver) (events : List FlashTask)
    (h : StepsMeet FlashTasks.step ImageSpared (.start d slot dataType data parameter) events) :
    AllReached FlashTasks.step (FlashTasks.Serialised d.flash slot dataType data parameter)
      (.start d slot dataType data parameter) events := by
  refine (allReached_of_stepsMeet (I := FlashTasks.Inv (flashCalls slot dataType data parameter) d.flash)
    ?_ (FlashTasks.inv_start slot dataType data parameter d) h).mono fun _ hinv => hinv.serialised
  rintro s t s' hinv hspared ⟨rfl⟩
  exact hinv.turn (flashCalls_disjoint slot dataType data parameter) hspared

end

instance (w : FlashWriter) (d : FlashDriver) (w25qxxBuffer : CellMemory UInt8) :
    Decidable (w.Serves d w25qxxBuffer) := by
  unfold FlashWriter.Serves
  split
  case h_4 v _ => cases v.pBuffer <;> infer_instance
  all_goals infer_instance

instance (s : FlashTasks) (t : FlashTask) : Decidable (ImageSpared s t) := by
  unfold ImageSpared
  split <;> infer_instance

/-- The first slot of the year 2000. -/
def firstSlot : Slot := ⟨⟨0, 1, 1, 0, 0⟩, by decide, by decide⟩

/-- Rainfall and parameters of zeros. -/
def zeroRainfall : Vector UInt8 (DataType.ofByte 0).singleDatalen := Vector.replicate _ 0

/-- A new chip: both writes program in place, taking turns. -/
def inPlaceRun : List FlashTask :=
  [.basicMessage, .parameterTask, .basicMessage, .parameterTask, .basicMessage, .parameterTask]

theorem inPlaceRun_serialised :
    AllReached FlashTasks.step
      (FlashTasks.Serialised (fun _ => 0xff) firstSlot 0 zeroRainfall (.ofBytes []))
      (.start ⟨fun _ => 0xff, fun _ => 0⟩ firstSlot 0 zeroRainfall (.ofBytes [])) inPlaceRun :=
  flashWrites_serialisable firstSlot 0 zeroRainfall (.ofBytes []) ⟨fun _ => 0xff, fun _ => 0⟩ inPlaceRun
    (by decide +kernel)

/-- A chip of zeros in the sector of the parameter block, and new elsewhere. -/
def zeroSector : Flash := fun x => if x / 4096 = 128 then 0 else 0xff

/-- The parameter block is written, and behind its erase `basic_message_task` reads the sector of the
record. -/
def clobberedRun : List FlashTask :=
  List.replicate 3 .parameterTask ++ [.basicMessage] ++ List.replicate 17 .parameterTask ++
    List.replicate 2 .basicMessage

/-- **The sector of the parameter block becomes that of the record.** -/
theorem clobberedRun_not_serialised :
    ¬ AllReached FlashTasks.step
      (FlashTasks.Serialised zeroSector firstSlot 0 zeroRainfall (.ofBytes []))
      (.start ⟨zeroSector, fun _ => 0⟩ firstSlot 0 zeroRainfall (.ofBytes [])) clobberedRun := by
  intro h
  have hend := h.foldl (f := FlashTasks.turn) fun _ _ _ => rfl
  have hdone : (clobberedRun.foldl FlashTasks.turn
      (.start ⟨zeroSector, fun _ => 0⟩ firstSlot 0 zeroRainfall (.ofBytes []))).Done := by
    intro t
    cases t <;> decide +kernel
  have hcell := hend.others hdone 0x080000 (by decide) (by decide)
  revert hcell
  decide +kernel

/-! ## The harm of the other runs -/

/-- Steps of one task only. -/
theorem FlashTasks.foldl_replicate_turn (s : FlashTasks) (t : FlashTask) (k : ℕ) :
    (List.replicate k t).foldl turn s =
      ⟨((s.writer t).run s.driver k).1,
        Function.update s.writer t ((s.writer t).run s.driver k).2⟩ := by
  induction k with
  | zero =>
      have hself : Function.update s.writer t (s.writer t) = s.writer := Function.update_eq_self t s.writer
      rw [List.replicate_zero, List.foldl_nil]
      exact congrArg (FlashTasks.mk s.driver) hself.symm
  | succ k ih =>
      rw [List.replicate_succ', List.foldl_append, ih, List.foldl_cons, List.foldl_nil,
        FlashWriter.run_succ]
      simp only [turn, Function.update_self, Function.update_idem]

section

variable {call : FlashTask → WriteCall} {m : Flash} {s : FlashTasks} {t : FlashTask}

/-- **A task alone brings its write to the end**, and the other task and its sectors stay as they are. -/
theorem FlashTasks.exists_alone (h : (s.writer t).Within (call t)) :
    ∃ k, ∃ s', (List.replicate k t).foldl turn s = s' ∧ (s'.writer t).stage = .done ∧
      s'.driver.flash = (s.writer t).outcome s.driver ∧ s'.writer t.other = s.writer t.other ∧
      ∀ x, ¬ (call t).Touches x → s'.driver.flash x = s.driver.flash x := by
  obtain ⟨k, hdone, hflash⟩ := h.wf.exists_done s.driver
  refine ⟨k, _, s.foldl_replicate_turn t k, ?_, hflash, Function.update_of_ne t.other_ne _ _,
    (h.run s.driver k).2⟩
  dsimp only
  rw [Function.update_self]
  exact hdone

/-- **A write that is off course spoils the end**: the one alone, and then the other. -/
theorem FlashTasks.exists_spoilt
    (hdisjoint : ∀ t x, (call t).Touches x → ¬ (call t.other).Touches x)
    (hwithin : ∀ u, (s.writer u).Within (call u)) {x : ℕ} (hx : (call t).Touches x)
    (hwrong : (s.writer t).outcome s.driver x ≠ (call t).result m x) :
    ∃ k k', ((List.replicate k t ++ List.replicate k' t.other).foldl turn s).Done ∧
      ((List.replicate k t ++ List.replicate k' t.other).foldl turn s).driver.flash x ≠
        (call t).result m x := by
  obtain ⟨k, s₁, hs₁, hdone₁, hflash₁, hother₁, -⟩ := exists_alone (hwithin t)
  have hwithin₁ : (s₁.writer t.other).Within (call t.other) := hother₁ ▸ hwithin t.other
  obtain ⟨k', s₂, hs₂, hdone₂, -, hother₂, hframe₂⟩ := exists_alone hwithin₁
  refine ⟨k, k', ?_⟩
  rw [List.foldl_append, hs₁, hs₂]
  refine ⟨fun u => ?_, ?_⟩
  · rcases FlashTask.eq_or_other t u with rfl | rfl
    · rw [FlashTask.other_other] at hother₂
      rw [hother₂]
      exact hdone₁
    · exact hdone₂
  · rw [hframe₂ x (hdisjoint t x hx), hflash₁]
    exact hwrong

/-- **A step that does not spare the image** throws the other write off its course. -/
theorem FlashTasks.Inv.exists_wrong
    (hdisjoint : ∀ t x, (call t).Touches x → ¬ (call t.other).Touches x) (hinv : s.Inv call m)
    (hspared : ¬ ImageSpared s t) :
    ∃ x, (call t.other).Touches x ∧
      ((s.turn t).writer t.other).outcome (s.turn t).driver x ≠ (call t.other).result m x := by
  rw [hinv.imageSpared_iff, (hinv.course t.other).serves_iff] at hspared
  simp only [not_forall] at hspared
  obtain ⟨x, hx, hwrong⟩ := hspared
  have hnot : ¬ (call t).Touches x := by simpa using hdisjoint _ x hx
  have hflash : (s.turn t).driver.flash x = s.driver.flash x :=
    (hinv.course t).within.flash_step _ hnot
  have houtcome : (s.writer t.other).outcome (s.turn t).driver x =
      (s.writer t.other).outcome (s.driver.withBuffer (s.turn t).driver.w25qxxBuffer) x :=
    (s.writer t.other).outcome_congr hflash rfl
  refine ⟨x, hx, ?_⟩
  rw [turn_writer_other, houtcome]
  exact hwrong

/-- Either order of two calls leaves the result of each at what it touches. -/
theorem result_of_touches (hdisjoint : ∀ t x, (call t).Touches x → ¬ (call t.other).Touches x) {x : ℕ}
    (hx : (call t).Touches x) :
    (call t).result ((call t.other).result m) x = (call t).result m x ∧
      (call t.other).result ((call t).result m) x = (call t).result m x :=
  ⟨patch_congr (WriteCall.result_of_not_touches _ _ (hdisjoint t x hx)) _ _,
    WriteCall.result_of_not_touches _ _ (hdisjoint t x hx)⟩

end

/-- The law says what the chip holds where a write touches it. -/
theorem FlashTasks.Serialised.flash_of_touches {m : Flash} {slot : Slot} {dataType : UInt8}
    {data : Vector UInt8 (DataType.ofByte dataType).singleDatalen} {parameter : RtuOperationParameters}
    {s : FlashTasks} (h : s.Serialised m slot dataType data parameter) (hdone : s.Done) {t : FlashTask}
    {x : ℕ} (hx : (flashCalls slot dataType data parameter t).Touches x) :
    s.driver.flash x = (flashCalls slot dataType data parameter t).result m x := by
  obtain ⟨hlast, hfirst⟩ := result_of_touches (m := m)
    (flashCalls_disjoint slot dataType data parameter) hx
  rcases h.serial hdone .initial with hserial | hserial <;> rw [hserial]
  · rw [flash_rtuParametersWritedata slot dataType data, flash_saveDataToFlash slot dataType data parameter]
    cases t with
    | basicMessage => exact hfirst
    | parameterTask => exact hlast
  · rw [flash_saveDataToFlash slot dataType data parameter, flash_rtuParametersWritedata slot dataType data]
    cases t with
    | basicMessage => exact hlast
    | parameterTask => exact hfirst

/-- **The condition is exact**: a run that does not meet it has a beginning behind which the writes come to
their ends, first the one and then the other, and the chip is not as after one serial order. -/
theorem exists_not_serialisable (d : FlashDriver) (slot : Slot) (dataType : UInt8)
    (data : Vector UInt8 (DataType.ofByte dataType).singleDatalen) (parameter : RtuOperationParameters)
    (events : List FlashTask)
    (h : ¬ StepsMeet FlashTasks.step ImageSpared (.start d slot dataType data parameter) events) :
    ∃ events' rest, events' <+: events ∧
      (∃ t k k', rest = List.replicate k t ++ List.replicate k' t.other) ∧
      ¬ AllReached FlashTasks.step (FlashTasks.Serialised d.flash slot dataType data parameter)
        (.start d slot dataType data parameter) (events' ++ rest) := by
  have hdisjoint := flashCalls_disjoint slot dataType data parameter
  refine exists_prefix_not_allReached
    (I := FlashTasks.Inv (flashCalls slot dataType data parameter) d.flash) ?_ ?_
    (FlashTasks.inv_start slot dataType data parameter d) h
  · rintro s t s' hinv hspared ⟨rfl⟩
    exact hinv.turn hdisjoint hspared
  · rintro s t s' hinv hspared ⟨rfl⟩
    obtain ⟨x, hx, hwrong⟩ := hinv.exists_wrong hdisjoint hspared
    have hwithin : ∀ u, ((s.turn t).writer u).Within (flashCalls slot dataType data parameter u) := by
      intro u
      rcases FlashTask.eq_or_other t u with rfl | rfl
      · rw [FlashTasks.turn_writer_self]
        exact (hinv.course u).within.step _
      · rw [FlashTasks.turn_writer_other]
        exact (hinv.course t.other).within
    obtain ⟨k, k', hdone, hspoilt⟩ := FlashTasks.exists_spoilt hdisjoint hwithin hx hwrong
    refine ⟨_, ⟨t.other, k, k', rfl⟩, fun hall => hspoilt ?_⟩
    have hend := hall.foldl (f := FlashTasks.turn) fun _ _ _ => rfl
    exact hend.flash_of_touches hdone hx

end RtuShuiwen
