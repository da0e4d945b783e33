import RtuShuiwen.Library.TransitionSystem
import RtuShuiwen.Protocol.HourReport

/-! # The reporting task

`basic_message_task` polls the clock. At a minute that is a multiple of five and not the minute it
remembers it saves a record of each kind, builds the plus message and, at minute 0 of an hour it does
not remember, sends the hour message. The functions it calls read the clock again.
`basicMessage_iff` says in which runs every slot the task sees is saved once and every hour it sees
begin is reported once. -/

namespace RtuShuiwen

/-! ## One poll -/

/-- What a poll does that can be seen from outside. -/
inductive PollEffect
  | saveRecord (date : Date) (dataType : DataType) (data : List UInt8)
  | sendHour (message : UpMessage HourMessageContent)
  | sendPlus (message : UpMessage PlusMessageContent)
  | resumeFtp
  | postGprs
  | postEnterStop

/-- What the task keeps from poll to poll: its locals, the statics of the functions it calls, the
serial number and the flash. -/
structure BasicMessageState where
  lastMinutes : UInt8
  lastHours : UInt8
  ftpTimeInterval : UInt8
  lastMonth : UInt8
  lastPulses : UInt32
  sn : UInt16
  store : StoreState

/-- A clock reading that names a second of 2000-2099. -/
structure RtcTime extends TimeDef where
  /-- The registers are sound. -/
  isClock : toTimeDef.IsClock

/-- What a poll reads: the clock up to four times, the pulse count and the water level at each use,
stray memory, and whether the camera stores a picture in time. -/
structure PollReads where
  realTime : RtcTime
  saveTime : RtcTime
  plusTime : RtcTime
  hourTime : RtcTime
  savePulses : UInt32
  plusPulses : UInt32
  hourPulses : UInt32
  saveLevel : UInt32
  plusLevel : UInt32
  hourLevel : UInt32
  unset : UInt8
  stray : UInt8
  savePicture : Bool

/-- `FTP_TIME_INTERVAL_MINUTES`. -/
def ftpTimeIntervalMinutes : UInt8 := 5

/-- A record that the flash accepted. -/
def savedEffect (date : Date) (dataType : UInt8) (data : List UInt8) :
    Except AddressError Unit → List PollEffect
  | .ok () => [.saveRecord date (.ofByte dataType) data]
  | .error _ => []

/-- `SaveAndGetData_FiveMinute`. The data type of the water level is the low byte of
`WATER_LEVEL_ID`. -/
def saveAndGetDataFiveMinute (F : Type) [CFloat F] (realTime : TimeDef) (pulses level : UInt32)
    (st : StoreState) : List PollEffect × StoreState :=
  let date := timeDefToDate realTime
  let basicValue : F := waterlevelBasicValue F (rtuParametersReaddata st)
  let rainfallData :=
    (storeData3 (getBCDSendata cumulaPrecipitId (cumulaRainfall F pulses))).toList
  let waterLevelData :=
    (storeData4 (getBCDSendata waterLevelElementId (waterLevelMetres F level + basicValue))).toList
  let (rainfall, st) := saveDataToFlash date rainfallType rainfallData 1 st
  let (waterLevel, st) := saveDataToFlash date waterLevelElementId.toUInt8 waterLevelData 1 st
  (savedEffect date rainfallType rainfallData rainfall ++
    savedEffect date waterLevelElementId.toUInt8 waterLevelData waterLevel, st)

/-- The rainfall of a plus message reaches the threshold of the parameters. -/
def reachesThreshold (F : Type) [CFloat F] (p : RtuOperationParameters)
    (m : UpMessage PlusMessageContent) : Bool :=
  let fiveMinuteRainfall : F :=
    bcdSendataToFloat fiveMinPrecipitId m.content.fiveMinPrecipitData.toList
  let rainfallThreshold : F := bcdSendataToFloat 0x0008 [p.thresholdRainfallValueOfPlusmessage]
  CFloat.le rainfallThreshold fiveMinuteRainfall

/-- The hour report of a poll, if it is due. -/
def pollHour (F : Type) [CFloat F] (s : BasicMessageState) (r : PollReads) :
    List PollEffect × BasicMessageState :=
  let hours := bcdToInteger r.realTime.hour
  if bcdToInteger r.realTime.minute = 0 ∧ hours ≠ s.lastHours then
    let (report, store) := hourMessageInit F s.store s.lastMonth
      ⟨r.hourTime.toTimeDef, s.sn, .replicate 5 0, r.hourPulses, r.hourLevel, r.unset, r.stray⟩
    ([.sendHour report.message],
      { s with lastHours := hours, lastMonth := report.lastMonth, store })
  else ([], s)

/-- The end of a poll: a picture when its time has come, or the request to stop. -/
def pollFtp (s : BasicMessageState) (r : PollReads) : List PollEffect × BasicMessageState :=
  let ftpTimeInterval := s.ftpTimeInterval - 5
  if ftpTimeInterval = 0 then
    (.resumeFtp :: if r.savePicture then [.postGprs] else [.postEnterStop],
      { s with ftpTimeInterval := ftpTimeIntervalMinutes })
  else ([.postEnterStop], { s with ftpTimeInterval })

/-- One poll of `basic_message_task`. -/
def basicMessagePoll (F : Type) [CFloat F] (s : BasicMessageState) (r : PollReads) :
    List PollEffect × BasicMessageState :=
  let minutes := bcdToInteger r.realTime.minute
  if minutes % 5 = 0 ∧ minutes ≠ s.lastMinutes then
    let p := rtuParametersReaddata s.store
    let (saved, store) :=
      saveAndGetDataFiveMinute F r.saveTime.toTimeDef r.savePulses r.saveLevel s.store
    let plusMessage := plusMessageInit F (rtuParametersReaddata store) s.sn r.plusTime.toTimeDef
      r.plusPulses s.lastPulses r.plusLevel
    let s := { s with lastMinutes := minutes, lastPulses := r.plusPulses, sn := s.sn + 1, store }
    let (hour, s) := pollHour F s r
    let plus := if reachesThreshold F p plusMessage then [.sendPlus plusMessage] else []
    let (ftp, s) := pollFtp s r
    (saved ++ hour ++ plus ++ ftp, s)
  else ([], s)

/-! ## Runs of polls -/

/-- A date does not come after another. -/
def Date.NotAfter (d e : Date) : Prop := ¬ e.Before d

instance (d e : Date) : Decidable (d.NotAfter e) := by unfold Date.NotAfter; infer_instance

/-- The start of the hour of a date. -/
def Date.hourStart (d : Date) : Date := { d with minute := 0 }

/-- The slot and the type of a record that was saved. -/
def PollEffect.savedSlot : PollEffect → Option (Date × DataType)
  | saveRecord date dataType _ => some (date, dataType)
  | _ => none

/-- The hour that an hour message reports, by its observation time. -/
def PollEffect.reportedHour : PollEffect → Option Date
  | sendHour message => some (timeDefToDate message.content.head.observTime).hourStart
  | _ => none

/-- The task and what has happened so far: the last clock reading, the slots seen at the start of a
poll, latest first, and all effects. -/
structure ReportingRun where
  task : BasicMessageState
  now : Date
  seen : List Date
  effects : List PollEffect

namespace ReportingRun

/-- The slots saved so far, with their types. -/
def saved (h : ReportingRun) : List (Date × DataType) := h.effects.filterMap PollEffect.savedSlot

/-- The hours reported so far. -/
def reported (h : ReportingRun) : List Date := h.effects.filterMap PollEffect.reportedHour

/-- The start of a run: `last_minutes` and `last_hours` hold `0xff`, `last_month` 0. -/
def start (sn : UInt16) (store : StoreState) : ReportingRun where
  task := ⟨0xff, 0xff, ftpTimeIntervalMinutes, 0, 0, sn, store⟩
  now := ⟨0, 1, 1, 0, 0⟩
  seen := []
  effects := []

/-- The readings of a poll do not go back, nor behind the last reading of the poll before. A reading
that is not made repeats the one before it. -/
def InOrder (h : ReportingRun) (r : PollReads) : Prop :=
  h.now.NotAfter (timeDefToDate r.realTime.toTimeDef) ∧
    (timeDefToDate r.realTime.toTimeDef).NotAfter (timeDefToDate r.saveTime.toTimeDef) ∧
    (timeDefToDate r.saveTime.toTimeDef).NotAfter (timeDefToDate r.plusTime.toTimeDef) ∧
    (timeDefToDate r.plusTime.toTimeDef).NotAfter (timeDefToDate r.hourTime.toTimeDef)

instance (h : ReportingRun) (r : PollReads) : Decidable (h.InOrder r) := by
  unfold InOrder
  infer_instance

/-- One poll, when its readings are in order. -/
def step (F : Type) [CFloat F] (h : ReportingRun) (r : PollReads) : Option ReportingRun :=
  let date := timeDefToDate r.realTime.toTimeDef
  let (effects, task) := basicMessagePoll F h.task r
  if h.InOrder r then
    some {
      task
      now := timeDefToDate r.hourTime.toTimeDef
      seen := if date.minute % 5 = 0 then date :: h.seen else h.seen
      effects := h.effects ++ effects }
  else none

/-- **Every slot seen is saved once, in both types, and every hour seen at minute 0 is reported
once.** -/
structure AllReported (h : ReportingRun) : Prop where
  /-- The slots. -/
  slots : ∀ d ∈ h.seen, ∀ ty, h.saved.count (d, ty) = 1
  /-- The hours. -/
  hours : ∀ d ∈ h.seen, d.minute = 0 → h.reported.count d = 1

/-- **The polls that work.** At a multiple of five minutes, when the minute is the one remembered the
slot is the one seen last; otherwise the clock is still in the same minute when the records are
saved, and at minute 0 the hour of the day is not the one remembered and still runs when the hour
message reads the clock. -/
def PollOk (h : ReportingRun) (r : PollReads) : Prop :=
  let date := timeDefToDate r.realTime.toTimeDef
  date.minute % 5 = 0 →
    if bcdToInteger r.realTime.minute = h.task.lastMinutes then h.seen.head? = some date
    else timeDefToDate r.saveTime.toTimeDef = date ∧
      (date.minute = 0 → bcdToInteger r.realTime.hour ≠ h.task.lastHours ∧
        (timeDefToDate r.hourTime.toTimeDef).hourStart = date)

end ReportingRun

/-! ## What a poll does -/

/-- A record is saved at a multiple of five minutes only. -/
theorem savedEffect_saveDataToFlash (t : RtcTime) (dataType : UInt8) (data data' : List UInt8)
    (st : StoreState) :
    savedEffect (timeDefToDate t.toTimeDef) dataType data
        (saveDataToFlash (timeDefToDate t.toTimeDef) dataType data' 1 st).1 =
      if (timeDefToDate t.toTimeDef).minute % 5 = 0 then
        [.saveRecord (timeDefToDate t.toTimeDef) (.ofByte dataType) data]
      else [] := by
  have hin := t.isClock.valid.inYear
  have hmonth : ¬ 12 < (timeDefToDate t.toTimeDef).month - 1 := by
    have := t.isClock.valid.month_le
    omega
  by_cases halign : (timeDefToDate t.toTimeDef).minute % 5 = 0
  · simp only [saveDataToFlash, getAddress_of_inYear hin halign, savedEffect, halign, if_true]
  · simp only [saveDataToFlash, getAddress, days_isleapyear, length_monthLengths, hmonth, halign,
      if_false, savedEffect]

/-- The slots that `SaveAndGetData_FiveMinute` saves. -/
theorem savedSlot_saveAndGetData (F : Type) [CFloat F] (t : RtcTime) (pulses level : UInt32)
    (st : StoreState) :
    (saveAndGetDataFiveMinute F t.toTimeDef pulses level st).1.filterMap PollEffect.savedSlot =
      if (timeDefToDate t.toTimeDef).minute % 5 = 0 then
        [(timeDefToDate t.toTimeDef, .rainfall), (timeDefToDate t.toTimeDef, .waterLevel)]
      else [] := by
  simp only [saveAndGetDataFiveMinute, savedEffect_saveDataToFlash]
  split <;> rfl

/-- It sends nothing. -/
theorem reportedHour_saveAndGetData (F : Type) [CFloat F] (t : RtcTime) (pulses level : UInt32)
    (st : StoreState) :
    (saveAndGetDataFiveMinute F t.toTimeDef pulses level st).1.filterMap PollEffect.reportedHour =
      [] := by
  simp only [saveAndGetDataFiveMinute, savedEffect_saveDataToFlash]
  split <;> rfl

/-- The hour report of a poll saves nothing. -/
theorem savedSlot_pollHour (F : Type) [CFloat F] (s : BasicMessageState) (r : PollReads) :
    (pollHour F s r).1.filterMap PollEffect.savedSlot = [] := by
  rw [pollHour]
  split <;> rfl

/-- The hour it reports. -/
theorem reportedHour_pollHour (F : Type) [CFloat F] (s : BasicMessageState) (r : PollReads) :
    (pollHour F s r).1.filterMap PollEffect.reportedHour =
      if bcdToInteger r.realTime.minute = 0 ∧ bcdToInteger r.realTime.hour ≠ s.lastHours then
        [(timeDefToDate r.hourTime.toTimeDef).hourStart]
      else [] := by
  rw [pollHour]
  split <;> rfl

/-- The end of a poll neither saves nor reports. -/
theorem filterMap_pollFtp (s : BasicMessageState) (r : PollReads) :
    (pollFtp s r).1.filterMap PollEffect.savedSlot = [] ∧
      (pollFtp s r).1.filterMap PollEffect.reportedHour = [] := by
  rw [pollFtp]
  split
  · cases r.savePicture <;> exact ⟨rfl, rfl⟩
  · exact ⟨rfl, rfl⟩

/-- The task handles a poll: the minute is a multiple of five and not the one remembered. -/
def BasicMessageState.Handles (s : BasicMessageState) (r : PollReads) : Prop :=
  (timeDefToDate r.realTime.toTimeDef).minute % 5 = 0 ∧
    bcdToInteger r.realTime.minute ≠ s.lastMinutes

/-- The byte that the task tests is the minute of the date. -/
theorem minutes_mod_eq_zero_iff (t : TimeDef) :
    bcdToInteger t.minute % 5 = 0 ↔ (timeDefToDate t).minute % 5 = 0 := by
  rw [← UInt8.toNat_inj, UInt8.toNat_mod]
  rfl

/-- **A poll that the task handles.** -/
theorem basicMessagePoll_of_handles (F : Type) [CFloat F] {s : BasicMessageState} {r : PollReads}
    (h : s.Handles r) :
    (basicMessagePoll F s r).1.filterMap PollEffect.savedSlot =
        (if (timeDefToDate r.saveTime.toTimeDef).minute % 5 = 0 then
          [(timeDefToDate r.saveTime.toTimeDef, .rainfall),
            (timeDefToDate r.saveTime.toTimeDef, .waterLevel)]
        else []) ∧
      (basicMessagePoll F s r).1.filterMap PollEffect.reportedHour =
        (if bcdToInteger r.realTime.minute = 0 ∧ bcdToInteger r.realTime.hour ≠ s.lastHours then
          [(timeDefToDate r.hourTime.toTimeDef).hourStart]
        else []) ∧
      (basicMessagePoll F s r).2.lastMinutes = bcdToInteger r.realTime.minute := by
  have hin : bcdToInteger r.realTime.minute % 5 = 0 ∧ bcdToInteger r.realTime.minute ≠ s.lastMinutes :=
    ⟨(minutes_mod_eq_zero_iff _).mpr h.1, h.2⟩
  -- the plus message, the hour message and the stop leave what is counted here alone
  have hplus : ∀ (c : Bool) (m : UpMessage PlusMessageContent),
      (if c then [PollEffect.sendPlus m] else []).filterMap PollEffect.savedSlot = [] ∧
        (if c then [PollEffect.sendPlus m] else []).filterMap PollEffect.reportedHour = [] := by
    intro c m
    cases c <;> exact ⟨rfl, rfl⟩
  have hlast : ∀ s : BasicMessageState, (pollFtp s r).2.lastMinutes = s.lastMinutes := by
    intro s
    rw [pollFtp]
    split <;> rfl
  have hlast' : ∀ s : BasicMessageState, (pollHour F s r).2.lastMinutes = s.lastMinutes := by
    intro s
    rw [pollHour]
    split <;> rfl
  rw [basicMessagePoll, if_pos hin]
  simp only [List.filterMap_append, savedSlot_saveAndGetData, reportedHour_saveAndGetData,
    savedSlot_pollHour, reportedHour_pollHour, hplus, filterMap_pollFtp, List.append_nil,
    List.nil_append, hlast, hlast']
  trivial

/-- **A poll that it does not handle** changes nothing. -/
theorem basicMessagePoll_of_not_handles (F : Type) [CFloat F] {s : BasicMessageState} {r : PollReads}
    (h : ¬ s.Handles r) : basicMessagePoll F s r = ([], s) := by
  rw [basicMessagePoll]
  exact if_neg fun hin => h ⟨(minutes_mod_eq_zero_iff _).mp hin.1, hin.2⟩

/-! ## The order of the readings -/

/-- The order of dates is transitive. -/
theorem Date.NotAfter.trans {d e f : Date} (hde : d.NotAfter e) (hef : e.NotAfter f) :
    d.NotAfter f := by
  simp only [NotAfter, Before] at *
  omega

/-- Dates that do not come after each other are equal. -/
theorem Date.NotAfter.antisymm {d e : Date} (hde : d.NotAfter e) (hed : e.NotAfter d) : d = e := by
  simp only [NotAfter, Before] at *
  rw [Date.ext_iff]
  omega

/-- A poll in order ends no earlier than it starts. -/
theorem ReportingRun.InOrder.le_hourTime {h : ReportingRun} {r : PollReads} (hr : h.InOrder r) :
    (timeDefToDate r.realTime.toTimeDef).NotAfter (timeDefToDate r.hourTime.toTimeDef) :=
  hr.2.1.trans (hr.2.2.1.trans hr.2.2.2)

/-! ## The invariant of sound runs -/

namespace ReportingRun

/-- What holds as long as all polls work. -/
structure Inv (h : ReportingRun) : Prop where
  /-- All slots and hours are dealt with. -/
  allReported : h.AllReported
  /-- Only slots that were seen are saved. -/
  saved_seen : ∀ x ∈ h.saved, x.1 ∈ h.seen
  /-- Only hours that were seen are reported. -/
  reported_seen : ∀ d ∈ h.reported, d ∈ h.seen
  /-- The minute remembered is that of the slot seen last. -/
  lastMinutes_eq : ∀ l ∈ h.seen.head?, h.task.lastMinutes.toNat = l.minute
  /-- Every slot seen is no later than the last, and that no later than the last reading. -/
  ordered : ∀ l ∈ h.seen.head?, l.NotAfter h.now ∧ ∀ d ∈ h.seen, d.NotAfter l
  /-- Before the first slot no minute is remembered. -/
  unseen : h.seen = [] → h.task.lastMinutes = 0xff

/-- The start is sound. -/
theorem inv_start (sn : UInt16) (store : StoreState) : (start sn store).Inv where
  allReported := ⟨fun _ h => absurd h (by simp [start]), fun _ h => absurd h (by simp [start])⟩
  saved_seen := fun _ h => absurd h (by simp [start, saved])
  reported_seen := fun _ h => absurd h (by simp [start, reported])
  lastMinutes_eq := fun _ h => absurd h (by simp [start])
  ordered := fun _ h => absurd h (by simp [start])
  unseen := fun _ => rfl

/-- **A slot seen before, at a poll in order, is the one seen last.** -/
theorem Inv.head?_eq {h : ReportingRun} {r : PollReads} (hinv : h.Inv) (hr : h.InOrder r)
    (hseen : timeDefToDate r.realTime.toTimeDef ∈ h.seen) :
    h.seen.head? = some (timeDefToDate r.realTime.toTimeDef) := by
  obtain ⟨l, hl⟩ : ∃ l, h.seen.head? = some l := by
    cases hcase : h.seen with
    | nil => rw [hcase] at hseen; cases hseen
    | cons l ls => exact ⟨l, rfl⟩
  obtain ⟨hnow, hall⟩ := hinv.ordered l hl
  rw [hl, (hall _ hseen).antisymm (hnow.trans hr.1)]

/-- A slot that the task handles was not seen before. -/
theorem Inv.not_seen {h : ReportingRun} {r : PollReads} (hinv : h.Inv) (hr : h.InOrder r)
    (hhandles : h.task.Handles r) : timeDefToDate r.realTime.toTimeDef ∉ h.seen := by
  intro hseen
  have hlast := hinv.lastMinutes_eq _ (hinv.head?_eq hr hseen)
  exact hhandles.2 (UInt8.toNat_inj.mp hlast.symm)

/-- **What a step of a run does**, by whether the task handles the poll. -/
theorem step_cases {F : Type} [CFloat F] {h h' : ReportingRun} {r : PollReads}
    (hstep : step F h r = some h') :
    h.InOrder r ∧ h'.now = timeDefToDate r.hourTime.toTimeDef ∧
      (¬ h.task.Handles r ∧ h'.task = h.task ∧ h'.saved = h.saved ∧ h'.reported = h.reported ∧
          h'.seen = (if (timeDefToDate r.realTime.toTimeDef).minute % 5 = 0 then
            timeDefToDate r.realTime.toTimeDef :: h.seen else h.seen) ∨
        h.task.Handles r ∧ h'.seen = timeDefToDate r.realTime.toTimeDef :: h.seen ∧
          h'.task.lastMinutes = bcdToInteger r.realTime.minute ∧
          h'.saved = h.saved ++
            (if (timeDefToDate r.saveTime.toTimeDef).minute % 5 = 0 then
              [(timeDefToDate r.saveTime.toTimeDef, .rainfall),
                (timeDefToDate r.saveTime.toTimeDef, .waterLevel)]
            else []) ∧
          h'.reported = h.reported ++
            (if bcdToInteger r.realTime.minute = 0 ∧
                bcdToInteger r.realTime.hour ≠ h.task.lastHours then
              [(timeDefToDate r.hourTime.toTimeDef).hourStart]
            else [])) := by
  simp only [step] at hstep
  split at hstep
  · next hr =>
      obtain rfl := Option.some.inj hstep
      refine ⟨hr, rfl, ?_⟩
      by_cases hhandles : h.task.Handles r
      · obtain ⟨hsaved, hreported, hlast⟩ := basicMessagePoll_of_handles F hhandles
        refine .inr ⟨hhandles, if_pos hhandles.1, hlast, ?_, ?_⟩
        · rw [saved, saved, List.filterMap_append, hsaved]
        · rw [reported, reported, List.filterMap_append, hreported]
      · have hpoll := basicMessagePoll_of_not_handles F hhandles
        refine .inl ⟨hhandles, by rw [hpoll], ?_, ?_, rfl⟩
        · rw [saved, saved, hpoll, List.append_nil]
        · rw [reported, reported, hpoll, List.append_nil]
  · cases hstep

/-- A poll in order can take place. -/
theorem exists_step (F : Type) [CFloat F] {h : ReportingRun} {r : PollReads} (hr : h.InOrder r) :
    ∃ h', step F h r = some h' := by
  simp only [step, if_pos hr]
  exact ⟨_, rfl⟩

/-- The order is kept when a slot is added at the front or none is. -/
theorem ordered_cons {h : ReportingRun} {r : PollReads} (hinv : h.Inv) (hr : h.InOrder r) :
    ∀ d ∈ timeDefToDate r.realTime.toTimeDef :: h.seen,
      d.NotAfter (timeDefToDate r.realTime.toTimeDef) := by
  intro d hd
  rcases List.mem_cons.mp hd with rfl | hd
  · exact fun hbefore => by simp only [Date.Before] at hbefore; omega
  · -- an older slot is no later than the last one seen, and that no later than this poll
    obtain ⟨l, hl⟩ : ∃ l, h.seen.head? = some l := by
      cases hcase : h.seen with
      | nil => rw [hcase] at hd; cases hd
      | cons l ls => exact ⟨l, rfl⟩
    obtain ⟨hnow, hall⟩ := hinv.ordered l hl
    exact (hall d hd).trans (hnow.trans hr.1)

/-- A poll that the task does not handle, when it is a sound one. -/
theorem Inv.step_of_not_handles {F : Type} [CFloat F] {h h' : ReportingRun} {r : PollReads}
    (hinv : h.Inv) (hok : h.PollOk r) (hhandles : ¬ h.task.Handles r)
    (hstep : step F h r = some h') : h'.Inv := by
  obtain ⟨hr, hnow, ⟨-, htask, hsaved, hreported, hseen⟩ | ⟨hh, -⟩⟩ := step_cases hstep
  · -- the slots seen are the same as before
    obtain ⟨hhead, hmem⟩ : h'.seen.head? = h.seen.head? ∧ ∀ d, d ∈ h'.seen ↔ d ∈ h.seen := by
      by_cases halign : (timeDefToDate r.realTime.toTimeDef).minute % 5 = 0
      · have hminute : bcdToInteger r.realTime.minute = h.task.lastMinutes :=
          not_not.mp fun hne => hhandles ⟨halign, hne⟩
        have hlast := hok halign
        rw [if_pos hminute] at hlast
        rw [hseen, if_pos halign, List.head?_cons, hlast]
        refine ⟨rfl, fun d => ?_⟩
        rw [List.mem_cons, or_iff_right_of_imp]
        rintro rfl
        exact List.mem_of_mem_head? hlast
      · rw [hseen, if_neg halign]
        exact ⟨rfl, fun d => Iff.rfl⟩
    constructor
    case allReported =>
      constructor
      case slots => simpa only [hmem, hsaved] using hinv.allReported.slots
      case hours => simpa only [hmem, hreported] using hinv.allReported.hours
    case saved_seen => simpa only [hmem, hsaved] using hinv.saved_seen
    case reported_seen => simpa only [hmem, hreported] using hinv.reported_seen
    case lastMinutes_eq => simpa only [hhead, htask] using hinv.lastMinutes_eq
    case ordered =>
      intro l hl
      rw [hhead] at hl
      obtain ⟨hle, hall⟩ := hinv.ordered l hl
      rw [hnow]
      exact ⟨hle.trans (hr.1.trans hr.le_hourTime), fun d hd => hall d ((hmem d).mp hd)⟩
    case unseen =>
      intro hnil
      rw [htask]
      refine hinv.unseen (List.eq_nil_iff_forall_not_mem.mpr fun d hd => ?_)
      rw [← hmem, hnil] at hd
      cases hd
  · exact absurd hh hhandles

/-- The count of a slot that a poll saves. -/
theorem count_saved {d : Date} (halign : d.minute % 5 = 0) (x : Date) (ty : DataType) :
    (if d.minute % 5 = 0 then [(d, DataType.rainfall), (d, DataType.waterLevel)] else []).count
      (x, ty) = if d = x then 1 else 0 := by
  rw [if_pos halign]
  by_cases hd : d = x
  · subst hd
    cases ty <;> simp
  · cases ty <;> simp [hd]

/-- The byte that the task compares with 0 is the minute of the date. -/
theorem minutes_eq_zero_iff (t : TimeDef) :
    bcdToInteger t.minute = 0 ↔ (timeDefToDate t).minute = 0 := UInt8.toNat_inj.symm

/-- A poll that the task handles, when it is a sound one. -/
theorem Inv.step_of_handles {F : Type} [CFloat F] {h h' : ReportingRun} {r : PollReads}
    (hinv : h.Inv) (hok : h.PollOk r) (hhandles : h.task.Handles r)
    (hstep : step F h r = some h') : h'.Inv := by
  obtain ⟨hr, hnow, ⟨hh, -⟩ | ⟨-, hseen, hlast, hsaved, hreported⟩⟩ := step_cases hstep
  · exact absurd hhandles hh
  have hnew := hinv.not_seen hr hhandles
  have horder := ordered_cons hinv hr
  have hle := hr.le_hourTime
  have halign := hhandles.1
  obtain ⟨hsave, hhour⟩ := by
    have hok := hok halign
    rwa [if_neg hhandles.2] at hok
  -- a sound poll reports the hour that it starts
  have hhours : h'.reported = h.reported ++
      if (timeDefToDate r.realTime.toTimeDef).minute = 0 then
        [timeDefToDate r.realTime.toTimeDef] else [] := by
    rw [hreported]
    by_cases hzero : (timeDefToDate r.realTime.toTimeDef).minute = 0
    · obtain ⟨hne, hstart⟩ := hhour hzero
      rw [if_pos ⟨(minutes_eq_zero_iff _).mpr hzero, hne⟩, if_pos hzero, hstart]
    · rw [if_neg fun h => hzero ((minutes_eq_zero_iff _).mp h.1), if_neg hzero]
  have hminute : h'.task.lastMinutes.toNat = (timeDefToDate r.realTime.toTimeDef).minute := by
    rw [hlast]
    rfl
  rw [hsave] at hsaved
  rw [← hnow] at hle
  generalize timeDefToDate r.realTime.toTimeDef = date at *
  constructor
  case allReported =>
    constructor
    case slots =>
      -- the new slot is saved by this poll only, the others were saved before
      intro d hd ty
      rw [hsaved, List.count_append, count_saved halign]
      rw [hseen, List.mem_cons] at hd
      rcases hd with rfl | hd
      · have hunsaved : (d, ty) ∉ h.saved := fun hmem => hnew (hinv.saved_seen _ hmem)
        rw [List.count_eq_zero_of_not_mem hunsaved, if_pos rfl]
      · have hne : date ≠ d := fun h => hnew (h ▸ hd)
        rw [hinv.allReported.slots d hd ty, if_neg hne]
    case hours =>
      -- so with the hours; the report of this poll is of the new slot
      intro d hd hzero
      rw [hhours, List.count_append]
      rw [hseen, List.mem_cons] at hd
      rcases hd with rfl | hd
      · have hunreported : d ∉ h.reported := fun hmem => hnew (hinv.reported_seen _ hmem)
        rw [List.count_eq_zero_of_not_mem hunreported, if_pos hzero, List.count_singleton_self]
      · have hne : d ≠ date := fun h => hnew (h ▸ hd)
        rw [hinv.allReported.hours d hd hzero]
        split
        · rw [List.count_eq_zero_of_not_mem fun hmem => hne (List.mem_singleton.mp hmem)]
        · rfl
  case saved_seen =>
    -- what this poll saves is of the new slot
    intro x hx
    rw [hsaved, if_pos halign, List.mem_append] at hx
    rw [hseen]
    rcases hx with hx | hx
    · exact List.mem_cons_of_mem _ (hinv.saved_seen x hx)
    · have hdate : x.1 = date := by
        simp only [List.mem_cons, List.not_mem_nil, or_false] at hx
        rcases hx with rfl | rfl <;> rfl
      rw [hdate]
      exact List.mem_cons_self
  case reported_seen =>
    intro d hd
    rw [hhours, List.mem_append] at hd
    rw [hseen]
    rcases hd with hd | hd
    · exact List.mem_cons_of_mem _ (hinv.reported_seen d hd)
    · split at hd
      · rw [List.mem_singleton.mp hd]
        exact List.mem_cons_self
      · cases hd
  case lastMinutes_eq =>
    intro l hl
    rw [hseen, List.head?_cons, Option.mem_some_iff] at hl
    rw [← hl, hminute]
  case ordered =>
    intro l hl
    rw [hseen, List.head?_cons, Option.mem_some_iff] at hl
    rw [← hl, hseen]
    exact ⟨hle, horder⟩
  case unseen =>
    intro hnil
    rw [hseen] at hnil
    cases hnil

/-- A poll that is not sound leaves a slot unsaved or an hour unreported. -/
theorem Inv.not_allReported {F : Type} [CFloat F] {h h' : ReportingRun} {r : PollReads}
    (hinv : h.Inv) (hbad : ¬ h.PollOk r) (hstep : step F h r = some h') : ¬ h'.AllReported := by
  intro hall
  obtain ⟨halign, hbad⟩ := Classical.not_imp.mp hbad
  obtain ⟨hr, -, ⟨hh, htask, hsaved, hreported, hseen⟩ | ⟨hh, hseen, -, hsaved, hreported⟩⟩ :=
    step_cases hstep
  · -- the minute is remembered, but of another slot
    have hminute : bcdToInteger r.realTime.minute = h.task.lastMinutes :=
      not_not.mp fun hne => hh ⟨halign, hne⟩
    rw [if_pos hminute] at hbad
    rw [if_pos halign] at hseen
    have hnew := fun hmem => hbad (hinv.head?_eq hr hmem)
    have hcount := hall.slots _ (hseen ▸ List.mem_cons_self) .rainfall
    rw [hsaved, List.count_eq_zero_of_not_mem fun hmem => hnew (hinv.saved_seen _ hmem)] at hcount
    cases hcount
  · have hnew := hinv.not_seen hr hh
    have hmem : timeDefToDate r.realTime.toTimeDef ∈ h'.seen := hseen ▸ List.mem_cons_self
    rw [if_neg hh.2] at hbad
    by_cases hsave : timeDefToDate r.saveTime.toTimeDef = timeDefToDate r.realTime.toTimeDef
    · -- the hour is not reported
      obtain ⟨hzero, hhour⟩ := Classical.not_imp.mp fun h => hbad ⟨hsave, h⟩
      have hcount := hall.hours _ hmem hzero
      rw [hreported, List.count_append,
        List.count_eq_zero_of_not_mem fun hmem => hnew (hinv.reported_seen _ hmem)] at hcount
      split at hcount
      · next hdue =>
          rw [List.count_eq_zero_of_not_mem] at hcount
          · cases hcount
          · intro hmem
            exact hhour ⟨hdue.2, (List.mem_singleton.mp hmem).symm⟩
      · cases hcount
    · -- the records go to another slot, or nowhere
      have hcount := hall.slots _ hmem .rainfall
      rw [hsaved, List.count_append,
        List.count_eq_zero_of_not_mem fun hmem => hnew (hinv.saved_seen _ hmem)] at hcount
      by_cases halign' : (timeDefToDate r.saveTime.toTimeDef).minute % 5 = 0
      · rw [count_saved halign', if_neg hsave] at hcount
        cases hcount
      · rw [if_neg halign'] at hcount
        cases hcount

/-- **When every slot is recorded and every hour reported.** Throughout a run of polls, from the start
of the task, every slot seen so far is saved once and every hour seen at minute 0 is reported once
exactly when all polls of the run are sound. -/
theorem basicMessage_iff (F : Type) [CFloat F] (sn : UInt16) (store : StoreState)
    (polls : List PollReads) :
    TransitionSystem.AllReached (step F) AllReported (start sn store) polls ↔
      TransitionSystem.StepsMeet (step F) PollOk (start sn store) polls := by
  refine TransitionSystem.allReached_iff_stepsMeet (I := Inv) (fun h hinv => hinv.allReported) ?_
    (fun h r h' hinv => hinv.not_allReported) (inv_start sn store) polls
  intro h r h' hinv hok hstep
  by_cases hhandles : h.task.Handles r
  · exact hinv.step_of_handles hok hhandles hstep
  · exact hinv.step_of_not_handles hok hhandles hstep

/-- Five past ten on the 15th of March 2020. -/
def fivePastTen : RtcTime := ⟨⟨0x00, 0x05, 0x10, 0x00, 0x15, 0x03, 0x20⟩, by decide⟩

/-- Five past eleven on that day. -/
def fivePastEleven : RtcTime := ⟨⟨0x00, 0x05, 0x11, 0x00, 0x15, 0x03, 0x20⟩, by decide⟩

/-- A poll during which the clock stands still, without rain and with an empty river. -/
def quietPoll (t : RtcTime) : PollReads := ⟨t, t, t, t, 0, 0, 0, 0, 0, 0, 0, 0, true⟩

/-- A station that polls at five past ten and next at five past eleven does not save the second
slot. -/
theorem fivePastEleven_not_saved :
    ¬ TransitionSystem.AllReached (step ℚ) AllReported (start 0 (markedStore 0))
      [quietPoll fivePastTen, quietPoll fivePastEleven] := by
  intro hall
  obtain ⟨h, hstep⟩ := exists_step ℚ (h := start 0 (markedStore 0)) (r := quietPoll fivePastTen)
    ⟨by decide, by decide, by decide, by decide⟩
  have hhandles : (start 0 (markedStore 0)).task.Handles (quietPoll fivePastTen) :=
    ⟨by decide, by decide⟩
  have hok : (start 0 (markedStore 0)).PollOk (quietPoll fivePastTen) := by
    intro _
    rw [if_neg hhandles.2]
    exact ⟨rfl, fun hzero => absurd hzero (by decide)⟩
  have hinv := (inv_start 0 (markedStore 0)).step_of_handles hok hhandles hstep
  obtain ⟨-, hnow, ⟨hh, -⟩ | ⟨-, hseen, hlast, -⟩⟩ := step_cases hstep
  · exact hh hhandles
  -- the second poll finds the minute it remembers
  obtain ⟨h', hstep'⟩ := exists_step ℚ (h := h) (r := quietPoll fivePastEleven)
    ⟨by rw [hnow]; decide, by decide, by decide, by decide⟩
  have hbad : ¬ h.PollOk (quietPoll fivePastEleven) := by
    intro hok
    have hsame := hok (by decide)
    rw [if_pos (by rw [hlast]; rfl), hseen] at hsame
    exact absurd hsame (by decide)
  exact hinv.not_allReported hbad hstep' ((hall.2 h hstep).2 h' hstep')

end ReportingRun

end RtuShuiwen
