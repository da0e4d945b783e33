import RtuShuiwen.Memory.FlashStore
import RtuShuiwen.Protocol.Builders

/-! # The window of the hour report

`hour_message_init` steps the clock reading back by one hour and reads thirteen records of each kind
from there. The step depends on the month of the report before (`last_month`) and on the minute of a
date record that is set only afterwards. `hourReport_iff` says when the report covers the hour
before the reading whatever that minute holds: exactly when the hour is not 0. -/

namespace RtuShuiwen

open CellMemory

/-! ## The report -/

/-- The start date of a report, and the index at which the array of month lengths was read, if it
was read. -/
structure HourRead where
  readDate : Date
  monthIndex : Option ℤ
  deriving DecidableEq

/-- The step back of `hour_message_init`. `unset` is what `read_date.minute` holds before it is
assigned, `stray` the byte a read outside `months_days` finds. -/
def hourReadDate (systime : TimeDef) (lastMonth unset stray : UInt8) (monthsDays : List ℕ) :
    HourRead :=
  let year := bcdToInteger systime.year
  let month := bcdToInteger systime.month
  let day := bcdToInteger systime.day
  let hour := bcdToInteger systime.hour
  let start (month day hour : UInt8) : Date :=
    ⟨year.toNat, month.toNat, day.toNat, (hour - 1).toNat, 0⟩
  if hour = 0 ∧ unset = 0 then
    if month = lastMonth then ⟨start month (day - 1) 24, none⟩
    else
      let index : ℤ := (month - 1).toNat - 1
      let day' := if 0 ≤ index ∧ index < 12 then .ofNat (monthsDays.getD index.toNat 0) else stray
      ⟨start (month - 1) day' 24, some index⟩
  else ⟨start month day hour, none⟩

/-- What `hour_message_init` produces: the message, the records it read, the index it used and the
value of `last_month` it leaves. -/
structure HourReport where
  message : UpMessage HourMessageContent
  flashRainfallHourData : List UInt8
  flashWaterlevelHourData : List UInt8
  monthIndex : Option ℤ
  lastMonth : UInt8

/-- A buffer of `n` zeros, filled by a read that succeeds. -/
def filledBuffer (n : ℕ) : Except AddressError (List UInt8) → List UInt8
  | .ok data => data
  | .error _ => List.replicate n 0

/-- The inputs of a report other than the store and the statics. -/
structure HourCall where
  systime : TimeDef
  sn : UInt16
  contentAddr : Vector UInt8 5
  pulses : UInt32
  level : UInt32
  unset : UInt8
  stray : UInt8

/-- `hour_message_init`, with the month table it leaves behind. -/
def hourMessageInit (F : Type) [CFloat F] (st : StoreState) (lastMonth : UInt8) (c : HourCall) :
    HourReport × StoreState :=
  let p := rtuParametersReaddata st
  let (monthsDays, monthday) := getMonthDays c.systime.year st.monthday
  let r := hourReadDate c.systime lastMonth c.unset c.stray monthsDays
  let (rainfall, st) := readDataFromFlash r.readDate rainfallType 39 { st with monthday }
  let (waterlevel, st) := readDataFromFlash r.readDate waterlevelType 52 st
  let rainfall := filledBuffer 39 rainfall
  let waterlevel := filledBuffer 52 waterlevel
  ({ message := hourMessage F p c.sn c.systime c.contentAddr c.pulses c.level rainfall waterlevel
     flashRainfallHourData := rainfall
     flashWaterlevelHourData := waterlevel
     monthIndex := r.monthIndex
     lastMonth := bcdToInteger c.systime.month }, st)

/-- `last_month` after the reports of a history; it starts as 0. -/
def lastMonthAfter (F : Type) [CFloat F] (history : List (StoreState × HourCall)) : UInt8 :=
  history.foldl (fun lastMonth h => (hourMessageInit F h.1 lastMonth h.2).1.lastMonth) 0

/-! ## The window -/

/-- The start of the hour before the one of `d`, with years counted modulo 100. -/
def Date.hourBefore (d : Date) : Date :=
  if d.hour ≠ 0 then ⟨d.year, d.month, d.day, d.hour - 1, 0⟩
  else if d.day ≠ 1 then ⟨d.year, d.month, d.day - 1, 23, 0⟩
  else if d.month ≠ 1 then
    ⟨d.year, d.month - 1, (monthLengths d.year).getD (d.month - 2) 0, 23, 0⟩
  else ⟨(d.year + 99) % 100, 12, 31, 23, 0⟩

/-- The thirteen slots from an hour before `d` up to `d`, a date at minute 0. -/
def hourWindow (d : Date) : List Date :=
  (List.range 12).map (fun i => { d.hourBefore with minute := 5 * i }) ++ [d]

/-- The record stored for a date. -/
def storedRecord (st : StoreState) (dataType : UInt8) (d : Date) : List UInt8 :=
  let len := (DataType.ofByte dataType).singleDatalen
  filledBuffer len (readDataFromFlash d dataType len st).1

/-- **A report is right** when, whatever the unset minute and the bytes around the array hold, it
reads the records of the window, indexes the month table inside its twelve entries only, and does
not depend on the unset minute. -/
structure HourReportOk (F : Type) [CFloat F] (history : List (StoreState × HourCall))
    (systime : TimeDef) : Prop where
  /-- The records are those of the window. -/
  window : ∀ (st : StoreState) (c : HourCall), c.systime = systime →
    (hourMessageInit F st (lastMonthAfter F history) c).1.flashRainfallHourData =
        (hourWindow (timeDefToDate systime)).flatMap (storedRecord st rainfallType) ∧
      (hourMessageInit F st (lastMonthAfter F history) c).1.flashWaterlevelHourData =
        (hourWindow (timeDefToDate systime)).flatMap (storedRecord st waterlevelType)
  /-- The month table is read at its entries. -/
  index : ∀ (st : StoreState) (c : HourCall), c.systime = systime →
    ∀ i ∈ (hourMessageInit F st (lastMonthAfter F history) c).1.monthIndex, 0 ≤ i ∧ i ≤ 11
  /-- The unset minute has no influence. -/
  unset : ∀ (st : StoreState) (c : HourCall) (unset : UInt8), c.systime = systime →
    (hourMessageInit F st (lastMonthAfter F history) c).1 =
      (hourMessageInit F st (lastMonthAfter F history) { c with unset }).1

/-! ## The step back -/

/-- The hour register of a clock reading is zero when the hour is. -/
theorem bcdToInteger_eq_zero {b : UInt8} (h : Bcd.IsDigits b) : bcdToInteger b = 0 ↔ b = 0 := by
  constructor
  · intro hz
    refine Bcd.value_inj h (by decide) ?_
    rw [← toNat_bcdToInteger, hz]
    rfl
  · rintro rfl
    rfl

/-- **After the first hour of a day the step back is right**, and reads nothing else. -/
theorem hourReadDate_of_hour_ne {systime : TimeDef} (hclock : systime.IsClock)
    (hhour : systime.hour ≠ 0) (lastMonth unset stray : UInt8) (monthsDays : List ℕ) :
    hourReadDate systime lastMonth unset stray monthsDays =
      ⟨(timeDefToDate systime).hourBefore, none⟩ := by
  have hne : bcdToInteger systime.hour ≠ 0 :=
    fun h => hhour ((bcdToInteger_eq_zero (hclock.digits _ (by simp))).mp h)
  have hpos : (bcdToInteger systime.hour).toNat ≠ 0 := fun h => hne (UInt8.toNat_inj.mp h)
  have hsub : (bcdToInteger systime.hour - 1).toNat = (bcdToInteger systime.hour).toNat - 1 := by
    have hle : 1 ≤ bcdToInteger systime.hour :=
      UInt8.le_iff_toNat_le.mpr (Nat.one_le_iff_ne_zero.mpr hpos :)
    rw [UInt8.toNat_sub_of_le _ _ hle]
    rfl
  simp only [hourReadDate, hne, false_and, if_false, hsub, Date.hourBefore, timeDefToDate, hpos,
    ne_eq, not_false_eq_true, if_true]

/-- The date that a step back from hour 0 gives when the day is not stepped back: the hour wraps. -/
def Date.wrappedHour (d : Date) : Date := { d with hour := 255, minute := 0 }

/-- When the hour is 0 and the unset minute is not, the step back wraps the hour. -/
theorem hourReadDate_of_hour_zero {systime : TimeDef} (hhour : systime.hour = 0)
    (lastMonth stray : UInt8) {unset : UInt8} (hunset : unset ≠ 0) (monthsDays : List ℕ) :
    hourReadDate systime lastMonth unset stray monthsDays =
      ⟨(timeDefToDate systime).wrappedHour, none⟩ := by
  simp only [hourReadDate, hunset, and_false, if_false, hhour]
  rfl

/-! ## Stored records -/

/-- A stored record has the length of its type. -/
theorem length_storedRecord (st : StoreState) (dataType : UInt8) (d : Date) :
    (storedRecord st dataType d).length = (DataType.ofByte dataType).singleDatalen := by
  have hlen := toU16_singleDatalen (DataType.ofByte dataType)
  simp only [storedRecord, readDataFromFlash]
  cases getAddress d dataType st.monthday with
  | mk r monthday => cases r <;> simp [filledBuffer, hlen]

/-- The records of the window before its last. -/
theorem length_window_init (st : StoreState) (dataType : UInt8) (d : Date) :
    (((List.range 12).map fun i => { d.hourBefore with minute := 5 * i }).flatMap
      (storedRecord st dataType)).length = (DataType.ofByte dataType).singleDatalen * 12 := by
  simp only [List.length_flatMap, List.map_map, Function.comp_def, length_storedRecord,
    List.map_const', List.length_range, List.sum_replicate_nat, Nat.mul_comm]

/-- The record of a date that lies in the calendar. -/
theorem storedRecord_of_inYear (st : StoreState) {d : Date}
    (h : MonthCalendar.InYear (monthLengths d.year) d.month d.day) (halign : d.minute % 5 = 0)
    (hindex : d.slotIndex < 200000) (dataType : UInt8) :
    storedRecord st dataType d =
      slice st.flash (d.recordAddress (.ofByte dataType))
        (DataType.ofByte dataType).singleDatalen := by
  have hlen : (DataType.ofByte dataType).singleDatalen < 65536 := by
    cases DataType.ofByte dataType <;> decide
  rw [storedRecord, readDataFromFlash_of_inYear st h halign hindex dataType hlen]
  rfl

/-- The records of an hour lie one after the other, and the record of the next full hour behind
them. -/
theorem flatMap_hourWindow (st : StoreState) {d : Date} (hvalid : d.Valid) (hmin : d.minute = 0)
    (hhour : d.hour ≠ 0) (dataType : UInt8) :
    (hourWindow d).flatMap (storedRecord st dataType) =
      slice st.flash (d.hourBefore.recordAddress (.ofByte dataType))
        ((DataType.ofByte dataType).singleDatalen * 13) := by
  obtain ⟨year, month, day, hour, minute⟩ := d
  simp only at hmin hhour
  subst hmin
  have hin := hvalid.inYear
  have hday := MonthCalendar.dayOfYear_lt_sum hin
  have hsum := sum_monthLengths_le year
  have hle := hvalid.hour_le
  simp only at hin hday hsum hle
  have hbefore : (⟨year, month, day, hour, 0⟩ : Date).hourBefore = ⟨year, month, day, hour - 1, 0⟩ := by
    rw [Date.hourBefore, if_pos hhour]
  -- the twelve records of the hour before, each behind the one before it
  have hrecord : ∀ i < 12, storedRecord st dataType ⟨year, month, day, hour - 1, 5 * i⟩ =
      slice st.flash ((⟨year, month, day, hour - 1, 0⟩ : Date).recordAddress (.ofByte dataType) +
        (DataType.ofByte dataType).singleDatalen * i) (DataType.ofByte dataType).singleDatalen := by
    intro i hi
    rw [storedRecord_of_inYear st hin (by simp) (by simp only [Date.slotIndex, Date.hourOfYear]; omega)]
    congr 1
    simp only [Date.recordAddress, Date.oddYear, Date.slotIndex, Date.hourOfYear, Nat.zero_div,
      Nat.mul_div_cancel_left i (show 0 < 5 by decide)]
    ring
  -- the thirteenth is the first of the next hour, which the store keeps right behind
  have hlast : storedRecord st dataType ⟨year, month, day, hour, 0⟩ =
      slice st.flash ((⟨year, month, day, hour - 1, 0⟩ : Date).recordAddress (.ofByte dataType) +
        (DataType.ofByte dataType).singleDatalen * 12) (DataType.ofByte dataType).singleDatalen := by
    have hstep : MonthCalendar.dayOfYear (monthLengths year) month day * 24 + hour =
        MonthCalendar.dayOfYear (monthLengths year) month day * 24 + (hour - 1) + 1 := by omega
    rw [storedRecord_of_inYear st hin rfl (by simp only [Date.slotIndex, Date.hourOfYear]; omega)]
    congr 1
    simp only [Date.recordAddress, Date.oddYear, Date.slotIndex, Date.hourOfYear, hstep]
    ring
  rw [hourWindow, hbefore, List.flatMap_append, List.flatMap_map, List.flatMap_singleton, hlast,
    ← flatMap_slice, List.range_succ (n := 12), List.flatMap_append, List.flatMap_singleton]
  congr 1
  exact List.flatMap_congr fun i hi => hrecord i (List.mem_range.mp hi)

/-! ## When the report is right -/

/-- The records a report reads, for a start date in the calendar. -/
theorem hourMessageInit_reads (F : Type) [CFloat F] (st : StoreState) (lastMonth : UInt8)
    (c : HourCall) {d : Date} {monthIndex : Option ℤ}
    (hread : hourReadDate c.systime lastMonth c.unset c.stray (getMonthDays c.systime.year st.monthday).1 =
      ⟨d, monthIndex⟩)
    (h : MonthCalendar.InYear (monthLengths d.year) d.month d.day) (halign : d.minute % 5 = 0)
    (hindex : d.slotIndex < 200000) :
    (hourMessageInit F st lastMonth c).1.flashRainfallHourData =
        slice st.flash (d.recordAddress .rainfall) 39 ∧
      (hourMessageInit F st lastMonth c).1.flashWaterlevelHourData =
        slice st.flash (d.recordAddress .waterLevel) 52 ∧
      (hourMessageInit F st lastMonth c).1.monthIndex = monthIndex := by
  have hrain := fun st => readDataFromFlash_of_inYear st h halign hindex rainfallType
    (n := 39) (by decide)
  have hwater := fun st => readDataFromFlash_of_inYear st h halign hindex waterlevelType
    (n := 52) (by decide)
  simp only [hourMessageInit, hread, hrain, hwater, filledBuffer]
  exact ⟨rfl, rfl, trivial⟩

/-- A report after the first hour of a day is right. -/
theorem hourReportOk_of_hour_ne (F : Type) [CFloat F] (history : List (StoreState × HourCall))
    {systime : TimeDef} (hclock : systime.IsClock) (hmin : systime.minute = 0)
    (hhour : systime.hour ≠ 0) : HourReportOk F history systime := by
  have hmin' : (timeDefToDate systime).minute = 0 := by rw [timeDefToDate, hmin]; rfl
  have hpos : (timeDefToDate systime).hour ≠ 0 := fun h =>
    hhour ((bcdToInteger_eq_zero (hclock.digits _ (by simp))).mp (UInt8.toNat_inj.mp h))
  have hbefore : (timeDefToDate systime).hourBefore =
      { timeDefToDate systime with hour := (timeDefToDate systime).hour - 1, minute := 0 } := by
    rw [Date.hourBefore, if_pos hpos]
  -- whatever the unset variables hold, the start is the hour before
  have hreads := fun (st : StoreState) (c : HourCall) (hc : c.systime = systime) =>
    hourMessageInit_reads F st (lastMonthAfter F history) c
      (show _ = (⟨_, none⟩ : HourRead) by
        rw [hc]; exact hourReadDate_of_hour_ne hclock hhour _ _ _ _)
      (by rw [hbefore]; exact hclock.valid.inYear) (by rw [hbefore]; rfl)
      (by
        have hday := MonthCalendar.dayOfYear_lt_sum hclock.valid.inYear
        have hsum := sum_monthLengths_le (timeDefToDate systime).year
        have hle := hclock.valid.hour_le
        simp only [hbefore, Date.slotIndex, Date.hourOfYear]
        omega)
  refine ⟨fun st c hc => ?_, fun st c hc => ?_, fun st c unset hc => ?_⟩
  · obtain ⟨hrain, hwater, -⟩ := hreads st c hc
    rw [hrain, hwater, flatMap_hourWindow st hclock.valid hmin' hpos,
      flatMap_hourWindow st hclock.valid hmin' hpos]
    exact ⟨rfl, rfl⟩
  · intro i hi
    rw [(hreads st c hc).2.2] at hi
    cases hi
  · simp only [hourMessageInit, hc, hourReadDate_of_hour_ne hclock hhour]

/-- The wrapped hour starts 255 hours after midnight, not one hour before it. -/
theorem recordAddress_wrappedHour {d : Date} (hhour : d.hour = 0) (hmin : d.minute = 0) :
    d.wrappedHour.recordAddress .rainfall = d.recordAddress .rainfall + 3 * 3060 := by
  simp only [Date.wrappedHour, Date.recordAddress, Date.oddYear, Date.slotIndex, Date.hourOfYear,
    hhour, hmin, DataType.singleDatalen]
  ring

/-- The slot numbers reached by the wrapped hour. -/
theorem slotIndex_wrappedHour_lt {d : Date} (h : d.Valid) : d.wrappedHour.slotIndex < 200000 := by
  have hday := MonthCalendar.dayOfYear_lt_sum h.inYear
  have hsum := sum_monthLengths_le d.year
  simp only [Date.wrappedHour, Date.slotIndex, Date.hourOfYear]
  omega

/-- A report in the first hour of a day is not: the unset minute can keep the day from being
stepped back. -/
theorem not_hourReportOk_of_hour_zero (F : Type) [CFloat F]
    (history : List (StoreState × HourCall)) {systime : TimeDef} (hclock : systime.IsClock)
    (hmin : systime.minute = 0) (hhour : systime.hour = 0) : ¬ HourReportOk F history systime := by
  intro hok
  have hhour' : (timeDefToDate systime).hour = 0 := by rw [timeDefToDate, hhour]; rfl
  have hmin' : (timeDefToDate systime).minute = 0 := by rw [timeDefToDate, hmin]; rfl
  have hindex : (timeDefToDate systime).slotIndex < 200000 :=
    (Slot.index_lt ⟨_, hclock.valid, by rw [hmin']⟩).trans (by decide)
  have haddr := recordAddress_wrappedHour hhour' hmin'
  -- the flash shows where the last record was read
  obtain ⟨a, ha⟩ : ∃ a, a = (timeDefToDate systime).wrappedHour.recordAddress .rainfall := ⟨_, rfl⟩
  let c : HourCall := ⟨systime, 0, Vector.replicate 5 0, 0, 0, 1, 0⟩
  have hread := (hourMessageInit_reads F (markedStore (a + 36)) (lastMonthAfter F history) c
    (hourReadDate_of_hour_zero hhour _ _ (show (1 : UInt8) ≠ 0 by decide) _)
    hclock.valid.inYear rfl (slotIndex_wrappedHour_lt hclock.valid)).1
  have hinit : ((_ : List Date).flatMap _).length = 36 :=
    length_window_init (markedStore (a + 36)) rainfallType (timeDefToDate systime)
  have hwindow := (hok.window (markedStore (a + 36)) c rfl).1
  rw [hread, ← ha, hourWindow, List.flatMap_append, List.flatMap_singleton,
    storedRecord_of_inYear _ hclock.valid.inYear (by rw [hmin']) hindex] at hwindow
  have hdrop := congrArg (List.drop 36) hwindow
  rw [show 39 = 36 + 3 from rfl, slice_add, List.drop_left' (length_slice _ _ _),
    List.drop_left' hinit] at hdrop
  have hcell := eq_of_slice_eq hdrop 0 (by decide)
  have hne : (timeDefToDate systime).recordAddress .rainfall + 0 ≠ a + 36 := by omega
  exact markedStore_ne (x := a + 36) hne.symm (hcell : _ = _)

/-- **When the hour report is right.** At minute 0 of any hour, after any history of reports, the
report reads the thirteen slots of the window whatever its unset minute holds, and indexes the month
table inside its entries, exactly when the hour is not 0. -/
theorem hourReport_iff (F : Type) [CFloat F] (history : List (StoreState × HourCall))
    {systime : TimeDef} (hclock : systime.IsClock) (hmin : systime.minute = 0) :
    HourReportOk F history systime ↔ systime.hour ≠ 0 :=
  ⟨fun hok hhour => not_hourReportOk_of_hour_zero F history hclock hmin hhour hok,
    hourReportOk_of_hour_ne F history hclock hmin⟩

/-- The reading 2020-03-15 07:00:00. -/
def march15 (hour : UInt8) : TimeDef := ⟨0x00, 0x00, hour, 0x00, 0x15, 0x03, 0x20⟩

theorem hourReport_iff_march15 : HourReportOk ℚ [] (march15 0x07) ↔ (march15 0x07).hour ≠ 0 :=
  hourReport_iff ℚ [] (by decide) (by decide)

/-- The first report after boot at midnight of the 15th of March 2020, with the unset minute
happening to be 0, starts at the end of February; and no value of that minute is safe. -/
theorem hourReport_midnight_march15 :
    (hourReadDate (march15 0x00) (lastMonthAfter ℚ []) 0 0 (monthLengths 20)).readDate =
        ⟨20, 2, 29, 23, 0⟩ ∧
      (timeDefToDate (march15 0x00)).hourBefore = ⟨20, 3, 14, 23, 0⟩ ∧
      ¬ ∀ (history : List (StoreState × HourCall)) (systime : TimeDef), systime.IsClock →
          systime.minute = 0 → HourReportOk ℚ history systime := by
  refine ⟨by decide, by decide, fun h => ?_⟩
  exact not_hourReportOk_of_hour_zero ℚ [] (by decide) rfl rfl
    (h [] (march15 0x00) (by decide) rfl)

end RtuShuiwen
