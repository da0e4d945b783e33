import RtuShuiwen.Protocol.TimePeriod

/-! # The range of a time-period query

The eight bytes of a time-period query arrive unchecked. `queryInRange_iff` says for which of them
`GetHourGroupsByTimperiod` returns, stays in its month table and makes `test_SendTimePeriodData` send
no more packets than a leap year takes: the months have to be one or in order, and the end neither
before the start nor more than a year behind it. For a period over New Year the byte counter of the
month loop never reaches its bound.

For periods of one year the count is compared with the other calendar of the program, the addresses
of the flash store: `hourCount_eq_byteLength` says that `GetByteLength` is that many hours of records. -/

namespace RtuShuiwen

open MonthCalendar ByteLayout

/-! ## Reads of the month table -/

/-- The entries that the loop over the months in between reads, in order. -/
def hourGroupsLoopReads (bound : ℕ) : ℕ → UInt8 → List ℕ
  | 0, _ => []
  | fuel + 1, i =>
      if i.toNat < bound then i.toNat :: hourGroupsLoopReads bound fuel (i + 1) else []

/-- The indices at which `GetHourGroupsByTimperiod` reads `month_days`, in order. -/
def hourGroupsReads (startTime endTime : Timeperiod) : List ℤ :=
  let startDate := timeperiodToDate startTime
  let endDate := timeperiodToDate endTime
  if endDate.month = startDate.month then []
  else
    let monthInterval : UInt8 := .ofInt (endDate.month - startDate.month - 1)
    (hourGroupsLoopReads (startDate.month + monthInterval.toNat) 257 (.ofNat startDate.month)).map
      Nat.cast ++ [(startDate.month : ℤ) - 1]

/-- The loop depends on the table at the entries it reads only. -/
theorem hourGroupsLoop_congr {days days' : ℤ → UInt8} {bound fuel : ℕ} {i : UInt8}
    (h : ∀ j ∈ hourGroupsLoopReads bound fuel i, days j = days' j) (hourGroups : UInt32) :
    hourGroupsLoop days bound fuel i hourGroups = hourGroupsLoop days' bound fuel i hourGroups := by
  induction fuel generalizing i hourGroups with
  | zero => rfl
  | succ fuel ih =>
      rw [hourGroupsLoopReads] at h
      rw [hourGroupsLoop, hourGroupsLoop]
      split
      · next hlt =>
          rw [if_pos hlt] at h
          rw [h _ List.mem_cons_self]
          exact ih (fun j hj => h j (List.mem_cons_of_mem _ hj)) _
      · rfl

/-- **The count depends on what lies around the month table at the indices read only.** -/
theorem getHourGroups_congr {startTime endTime : Timeperiod} {stray stray' : ℤ → UInt8}
    (h : ∀ i ∈ hourGroupsReads startTime endTime, stray i = stray' i) (t : MonthTable) :
    getHourGroupsByTimperiod startTime endTime stray t =
      getHourGroupsByTimperiod startTime endTime stray' t := by
  have hdays : ∀ (days : List ℕ) (i : ℤ), stray i = stray' i →
      monthDaysAt days stray i = monthDaysAt days stray' i := by
    intro days i hi
    rw [monthDaysAt, monthDaysAt, hi]
  simp only [hourGroupsReads] at h
  simp only [getHourGroupsByTimperiod]
  split
  · rfl
  · next hne =>
      rw [if_neg hne] at h
      have hloop := fun days => hourGroupsLoop_congr (fun j hj =>
        hdays days _ (h j (List.mem_append_left _ (List.mem_map_of_mem hj)))) 0
      rw [hdays _ _ (h _ (List.mem_append_right _ (List.mem_singleton.mpr rfl))), hloop]

/-- While its bound fits the counter the loop reads the entries from the counter up to the bound. -/
theorem mem_hourGroupsLoopReads {bound : ℕ} (hbound : bound ≤ 255) :
    ∀ (fuel : ℕ) {i : ℕ}, i ≤ 255 → bound < i + fuel → ∀ {j : ℕ},
      j ∈ hourGroupsLoopReads bound fuel (.ofNat i) ↔ i ≤ j ∧ j < bound := by
  intro fuel
  induction fuel with
  | zero =>
      intro i _ hfuel j
      simp only [hourGroupsLoopReads, List.not_mem_nil, false_iff]
      omega
  | succ fuel ih =>
      intro i hi hfuel j
      have hnat : (UInt8.ofNat i).toNat = i := by
        rw [UInt8.toNat_ofNat']
        omega
      rw [hourGroupsLoopReads, hnat]
      by_cases hlt : i < bound
      · rw [if_pos hlt, List.mem_cons, ← UInt8.ofNat_one, ← UInt8.ofNat_add,
          ih (by omega) (by omega)]
        omega
      · rw [if_neg hlt]
        simp only [List.not_mem_nil, false_iff]
        omega

/-- **A bound above every byte is never reached**, however long the loop runs. -/
theorem hourGroupsLoop_eq_none (days : ℤ → UInt8) {bound : ℕ} (hbound : 256 ≤ bound) (fuel : ℕ)
    (i : UInt8) (hourGroups : UInt32) : hourGroupsLoop days bound fuel i hourGroups = none := by
  induction fuel generalizing i hourGroups with
  | zero => rfl
  | succ fuel ih =>
      have hi := i.toNat_lt
      rw [hourGroupsLoop, if_pos (by omega)]
      apply ih

/-- **The month loop returns exactly when its bound fits the counter**: the turns that the model
allows it are enough. -/
theorem hourGroupsLoop_eq_none_iff (days : ℤ → UInt8) {bound fuel i : ℕ} (hi : i ≤ 255)
    (hfuel : 256 ≤ fuel + i) (hpos : 0 < fuel) (hourGroups : UInt32) :
    hourGroupsLoop days bound fuel (.ofNat i) hourGroups = none ↔ 256 ≤ bound := by
  refine ⟨fun hnone => ?_, fun hbound => hourGroupsLoop_eq_none days hbound fuel _ hourGroups⟩
  induction fuel generalizing i hourGroups with
  | zero => omega
  | succ fuel ih =>
      have hnat : (UInt8.ofNat i).toNat = i := by
        rw [UInt8.toNat_ofNat']
        omega
      rw [hourGroupsLoop, hnat] at hnone
      split at hnone
      · next hlt =>
          by_contra hbound
          rw [← UInt8.ofNat_one, ← UInt8.ofNat_add] at hnone
          exact hbound (ih (by omega) (by omega) (by omega) _ hnone)
      · cases hnone

/-- **A period over New Year is never counted**: the interval of its months wraps, and the loop runs
for ever. -/
theorem getHourGroups_eq_none {startTime endTime : Timeperiod}
    (hpos : 1 ≤ (timeperiodToDate endTime).month)
    (hlt : (timeperiodToDate endTime).month < (timeperiodToDate startTime).month)
    (stray : ℤ → UInt8) (t : MonthTable) :
    (getHourGroupsByTimperiod startTime endTime stray t).1 = none := by
  have hs : (timeperiodToDate startTime).month < 256 := UInt8.toNat_lt _
  simp only [getHourGroupsByTimperiod]
  generalize timeperiodToDate startTime = s at *
  generalize timeperiodToDate endTime = e at *
  have hinterval : (UInt8.ofInt ((e.month : ℤ) - s.month - 1)).toNat =
      255 + e.month - s.month := by
    rw [UInt8.ofInt, UInt8.toNat_ofNat']
    omega
  rw [if_neg (by omega), hinterval, hourGroupsLoop_eq_none _ (by omega)]
  rfl

/-- Months in order, the last at most one past the end of the year, keep all reads in the table. -/
theorem hourGroupsReads_inTable {startTime endTime : Timeperiod}
    (h : MonthsInTable (timeperiodToDate startTime).month (timeperiodToDate endTime).month) :
    ∀ i ∈ hourGroupsReads startTime endTime, 0 ≤ i ∧ i < 12 := by
  simp only [hourGroupsReads]
  generalize timeperiodToDate startTime = s at *
  generalize timeperiodToDate endTime = e at *
  split
  · simp
  · next hne =>
      obtain ⟨hsm, hlt, hem⟩ := h.resolve_left hne
      intro i hi
      rw [toNat_monthInterval hlt (by omega)] at hi
      rcases List.mem_append.mp hi with hloop | hfirst
      · obtain ⟨j, hj, rfl⟩ := List.mem_map.mp hloop
        rw [mem_hourGroupsLoopReads (by omega) 257 (by omega) (by omega)] at hj
        omega
      · rw [List.mem_singleton.mp hfirst]
        omega

/-- A two-digit number in a byte is at most 165. -/
theorem toNat_bcdToInteger_le (b : UInt8) : (bcdToInteger b).toNat ≤ 165 := by
  have hlt := b.toNat_lt
  rw [toNat_bcdToInteger, Bcd.value]
  omega

/-- **Other months leave the table or the loop.** -/
theorem monthsInTable_of_returns {startTime endTime : Timeperiod} {stray : ℤ → UInt8}
    {t : MonthTable} {hourGroups : UInt32}
    (hreturns : (getHourGroupsByTimperiod startTime endTime stray t).1 = some hourGroups)
    (hreads : ∀ i ∈ hourGroupsReads startTime endTime, 0 ≤ i ∧ i < 12) :
    MonthsInTable (timeperiodToDate startTime).month (timeperiodToDate endTime).month := by
  have hs : (timeperiodToDate startTime).month ≤ 165 := toNat_bcdToInteger_le _
  have he : (timeperiodToDate endTime).month ≤ 165 := toNat_bcdToInteger_le _
  simp only [hourGroupsReads] at hreads
  simp only [getHourGroupsByTimperiod] at hreturns
  generalize timeperiodToDate startTime = s at *
  generalize timeperiodToDate endTime = e at *
  by_cases hm : e.month = s.month
  · exact .inl hm
  rw [if_neg hm] at hreads hreturns
  have hfirst := hreads (s.month - 1) (List.mem_append_right _ (List.mem_singleton.mpr rfl))
  generalize hinterval : (UInt8.ofInt ((e.month : ℤ) - s.month - 1)).toNat = interval
    at hreads hreturns
  have hvalue : interval = if s.month < e.month then e.month - s.month - 1
      else 255 + e.month - s.month := by
    rw [← hinterval, UInt8.ofInt, UInt8.toNat_ofNat']
    split <;> omega
  have hbound : s.month + interval ≤ 255 := by
    by_contra hlarge
    rw [hourGroupsLoop_eq_none _ (by omega)] at hreturns
    cases hreturns
  have hloop : ∀ j, s.month ≤ j → j < s.month + interval → j < 12 := by
    intro j hle hlt
    have hmem := (mem_hourGroupsLoopReads hbound 257 (by omega) (by omega)).mpr ⟨hle, hlt⟩
    have hj := hreads j (List.mem_append_left _ (List.mem_map_of_mem hmem))
    omega
  refine .inr ⟨by omega, ?_, ?_⟩
  · -- an end month before the start month is month 0, and the loop runs up to entry 254
    by_contra hlt
    rw [if_neg hlt] at hvalue
    have hlast := hloop 200 (by omega) (by omega)
    omega
  · by_contra hlarge
    split at hvalue
    · by_cases hnext : e.month = s.month + 1
      · omega
      · have hlast := hloop (e.month - 2) (by omega) (by omega)
        omega
    · have hlast := hloop 200 (by omega) (by omega)
      omega

/-! ## The number of packets -/

/-- The loop over the full packets sends one in each turn. -/
@[simp] theorem length_fullPackets (flash : Flash) (len : ℕ) (m : QuerrytimeperiodUpmessage)
    (n : ℕ) (i readAddress : UInt32) (sn : UInt16) :
    (fullPackets flash len m n i readAddress sn).1.length = n := by
  induction n generalizing i readAddress sn with
  | zero => rfl
  | succ n ih => simp [fullPackets, ih]

/-- A packet for every twelve hours, and one for the rest. -/
theorem length_multiPackets (flash : Flash) (len fullLen : ℕ) (m : QuerrytimeperiodUpmessage)
    (readAddress : UInt32) (hourGroups : ℕ) (sn : UInt16) :
    (multiPackets flash len fullLen m readAddress hourGroups sn).length =
      hourGroups / 12 + if hourGroups % 12 ≠ 0 then 1 else 0 := by
  rw [multiPackets_eq, List.length_append, length_fullPackets, remainderPacket]
  congr 1
  split <;> rfl

/-- The elements whose records the store keeps. -/
def KnownElement (elementId : UInt16) : Prop :=
  elementId = cumulaPrecipitId ∨ elementId = waterLevelElementId

instance (elementId : UInt16) : Decidable (KnownElement elementId) := by
  unfold KnownElement
  infer_instance

/-- The number of packets of a reply for a count of hours. -/
def packetCount (hourGroups : ℕ) : ℕ :=
  if hourGroups ≤ 12 then 1 else hourGroups / 12 + if hourGroups % 12 ≠ 0 then 1 else 0

/-- **How many packets are sent**, once the hours are counted: none for an element that the store
does not keep. -/
theorem length_testSend {st : StoreState} {stray : ℤ → UInt8} {query : QuerrytimeperiodDownmessage}
    {hourGroups : UInt32}
    (h : (getHourGroupsByTimperiod query.startTime query.endTime stray st.monthday).1 =
      some hourGroups) (systime : TimeDef) (sn : UInt16) :
    ∃ frames, testSendTimePeriodData st systime sn stray query = some frames ∧
      frames.length =
        if KnownElement (swap16 query.precipitId) then packetCount hourGroups.toNat else 0 := by
  simp only [testSendTimePeriodData, h, Option.map_some]
  refine ⟨_, rfl, ?_⟩
  have hreply : ∀ m len readAddress, (if hourGroups.toNat ≤ timeperiodContentHourgroups then
        singlePacket st.flash len m readAddress hourGroups.toNat sn
      else multiPackets st.flash len 3 m readAddress hourGroups.toNat sn).length =
        packetCount hourGroups.toNat := by
    intro m len readAddress
    rw [packetCount]
    split
    · rfl
    · exact length_multiPackets ..
  by_cases hrain : swap16 query.precipitId = cumulaPrecipitId
  · have hknown : KnownElement (swap16 query.precipitId) := .inl hrain
    simp only [if_pos hrain, if_pos hknown, hreply]
  · by_cases hwater : swap16 query.precipitId = waterLevelElementId
    · have hknown : KnownElement (swap16 query.precipitId) := .inr hwater
      simp only [if_neg hrain, if_pos hwater, if_pos hknown, hreply]
    · have hknown : ¬ KnownElement (swap16 query.precipitId) := by
        rintro (h | h) <;> contradiction
      simp only [if_neg hrain, if_neg hwater, if_neg hknown, ite_self, List.length_nil]

/-- The packets of a leap year are those of at most its 8784 hours. -/
theorem packetCount_le_iff (hourGroups : ℕ) : packetCount hourGroups ≤ 732 ↔ hourGroups ≤ 8784 := by
  rw [packetCount]
  split
  · omega
  · split <;> omega

/-! ## Queries that stay in range -/

/-- `test_SendTimePeriodData` is done with a query: `GetHourGroupsByTimperiod` has read the month
table at its twelve indices only, and the reply has at most the 732 packets of a leap year. -/
def QueryInRange (query : QuerrytimeperiodDownmessage) : Prop :=
  (∀ i ∈ hourGroupsReads query.startTime query.endTime, 0 ≤ i ∧ i < 12) ∧
    ∀ (st : StoreState) (systime : TimeDef) (sn : UInt16) (stray : ℤ → UInt8),
      ∃ hourGroups frames,
        (getHourGroupsByTimperiod query.startTime query.endTime stray st.monthday).1 =
            some hourGroups ∧
          testSendTimePeriodData st systime sn stray query = some frames ∧ frames.length ≤ 732

/-- The period of a query ends no earlier than it starts and at most a leap year later, counted in
hours with the month lengths of the year of the start. -/
def PeriodOrdered (startTime endTime : Timeperiod) : Prop :=
  let startDate := timeperiodToDate startTime
  let endDate := periodEnd startDate (timeperiodToDate endTime)
  startDate.hourIn startDate.year ≤ endDate.hourIn startDate.year ∧
    endDate.hourIn startDate.year ≤ startDate.hourIn startDate.year + 8784

instance (startTime endTime : Timeperiod) : Decidable (PeriodOrdered startTime endTime) := by
  unfold PeriodOrdered
  infer_instance

/-- Hours of one year, as bytes give them, are far from the range of an `unsigned int`. -/
theorem hourIn_le {d : Date} {year : ℕ} (hday : d.day ≤ 165) (hhour : d.hour ≤ 165) :
    d.hourIn year ≤ 12909 := by
  have hsum : daysBefore (monthLengths year) d.month ≤ 366 :=
    (List.take_sublist _ _).sum_le_sum (by simp) |>.trans (sum_monthLengths_le year)
  rw [Date.hourIn]
  omega

/-- A difference that an `unsigned int` holds is small exactly when it is not negative. -/
theorem toNat_ofInt_sub_le_iff {a b : ℕ} (ha : a ≤ 12909) (hb : b ≤ 12909) :
    (UInt32.ofInt ((a : ℤ) - b)).toNat ≤ 8784 ↔ b ≤ a ∧ a ≤ b + 8784 := by
  rw [UInt32.ofInt, UInt32.toNat_ofNat']
  omega

/-- The count of a period in the month table is at most a leap year exactly when the period is
ordered. -/
theorem hourGroups_le_iff {startTime endTime : Timeperiod} {stray : ℤ → UInt8} {t : MonthTable}
    {hourGroups : UInt32}
    (hmonths : MonthsInTable (timeperiodToDate startTime).month (timeperiodToDate endTime).month)
    (hgroups : (getHourGroupsByTimperiod startTime endTime stray t).1 = some hourGroups) :
    hourGroups.toNat ≤ 8784 ↔ PeriodOrdered startTime endTime := by
  rw [getHourGroups_eq_hourIn hmonths, Option.some.injEq] at hgroups
  rw [← hgroups]
  apply toNat_ofInt_sub_le_iff
  · rw [periodEnd]
    split
    · exact hourIn_le (toNat_bcdToInteger_le _) (by simp)
    · exact hourIn_le (toNat_bcdToInteger_le _) (toNat_bcdToInteger_le _)
  · exact hourIn_le (toNat_bcdToInteger_le _) (toNat_bcdToInteger_le _)

/-- A query that stays in range names one month, or two in order. -/
theorem QueryInRange.monthsInTable {query : QuerrytimeperiodDownmessage} (h : QueryInRange query) :
    MonthsInTable (timeperiodToDate query.startTime).month
      (timeperiodToDate query.endTime).month := by
  obtain ⟨hreads, hrun⟩ := h
  obtain ⟨hourGroups, -, hgroups, -⟩ :=
    hrun (markedStore 0) ⟨0, 0, 0, 0, 0, 0, 0⟩ 0 fun _ => 0
  exact monthsInTable_of_returns hgroups hreads

/-- **When a query stays in range**: its months are one or in order inside the table, and for the two
elements that are answered the end is neither before the start nor more than a leap year later. -/
theorem queryInRange_iff (query : QuerrytimeperiodDownmessage) :
    QueryInRange query ↔
      MonthsInTable (timeperiodToDate query.startTime).month
          (timeperiodToDate query.endTime).month ∧
        (KnownElement (swap16 query.precipitId) →
          PeriodOrdered query.startTime query.endTime) := by
  constructor
  · intro hrange
    have hmonths := hrange.monthsInTable
    refine ⟨hmonths, fun hknown => ?_⟩
    obtain ⟨hourGroups, frames, hgroups, hframes, hlen⟩ :=
      hrange.2 (markedStore 0) ⟨0, 0, 0, 0, 0, 0, 0⟩ 0 fun _ => 0
    obtain ⟨frames', hframes', hcount⟩ := length_testSend hgroups ⟨0, 0, 0, 0, 0, 0, 0⟩ 0
    rw [hframes, Option.some.injEq] at hframes'
    rw [if_pos hknown, ← hframes'] at hcount
    rw [hcount, packetCount_le_iff] at hlen
    exact (hourGroups_le_iff hmonths hgroups).mp hlen
  · rintro ⟨hmonths, hordered⟩
    refine ⟨hourGroupsReads_inTable hmonths, fun st systime sn stray => ?_⟩
    have hgroups := getHourGroups_eq_hourIn hmonths stray st.monthday
    obtain ⟨frames, hframes, hcount⟩ := length_testSend hgroups systime sn
    refine ⟨_, frames, hgroups, hframes, ?_⟩
    rw [hcount]
    split
    · next hknown =>
        rw [packetCount_le_iff]
        exact (hourGroups_le_iff hmonths hgroups).mpr (hordered hknown)
    · omega

/-- The query for the rainfall of the last day of 2020. -/
def newYearsEveQuery : QuerrytimeperiodDownmessage :=
  ⟨⟨0x20, 0x12, 0x31, 0x00⟩, ⟨0x21, 0x01, 0x01, 0x00⟩, swap16 cumulaPrecipitId⟩

/-- It is never answered. -/
theorem newYearsEve_not_queryInRange :
    (∀ (stray : ℤ → UInt8) (t : MonthTable), (getHourGroupsByTimperiod newYearsEveQuery.startTime
      newYearsEveQuery.endTime stray t).1 = none) ∧ ¬ QueryInRange newYearsEveQuery :=
  ⟨getHourGroups_eq_none (by decide) (by decide),
    fun hrange => absurd hrange.monthsInTable (by decide)⟩

/-! ## Hours and bytes of a period -/

/-- `GetByteLength`: the length in bytes and the addresses of start and end, and the month table
left behind. -/
def getByteLength (startTime endTime : Timeperiod) (dataType : UInt8) (t : MonthTable) :
    Except AddressError (ℤ × ℤ × ℤ) × MonthTable :=
  let dateStart := timeperiodToDate startTime
  let dateEnd := timeperiodToDate endTime
  match getAddress dateStart dataType t with
  | (.error error, t) => (.error error, t)
  | (.ok addressStart, t) =>
      match getAddress dateEnd dataType t with
      | (.error error, t) => (.error error, t)
      | (.ok addressEnd, t) => (.ok (addressEnd - addressStart, addressStart, addressEnd), t)

/-- In one year records lie as far apart as their slots. -/
theorem recordAddress_sub {d e : Date} (hyear : d.year = e.year) (ty : DataType) :
    (e.recordAddress ty : ℤ) - d.recordAddress ty =
      ty.singleDatalen * ((e.slotIndex : ℤ) - d.slotIndex) := by
  simp only [Date.recordAddress, Date.oddYear, hyear]
  push_cast
  ring

/-- Full hours have twelve slots each. -/
theorem slotIndex_sub {d e : Date} (hd : d.minute = 0) (he : e.minute = 0) :
    (e.slotIndex : ℤ) - d.slotIndex = 12 * ((e.hourOfYear : ℤ) - d.hourOfYear) := by
  simp only [Date.slotIndex, hd, he]
  push_cast
  ring

/-- **The hours that are counted are the hours that are stored**: for every period of full hours in a
year, both kinds of record and any state of the month table, `GetHourGroupsByTimperiod` is the number
of hours between start and end, and `GetByteLength` is twelve records for each of them. -/
theorem hourCount_eq_byteLength (q : ValidQuery) (dataType : UInt8) (stray : ℤ → UInt8)
    (t : MonthTable) :
    ∃ hourGroups addressStart addressEnd,
      (getHourGroupsByTimperiod q.startTime q.endTime stray t).1 = some hourGroups ∧
        (hourGroups.toNat : ℤ) = (timeperiodToDate q.endTime).hourOfYear -
          (timeperiodToDate q.startTime).hourOfYear ∧
        (∀ t', (getAddress (timeperiodToDate q.startTime) dataType t').1 = .ok addressStart) ∧
        (∀ t', (getAddress (timeperiodToDate q.endTime) dataType t').1 = .ok addressEnd) ∧
        (getByteLength q.startTime q.endTime dataType t).1 =
          .ok (addressEnd - addressStart, addressStart, addressEnd) ∧
        addressEnd - addressStart =
          12 * (DataType.ofByte dataType).singleDatalen * hourGroups.toNat := by
  have hyear : (timeperiodToDate q.startTime).year = (timeperiodToDate q.endTime).year := by
    rw [timeperiodToDate, timeperiodToDate, q.same_year]
  have hstart := getAddress_of_inYear q.start_valid.inYear rfl dataType
  have hend := getAddress_of_inYear q.end_valid.inYear rfl dataType
  have hpos := q.hours_pos
  have hlt := q.hours_lt
  have hhours : ((UInt32.ofNat q.hours).toNat : ℤ) = (timeperiodToDate q.endTime).hourOfYear -
      (timeperiodToDate q.startTime).hourOfYear := by
    rw [UInt32.toNat_ofNat', ValidQuery.hours] at *
    omega
  refine ⟨.ofNat q.hours, _, _,
    getHourGroups_eq q.start_valid q.end_valid hyear q.before stray t, hhours,
    fun t' => by rw [hstart], fun t' => by rw [hend], ?_, ?_⟩
  · simp only [getByteLength, hstart, hend]
  · rw [hhours, recordAddress_sub hyear, slotIndex_sub rfl rfl]
    ring

end RtuShuiwen
