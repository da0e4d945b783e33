import RtuShuiwen.Memory.Calendar

/-! # The wake-up alarm of the clock

Before the processor stops, `enter_stop_mode` lets `SetNextFiveMinuteAlarm` write an alarm on minute
and second to the clock, ten seconds before a multiple of five minutes. When the minute just before
that multiple has begun, the alarm is pushed forward by adding `0x05` to its BCD minute, which
carries wrongly where the last digit is 9. `sleepRun_iff` says for which runs every alarm wakes the
station. -/

namespace RtuShuiwen

/-! ## The alarm registers -/

/-- `sec_ALM`. -/
def secAlm : UInt8 := 0x01

/-- `min_ALM`. -/
def minAlm : UInt8 := 0x02

/-- `hor_ALM`. -/
def horAlm : UInt8 := 0x04

/-- `wek_ALM`. -/
def wekAlm : UInt8 := 0x08

/-- `day_ALM`. -/
def dayAlm : UInt8 := 0x10

/-- `mon_ALM`. -/
def monAlm : UInt8 := 0x20

/-- `yar_ALM`. -/
def yarAlm : UInt8 := 0x40

/-- `WAKE_UP_SECOND`. -/
def wakeUpSecond : UInt8 := 0x50

/-- The registers from `Alarm_SC` on. -/
structure AlarmRegisters where
  alarm : TimeDef
  enable : UInt8
  ctr1 : UInt8
  ctr2 : UInt8
  deriving DecidableEq, Repr

/-- `Set_Alarm`. -/
def setAlarm (enableConfig : UInt8) (psRTC : TimeDef) : AlarmRegisters where
  alarm := { psRTC with week := 0 }
  enable := enableConfig
  ctr1 := 0xFF
  ctr2 := 0x92

/-- The alarm minute that `SetNextFiveMinuteAlarm` computes from the minute register. -/
def nextAlarmMinute (currMinute : UInt8) : UInt8 :=
  let minutes := (currMinute >>> 4) * 10 + (currMinute &&& 0x0f)
  let alarmMinutes := (minutes / 5 + 1) * 5 - 1
  let alarmMinute := alarmMinutes / 10 * 16 + alarmMinutes % 10
  if currMinute ≥ alarmMinute then
    if alarmMinute < 0x59 then alarmMinute + 0x05 else 0x04
  else alarmMinute

/-- `SetNextFiveMinuteAlarm`. -/
def setNextFiveMinuteAlarm (currTime : TimeDef) : AlarmRegisters :=
  setAlarm (minAlm ||| secAlm)
    { second := wakeUpSecond, minute := nextAlarmMinute currTime.minute,
      hour := 0, week := 0, day := 0, month := 0, year := 0 }

/-! ## The clock and its alarm -/

/-- A real-time clock that counts: its readings over the seconds since the start of an hour. -/
structure RtcClock where
  read : ℕ → TimeDef
  /-- The second register. -/
  second_eq : ∀ t, (read t).second = Bcd.ofNat (t % 60)
  /-- The minute register. -/
  minute_eq : ∀ t, (read t).minute = Bcd.ofNat (t / 60 % 60)

/-- An alarm matches a reading when the registers of all enabled fields agree. -/
def AlarmRegisters.Matches (r : AlarmRegisters) (now : TimeDef) : Prop :=
  (r.enable &&& secAlm ≠ 0 → r.alarm.second = now.second) ∧
    (r.enable &&& minAlm ≠ 0 → r.alarm.minute = now.minute) ∧
    (r.enable &&& horAlm ≠ 0 → r.alarm.hour = now.hour) ∧
    (r.enable &&& wekAlm ≠ 0 → r.alarm.week = now.week) ∧
    (r.enable &&& dayAlm ≠ 0 → r.alarm.day = now.day) ∧
    (r.enable &&& monAlm ≠ 0 → r.alarm.month = now.month) ∧
    (r.enable &&& yarAlm ≠ 0 → r.alarm.year = now.year)

instance (r : AlarmRegisters) (now : TimeDef) : Decidable (r.Matches now) := by
  unfold AlarmRegisters.Matches
  infer_instance

/-- When the station wakes, stopped at `t`: at the first second of the coming hour at which the alarm
matches. An alarm on minute and second that does not match in an hour matches in none. -/
def wakeUpTime (clock : RtcClock) (r : AlarmRegisters) (t : ℕ) : Option ℕ :=
  ((List.range 3600).find? fun k => r.Matches (clock.read (t + k))).map (t + ·)

/-! ## Sleep and wake-up -/

/-- One cycle: the station wakes, and stops when it has handled its messages and waited out the
twenty seconds of `stopmode_task`. -/
structure SleepCycle where
  wake : ℕ
  /-- How much longer than twenty seconds the station is awake. -/
  busy : ℕ
  deriving DecidableEq

namespace SleepCycle

/-- When `enter_stop_mode` reads the clock. -/
def entry (c : SleepCycle) : ℕ := c.wake + c.busy + 20

/-- The alarm that `enter_stop_mode` sets. -/
def alarm (clock : RtcClock) (c : SleepCycle) : AlarmRegisters :=
  setNextFiveMinuteAlarm (clock.read c.entry)

end SleepCycle

/-- A run of cycles from the wake-up at `wake` on; it ends where no alarm wakes the station. -/
def sleepRun (clock : RtcClock) : ℕ → List ℕ → List SleepCycle
  | _, [] => []
  | wake, busy :: busys =>
      let c : SleepCycle := ⟨wake, busy⟩
      c :: match wakeUpTime clock (c.alarm clock) c.entry with
        | some wake' => sleepRun clock wake' busys
        | none => []

/-- **A cycle that does not lose the wake-up.** -/
structure SleepCycle.Ok (clock : RtcClock) (c : SleepCycle) : Prop where
  /-- The alarm minute is a minute in BCD. -/
  minute_valid : Bcd.IsDigits (c.alarm clock).alarm.minute ∧
    Bcd.value (c.alarm clock).alarm.minute < 60
  /-- The alarm second is a second in BCD. -/
  second_valid : Bcd.IsDigits (c.alarm clock).alarm.second ∧
    Bcd.value (c.alarm clock).alarm.second < 60
  /-- The alarm wakes the station strictly after its entry and within ten minutes, ten seconds before
  a multiple of five minutes, at which the station is still awake however soon it stops again. -/
  wakes : ∃ wake', wakeUpTime clock (c.alarm clock) c.entry = some wake' ∧
    c.entry < wake' ∧ wake' ≤ c.entry + 600 ∧ (wake' + 10) % 300 = 0 ∧
    ∀ busy, wake' + 10 < SleepCycle.entry ⟨wake', busy⟩

/-- The cycles whose alarm is pushed forward across a ten: they are entered in a minute that ends in
9, but for the last of the hour. -/
def SleepCycle.PushedAcrossTen (c : SleepCycle) : Prop :=
  c.entry / 60 % 10 = 9 ∧ c.entry / 60 % 60 ≠ 59

instance (c : SleepCycle) : Decidable c.PushedAcrossTen := by
  unfold SleepCycle.PushedAcrossTen
  infer_instance

/-! ## The alarm minute -/

/-- Where the push forward does not carry wrongly, the alarm minute is the last of the five that
the next minute lies in. -/
theorem nextAlarmMinute_ofNat : ∀ m < 60, ¬ (m % 10 = 9 ∧ m ≠ 59) →
    nextAlarmMinute (Bcd.ofNat m) = Bcd.ofNat (((m + 1) / 5 * 5 + 4) % 60) := by
  decide

/-- Where it does, the alarm minute is not decimal. -/
theorem nextAlarmMinute_pushed : ∀ m < 60, m % 10 = 9 ∧ m ≠ 59 →
    ¬ Bcd.IsDigits (nextAlarmMinute (Bcd.ofNat m)) := by
  decide

/-- The alarm is one on minute and second. -/
theorem matches_setNextFiveMinuteAlarm (currTime now : TimeDef) :
    (setNextFiveMinuteAlarm currTime).Matches now ↔
      nextAlarmMinute currTime.minute = now.minute ∧ wakeUpSecond = now.second := by
  have hon : (minAlm ||| secAlm) &&& secAlm ≠ 0 ∧ (minAlm ||| secAlm) &&& minAlm ≠ 0 := by decide
  have hoff : (minAlm ||| secAlm) &&& horAlm = 0 ∧ (minAlm ||| secAlm) &&& wekAlm = 0 ∧
      (minAlm ||| secAlm) &&& dayAlm = 0 ∧ (minAlm ||| secAlm) &&& monAlm = 0 ∧
      (minAlm ||| secAlm) &&& yarAlm = 0 := by decide
  simp only [AlarmRegisters.Matches, setNextFiveMinuteAlarm, setAlarm, hon, hoff, ne_eq,
    not_true_eq_false, not_false_eq_true, false_imp_iff, true_imp_iff, and_true]
  exact and_comm

/-- The second of the clock is the alarm's when it is 50. -/
theorem wakeUpSecond_eq_iff (clock : RtcClock) (u : ℕ) :
    wakeUpSecond = (clock.read u).second ↔ u % 60 = 50 := by
  have hfifty : wakeUpSecond = Bcd.ofNat 50 := rfl
  rw [clock.second_eq, hfifty, Bcd.ofNat_inj (by decide) (by omega), eq_comm]

/-! ## The wake-up -/

/-- **A sound alarm matches ten seconds before the multiple of five**, and not before. -/
theorem wakeUpTime_eq (clock : RtcClock) {t : ℕ} (h : ¬ (t / 60 % 10 = 9 ∧ t / 60 % 60 ≠ 59)) :
    wakeUpTime clock (setNextFiveMinuteAlarm (clock.read t)) t =
      some ((t / 60 + 1) / 5 * 300 + 290) := by
  have hminute : nextAlarmMinute (clock.read t).minute =
      Bcd.ofNat (((t / 60 % 60 + 1) / 5 * 5 + 4) % 60) := by
    rw [clock.minute_eq, nextAlarmMinute_ofNat _ (by omega) (by omega)]
  have hmatch : ∀ u, (setNextFiveMinuteAlarm (clock.read t)).Matches (clock.read u) ↔
      (u / 60 % 60 = ((t / 60 % 60 + 1) / 5 * 5 + 4) % 60 ∧ u % 60 = 50) := by
    intro u
    rw [matches_setNextFiveMinuteAlarm, wakeUpSecond_eq_iff, hminute, clock.minute_eq,
      Bcd.ofNat_inj (by omega) (by omega), eq_comm]
  obtain ⟨k, hk⟩ : ∃ k, (t / 60 + 1) / 5 * 300 + 290 = t + k := ⟨_, (Nat.add_sub_of_le (by omega)).symm⟩
  rw [wakeUpTime, hk]
  have hfind : (List.range 3600).find?
      (fun k => (setNextFiveMinuteAlarm (clock.read t)).Matches (clock.read (t + k))) = some k := by
    rw [List.find?_range_eq_some]
    simp only [hmatch, decide_eq_true_eq, List.mem_range, Bool.not_eq_true', decide_eq_false_iff_not]
    refine ⟨⟨by omega, by omega⟩, by omega, fun j hj => by omega⟩
  rw [hfind]
  rfl

/-- **A cycle does not lose the wake-up exactly when its alarm is not pushed across a ten.** -/
theorem SleepCycle.ok_iff (clock : RtcClock) (c : SleepCycle) :
    c.Ok clock ↔ ¬ c.PushedAcrossTen := by
  have hminute : (c.alarm clock).alarm.minute = nextAlarmMinute (Bcd.ofNat (c.entry / 60 % 60)) := by
    rw [← clock.minute_eq]
    rfl
  constructor
  · intro hok hpushed
    have hdigits := hok.minute_valid.1
    rw [hminute] at hdigits
    exact nextAlarmMinute_pushed (c.entry / 60 % 60) (by omega)
      ⟨by have := hpushed.1; omega, hpushed.2⟩ hdigits
  · intro hpushed
    have hsound := hpushed
    rw [SleepCycle.PushedAcrossTen] at hsound
    refine ⟨?_, ?_, _, wakeUpTime_eq clock hpushed, ?_⟩
    · rw [hminute, nextAlarmMinute_ofNat _ (by omega) (by omega), Bcd.value_ofNat (by omega)]
      exact ⟨Bcd.isDigits_ofNat (by omega), by omega⟩
    · have hsecond : (c.alarm clock).alarm.second = Bcd.ofNat 50 := rfl
      rw [hsecond]
      exact ⟨Bcd.isDigits_ofNat (by decide), by decide⟩
    · refine ⟨by omega, by omega, by omega, fun busy => ?_⟩
      simp only [SleepCycle.entry]
      omega

/-- **When sleep never loses the wake-up**: the cycles of a run, with any time awake in each, all
have a sound alarm exactly when none is entered in a minute that ends in 9, but for the last of the
hour. -/
theorem sleepRun_iff (clock : RtcClock) (wake : ℕ) (busys : List ℕ) :
    (∀ c ∈ sleepRun clock wake busys, c.Ok clock) ↔
      ∀ c ∈ sleepRun clock wake busys, ¬ c.PushedAcrossTen :=
  forall₂_congr fun c _ => c.ok_iff clock

/-- A clock that starts at midnight of the first of January 2020. -/
def newYearClock : RtcClock where
  read t := ⟨Bcd.ofNat (t % 60), Bcd.ofNat (t / 60 % 60), Bcd.ofNat (t / 3600 % 24), 0x04, 0x01,
    0x01, 0x20⟩
  second_eq _ := rfl
  minute_eq _ := rfl

/-- A station that wakes at 00:04:50 and stops at 00:09:30 sets the alarm minute to `0x0E`, which no
reading of the clock matches. -/
theorem sleepRun_newYear_not_ok :
    (SleepCycle.alarm newYearClock ⟨290, 260⟩).alarm.minute = 0x0E ∧
      (∀ t, ¬ (SleepCycle.alarm newYearClock ⟨290, 260⟩).Matches (newYearClock.read t)) ∧
      ¬ ∀ (clock : RtcClock) (wake : ℕ) (busys : List ℕ),
          ∀ c ∈ sleepRun clock wake busys, c.Ok clock := by
  have hpushed : SleepCycle.PushedAcrossTen ⟨290, 260⟩ := by decide
  refine ⟨by decide, fun t hmatch => ?_, fun h => ?_⟩
  · have hminute := ((matches_setNextFiveMinuteAlarm _ _).mp hmatch).1
    rw [newYearClock.minute_eq t] at hminute
    exact nextAlarmMinute_pushed 9 (by decide) (by decide) (hminute ▸ Bcd.isDigits_ofNat (by omega))
  · exact (SleepCycle.ok_iff newYearClock _).mp (h newYearClock 290 [260] _ List.mem_cons_self) hpushed

end RtuShuiwen
