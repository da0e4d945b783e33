import Mathlib.Tactic.Linarith
import RtuShuiwen.Library.TransitionSystem
import RtuShuiwen.Protocol.ExactValues

/-! # Rain pulses and the reports on them

The rain gauge interrupts: `EXTI1_IRQHandler` adds a pulse to `g_rainfall_pluse_count`, also while a
message is being built. Here `plus_message_init` and `QueryRealData_Init` are runs of small steps, one
for each statement that deals with rainfall, between any two of which pulses may come.

* **`plusRainfall_conserved`**: the first samples the counter once, and its reports add up;
* **`realDataRainfall_iff`**: the second reads it three times, and its reports add up in the runs in
  which no pulse comes between these reads and is lost or counted twice. -/

namespace RtuShuiwen

open TransitionSystem

/-- What a message needs besides the pulse count. -/
structure MessageInputs where
  parameters : RtuOperationParameters
  sn : UInt16
  systime : TimeDef
  level : UInt32

/-- What happens: a rain pulse, a call with its inputs, or the next statement of the call. -/
inductive RainEvent
  | pulse
  | call (c : MessageInputs)
  | statement

/-! ## The plus message -/

/-- Where a call of `plus_message_init` stands, with the local variables it has set. -/
inductive PlusPhase
  | idle
  | sample (c : MessageInputs)
  | difference (c : MessageInputs)
  | remember (c : MessageInputs) (fiveminuteRainfall : ℚ)
  | encodeFiveMinute (c : MessageInputs) (fiveminuteRainfall : ℚ)
  | cumulate (c : MessageInputs) (fiveminuteStore : UInt32)
  | encodeCumulated (c : MessageInputs) (fiveminuteStore : UInt32) (cumcumulaRainfall : ℚ)
  | fill (c : MessageInputs) (fiveminuteStore cumcumulaStore : UInt32)

/-- The counter, the static variables of `plus_message_init`, its place, and the messages built so
far, the last one first. -/
structure PlusState where
  gRainfallPluseCount : UInt32
  realRainfallDataCount : UInt32
  lastFiveminuteRainfallDataCount : UInt32
  phase : PlusPhase
  frames : List (UpMessage PlusMessageContent)

/-- The message with two encoded rainfalls. -/
def plusMessage (c : MessageInputs) (fiveminuteStore cumcumulaStore : UInt32) :
    UpMessage PlusMessageContent :=
  let m := plusMessageInit ℚ c.parameters c.sn c.systime 0 0 c.level
  UpMessage.withCrc { m with
    content := { m.content with
      fiveMinPrecipitData := storeData3 fiveminuteStore
      cumulaPrecipitData := storeData3 cumcumulaStore } }

/-- The next statement. -/
def PlusState.statement (s : PlusState) : PlusState :=
  match s.phase with
  | .idle => s
  | .sample c =>
      { s with realRainfallDataCount := s.gRainfallPluseCount, phase := .difference c }
  | .difference c =>
      { s with
        phase := .remember c
          (fiveMinuteRainfall ℚ s.realRainfallDataCount s.lastFiveminuteRainfallDataCount) }
  | .remember c five =>
      { s with
        lastFiveminuteRainfallDataCount := s.realRainfallDataCount
        phase := .encodeFiveMinute c five }
  | .encodeFiveMinute c five => { s with phase := .cumulate c (floatoHex 1 five) }
  | .cumulate c fiveStore =>
      { s with phase := .encodeCumulated c fiveStore (plusCumulaRainfall ℚ s.realRainfallDataCount) }
  | .encodeCumulated c fiveStore cum => { s with phase := .fill c fiveStore (floatoHex 1 cum) }
  | .fill c fiveStore cumStore =>
      { s with
        phase := .idle
        frames := plusMessage c fiveStore cumStore :: s.frames }

/-- One event; there is one reporting task, so a call waits for the one before to end. -/
def PlusState.step (s : PlusState) : RainEvent → Option PlusState
  | .pulse => some { s with gRainfallPluseCount := s.gRainfallPluseCount + 1 }
  | .call c =>
      match s.phase with
      | .idle => some { s with phase := .sample c }
      | _ => none
  | .statement => some s.statement

/-- After power-up. -/
def PlusState.start : PlusState := ⟨0, 0, 0, .idle, []⟩

/-- The five-minute rainfall of a message, decoded. -/
def fiveMinuteField (m : UpMessage PlusMessageContent) : ℚ :=
  bcdSendataToFloat fiveMinPrecipitId m.content.fiveMinPrecipitData.toList

/-- The cumulated rainfall of a message, decoded. -/
def cumulaField (m : UpMessage PlusMessageContent) : ℚ :=
  bcdSendataToFloat cumulaPrecipitId m.content.cumulaPrecipitData.toList

/-! ## Who watches from outside -/

/-- A record of the events alone: the pulses so far, the statements of the call at hand that are over,
the pulses in front of its first one, which is the one that reads the counter, and these numbers of
the calls that are over, the last one first. -/
structure RainWatch where
  pulses : ℕ
  statements : ℕ
  sampled : ℕ
  samples : List ℕ

/-- A call has seven statements. -/
def RainWatch.step (w : RainWatch) : RainEvent → RainWatch
  | .pulse => { w with pulses := w.pulses + 1 }
  | .call _ => { w with statements := 0 }
  | .statement =>
      { w with
        statements := w.statements + 1
        sampled := if w.statements = 0 then w.pulses else w.sampled
        samples := if w.statements = 6 then w.sampled :: w.samples else w.samples }

/-- No call is at hand. -/
def RainWatch.start : RainWatch := ⟨0, 7, 0, []⟩

/-- The code and the record of its events. -/
structure PlusRun where
  state : PlusState
  watch : RainWatch

/-- Both go on together. -/
def PlusRun.step (r : PlusRun) (e : RainEvent) : Option PlusRun :=
  (r.state.step e).map fun s => ⟨s, r.watch.step e⟩

/-- After power-up. -/
def PlusRun.start : PlusRun := ⟨.start, .start⟩

/-- **Rainfall is conserved**: every call that is over has built one message, the five-minute rainfalls
reported so far add up to the cumulated one of the last message, and both are half a millimetre for
each pulse in front of the sample of its call. -/
structure PlusRun.Conserved (r : PlusRun) : Prop where
  /-- One message for every call. -/
  frames : r.state.frames.length = r.watch.samples.length
  /-- The law for the last one. -/
  last : ∀ f ∈ r.state.frames.head?, ∀ n ∈ r.watch.samples.head?,
    (r.state.frames.map fiveMinuteField).sum = cumulaField f ∧ cumulaField f = (n : ℚ) / 2

/-- The counter has not reached 200000. -/
def PlusRun.Below (r : PlusRun) : Prop := r.state.gRainfallPluseCount.toNat < 200000

instance : DecidablePred PlusRun.Below := fun _ => Nat.decLt _ _

/-! ## One message -/

/-- A rainfall field is three bytes of digits, one of them a decimal. -/
theorem decode_rainfall {id : UInt16} (hid : id = fiveMinPrecipitId ∨ id = cumulaPrecipitId)
    (v : Vector UInt8 3) : (bcdSendataToFloat id v.toList : ℚ) = hextoFloat 1 v.toList := by
  have htake : v.toList.take 3 = v.toList := List.take_of_length_le (by rw [Vector.length_toList])
  rcases hid with rfl | rfl
  · show (hextoFloat 1 (v.toList.take 3) : ℚ) = _
    rw [htake]
  · show (hextoFloat 1 (v.toList.take 3) : ℚ) = _
    rw [htake]

/-- Below 200000 a pulse adds one. -/
theorem toNat_add_pulse {count : UInt32} (h : count.toNat < 200000) :
    (count + 1).toNat = count.toNat + 1 := by
  rw [UInt32.toNat_add]
  show (count.toNat + 1) % 2 ^ 32 = _
  omega

/-- The difference of two counts. -/
theorem toNat_sub_pulses {a b : UInt32} (h : b.toNat ≤ a.toNat) :
    (a - b).toNat = a.toNat - b.toNat :=
  UInt32.toNat_sub_of_le _ _ (UInt32.le_iff_toNat_le.mpr h)

/-- A call builds what `plusMessageInit` says, of the count it sampled and the one before. -/
theorem plusMessage_eq (c : MessageInputs) (sampled last : UInt32) :
    plusMessage c (floatoHex 1 (fiveMinuteRainfall ℚ sampled last))
        (floatoHex 1 (plusCumulaRainfall ℚ sampled)) =
      plusMessageInit ℚ c.parameters c.sn c.systime sampled last c.level := rfl

/-- A number below 200000 as a counter. -/
theorem toNat_ofNat_pulses {n : ℕ} (h : n < 200000) : (UInt32.ofNat n).toNat = n :=
  UInt32.toNat_ofNat_of_lt' (Nat.lt_trans h (by decide))

/-- **What a message built of a sample reports.** -/
theorem plusMessageInit_fields (c : MessageInputs) {sampled last : ℕ} (hbelow : sampled < 200000)
    (hle : last ≤ sampled) :
    let m := plusMessageInit ℚ c.parameters c.sn c.systime (.ofNat sampled) (.ofNat last) c.level
    fiveMinuteField m = (sampled : ℚ) / 2 - (last : ℚ) / 2 ∧ cumulaField m = (sampled : ℚ) / 2 := by
  have hsampled : (UInt32.ofNat sampled).toNat = sampled := toNat_ofNat_pulses hbelow
  have hlast : (UInt32.ofNat last).toNat = last := toNat_ofNat_pulses (by omega)
  have hsub : (UInt32.ofNat sampled - UInt32.ofNat last).toNat = sampled - last := by
    rw [toNat_sub_pulses (by omega), hsampled, hlast]
  constructor
  · show bcdSendataToFloat fiveMinPrecipitId
      (storeData3 (floatoHex 1 (fiveMinuteRainfall ℚ (.ofNat sampled) (.ofNat last)))).toList = _
    rw [decode_rainfall (.inl rfl), fiveMinuteRainfall_eq (by omega) (by omega),
      decode_cumulaRainfall (by omega), hsub, Nat.cast_sub hle]
    ring
  · show bcdSendataToFloat cumulaPrecipitId
      (storeData3 (floatoHex 1 (plusCumulaRainfall ℚ (.ofNat sampled)))).toList = _
    rw [decode_rainfall (.inr rfl), plusCumulaRainfall_eq (by omega), decode_cumulaRainfall (by omega),
      hsampled]

/-! ## Runs of plus messages -/

/-- The pulses that were in front of the sample of the last message. -/
def PlusRun.lastReported (r : PlusRun) : ℕ := r.watch.samples.head?.getD 0

/-- The five-minute rainfall that the call at hand is to report. -/
def PlusRun.five (r : PlusRun) : ℚ :=
  fiveMinuteRainfall ℚ r.state.realRainfallDataCount (.ofNat r.lastReported)

/-- The call at hand has sampled the counter, where the record says so. -/
structure PlusRun.Sampled (r : PlusRun) : Prop where
  /-- The sample is the number of pulses in front of it. -/
  count : r.state.realRainfallDataCount = .ofNat r.watch.sampled
  /-- It comes after the one before. -/
  last : r.lastReported ≤ r.watch.sampled
  /-- Pulses may have come since. -/
  pulses : r.watch.sampled ≤ r.watch.pulses

/-- The count of the last message is remembered. -/
structure PlusRun.Remembered (r : PlusRun) : Prop where
  /-- It is the number of pulses in front of its sample. -/
  count : r.state.lastFiveminuteRainfallDataCount = .ofNat r.lastReported
  /-- Pulses may have come since. -/
  pulses : r.lastReported ≤ r.watch.pulses

/-- What holds of the variables, and what the record says, where the call stands. -/
def PlusRun.PhaseInv (r : PlusRun) : Prop :=
  let s := r.state
  match s.phase with
  | .idle => 7 ≤ r.watch.statements ∧ r.Remembered
  | .sample _ => r.watch.statements = 0 ∧ r.Remembered
  | .difference _ => r.watch.statements = 1 ∧ r.Sampled ∧ r.Remembered
  | .remember _ fiveminuteRainfall =>
      r.watch.statements = 2 ∧ r.Sampled ∧ fiveminuteRainfall = r.five
  | .encodeFiveMinute _ fiveminuteRainfall =>
      r.watch.statements = 3 ∧ r.Sampled ∧
        s.lastFiveminuteRainfallDataCount = s.realRainfallDataCount ∧ fiveminuteRainfall = r.five
  | .cumulate _ fiveminuteStore =>
      r.watch.statements = 4 ∧ r.Sampled ∧
        s.lastFiveminuteRainfallDataCount = s.realRainfallDataCount ∧
        fiveminuteStore = floatoHex 1 r.five
  | .encodeCumulated _ fiveminuteStore cumcumulaRainfall =>
      r.watch.statements = 5 ∧ r.Sampled ∧
        s.lastFiveminuteRainfallDataCount = s.realRainfallDataCount ∧
        fiveminuteStore = floatoHex 1 r.five ∧
        cumcumulaRainfall = plusCumulaRainfall ℚ s.realRainfallDataCount
  | .fill _ fiveminuteStore cumcumulaStore =>
      r.watch.statements = 6 ∧ r.Sampled ∧
        s.lastFiveminuteRainfallDataCount = s.realRainfallDataCount ∧
        fiveminuteStore = floatoHex 1 r.five ∧
        cumcumulaStore = floatoHex 1 (plusCumulaRainfall ℚ s.realRainfallDataCount)

/-- The invariant. -/
structure PlusRun.Inv (r : PlusRun) : Prop where
  /-- The counter is small enough to be encoded. -/
  below : r.Below
  /-- It counts the pulses. -/
  counter : r.state.gRainfallPluseCount = .ofNat r.watch.pulses
  /-- There are that few of them. -/
  pulses : r.watch.pulses < 200000
  /-- The law holds. -/
  conserved : r.Conserved
  /-- What was reported is the sample of the last message. -/
  sum : (r.state.frames.map fiveMinuteField).sum = (r.lastReported : ℚ) / 2
  /-- The variables are those of the place. -/
  phase : r.PhaseInv

/-- A pulse does not change what was sampled. -/
theorem PlusRun.Inv.pulse {r r' : PlusRun} (hinv : r.Inv) (hbelow : r'.Below)
    (hstep : r.step .pulse = some r') : r'.Inv := by
  obtain rfl := Option.some.inj hstep
  have hcounter : r.state.gRainfallPluseCount + 1 = .ofNat (r.watch.pulses + 1) := by
    rw [hinv.counter, UInt32.ofNat_add]
    rfl
  have hpulses : r.watch.pulses + 1 < 200000 := by
    have hnat := toNat_add_pulse hinv.below
    have hbefore : r.state.gRainfallPluseCount.toNat = r.watch.pulses := by
      rw [hinv.counter, toNat_ofNat_pulses hinv.pulses]
    have hafter : (r.state.gRainfallPluseCount + 1).toNat < 200000 := hbelow
    omega
  have hsampled : ∀ phase, r.Sampled → PlusRun.Sampled ⟨{ r.state with
      gRainfallPluseCount := r.state.gRainfallPluseCount + 1, phase }, r.watch.step .pulse⟩ :=
    fun _ h => ⟨h.count, h.last, Nat.le_succ_of_le h.pulses⟩
  have hremembered : ∀ phase, r.Remembered → PlusRun.Remembered ⟨{ r.state with
      gRainfallPluseCount := r.state.gRainfallPluseCount + 1, phase }, r.watch.step .pulse⟩ :=
    fun _ h => ⟨h.count, Nat.le_succ_of_le h.pulses⟩
  refine ⟨hbelow, hcounter, hpulses, ⟨hinv.conserved.frames, hinv.conserved.last⟩, hinv.sum, ?_⟩
  have hphase := hinv.phase
  unfold PhaseInv at hphase ⊢
  dsimp only at hphase ⊢
  cases hs : r.state.phase <;> rw [hs] at hphase <;> dsimp only at hphase ⊢
  case idle | sample => exact ⟨hphase.1, hremembered _ hphase.2⟩
  case difference => exact ⟨hphase.1, hsampled _ hphase.2.1, hremembered _ hphase.2.2⟩
  all_goals exact ⟨hphase.1, hsampled _ hphase.2.1, hphase.2.2⟩

/-- The last statement adds a message that reports what fell since the one before. -/
theorem PlusRun.Inv.fill {r r' : PlusRun} (hinv : r.Inv) {c : MessageInputs}
    {fiveStore cumStore : UInt32} (hs : r.state.phase = .fill c fiveStore cumStore)
    (hstep : r.step .statement = some r') : r'.Inv := by
  have hphase := hinv.phase
  unfold PhaseInv at hphase
  dsimp only at hphase
  rw [hs] at hphase
  dsimp only at hphase
  obtain ⟨hstatements, hsampled, hlast, rfl, rfl⟩ := hphase
  have hmessage : plusMessage c (floatoHex 1 r.five)
      (floatoHex 1 (plusCumulaRainfall ℚ r.state.realRainfallDataCount)) =
        plusMessageInit ℚ c.parameters c.sn c.systime (.ofNat r.watch.sampled) (.ofNat r.lastReported)
          c.level := by
    rw [five, hsampled.count, plusMessage_eq]
  have hr' : r' = ⟨{ r.state with
      phase := .idle
      frames := plusMessageInit ℚ c.parameters c.sn c.systime (.ofNat r.watch.sampled)
        (.ofNat r.lastReported) c.level :: r.state.frames },
      ⟨r.watch.pulses, 7, r.watch.sampled, r.watch.sampled :: r.watch.samples⟩⟩ := by
    rw [← hmessage, ← Option.some.inj hstep, PlusState.statement, hs, RainWatch.step, hstatements]
    rfl
  have hbelow : r.watch.sampled < 200000 := Nat.lt_of_le_of_lt hsampled.pulses hinv.pulses
  obtain ⟨hfive, hcum⟩ := plusMessageInit_fields c hbelow hsampled.last
  have hsum : (r'.state.frames.map fiveMinuteField).sum = (r.watch.sampled : ℚ) / 2 := by
    rw [hr']
    dsimp only
    rw [List.map_cons, List.sum_cons, hinv.sum, hfive]
    ring
  subst hr'
  refine ⟨hinv.below, hinv.counter, hinv.pulses, ⟨?_, ?_⟩, hsum, Nat.le_refl _, ?_, hsampled.pulses⟩
  · exact congrArg (· + 1) hinv.conserved.frames
  · intro f hf n hn
    obtain rfl := Option.mem_some.mp hf
    obtain rfl := Option.mem_some.mp hn
    exact ⟨hsum.trans hcum.symm, hcum⟩
  · exact hlast.trans hsampled.count

/-- **Every statement keeps the invariant.** -/
theorem PlusRun.Inv.statement {r r' : PlusRun} (hinv : r.Inv)
    (hstep : r.step .statement = some r') : r'.Inv := by
  have hphase := hinv.phase
  unfold PhaseInv at hphase
  dsimp only at hphase
  -- until the last statement, the messages, the counter and the samples stay
  have hkeep : r'.state.gRainfallPluseCount = r.state.gRainfallPluseCount →
      r'.state.frames = r.state.frames → r'.watch.pulses = r.watch.pulses →
      r'.watch.samples = r.watch.samples → r'.PhaseInv → r'.Inv := by
    intro hcount hframes hpulses hsamples hphase'
    have hreported : r'.lastReported = r.lastReported := by rw [lastReported, hsamples, lastReported]
    refine ⟨?_, ?_, ?_, ⟨?_, ?_⟩, ?_, hphase'⟩
    · rw [Below, hcount]
      exact hinv.below
    · rw [hcount, hpulses]
      exact hinv.counter
    · rw [hpulses]
      exact hinv.pulses
    · rw [hframes, hsamples]
      exact hinv.conserved.frames
    · rw [hframes, hsamples]
      exact hinv.conserved.last
    · rw [hframes, hreported]
      exact hinv.sum
  cases hs : r.state.phase <;> rw [hs] at hphase <;> dsimp only at hphase
  case fill => exact hinv.fill hs hstep
  all_goals
    obtain ⟨hstatements, hphase⟩ := hphase
    have hr' := Option.some.inj hstep
    rw [PlusState.statement, hs, RainWatch.step] at hr'
  case idle =>
    rw [if_neg (by omega), if_neg (by omega)] at hr'
    subst hr'
    refine hkeep rfl rfl rfl rfl ?_
    unfold PhaseInv
    dsimp only
    rw [hs]
    exact ⟨Nat.le_succ_of_le hstatements, hphase.count, hphase.pulses⟩
  all_goals
    rw [hstatements] at hr'
    subst hr'
    refine hkeep rfl rfl rfl rfl ?_
  case sample c =>
    exact ⟨rfl, ⟨hinv.counter, hphase.pulses, Nat.le_refl _⟩, hphase.count, hphase.pulses⟩
  case difference c =>
    obtain ⟨hsampled, hremembered⟩ := hphase
    refine ⟨rfl, ⟨hsampled.count, hsampled.last, hsampled.pulses⟩, ?_⟩
    rw [hremembered.count]
    rfl
  case remember c five =>
    obtain ⟨hsampled, rfl⟩ := hphase
    exact ⟨rfl, ⟨hsampled.count, hsampled.last, hsampled.pulses⟩, rfl, rfl⟩
  case encodeFiveMinute c five =>
    obtain ⟨hsampled, hlast, rfl⟩ := hphase
    exact ⟨rfl, ⟨hsampled.count, hsampled.last, hsampled.pulses⟩, hlast, rfl⟩
  case cumulate c fiveStore =>
    obtain ⟨hsampled, hlast, rfl⟩ := hphase
    exact ⟨rfl, ⟨hsampled.count, hsampled.last, hsampled.pulses⟩, hlast, rfl, rfl⟩
  case encodeCumulated c fiveStore cum =>
    obtain ⟨hsampled, hlast, rfl, rfl⟩ := hphase
    exact ⟨rfl, ⟨hsampled.count, hsampled.last, hsampled.pulses⟩, hlast, rfl, rfl⟩

/-- A call begins where none is at hand. -/
theorem PlusRun.Inv.call {r r' : PlusRun} (hinv : r.Inv) {c : MessageInputs}
    (hstep : r.step (.call c) = some r') : r'.Inv := by
  have hphase := hinv.phase
  unfold PhaseInv at hphase
  dsimp only at hphase
  cases hs : r.state.phase <;>
    simp only [PlusRun.step, PlusState.step, hs, Option.map_none, reduceCtorEq] at hstep
  obtain rfl := Option.some.inj hstep
  rw [hs] at hphase
  obtain ⟨-, hremembered⟩ := hphase
  refine ⟨hinv.below, hinv.counter, hinv.pulses, ⟨hinv.conserved.frames, hinv.conserved.last⟩,
    hinv.sum, ?_⟩
  exact ⟨rfl, hremembered.count, hremembered.pulses⟩

/-- Nothing is reported at the start. -/
theorem PlusRun.inv_start : start.Inv := by
  refine ⟨by decide, rfl, by decide, ⟨rfl, nofun⟩, ?_, Nat.le_refl _, rfl, Nat.le_refl _⟩
  show (0 : ℚ) = ((0 : ℕ) : ℚ) / 2
  norm_num

/-- **Rainfall is conserved by the plus messages**, in every run of pulses and calls that the counter
stays below 200000 in. -/
theorem plusRainfall_conserved (events : List RainEvent)
    (hbelow : AllReached PlusRun.step PlusRun.Below .start events) :
    AllReached PlusRun.step PlusRun.Conserved .start events := by
  have hrun : AllReached PlusRun.step PlusRun.Inv .start events := by
    refine AllReached.keep ?_ PlusRun.inv_start hbelow
    intro r e r' hinv hbelow' hstep
    cases e with
    | pulse => exact hinv.pulse hbelow' hstep
    | call c => exact hinv.call hstep
    | statement => exact hinv.statement hstep
  exact hrun.mono fun r hinv => hinv.conserved

/-- Inputs of a station with empty parameters. -/
def blankInputs : MessageInputs := ⟨.ofBytes [], 0, ⟨0, 0, 0, 0, 0, 0, 0⟩, 0⟩

/-- Two pulses, of which the second comes when the first message has sampled the counter. -/
def plusRun : List RainEvent :=
  [.pulse, .call blankInputs, .statement, .pulse] ++ List.replicate 6 .statement ++
    .call blankInputs :: List.replicate 7 .statement

/-- In this run the messages report half a millimetre each, and one millimetre together. -/
theorem plusRun_conserved : AllReached PlusRun.step PlusRun.Conserved .start plusRun :=
  plusRainfall_conserved plusRun (by decide)

/-! ## The real-data reply -/

/-- Where a call of `QueryRealData_Init` stands, with the local variables it has set. -/
inductive RealDataPhase
  | idle
  | readCurrent (c : MessageInputs)
  | encodeCurrent (c : MessageInputs) (currentRainfall : UInt32)
  | readCumulated (c : MessageInputs) (currentStore : UInt32)
  | encodeCumulated (c : MessageInputs) (currentStore : UInt32) (cumulateRainfall : ℚ)
  | fill (c : MessageInputs) (currentStore cumulateStore : UInt32)
  | remember (reply : UpMessage QueryrealdataUpContent)

/-- The counter, the static variable of `QueryRealData_Init`, its place, and the replies so far, the
last one first. Besides, the pulses that came between the first and the second read of the running call
(`early`), between its first and its third (`late`), and between these two in the calls before
(`missed`). -/
structure RealDataState where
  gRainfallPluseCount : UInt32
  lastRainfallPluseCount : UInt32
  phase : RealDataPhase
  replies : List (UpMessage QueryrealdataUpContent)
  early : ℕ
  late : ℕ
  missed : ℕ

/-- The reply with two encoded rainfalls. -/
def realDataReply (c : MessageInputs) (currentStore cumulateStore : UInt32) :
    UpMessage QueryrealdataUpContent :=
  let m := queryRealDataInit ℚ c.parameters c.sn c.systime 0 0 0 c.level
  UpMessage.withCrc { m with
    content := { m.content with
      precipitData := storeData3 currentStore
      cumulaPrecipitData := storeData3 cumulateStore } }

/-- The next statement. -/
def RealDataState.statement (s : RealDataState) : RealDataState :=
  match s.phase with
  | .idle => s
  | .readCurrent c =>
      { s with
        phase := .encodeCurrent c (s.gRainfallPluseCount - s.lastRainfallPluseCount)
        early := 0
        late := 0 }
  | .encodeCurrent c current =>
      { s with
        phase := .readCumulated c (getBCDSendata fiveMinPrecipitId (cumulaRainfall ℚ current)) }
  | .readCumulated c currentStore =>
      { s with phase := .encodeCumulated c currentStore (cumulaRainfall ℚ s.gRainfallPluseCount) }
  | .encodeCumulated c currentStore cumulate =>
      { s with phase := .fill c currentStore (getBCDSendata cumulaPrecipitId cumulate) }
  | .fill c currentStore cumulateStore =>
      { s with phase := .remember (realDataReply c currentStore cumulateStore) }
  | .remember reply =>
      { s with
        lastRainfallPluseCount := s.gRainfallPluseCount
        phase := .idle
        replies := reply :: s.replies
        missed := s.missed + s.late }

/-- A pulse is counted where it falls. -/
def RealDataState.pulse (s : RealDataState) : RealDataState :=
  let s' := { s with gRainfallPluseCount := s.gRainfallPluseCount + 1 }
  match s.phase with
  | .idle | .readCurrent _ => s'
  | .encodeCurrent _ _ | .readCumulated _ _ => { s' with early := s.early + 1, late := s.late + 1 }
  | .encodeCumulated _ _ _ | .fill _ _ _ | .remember _ => { s' with late := s.late + 1 }

/-- One event. -/
def RealDataState.step (s : RealDataState) : RainEvent → Option RealDataState
  | .pulse => some s.pulse
  | .call c =>
      match s.phase with
      | .idle => some { s with phase := .readCurrent c }
      | _ => none
  | .statement => some s.statement

/-- After power-up. -/
def RealDataState.start : RealDataState := ⟨0, 0, .idle, [], 0, 0, 0⟩

/-- The current rainfall of a reply, decoded. -/
def currentField (m : UpMessage QueryrealdataUpContent) : ℚ :=
  bcdSendataToFloat fiveMinPrecipitId m.content.precipitData.toList

/-- The cumulated rainfall of a reply, decoded. -/
def cumulateField (m : UpMessage QueryrealdataUpContent) : ℚ :=
  bcdSendataToFloat cumulaPrecipitId m.content.cumulaPrecipitData.toList

/-- **Replies neither lose nor repeat rain**: the current rainfalls of all replies so far add up to the
cumulated one of the last reply. -/
def RealDataState.Conserved (s : RealDataState) : Prop :=
  ∀ r ∈ s.replies.head?, (s.replies.map currentField).sum = cumulateField r

/-- The counter has not reached 200000. -/
def RealDataState.Below (s : RealDataState) : Prop := s.gRainfallPluseCount.toNat < 200000

instance : DecidablePred RealDataState.Below := fun _ => Nat.decLt _ _

/-- **When a step does no harm.** When a call returns, no pulse has come between its first two reads of
the counter, nor between the first and the third read of any call before. -/
def NoPulseBetweenReads (s : RealDataState) (e : RainEvent) : Prop :=
  match e, s.phase with
  | .statement, .remember _ => s.early = 0 ∧ s.missed = 0
  | _, _ => True

instance (s : RealDataState) (e : RainEvent) : Decidable (NoPulseBetweenReads s e) := by
  unfold NoPulseBetweenReads
  split <;> infer_instance

/-- **What a reply built of two reads reports.** -/
theorem realDataReply_fields (c : MessageInputs) {pulses again last : UInt32}
    (hbelow : again.toNat < 200000) (hle : last.toNat ≤ pulses.toNat) (hle' : pulses.toNat ≤ again.toNat) :
    currentField (realDataReply c (getBCDSendata fiveMinPrecipitId (cumulaRainfall ℚ (pulses - last)))
        (getBCDSendata cumulaPrecipitId (cumulaRainfall ℚ again))) =
        (pulses.toNat : ℚ) / 2 - (last.toNat : ℚ) / 2 ∧
      cumulateField (realDataReply c
        (getBCDSendata fiveMinPrecipitId (cumulaRainfall ℚ (pulses - last)))
        (getBCDSendata cumulaPrecipitId (cumulaRainfall ℚ again))) = (again.toNat : ℚ) / 2 := by
  have hsub := toNat_sub_pulses hle
  constructor
  · show bcdSendataToFloat fiveMinPrecipitId
      (storeData3 (floatoHex 1 (cumulaRainfall ℚ (pulses - last)))).toList = _
    rw [decode_rainfall (.inl rfl), decode_cumulaRainfall (by omega), hsub, Nat.cast_sub hle]
    ring
  · show bcdSendataToFloat cumulaPrecipitId
      (storeData3 (floatoHex 1 (cumulaRainfall ℚ again))).toList = _
    rw [decode_rainfall (.inr rfl), decode_cumulaRainfall hbelow]

/-- A call builds what `queryRealDataInit` says, of its two first reads and the last one before. -/
theorem realDataReply_eq (c : MessageInputs) (pulses again last : UInt32) :
    realDataReply c (getBCDSendata fiveMinPrecipitId (cumulaRainfall ℚ (pulses - last)))
        (getBCDSendata cumulaPrecipitId (cumulaRainfall ℚ again)) =
      queryRealDataInit ℚ c.parameters c.sn c.systime pulses again last c.level := rfl

/-! ## Runs of real-data replies -/

/-- The first read gave `pulses`, and `late` pulses have come since. -/
def RealDataState.ReadFirst (s : RealDataState) (pulses : UInt32) : Prop :=
  s.lastRainfallPluseCount.toNat ≤ pulses.toNat ∧
    pulses.toNat + s.late = s.gRainfallPluseCount.toNat

/-- The second read gave `again`, `early` pulses after the first. -/
def RealDataState.ReadAgain (s : RealDataState) (pulses again : UInt32) : Prop :=
  s.ReadFirst pulses ∧ pulses.toNat + s.early = again.toNat ∧ s.early ≤ s.late

/-- What holds of the variables where the call stands. -/
def RealDataState.PhaseInv (s : RealDataState) : Prop :=
  let current pulses := cumulaRainfall ℚ (pulses - s.lastRainfallPluseCount)
  match s.phase with
  | .idle | .readCurrent _ => s.lastRainfallPluseCount.toNat ≤ s.gRainfallPluseCount.toNat
  | .encodeCurrent _ currentRainfall =>
      ∃ pulses, s.ReadFirst pulses ∧ s.early = s.late ∧
        currentRainfall = pulses - s.lastRainfallPluseCount
  | .readCumulated _ currentStore =>
      ∃ pulses, s.ReadFirst pulses ∧ s.early = s.late ∧
        currentStore = getBCDSendata fiveMinPrecipitId (current pulses)
  | .encodeCumulated _ currentStore cumulateRainfall =>
      ∃ pulses again, s.ReadAgain pulses again ∧
        currentStore = getBCDSendata fiveMinPrecipitId (current pulses) ∧
        cumulateRainfall = cumulaRainfall ℚ again
  | .fill _ currentStore cumulateStore =>
      ∃ pulses again, s.ReadAgain pulses again ∧
        currentStore = getBCDSendata fiveMinPrecipitId (current pulses) ∧
        cumulateStore = getBCDSendata cumulaPrecipitId (cumulaRainfall ℚ again)
  | .remember reply =>
      ∃ pulses again c, s.ReadAgain pulses again ∧
        reply = realDataReply c (getBCDSendata fiveMinPrecipitId (current pulses))
          (getBCDSendata cumulaPrecipitId (cumulaRainfall ℚ again))

/-- The invariant. -/
structure RealDataState.Inv (s : RealDataState) : Prop where
  /-- The counter is small enough to be encoded. -/
  below : s.Below
  /-- The law holds. -/
  conserved : s.Conserved
  /-- What was reported is the remembered count, less what was missed. -/
  sum : (s.replies.map currentField).sum =
    (s.lastRainfallPluseCount.toNat : ℚ) / 2 - (s.missed : ℚ) / 2
  /-- The variables are those of the place. -/
  phase : s.PhaseInv

/-- A pulse behind the first read: the count and what is counted besides go up together. -/
theorem RealDataState.ReadFirst.pulse {s : RealDataState} {pulses : UInt32} (h : s.ReadFirst pulses)
    (hbelow : s.Below) (early : ℕ) :
    { s with
      gRainfallPluseCount := s.gRainfallPluseCount + 1
      early := early
      late := s.late + 1 }.ReadFirst pulses := by
  obtain ⟨hle, hcount⟩ := h
  have hadd := toNat_add_pulse hbelow
  refine ⟨hle, ?_⟩
  show pulses.toNat + (s.late + 1) = (s.gRainfallPluseCount + 1).toNat
  omega

/-- A pulse behind both reads. -/
theorem RealDataState.ReadAgain.pulse {s : RealDataState} {pulses again : UInt32}
    (h : s.ReadAgain pulses again) (hbelow : s.Below) :
    { s with
      gRainfallPluseCount := s.gRainfallPluseCount + 1
      late := s.late + 1 }.ReadAgain pulses again :=
  ⟨h.1.pulse hbelow _, h.2.1, Nat.le_succ_of_le h.2.2⟩

/-- **A pulse keeps the invariant**, wherever it falls. -/
theorem RealDataState.Inv.pulse {s : RealDataState} (hinv : s.Inv) (hbelow : s.pulse.Below) :
    s.pulse.Inv := by
  have hadd := toNat_add_pulse hinv.below
  have hphase := hinv.phase
  unfold PhaseInv at hphase
  dsimp only at hphase
  -- the replies and what is remembered stay
  have hkeep : ∀ {early late : ℕ},
      s.pulse = { s with
        gRainfallPluseCount := s.gRainfallPluseCount + 1, early := early, late := late } →
      { s with
        gRainfallPluseCount := s.gRainfallPluseCount + 1
        early := early
        late := late }.PhaseInv → s.pulse.Inv := by
    intro early late hpulse hphase'
    refine ⟨hbelow, ?_, ?_, hpulse ▸ hphase'⟩
    · rw [hpulse]
      exact hinv.conserved
    · rw [hpulse]
      exact hinv.sum
  cases hs : s.phase <;> rw [hs] at hphase <;> dsimp only at hphase
  case idle | readCurrent =>
    have hpulse : s.pulse = { s with gRainfallPluseCount := s.gRainfallPluseCount + 1 } := by
      rw [RealDataState.pulse, hs]
    refine hkeep hpulse ?_
    unfold PhaseInv
    dsimp only
    rw [hs]
    show _ ≤ (s.gRainfallPluseCount + 1).toNat
    omega
  case encodeCurrent | readCumulated =>
    obtain ⟨pulses, hfirst, heq, hvalue⟩ := hphase
    have hpulse : s.pulse = { s with
        gRainfallPluseCount := s.gRainfallPluseCount + 1
        early := s.early + 1
        late := s.late + 1 } := by
      rw [RealDataState.pulse, hs]
    refine hkeep hpulse ?_
    unfold PhaseInv
    dsimp only
    rw [hs]
    exact ⟨pulses, hfirst.pulse hinv.below (s.early + 1), congrArg (· + 1) heq, hvalue⟩
  case encodeCumulated | fill =>
    obtain ⟨pulses, again, hreads, hvalues⟩ := hphase
    have hpulse : s.pulse = { s with
        gRainfallPluseCount := s.gRainfallPluseCount + 1
        late := s.late + 1 } := by
      rw [RealDataState.pulse, hs]
    refine hkeep hpulse ?_
    unfold PhaseInv
    dsimp only
    rw [hs]
    exact ⟨pulses, again, hreads.pulse hinv.below, hvalues⟩
  case remember =>
    obtain ⟨pulses, again, c, hreads, hreply⟩ := hphase
    have hpulse : s.pulse = { s with
        gRainfallPluseCount := s.gRainfallPluseCount + 1
        late := s.late + 1 } := by
      rw [RealDataState.pulse, hs]
    refine hkeep hpulse ?_
    unfold PhaseInv
    dsimp only
    rw [hs]
    exact ⟨pulses, again, c, hreads.pulse hinv.below, hreply⟩

/-- **What the return of a call adds**: the sum is the remembered count less what was missed, and the
law holds behind it just when nothing was missed before and nothing came between the first two reads. -/
theorem RealDataState.Inv.remember {s : RealDataState} (hinv : s.Inv)
    {reply : UpMessage QueryrealdataUpContent} (hs : s.phase = .remember reply) :
    ((s.statement.replies.map currentField).sum =
      (s.statement.lastRainfallPluseCount.toNat : ℚ) / 2 - (s.statement.missed : ℚ) / 2) ∧
    (s.statement.Conserved ↔ s.early = 0 ∧ s.missed = 0) := by
  have hstep : s.statement = { s with
      lastRainfallPluseCount := s.gRainfallPluseCount
      phase := .idle
      replies := reply :: s.replies
      missed := s.missed + s.late } := by
    rw [statement, hs]
  have hphase := hinv.phase
  unfold PhaseInv at hphase
  dsimp only at hphase
  rw [hs] at hphase
  obtain ⟨pulses, again, c, ⟨⟨hle, hlate⟩, hearly, hle'⟩, rfl⟩ := hphase
  have hbelow : s.gRainfallPluseCount.toNat < 200000 := hinv.below
  have hagain : again.toNat < 200000 := by omega
  obtain ⟨hcurrent, hcumulate⟩ := realDataReply_fields c hagain hle (by omega)
  -- the pulses between the reads of the count are what the remembered count is too large by
  have hlate' : (s.gRainfallPluseCount.toNat : ℚ) = pulses.toNat + s.late := by exact_mod_cast hlate.symm
  have hearly' : (again.toNat : ℚ) = pulses.toNat + s.early := by exact_mod_cast hearly.symm
  rw [hstep]
  dsimp only
  rw [List.map_cons, List.sum_cons, hinv.sum, hcurrent]
  constructor
  · rw [hlate', Nat.cast_add]
    ring
  · constructor
    · intro hlaw
      have hlaw := hlaw _ rfl
      dsimp only at hlaw
      rw [List.map_cons, List.sum_cons, hinv.sum, hcurrent, hcumulate, hearly'] at hlaw
      have hzero : ((s.early + s.missed : ℕ) : ℚ) = 0 := by
        push_cast
        linarith
      have hzero : s.early + s.missed = 0 := by exact_mod_cast hzero
      omega
    · rintro ⟨hzero, hmissed⟩ r hr
      obtain rfl := Option.mem_some.mp hr
      dsimp only
      rw [List.map_cons, List.sum_cons, hinv.sum, hcurrent, hcumulate, hearly', hzero, hmissed]
      push_cast
      ring

/-- **Every statement that does no harm keeps the invariant.** -/
theorem RealDataState.Inv.statement {s : RealDataState} (hinv : s.Inv)
    (hquiet : NoPulseBetweenReads s .statement) : s.statement.Inv := by
  have hphase := hinv.phase
  unfold PhaseInv at hphase
  dsimp only at hphase
  -- until a call returns, the replies, the counts and the counter stay
  have hkeep : ∀ s' : RealDataState, s'.gRainfallPluseCount = s.gRainfallPluseCount →
      s'.lastRainfallPluseCount = s.lastRainfallPluseCount → s'.replies = s.replies →
      s'.missed = s.missed → s'.PhaseInv → s'.Inv := by
    intro s' hcount hlast hreplies hmissed hphase'
    have hbelow := hinv.below
    have hconserved := hinv.conserved
    have hsum := hinv.sum
    refine ⟨?_, ?_, ?_, hphase'⟩
    · rwa [Below, hcount]
    · rwa [Conserved, hreplies]
    · rwa [hreplies, hlast, hmissed]
  cases hs : s.phase <;> rw [hs] at hphase <;> dsimp only at hphase
  case idle =>
    rw [RealDataState.statement, hs]
    exact hinv
  case readCurrent c =>
    rw [RealDataState.statement, hs]
    exact hkeep _ rfl rfl rfl rfl ⟨s.gRainfallPluseCount, ⟨hphase, rfl⟩, rfl, rfl⟩
  case encodeCurrent c current =>
    obtain ⟨pulses, hfirst, heq, rfl⟩ := hphase
    rw [RealDataState.statement, hs]
    exact hkeep _ rfl rfl rfl rfl ⟨pulses, hfirst, heq, rfl⟩
  case readCumulated c currentStore =>
    obtain ⟨pulses, hfirst, heq, rfl⟩ := hphase
    rw [RealDataState.statement, hs]
    exact hkeep _ rfl rfl rfl rfl ⟨pulses, s.gRainfallPluseCount,
      ⟨hfirst, (congrArg (pulses.toNat + ·) heq).trans hfirst.2, Nat.le_of_eq heq⟩, rfl, rfl⟩
  case encodeCumulated c currentStore cumulate =>
    obtain ⟨pulses, again, hreads, rfl, rfl⟩ := hphase
    rw [RealDataState.statement, hs]
    exact hkeep _ rfl rfl rfl rfl ⟨pulses, again, hreads, rfl, rfl⟩
  case fill c currentStore cumulateStore =>
    obtain ⟨pulses, again, hreads, rfl, rfl⟩ := hphase
    rw [RealDataState.statement, hs]
    exact hkeep _ rfl rfl rfl rfl ⟨pulses, again, c, hreads, rfl⟩
  case remember reply =>
    obtain ⟨hsum, hlaw⟩ := hinv.remember hs
    have hzero : s.early = 0 ∧ s.missed = 0 := by
      unfold NoPulseBetweenReads at hquiet
      rwa [hs] at hquiet
    have hstep : s.statement = { s with
        lastRainfallPluseCount := s.gRainfallPluseCount
        phase := .idle
        replies := reply :: s.replies
        missed := s.missed + s.late } := by
      rw [RealDataState.statement, hs]
    refine ⟨?_, hlaw.mpr hzero, hsum, ?_⟩
    · rw [hstep]
      exact hinv.below
    · rw [hstep]
      exact Nat.le_refl _

/-- Nothing is reported at the start. -/
theorem RealDataState.inv_start : start.Inv := by
  refine ⟨by decide, nofun, ?_, Nat.le_refl _⟩
  show (0 : ℚ) = ((0 : ℕ) : ℚ) / 2 - ((0 : ℕ) : ℚ) / 2
  norm_num

/-- **Every step that does no harm keeps the invariant.** -/
theorem RealDataState.Inv.step {s s' : RealDataState} {e : RainEvent} (hinv : s.Inv)
    (hbelow : s'.Below) (hquiet : NoPulseBetweenReads s e) (hstep : s.step e = some s') : s'.Inv := by
  cases e with
  | pulse =>
      obtain rfl := Option.some.inj hstep
      exact hinv.pulse hbelow
  | call c =>
      -- a call begins where none is running
      cases hs : s.phase <;> simp only [RealDataState.step, hs, reduceCtorEq] at hstep
      obtain rfl := Option.some.inj hstep
      have hphase := hinv.phase
      unfold PhaseInv at hphase
      dsimp only at hphase
      rw [hs] at hphase
      exact ⟨hinv.below, hinv.conserved, hinv.sum, hphase⟩
  | statement =>
      obtain rfl := Option.some.inj hstep
      exact hinv.statement hquiet

/-- **Every other step breaks the law.** -/
theorem RealDataState.Inv.step_harm {s s' : RealDataState} {e : RainEvent} (hinv : s.Inv)
    (hharm : ¬ NoPulseBetweenReads s e) (hstep : s.step e = some s') : ¬ s'.Conserved := by
  unfold NoPulseBetweenReads at hharm
  split at hharm
  · next reply hs =>
      obtain rfl := Option.some.inj hstep
      exact fun hlaw => hharm ((hinv.remember hs).2.mp hlaw)
  · exact absurd trivial hharm

/-- **When real-data replies neither lose nor repeat rain**: in the runs in which, whenever a call
returns, no pulse has come between its first two reads of the counter, nor between the first and the
third read of a call before. -/
theorem realDataRainfall_iff (events : List RainEvent)
    (hbelow : AllReached RealDataState.step RealDataState.Below .start events) :
    AllReached RealDataState.step RealDataState.Conserved .start events ↔
      StepsMeet RealDataState.step NoPulseBetweenReads .start events :=
  AllReached.iff_stepsMeet (fun _ hinv => hinv.conserved)
    (fun _ _ _ hinv hbelow' hquiet hstep => hinv.step hbelow' hquiet hstep)
    (fun _ _ _ hinv _ hharm hstep => hinv.step_harm hharm hstep) RealDataState.inv_start hbelow

/-- A call, with a pulse before it and one behind its last read. -/
def quietRun : List RainEvent :=
  .pulse :: .call blankInputs :: List.replicate 6 .statement ++ [.pulse]

/-- This run keeps the law. -/
theorem quietRun_conserved : AllReached RealDataState.step RealDataState.Below .start quietRun ∧
    (AllReached RealDataState.step RealDataState.Conserved .start quietRun ↔
      StepsMeet RealDataState.step NoPulseBetweenReads .start quietRun) :=
  ⟨by decide, realDataRainfall_iff quietRun (by decide)⟩

/-- A call during which a pulse comes between the first two reads. -/
def pulsedRun : List RainEvent :=
  [.call blankInputs, .statement, .pulse] ++ List.replicate 5 .statement

/-- **This run breaks the law**: the reply reports no current rainfall, and half a millimetre in all. -/
theorem pulsedRun_not_conserved : AllReached RealDataState.step RealDataState.Below .start pulsedRun ∧
    ¬ AllReached RealDataState.step RealDataState.Conserved .start pulsedRun := by
  have hbelow : AllReached RealDataState.step RealDataState.Below .start pulsedRun := by decide
  refine ⟨hbelow, fun hall => ?_⟩
  have hmeet := (AllReached.iff_stepsMeet (fun _ hinv => hinv.conserved)
    (fun _ _ _ hinv hbelow' hquiet hstep => hinv.step hbelow' hquiet hstep)
    (fun _ _ _ hinv _ hharm hstep => hinv.step_harm hharm hstep) RealDataState.inv_start hbelow).mp hall
  revert hmeet
  decide

end RtuShuiwen
