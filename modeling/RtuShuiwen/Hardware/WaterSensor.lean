import Mathlib.Data.UInt
import Mathlib.Tactic.Common
import RtuShuiwen.Library.AccessTrace
import RtuShuiwen.Library.GrayCode
import RtuShuiwen.Library.WordBits

/-! # The water level sensor

The sensor shows its position as a Gray code on thirteen lines, of which eight can be seen at a time.
`GetGrayWaterLevelData` samples them in two halves and `GraytoDecimal` decodes the sample. The decoding is
right for every word (`graytoDecimal_inverse`). The sampling loop makes one turn more than there are lines:
**`getWaterLevelData_never`** says what comes of it. -/

namespace RtuShuiwen

open AccessTrace GrayCode CellMemory

/-! ## Decoding -/

/-- The loop of `GraytoDecimal`: what it returns if it ends within `fuel` tests of its condition. -/
def graytoDecimalLoop : ℕ → UInt32 → UInt32 → Option UInt32
  | 0, _, _ => none
  | fuel + 1, x, y =>
      let x := x >>> 1
      if x ≠ 0 then graytoDecimalLoop fuel x (y ^^^ x) else some y

/-- `GraytoDecimal`. -/
def graytoDecimal (fuel : ℕ) (x : UInt32) : Option UInt32 := graytoDecimalLoop fuel x x

/-! ## Sampling -/

/-- The pins `S0` .. `S7`. -/
inductive SensorPin
  | s0 | s1 | s2 | s3 | s4 | s5 | s6 | s7
  deriving DecidableEq, Repr

/-- `GPIOC_BASE`. -/
def gpioc : UInt32 := 0x40011000

/-- `GPIOE_BASE`. -/
def gpioe : UInt32 := 0x40011800

/-- `S0_GPIO_PORT` .. `S7_GPIO_PORT`. -/
def SensorPin.gpioPort : SensorPin → UInt32
  | .s0 | .s1 | .s2 | .s3 | .s4 => gpioe
  | .s5 | .s6 | .s7 => gpioc

/-- `S0_PIN` .. `S7_PIN`. -/
def SensorPin.pin : SensorPin → UInt16
  | .s0 => 0x0004
  | .s1 => 0x0008
  | .s2 => 0x0010
  | .s3 => 0x0020
  | .s4 => 0x0040
  | .s5 => 0x2000
  | .s6 => 0x4000
  | .s7 => 0x8000

/-- The pins in the order of the initializers of `gpio_port` and `gpio_pin`. -/
def scanPins : List SensorPin := [.s0, .s1, .s2, .s3, .s4, .s5, .s6, .s7, .s0, .s1, .s2, .s3, .s4]

/-- What the processor reads during a scan, by the levels of `OE1` and `OE2`: the input registers of the
two ports, and any other word. Nothing is read where nothing is mapped; there the processor stops. -/
structure SensorBoard where
  gpiocIdr : (oe1 oe2 : Bool) → UInt32
  gpioeIdr : (oe1 oe2 : Bool) → UInt32
  elsewhere : (oe1 oe2 : Bool) → UInt32 → Option UInt32

/-- The word at an address. -/
def SensorBoard.word (b : SensorBoard) (oe1 oe2 : Bool) (addr : UInt32) : Option UInt32 :=
  if addr = gpioc + 8 then some (b.gpiocIdr oe1 oe2)
  else if addr = gpioe + 8 then some (b.gpioeIdr oe1 oe2)
  else b.elsewhere oe1 oe2 addr

/-- `SET`, `Bit_SET`. -/
def bitSet : UInt8 := 1

/-- `GPIO_ReadInputDataBit`: the input register is the third word of a port. -/
def gpioReadInputDataBit (b : SensorBoard) (oe1 oe2 : Bool) (gpiox : UInt32) (gpioPin : UInt16) :
    Option UInt8 :=
  (b.word oe1 oe2 (gpiox + 8)).map fun idr => if idr &&& gpioPin.toUInt32 ≠ 0 then bitSet else 0

/-- The local tables of `GetGrayWaterLevelData`. -/
inductive ScanTable
  | gpioPort
  | gpioPin
  deriving DecidableEq

/-- A function of the scan; table entries are held as words. -/
abbrev ScanProgram := Program ScanTable UInt32

/-- `OE1`, `OE2` and `waterlevel_data`. -/
structure ScanState where
  oe1 : Bool
  oe2 : Bool
  waterlevelData : Int32

/-- `OE1 = 1` and `OE2 = 0` in turn 8. -/
def ScanState.switch (s : ScanState) (i : ℕ) : ScanState :=
  if i = 8 then { s with oe1 := true, oe2 := false } else s

/-- `waterlevel_data |= 1 << i` or `waterlevel_data &= ~(1 << i)`. -/
def ScanState.assign (s : ScanState) (i : ℕ) (bitstatus : UInt8) : ScanState :=
  if bitstatus = bitSet then { s with waterlevelData := s.waterlevelData ||| 1 <<< Int32.ofNat i }
  else { s with waterlevelData := s.waterlevelData &&& ~~~(1 <<< Int32.ofNat i) }

/-- The body of the scan loop. -/
def scanTurn (b : SensorBoard) (i : ℕ) (s : ScanState) : ScanProgram (Option ScanState) := do
  let s := s.switch i
  let port ← load .gpioPort i
  let pin ← load .gpioPin i
  pure ((gpioReadInputDataBit b s.oe1 s.oe2 port pin.toUInt16).map (s.assign i))

/-- The first turns of the scan loop. -/
def scanLoop (b : SensorBoard) : ℕ → ScanState → ScanProgram (Option ScanState)
  | 0, s => pure (some s)
  | turns + 1, s => do
      match ← scanLoop b turns s with
      | some s => scanTurn b turns s
      | none => pure none

/-- `GetGrayWaterLevelData`, with the levels it leaves at `OE1` and `OE2`. -/
def getGrayWaterLevelData (b : SensorBoard) : ScanProgram (Option ScanState) := do
  stores .gpioPort ((List.range' 0 13).zip (scanPins.map SensorPin.gpioPort))
  stores .gpioPin ((List.range' 0 13).zip (scanPins.map fun p => p.pin.toUInt32))
  let s ← scanLoop b 14 ⟨false, true, 0⟩
  pure (s.map fun s => { s with oe1 := true, oe2 := true })

/-- `GetWaterLevelData`. -/
def getWaterLevelData (fuel : ℕ) (b : SensorBoard) : ScanProgram (Option UInt32) := do
  let s ← getGrayWaterLevelData b
  pure (s.bind fun s => graytoDecimal fuel s.waterlevelData.toUInt32)

/-! ## The property -/

/-- The level at `S0` .. `S7`: bits 2 to 6 of `GPIOE`, bits 13 to 15 of `GPIOC`. -/
def SensorBoard.level (b : SensorBoard) (oe1 oe2 : Bool) (k : ℕ) : Bool :=
  if k < 5 then (b.gpioeIdr oe1 oe2).toBitVec.getLsbD (k + 2)
  else (b.gpiocIdr oe1 oe2).toBitVec.getLsbD (k + 8)

/-- The lines of the sensor: the first eight are seen while `OE1` is low, the others while `OE2` is. -/
def SensorBoard.line (b : SensorBoard) (i : ℕ) : Bool :=
  if i < 8 then b.level false true i else b.level true false (i - 8)

/-- The sensor is in position `n`: the thirteen lines show the Gray code of `n`. -/
def SensorBoard.AtPosition (b : SensorBoard) (n : UInt32) : Prop :=
  n < 8192 ∧ ∀ i < 13, (n ^^^ (n >>> 1)).toBitVec.getLsbD i = b.line i

/-- An access to one of the first `n` entries of a table. -/
def EntryBelow (n : ℕ) : Access ScanTable → Prop
  | .load _ i => i < n
  | .store _ i => i < n

/-- `GetWaterLevelData` returns the position of the sensor, next to each other for neighbouring positions,
and stays inside its tables. -/
structure SamplesWaterLevel (b : SensorBoard) (m : Buffers ScanTable UInt32) : Prop where
  position : ∃ fuel n, (getWaterLevelData fuel b m).value = some n ∧ b.AtPosition n
  adjacent : ∀ b' n, b.AtPosition n → b'.AtPosition (n + 1) →
    ∃ fuel, (getWaterLevelData fuel b m).value = some n ∧ (getWaterLevelData fuel b' m).value = some (n + 1)
  inside : ∀ fuel, Within (EntryBelow 13) (getWaterLevelData fuel b) m

/-! ## The decoding loop -/

/-- **What the loop has summed up** after `j` turns are the first `j + 1` right shifts, and it goes on as
long as the next one is not empty. -/
theorem graytoDecimalLoop_eq (g : BitVec 32) (fuel j : ℕ) (hj : j < 32) (hfuel : 32 ≤ fuel + j) :
    graytoDecimalLoop fuel (.ofBitVec (g >>> j)) (.ofBitVec (shiftSum g (j + 1))) =
      some (.ofBitVec (decode g)) := by
  induction fuel generalizing j with
  | zero => omega
  | succ fuel ih =>
      have hx : UInt32.ofBitVec (g >>> j) >>> 1 = .ofBitVec (g >>> (j + 1)) :=
        congrArg UInt32.ofBitVec (BitVec.shiftRight_add g j 1).symm
      rw [graytoDecimalLoop, hx]
      by_cases hout : g >>> (j + 1) = 0#32
      · rw [hout, shiftSum_eq_decode hj hout]
        rfl
      · have hmore : j + 1 < 32 := by
          by_contra hend
          exact hout (BitVec.ushiftRight_eq_zero (Nat.not_lt.mp hend))
        have hne : UInt32.ofBitVec (g >>> (j + 1)) ≠ 0 := fun h => hout (congrArg UInt32.toBitVec h)
        rw [if_pos hne]
        exact ih (j + 1) hmore (by omega)

/-- **`GraytoDecimal` ends with the number of the code word** after at most 32 tests. -/
theorem graytoDecimal_eq (fuel : ℕ) (x : UInt32) :
    graytoDecimal (fuel + 32) x = some (.ofBitVec (decode x.toBitVec)) := by
  have hstart : shiftSum x.toBitVec (0 + 1) = x.toBitVec := by
    rw [shiftSum, shiftSum, BitVec.zero_xor, BitVec.ushiftRight_zero]
  have hloop := graytoDecimalLoop_eq x.toBitVec (fuel + 32) 0 (Nat.zero_lt_succ 31) (by omega)
  rwa [hstart] at hloop

/-- **Decoding and coding are inverse to each other** on all words: `GraytoDecimal` ends for every word,
and what it returns is a bijection. -/
theorem graytoDecimal_inverse : ∃ value : UInt32 → UInt32,
    (∀ fuel x, graytoDecimal (fuel + 32) x = some (value x)) ∧
      (∀ n : UInt32, value (n ^^^ (n >>> 1)) = n) ∧ (∀ g : UInt32, value g ^^^ (value g >>> 1) = g) ∧
        Function.Bijective value := by
  have hleft : ∀ n : UInt32, UInt32.ofBitVec (decode (n ^^^ (n >>> 1)).toBitVec) = n := fun n =>
    congrArg UInt32.ofBitVec (decode_encode n.toBitVec)
  have hright : ∀ g : UInt32, UInt32.ofBitVec (decode g.toBitVec) ^^^
      (UInt32.ofBitVec (decode g.toBitVec) >>> 1) = g := fun g =>
    congrArg UInt32.ofBitVec (encode_decode g.toBitVec)
  exact ⟨fun x => .ofBitVec (decode x.toBitVec), graytoDecimal_eq, hleft, hright,
    Function.bijective_iff_has_inverse.mpr ⟨fun n => n ^^^ (n >>> 1), hright, hleft⟩⟩

/-! ## One turn of the scan -/

/-- The number of a pin. -/
def SensorPin.number : SensorPin → ℕ
  | .s0 => 0
  | .s1 => 1
  | .s2 => 2
  | .s3 => 3
  | .s4 => 4
  | .s5 => 5
  | .s6 => 6
  | .s7 => 7

/-- Reading one bit of a word. -/
theorem gpioReadInputDataBit_of_word {b : SensorBoard} {oe1 oe2 : Bool} {gpiox idr : UInt32}
    {gpioPin : UInt16} {k : ℕ} (hword : b.word oe1 oe2 (gpiox + 8) = some idr)
    (hpin : gpioPin.toUInt32 = .ofBitVec (1#32 <<< k)) :
    gpioReadInputDataBit b oe1 oe2 gpiox gpioPin = some (if idr.toBitVec.getLsbD k then bitSet else 0) := by
  have hbit : idr &&& gpioPin.toUInt32 ≠ 0 ↔ idr.toBitVec.getLsbD k = true := by
    rw [← WordBits.and_mask_ne_zero, hpin]
    exact not_congr UInt32.toBitVec_inj.symm
  rw [gpioReadInputDataBit, hword]
  exact congrArg some (if_congr hbit rfl rfl)

/-- A pin is a bit of the input register of its port. -/
theorem gpioReadInputDataBit_pin (b : SensorBoard) (oe1 oe2 : Bool) (p : SensorPin) :
    gpioReadInputDataBit b oe1 oe2 p.gpioPort p.pin =
      some (if b.level oe1 oe2 p.number then bitSet else 0) := by
  cases p with
  | s0 => exact gpioReadInputDataBit_of_word (k := 2) rfl rfl
  | s1 => exact gpioReadInputDataBit_of_word (k := 3) rfl rfl
  | s2 => exact gpioReadInputDataBit_of_word (k := 4) rfl rfl
  | s3 => exact gpioReadInputDataBit_of_word (k := 5) rfl rfl
  | s4 => exact gpioReadInputDataBit_of_word (k := 6) rfl rfl
  | s5 => exact gpioReadInputDataBit_of_word (k := 13) rfl rfl
  | s6 => exact gpioReadInputDataBit_of_word (k := 14) rfl rfl
  | s7 => exact gpioReadInputDataBit_of_word (k := 15) rfl rfl

/-- A turn assigns one bit. -/
theorem ScanState.assign_eq (s : ScanState) {i : ℕ} (hi : i < 14) (bitstatus : UInt8) :
    s.assign i bitstatus =
      ⟨s.oe1, s.oe2, .ofBitVec (WordBits.assign s.waterlevelData.toBitVec i (bitstatus = bitSet))⟩ := by
  have hmask : 1 <<< Int32.ofNat i = .ofBitVec (1#32 <<< i) := by
    have hall : ∀ i : Fin 14, 1 <<< Int32.ofNat i = .ofBitVec (1#32 <<< i.val) := by decide
    exact hall ⟨i, hi⟩
  rw [ScanState.assign, hmask, WordBits.assign]
  by_cases hset : bitstatus = bitSet
  · simp [hset]
  · simp [hset]

/-! ## The scan -/

/-- What the scan has found after `k` turns. -/
def scanState (b : SensorBoard) (k : ℕ) : ScanState where
  oe1 := decide (8 < k)
  oe2 := decide (k ≤ 8)
  waterlevelData := .ofBitVec (WordBits.collect 32 b.line k)

/-- The multiplexer is switched between the two halves. -/
theorem switch_scanState (b : SensorBoard) (i : ℕ) :
    (scanState b i).switch i = ⟨decide (8 ≤ i), decide (i < 8), (scanState b i).waterlevelData⟩ := by
  rw [ScanState.switch]
  split
  · next h => subst h; rfl
  · next h =>
      have hhigh : 8 < i ↔ 8 ≤ i := by omega
      have hlow : i ≤ 8 ↔ i < 8 := by omega
      simp [scanState, hhigh, hlow]

/-- Turn `i` looks at the line of this number. -/
theorem line_eq (b : SensorBoard) {i : ℕ} (hi : i < scanPins.length) :
    b.level (decide (8 ≤ i)) (decide (i < 8)) scanPins[i].number = b.line i := by
  have hnumber : ∀ i, ∀ h : i < scanPins.length, scanPins[i].number = if i < 8 then i else i - 8 := by
    decide
  rw [hnumber i hi, SensorBoard.line]
  by_cases h : i < 8
  · have hhigh : ¬ 8 ≤ i := Nat.not_le.mpr h
    simp [h, hhigh]
  · have hhigh : 8 ≤ i := Nat.not_lt.mp h
    simp [h, hhigh]

section Scan

variable {b : SensorBoard} {m : Buffers ScanTable UInt32}

/-- The tables as they have been initialized. -/
def Initialized (m : Buffers ScanTable UInt32) : Prop :=
  ∀ i, ∀ h : i < scanPins.length,
    m .gpioPort i = scanPins[i].gpioPort ∧ m .gpioPin i = scanPins[i].pin.toUInt32

/-- What a turn reads. -/
theorem scanTurn_value (i : ℕ) (s : ScanState) : (scanTurn b i s m).value =
    (gpioReadInputDataBit b (s.switch i).oe1 (s.switch i).oe2 (m .gpioPort i)
      (m .gpioPin i).toUInt16).map ((s.switch i).assign i) := rfl

/-- **One turn** that stays inside the tables finds one more line. -/
theorem value_scanTurn (hm : Initialized m) {i : ℕ} (hi : i < scanPins.length) :
    (scanTurn b i (scanState b i) m).value = some (scanState b (i + 1)) := by
  obtain ⟨hport, hpin⟩ := hm i hi
  have hi14 : i < 14 := Nat.lt_succ_of_lt hi
  have hhigh : decide (8 < i + 1) = decide (8 ≤ i) := decide_eq_decide.mpr Nat.lt_succ_iff
  have hbit : decide ((if b.line i then bitSet else 0) = bitSet) = b.line i := by
    cases b.line i <;> rfl
  rw [scanTurn_value, hport, hpin, switch_scanState, UInt16.toUInt16_toUInt32, gpioReadInputDataBit_pin,
    line_eq b hi, Option.map_some, ScanState.assign_eq _ hi14]
  show some (⟨decide (8 ≤ i), decide (i + 1 ≤ 8), _⟩ : ScanState) = _
  rw [← hhigh, hbit]
  rfl

/-- One turn more. -/
theorem scanLoop_succ {k : ℕ} {s s' : ScanState} (hvalue : (scanLoop b k s m).value = some s')
    (hbuffers : (scanLoop b k s m).buffers = m) :
    (scanLoop b (k + 1) s m).value = (scanTurn b k s' m).value ∧ (scanLoop b (k + 1) s m).buffers = m := by
  show ((match (scanLoop b k s m).value with
      | some s => scanTurn b k s
      | none => pure none) (scanLoop b k s m).buffers).value = _ ∧
    ((match (scanLoop b k s m).value with
      | some s => scanTurn b k s
      | none => pure none) (scanLoop b k s m).buffers).buffers = m
  rw [hvalue, hbuffers]
  exact ⟨rfl, rfl⟩

/-- **The scan of the first lines** finds them all, and leaves the tables as they are. -/
theorem scanLoop_eq (hm : Initialized m) {k : ℕ} (hk : k ≤ scanPins.length) :
    (scanLoop b k ⟨false, true, 0⟩ m).value = some (scanState b k) ∧
      (scanLoop b k ⟨false, true, 0⟩ m).buffers = m := by
  induction k with
  | zero => exact ⟨rfl, rfl⟩
  | succ k ih =>
      obtain ⟨hvalue, hbuffers⟩ := ih (Nat.le_of_succ_le hk)
      rw [← value_scanTurn hm hk]
      exact scanLoop_succ hvalue hbuffers

/-- What a turn accesses. -/
theorem within_scanTurn (n i : ℕ) (s : ScanState) :
    Within (EntryBelow n) (scanTurn b i s) m ↔ i < n := by
  rw [scanTurn, within_bind, within_load, within_bind, within_load, within_pure, and_true]
  exact and_self_iff

/-- **What the scan accesses**: as many entries as it makes turns. -/
theorem within_scanLoop (hm : Initialized m) (n : ℕ) {k : ℕ} (hk : k ≤ scanPins.length + 1) :
    Within (EntryBelow n) (scanLoop b k ⟨false, true, 0⟩) m ↔ k ≤ n := by
  induction k with
  | zero => exact iff_of_true (List.forall_mem_nil _) (Nat.zero_le n)
  | succ k ih =>
      obtain ⟨hvalue, hbuffers⟩ := scanLoop_eq (b := b) hm (Nat.le_of_succ_le_succ hk)
      rw [scanLoop, within_bind, ih (Nat.le_of_succ_le hk), hvalue, hbuffers]
      show k ≤ n ∧ Within (EntryBelow n) (scanTurn b k (scanState b k)) m ↔ k < n
      rw [within_scanTurn]
      exact ⟨And.right, fun h => ⟨Nat.le_of_lt h, h⟩⟩

end Scan

/-! ## The whole function -/

/-- What is read in the fourteenth turn, from what lies behind the tables on the stack. -/
def SensorBoard.readBehind (b : SensorBoard) (m : Buffers ScanTable UInt32) : Option UInt8 :=
  gpioReadInputDataBit b true false (m .gpioPort 13) (m .gpioPin 13).toUInt16

/-- A table has thirteen entries. -/
theorem length_map_scanPins (f : SensorPin → UInt32) : (scanPins.map f).length = 13 := List.length_map f

/-- The stack once the tables are initialized. -/
def withTables (m : Buffers ScanTable UInt32) : Buffers ScanTable UInt32 :=
  (stores .gpioPin ((List.range' 0 13).zip (scanPins.map fun p => p.pin.toUInt32))
    (stores .gpioPort ((List.range' 0 13).zip (scanPins.map SensorPin.gpioPort)) m).buffers).buffers

/-- The table of ports. -/
theorem withTables_gpioPort (m : Buffers ScanTable UInt32) :
    withTables m .gpioPort = patch (m .gpioPort) 0 (scanPins.map SensorPin.gpioPort) := by
  have hne : ScanTable.gpioPort ≠ .gpioPin := by decide
  rw [withTables, buffers_stores_of_ne hne, buffers_stores _ _ _ (length_map_scanPins _)]

/-- The table of pins. -/
theorem withTables_gpioPin (m : Buffers ScanTable UInt32) :
    withTables m .gpioPin = patch (m .gpioPin) 0 (scanPins.map fun p => p.pin.toUInt32) := by
  have hne : ScanTable.gpioPin ≠ .gpioPort := by decide
  rw [withTables, buffers_stores _ _ _ (length_map_scanPins _), buffers_stores_of_ne hne]

/-- The initializers fill the tables. -/
theorem initialized_withTables (m : Buffers ScanTable UInt32) : Initialized (withTables m) := by
  intro i hi
  have hread : ∀ (mem : CellMemory UInt32) (f : SensorPin → UInt32),
      patch mem 0 (scanPins.map f) i = f scanPins[i] := by
    intro mem f
    have hin : i < (scanPins.map f).length := by rwa [List.length_map]
    have hpatch := patch_add mem 0 (scanPins.map f) i hin
    rwa [Nat.zero_add, List.getElem_map] at hpatch
  rw [withTables_gpioPort, withTables_gpioPin, hread, hread]
  exact ⟨rfl, rfl⟩

/-- They leave what lies behind alone. -/
theorem readBehind_withTables (b : SensorBoard) (m : Buffers ScanTable UInt32) :
    b.readBehind (withTables m) = b.readBehind m := by
  rw [SensorBoard.readBehind, withTables_gpioPort, withTables_gpioPin,
    patch_of_ge _ _ (Nat.le_refl 13), patch_of_ge _ _ (Nat.le_refl 13)]
  rfl

/-- **What `GetWaterLevelData` accesses**: fourteen entries of each table. -/
theorem within_getWaterLevelData (n fuel : ℕ) (b : SensorBoard) (m : Buffers ScanTable UInt32) :
    Within (EntryBelow n) (getWaterLevelData fuel b) m ↔ 14 ≤ n := by
  have hscan := within_scanLoop (b := b) (initialized_withTables m) n (Nat.le_refl 14)
  have hindex : 14 ≤ n → ∀ (entries : List UInt32) (t : ScanTable),
      ∀ x ∈ (List.range' 0 13).zip entries, EntryBelow n (.store t x.1) := by
    intro hn entries t x hx
    have hlt := (List.mem_range'_1.mp (List.of_mem_zip hx).1).2
    exact Nat.lt_trans hlt hn
  rw [withTables] at hscan
  rw [getWaterLevelData, within_bind, getGrayWaterLevelData, within_bind, within_stores, within_bind,
    within_stores, within_bind, hscan, within_pure, and_true, within_pure, and_true]
  exact ⟨fun h => h.2.2, fun hn => ⟨hindex hn _ _, hindex hn _ _, hn⟩⟩

/-- **What is sampled**: the lines, and a fourteenth bit from behind the tables. -/
theorem value_getGrayWaterLevelData (b : SensorBoard) (m : Buffers ScanTable UInt32) :
    (getGrayWaterLevelData b m).value = (b.readBehind m).map fun bitstatus => ⟨true, true,
      .ofBitVec (WordBits.assign (WordBits.collect 32 b.line 13) 13 (bitstatus = bitSet))⟩ := by
  obtain ⟨hvalue, hbuffers⟩ := scanLoop_eq (b := b) (initialized_withTables m) (Nat.le_refl 13)
  -- the multiplexer still stands as in the second half
  have hturns : (scanLoop b 14 ⟨false, true, 0⟩ (withTables m)).value =
      (b.readBehind m).map (ScanState.assign ⟨true, false, (scanState b 13).waterlevelData⟩ 13) := by
    have hhigh : decide (8 ≤ 13) = true := rfl
    have hlow : decide (13 < 8) = false := rfl
    rw [(scanLoop_succ hvalue hbuffers).1, ← readBehind_withTables, scanTurn_value, switch_scanState, hhigh,
      hlow, SensorBoard.readBehind]
  rw [withTables] at hturns
  rw [getGrayWaterLevelData, value_bind, value_bind, value_bind, hturns]
  show ((b.readBehind m).map _).map _ = _
  rw [Option.map_map]
  refine congrArg (fun f => (b.readBehind m).map f) (funext fun bitstatus => ?_)
  rw [Function.comp_apply, ScanState.assign_eq _ (Nat.lt_succ_self 13)]
  dsimp only [scanState]
  rw [Int32.toBitVec_ofBitVec]

/-- The position is the number of the code word on the lines. -/
theorem atPosition_iff (b : SensorBoard) (n : UInt32) :
    b.AtPosition n ↔ n = .ofBitVec (decode (WordBits.collect 32 b.line 13)) := by
  have hsize : n < 8192 ↔ encode n.toBitVec >>> 13 = 0#32 := by
    rw [encode_ushiftRight, encode_eq_zero_iff, WordBits.ushiftRight_eq_zero_iff]
    exact UInt32.lt_iff_toNat_lt
  have hcode : encode n.toBitVec = WordBits.collect 32 b.line 13 ↔ b.AtPosition n := by
    rw [WordBits.eq_collect_iff b.line (by decide), ← hsize]
    exact Iff.rfl
  rw [← hcode, ← UInt32.toBitVec_inj]
  exact grayCode.eq_symm_apply.symm

/-- **A sampled fourteenth bit inverts fourteen bits** of the decoded number. -/
theorem decode_assign (f : ℕ → Bool) (v : Bool) :
    decode (WordBits.assign (WordBits.collect 32 f 13) 13 v) =
      if v then decode (WordBits.collect 32 f 13) ^^^ 16383#32 else decode (WordBits.collect 32 f 13) := by
  have hclear : (WordBits.collect 32 f 13).getLsbD 13 = false := WordBits.getLsbD_collect f 13 (by decide)
  have hbit : decode (1#32 <<< 13) = 16383#32 := by decide
  rw [WordBits.assign_of_clear hclear]
  split
  · rw [decode_xor, hbit]
  · rfl

/-- **What `GetWaterLevelData` returns** in a position of the sensor. -/
theorem value_getWaterLevelData (fuel : ℕ) {b : SensorBoard} {n : UInt32} (hn : b.AtPosition n)
    (m : Buffers ScanTable UInt32) :
    (getWaterLevelData (fuel + 32) b m).value =
      (b.readBehind m).map fun bitstatus => if bitstatus = bitSet then n ^^^ 16383 else n := by
  rw [getWaterLevelData, value_bind, value_getGrayWaterLevelData, (atPosition_iff b n).mp hn]
  cases b.readBehind m with
  | none => rfl
  | some bitstatus =>
      show graytoDecimal (fuel + 32) _ = some _
      rw [graytoDecimal_eq]
      refine congrArg some ?_
      show UInt32.ofBitVec (decode (WordBits.assign _ 13 _)) = _
      rw [decode_assign]
      by_cases hset : bitstatus = bitSet
      · simp [hset]
      · simp [hset]

/-- No scan stays inside its tables. -/
theorem not_samplesWaterLevel (b : SensorBoard) (m : Buffers ScanTable UInt32) :
    ¬ SamplesWaterLevel b m := by
  intro h
  have hinside := (within_getWaterLevelData 13 0 b m).mp (h.inside 0)
  omega

/-- **The fourteenth turn reads behind the tables, always.** What is returned is the position of the sensor
when a clear bit is found there, the position with fourteen bits inverted when a set bit is found, and
nothing when nothing can be read there. -/
theorem getWaterLevelData_never (b : SensorBoard) (m : Buffers ScanTable UInt32) :
    ¬ SamplesWaterLevel b m ∧ ∃ n, b.AtPosition n ∧ ∀ fuel,
      (getWaterLevelData (fuel + 32) b m).value =
        (b.readBehind m).map fun bitstatus => if bitstatus = bitSet then n ^^^ 16383 else n := by
  obtain ⟨n, hn⟩ : ∃ n, b.AtPosition n := ⟨_, (atPosition_iff b _).mpr rfl⟩
  exact ⟨not_samplesWaterLevel b m, n, hn, fun fuel => value_getWaterLevelData fuel hn m⟩

/-- All lines are low, and the pins of `OE1` and `OE2` show what is put out there. -/
def lowBoard : SensorBoard where
  gpiocIdr := fun oe1 oe2 => (if oe1 then 0x0010 else 0) ||| (if oe2 then 0x0020 else 0)
  gpioeIdr := fun _ _ => 0
  elsewhere := fun _ _ _ => none

/-- A stack with the port and the pin of `OE1` behind the tables. -/
def oe1Behind : Buffers ScanTable UInt32
  | .gpioPort => fun _ => gpioc
  | .gpioPin => fun _ => 0x0010

/-- With all lines low the water level may come out as 16383. -/
theorem not_samplesWaterLevel_of_oe1Behind :
    lowBoard.AtPosition 0 ∧ (getWaterLevelData 32 lowBoard oe1Behind).value = some 16383 ∧
      ¬ SamplesWaterLevel lowBoard oe1Behind := by
  have hzero : lowBoard.AtPosition 0 := ⟨by decide, by decide⟩
  have hbehind : lowBoard.readBehind oe1Behind = some bitSet := by decide
  refine ⟨hzero, ?_, not_samplesWaterLevel _ _⟩
  rw [value_getWaterLevelData 0 hzero, hbehind]
  rfl

end RtuShuiwen
