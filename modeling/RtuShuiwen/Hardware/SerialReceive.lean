import RtuShuiwen.Thread.ReceiveCommand

/-! # The receive interrupts of the external serial channels

On a receive interrupt `EXTI9_5_IRQHandler` looks at four channels one after the other and takes in what a
channel delivers, byte by byte, for as long as it delivers. Nothing in the loops compares an index with the
size of a buffer: **`serialSafe_iff`** says that the buffers hold just when every burst is short enough. -/

namespace RtuShuiwen

open CellMemory TransitionSystem

/-! ## The handler -/

/-- The channels, in the order in which the handler looks at them. -/
inductive SerialChannel
  | rs485_1
  | rs232_2
  | rs232_3
  | rs232_4
  deriving DecidableEq, Repr

/-- `RS485_MAX_RECEIVE_LEN`. -/
def rs485MaxReceiveLen : ℕ := 255

/-- The sizes of `RS485_1_Receive`, `RS232_2_Recv`, `RS232_3_Recv` and `RS232_4_Recv`. -/
def SerialChannel.bufferSize : SerialChannel → ℕ
  | .rs485_1 => rs485MaxReceiveLen
  | _ => rs232RecvMax

/-- The condition of a receive loop: three read the line status register, and that of `RS232_3` the
interrupt status register. -/
def SerialChannel.more (c : SerialChannel) (status : UInt8) : Bool :=
  match c with
  | .rs232_3 => status &&& 0x04 ≠ 0
  | _ => status &&& 0x01 ≠ 0

/-- What one turn of a receive loop reads: a byte, then the register of its condition. -/
structure LoopReading where
  dat : UInt8
  status : UInt8

/-- Where the processor is: in the tasks, before the test of a channel, or in its receive loop. -/
inductive HandlerPlace
  | tasks
  | test (c : SerialChannel)
  | receiving (c : SerialChannel)
  deriving DecidableEq

/-- What comes after a channel. -/
def SerialChannel.following : SerialChannel → HandlerPlace
  | .rs485_1 => .test .rs232_2
  | .rs232_2 => .test .rs232_3
  | .rs232_3 => .test .rs232_4
  | .rs232_4 => .tasks

/-- One store to a receive buffer. -/
structure SerialStore where
  channel : SerialChannel
  index : ℕ
  dat : UInt8

/-- The variables `RS485_1_Address` .. `RS232_4_Recv_Address` and all stores that have been made. -/
structure HandlerState where
  place : HandlerPlace
  address : SerialChannel → ℕ
  stores : List SerialStore

/-- `buffer[address++] = dat`. -/
def HandlerState.store (s : HandlerState) (c : SerialChannel) (dat : UInt8) : HandlerState :=
  { s with
    address := Function.update s.address c (s.address c + 1)
    stores := s.stores ++ [⟨c, s.address c, dat⟩] }

/-- The index goes up by one. -/
@[simp] theorem HandlerState.address_store (s : HandlerState) (c : SerialChannel) (dat : UInt8) :
    (s.store c dat).address = Function.update s.address c (s.address c + 1) := rfl

/-- One store is added. -/
theorem HandlerState.mem_store {s : HandlerState} {c : SerialChannel} {dat : UInt8} {x : SerialStore} :
    x ∈ (s.store c dat).stores ↔ x ∈ s.stores ∨ x = ⟨c, s.address c, dat⟩ := by
  rw [HandlerState.store, List.mem_append, List.mem_singleton]

/-- The `do` loop of a channel on the readings it has made: where they come to an end before the loop does
the handler is still in it. -/
def receiveLoop (c : SerialChannel) : List LoopReading → HandlerState → HandlerState
  | [], s => { s with place := .receiving c }
  | r :: turns, s =>
      if c.more r.status then receiveLoop c turns (s.store c r.dat)
      else { s.store c r.dat with place := c.following }

/-- What happens: an interrupt, what its handler reads from the next channel, or a turn of
`receive_command`, which finds a start mark in `RS232_3_Recv` or not. -/
inductive HandlerEvent
  | irq
  | channel (lsr : UInt8) (turns : List LoopReading)
  | poll (marked : Bool)

/-- One event. -/
def HandlerState.step (s : HandlerState) : HandlerEvent → Option HandlerState
  | .irq =>
      match s.place with
      | .tasks => some { s with place := .test .rs485_1 }
      | _ => none
  | .channel lsr turns =>
      match s.place with
      | .test c =>
          if lsr &&& 0x01 ≠ 0 then
            some (receiveLoop c turns { s with address := Function.update s.address c 0 })
          else some { s with place := c.following }
      | _ => none
  | .poll marked =>
      match s.place with
      | .tasks =>
          if s.address .rs232_3 ≠ 0 ∧ marked then
            some { s with address := Function.update s.address .rs232_3 0 }
          else some s
      | _ => none

/-- Power-up. -/
def HandlerState.start : HandlerState := ⟨.tasks, fun _ => 0, []⟩

/-! ## The property -/

/-- **The buffers hold**: every store is to a place inside its buffer, and every length that a task can
read is at most the size of the buffer. -/
structure HandlerState.Safe (s : HandlerState) : Prop where
  inside : ∀ x ∈ s.stores, x.index < x.channel.bufferSize
  lengths : s.place = .tasks → ∀ c, s.address c ≤ c.bufferSize

/-- The burst in the readings of a channel: the bytes up to the first one after which there is no more. -/
def receivedBurst (c : SerialChannel) : List LoopReading → List UInt8
  | [] => []
  | r :: turns => r.dat :: if c.more r.status then receivedBurst c turns else []

/-- The burst that the handler takes in, if any, is no longer than the buffer of its channel. -/
def HandlerState.Fits (s : HandlerState) : HandlerEvent → Prop
  | .channel lsr turns =>
      ∀ c, s.place = .test c → lsr &&& 0x01 ≠ 0 → (receivedBurst c turns).length ≤ c.bufferSize
  | _ => True

/-! ## The loop -/

/-- The index after a receive loop. -/
theorem address_receiveLoop (c : SerialChannel) (turns : List LoopReading) (s : HandlerState) :
    (receiveLoop c turns s).address =
      Function.update s.address c (s.address c + (receivedBurst c turns).length) := by
  induction turns generalizing s with
  | nil => exact (Function.update_eq_self c s.address).symm
  | cons r turns ih =>
      rw [receiveLoop, receivedBurst]
      split
      · rw [ih, s.address_store, Function.update_self, Function.update_idem, List.length_cons, Nat.add_assoc,
          Nat.add_comm 1]
      · rfl

/-- **The stores of a receive loop** are those of its burst, from the index on at which it starts. -/
theorem mem_stores_receiveLoop (c : SerialChannel) (turns : List LoopReading) (s : HandlerState)
    (x : SerialStore) : x ∈ (receiveLoop c turns s).stores ↔
      x ∈ s.stores ∨ ∃ i dat, (receivedBurst c turns)[i]? = some dat ∧ x = ⟨c, s.address c + i, dat⟩ := by
  induction turns generalizing s with
  | nil => exact ⟨.inl, fun h => h.resolve_right fun ⟨i, dat, hnone, _⟩ => by cases hnone⟩
  | cons r turns ih =>
      rw [receiveLoop, receivedBurst]
      split
      · rw [ih, s.mem_store, s.address_store, Function.update_self, or_assoc]
        refine or_congr_right ⟨?_, ?_⟩
        · rintro (rfl | ⟨i, dat, hdat, rfl⟩)
          · exact ⟨0, r.dat, rfl, rfl⟩
          · exact ⟨i + 1, dat, hdat, by rw [Nat.add_assoc, Nat.add_comm 1]⟩
        · rintro ⟨i, dat, hdat, rfl⟩
          cases i with
          | zero =>
              obtain rfl := Option.some.inj hdat
              exact .inl rfl
          | succ i => exact .inr ⟨i, dat, hdat, by rw [Nat.add_assoc, Nat.add_comm 1]⟩
      · refine s.mem_store.trans (or_congr_right ⟨?_, ?_⟩)
        · rintro rfl
          exact ⟨0, r.dat, rfl, rfl⟩
        · rintro ⟨i, dat, hdat, rfl⟩
          cases i with
          | zero =>
              obtain rfl := Option.some.inj hdat
              rfl
          | succ i => cases hdat

/-! ## The events -/

/-- What holds throughout the good runs: stores inside, and every index at most the size of its buffer. -/
structure HandlerState.Inv (s : HandlerState) : Prop where
  inside : ∀ x ∈ s.stores, x.index < x.channel.bufferSize
  indices : ∀ c, s.address c ≤ c.bufferSize

/-- An index set back to 0 keeps it. -/
theorem HandlerState.Inv.clear {s : HandlerState} (hinv : s.Inv) (c : SerialChannel) :
    HandlerState.Inv { s with address := Function.update s.address c 0 } := by
  refine ⟨hinv.inside, fun c' => ?_⟩
  show Function.update s.address c 0 c' ≤ c'.bufferSize
  by_cases hc : c' = c
  · rw [hc, Function.update_self]
    exact Nat.zero_le _
  · rw [Function.update_of_ne hc]
    exact hinv.indices c'

/-- A burst that fits keeps it. -/
theorem HandlerState.Inv.receive {s : HandlerState} (hinv : s.Inv) {c : SerialChannel}
    {turns : List LoopReading} (hzero : s.address c = 0) (hfit : (receivedBurst c turns).length ≤ c.bufferSize) :
    (receiveLoop c turns s).Inv := by
  constructor
  case inside =>
    intro x hx
    rcases (mem_stores_receiveLoop c turns s x).mp hx with hold | ⟨i, dat, hdat, rfl⟩
    · exact hinv.inside x hold
    · have hi : i < (receivedBurst c turns).length := (List.getElem?_eq_some_iff.mp hdat).1
      show s.address c + i < c.bufferSize
      omega
  case indices =>
    intro c'
    rw [address_receiveLoop]
    by_cases hc : c' = c
    · rw [hc, Function.update_self, hzero, Nat.zero_add]
      exact hfit
    · rw [Function.update_of_ne hc]
      exact hinv.indices c'

/-- A burst that does not fit is stored beyond the end of its buffer. -/
theorem not_safe_receiveLoop {s : HandlerState} {c : SerialChannel} {turns : List LoopReading}
    (hzero : s.address c = 0) (hlong : ¬ (receivedBurst c turns).length ≤ c.bufferSize) :
    ¬ (receiveLoop c turns s).Safe := by
  intro hsafe
  have hlong : c.bufferSize < (receivedBurst c turns).length := Nat.lt_of_not_le hlong
  have hbeyond := hsafe.inside ⟨c, s.address c + c.bufferSize, _⟩
    ((mem_stores_receiveLoop c turns s _).mpr
      (.inr ⟨c.bufferSize, _, List.getElem?_eq_getElem hlong, rfl⟩))
  have hbeyond : s.address c + c.bufferSize < c.bufferSize := hbeyond
  omega

/-- **An event that fits keeps the invariant.** -/
theorem HandlerState.Inv.step {s s' : HandlerState} {e : HandlerEvent} (hinv : s.Inv) (hfits : s.Fits e)
    (hstep : s.step e = some s') : s'.Inv := by
  cases e with
  | irq =>
      rw [HandlerState.step] at hstep
      split at hstep
      · obtain rfl := Option.some.inj hstep
        exact ⟨hinv.inside, hinv.indices⟩
      · cases hstep
  | channel lsr turns =>
      rw [HandlerState.step] at hstep
      split at hstep
      · next c hplace =>
          split at hstep
          · next hlsr =>
              obtain rfl := Option.some.inj hstep
              exact (hinv.clear c).receive (Function.update_self ..) (hfits c hplace hlsr)
          · obtain rfl := Option.some.inj hstep
            exact ⟨hinv.inside, hinv.indices⟩
      · cases hstep
  | poll marked =>
      rw [HandlerState.step] at hstep
      split at hstep
      · split at hstep
        · obtain rfl := Option.some.inj hstep
          exact hinv.clear _
        · obtain rfl := Option.some.inj hstep
          exact hinv
      · cases hstep

/-- **An event that does not fit leaves the buffers.** -/
theorem HandlerState.not_safe_of_not_fits {s s' : HandlerState} {e : HandlerEvent} (hfits : ¬ s.Fits e)
    (hstep : s.step e = some s') : ¬ s'.Safe := by
  cases e with
  | irq => exact absurd trivial hfits
  | poll marked => exact absurd trivial hfits
  | channel lsr turns =>
      simp only [HandlerState.Fits, not_forall] at hfits
      obtain ⟨c, hplace, hlsr, hlong⟩ := hfits
      simp only [HandlerState.step, hplace, if_pos hlsr] at hstep
      obtain rfl := Option.some.inj hstep
      exact not_safe_receiveLoop (Function.update_self ..) hlong

/-- Nothing is stored at power-up. -/
theorem HandlerState.inv_start : HandlerState.start.Inv :=
  ⟨List.forall_mem_nil _, fun _ => Nat.zero_le _⟩

/-- The runs from any state in which the invariant holds. -/
theorem HandlerState.Inv.safe_iff {s : HandlerState} (hinv : s.Inv) (events : List HandlerEvent) :
    AllReached HandlerState.step HandlerState.Safe s events ↔
      StepsMeet HandlerState.step HandlerState.Fits s events :=
  allReached_iff_stepsMeet (fun _ hinv => ⟨hinv.inside, fun _ => hinv.indices⟩)
    (fun _ _ _ hinv hfits hstep => hinv.step hfits hstep)
    (fun _ _ _ _ hfits hstep => HandlerState.not_safe_of_not_fits hfits hstep) hinv events

/-- **The receive buffers hold in exactly those runs in which no burst is longer than its buffer.** -/
theorem serialSafe_iff (events : List HandlerEvent) :
    AllReached HandlerState.step HandlerState.Safe HandlerState.start events ↔
      StepsMeet HandlerState.step HandlerState.Fits HandlerState.start events :=
  HandlerState.inv_start.safe_iff events

/-- A burst of a byte more than `RS485_1_Receive` has room for. -/
theorem not_serialSafe_of_long_burst :
    ¬ AllReached HandlerState.step HandlerState.Safe HandlerState.start
      [.irq, .channel 0x61 (List.replicate 256 ⟨0x41, 0x61⟩)] := by
  intro hsafe
  have hsteps := (HandlerState.inv_start.safe_iff _).mp hsafe
  obtain ⟨-, hsteps⟩ := hsteps _ rfl
  obtain ⟨hfits, -⟩ := hsteps _ rfl
  have hfit := hfits .rs485_1 rfl (by decide)
  have hburst : ∀ k, (receivedBurst .rs485_1 (List.replicate k ⟨0x41, 0x61⟩)).length = k := by
    intro k
    induction k with
    | zero => rfl
    | succ k ih =>
        rw [List.replicate_succ, receivedBurst, if_pos (by decide), List.length_cons, ih]
  rw [hburst] at hfit
  exact absurd hfit (by decide)

/-! ## The channel of `receive_command` -/

/-- What is in the buffer of a channel after some stores. -/
def bufferAfter (c : SerialChannel) (m : CellMemory UInt8) (stores : List SerialStore) : CellMemory UInt8 :=
  stores.foldl (fun m x => if x.channel = c then Function.update m x.index x.dat else m) m

/-- **A receive loop lays its burst over its buffer**, from the index on at which it starts. -/
theorem bufferAfter_receiveLoop (c : SerialChannel) (turns : List LoopReading) (s : HandlerState)
    (m : CellMemory UInt8) :
    bufferAfter c m (receiveLoop c turns s).stores =
      patch (bufferAfter c m s.stores) (s.address c) (receivedBurst c turns) := by
  have hstore : ∀ (s : HandlerState) (dat : UInt8), bufferAfter c m (s.store c dat).stores =
      patch (bufferAfter c m s.stores) (s.address c) [dat] := by
    intro s dat
    rw [bufferAfter, HandlerState.store, List.foldl_append, patch_singleton]
    exact if_pos rfl
  induction turns generalizing s with
  | nil => exact (patch_nil _ _).symm
  | cons r turns ih =>
      rw [receiveLoop, receivedBurst]
      split
      · rw [ih, s.address_store, Function.update_self, hstore]
        exact (patch_append _ _ [r.dat] _).symm
      · exact hstore s r.dat

/-- **A burst that fits is what `receive_command` sees of it**: the loop of `RS232_3` leaves the buffer and
the length that `receiveBurst` says. -/
theorem receiveLoop_receiveBurst {b : Burst} {turns : List LoopReading}
    (hturns : receivedBurst .rs232_3 turns = b.bytes) {s : HandlerState}
    (hzero : s.address .rs232_3 = 0) (m : CellMemory UInt8) {r : ReceiveState}
    (hbefore : slice (bufferAfter .rs232_3 m s.stores) 0 rs232RecvMax = r.rs232Recv) :
    slice (bufferAfter .rs232_3 m (receiveLoop .rs232_3 turns s).stores) 0 rs232RecvMax =
        (receiveBurst b r).rs232Recv ∧
      (receiveLoop .rs232_3 turns s).address .rs232_3 = (receiveBurst b r).rs232RecvAddress := by
  constructor
  · have hwithin := @slice_patch_within _ (bufferAfter .rs232_3 m s.stores) 0 0 rs232RecvMax b.bytes
      ((Nat.zero_add _).trans_le b.fits)
    rw [hbefore, List.take_zero, List.nil_append, Nat.zero_add, Nat.zero_add] at hwithin
    rw [bufferAfter_receiveLoop, hturns, hzero]
    exact hwithin
  · rw [address_receiveLoop, Function.update_self, hzero, hturns, Nat.zero_add]
    rfl

end RtuShuiwen
