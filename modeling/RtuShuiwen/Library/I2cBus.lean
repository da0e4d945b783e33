import Mathlib.Algebra.Ring.Nat
import Mathlib.Logic.Function.Iterate
import Mathlib.Tactic.Common

/-! # A two-wire bus with one master and a chip of registers

The master sets the two open-drain wires `sda` and `scl` and reads `sda` back; the chip follows them edge
by edge. `sda` falling or rising while `scl` is high opens or closes a transfer; otherwise the chip takes a
bit when `scl` rises, and puts its own bits and acknowledgements on `sda` when `scl` falls. The first byte
of a transfer is compared with the address of the chip, the next sets its register pointer, those behind it
are written to registers, and after the reading address registers are read out.

The rules say what comes of the patterns a master clocks: `byteOut_address`, `byteOut_pointer` and
`byteOut_data` for a byte it sends, `byteIn_giving` for a byte it takes in, `openTransfer_rest` and
`closeTransfer_taking` for both ends of a transfer. -/

namespace I2cBus

/-! ## Bytes and their bits -/

/-- The bits of a byte from the top down. -/
def topBits : ℕ → UInt8 → List Bool
  | 0, _ => []
  | n + 1, v => decide (v &&& 0x80 ≠ 0) :: topBits n (v <<< 1)

/-- A byte shifted in bit by bit. -/
def shiftIn (v : UInt8) (bit : Bool) : UInt8 := if bit then v <<< 1 ||| 1 else v <<< 1

/-- The byte of some bits. -/
def ofBits (bits : List Bool) : UInt8 := bits.foldl shiftIn 0

/-- As many bits as asked for. -/
@[simp] theorem length_topBits (n : ℕ) (v : UInt8) : (topBits n v).length = n := by
  induction n generalizing v with
  | zero => rfl
  | succ n ih => rw [topBits, List.length_cons, ih]

/-- **A byte is told by its bits.** -/
theorem ofBits_topBits (v : UInt8) : ofBits (topBits 8 v) = v := by
  have hall : ∀ bits : BitVec 8, ofBits (topBits 8 ⟨bits⟩) = ⟨bits⟩ := by decide +kernel
  exact hall v.toBitVec

/-! ## The chip -/

/-- A chip of registers: its writing address (the reading address is the next one), how a register is read
and written, and which register comes after another. `ρ` is what the chip holds. -/
structure RegisterChip (ρ : Type*) where
  address : UInt8
  /-- The lowest bit of an address byte tells reading from writing. -/
  address_even : address.toNat % 2 = 0
  read : ρ → UInt8 → UInt8
  write : ρ → UInt8 → UInt8 → ρ
  next : UInt8 → UInt8

/-- What the byte is that the chip takes. -/
inductive ByteRole
  | address
  | pointer
  | data
  deriving DecidableEq

/-- Where the chip stands in a transfer: out of it; taking a byte, of which it has the first bits;
acknowledging a byte, before a byte of the given role or before sending; sending a byte, of which the
given bits are left; waiting for the answer of the master. -/
inductive Phase
  | off
  | taking (role : ByteRole) (bits : List Bool)
  | acking (role : Option ByteRole)
  | giving (bits : List Bool)
  | asking (answer : Option Bool)
  deriving DecidableEq

/-- The wires as the master sets them, and the chip: its phase, its register pointer, its registers. -/
structure Bus (ρ : Type*) where
  sda : Bool
  scl : Bool
  phase : Phase
  pointer : UInt8
  regs : ρ

/-- Whether the chip leaves `sda` high. -/
def Phase.released : Phase → Bool
  | .acking _ => false
  | .giving (bit :: _) => bit
  | _ => true

variable {ρ : Type*} (chip : RegisterChip ρ)

/-- The level of `sda`: low when one of the two pulls it down. -/
def Bus.line (b : Bus ρ) : Bool := b.sda && b.phase.released

/-- The chip has taken a whole byte. -/
def Bus.takeByte (role : ByteRole) (v : UInt8) (b : Bus ρ) : Bus ρ :=
  match role with
  | .address =>
      if v = chip.address then { b with phase := .acking (some .pointer) }
      else if v = chip.address + 1 then { b with phase := .acking none }
      else { b with phase := .off }
  | .pointer => { b with phase := .acking (some .data), pointer := v }
  | .data =>
      { b with
        phase := .acking (some .data)
        pointer := chip.next b.pointer
        regs := chip.write b.regs b.pointer v }

/-- The chip begins to send the register under its pointer. -/
def Bus.giveByte (b : Bus ρ) : Bus ρ :=
  { b with
    phase := .giving (topBits 8 (chip.read b.regs b.pointer))
    pointer := chip.next b.pointer }

/-- What the chip does when `scl` has risen. -/
def Bus.rise (b : Bus ρ) : Bus ρ :=
  match b.phase with
  | .taking role bits => { b with phase := .taking role (bits ++ [b.line]) }
  | .asking _ => { b with phase := .asking (some b.line) }
  | _ => b

/-- What the chip does when `scl` has fallen. -/
def Bus.fall (b : Bus ρ) : Bus ρ :=
  match b.phase with
  | .taking role bits => if bits.length = 8 then b.takeByte chip role (ofBits bits) else b
  | .acking (some role) => { b with phase := .taking role [] }
  | .acking none => b.giveByte chip
  | .giving (_ :: bit :: bits) => { b with phase := .giving (bit :: bits) }
  | .giving _ => { b with phase := .asking none }
  | .asking (some false) => b.giveByte chip
  | .asking (some true) => { b with phase := .off }
  | _ => b

/-- The master sets `scl`. -/
def Bus.setScl (v : Bool) (b : Bus ρ) : Bus ρ :=
  match b.scl, v with
  | false, true => Bus.rise { b with scl := true }
  | true, false => Bus.fall chip { b with scl := false }
  | _, _ => b

/-- The master sets `sda`; an edge of the line while `scl` is high opens or closes a transfer. -/
def Bus.setSda (v : Bool) (b : Bus ρ) : Bus ρ :=
  let b' := { b with sda := v }
  match b.scl, b.line, b'.line with
  | true, true, false => { b' with phase := .taking .address [] }
  | true, false, true => { b' with phase := .off }
  | _, _, _ => b'

/-- Nobody uses the bus. -/
def Bus.rest (pointer : UInt8) (regs : ρ) : Bus ρ := ⟨true, true, .off, pointer, regs⟩

/-! ## Single edges -/

/-- While `scl` is low nothing comes of `sda`. -/
@[simp] theorem setSda_low (v sda : Bool) (phase : Phase) (pointer : UInt8) (regs : ρ) :
    Bus.setSda v ⟨sda, false, phase, pointer, regs⟩ = ⟨v, false, phase, pointer, regs⟩ := rfl

variable {chip} {sda : Bool} {pointer : UInt8} {regs : ρ}

/-! ## Both ends of a transfer -/

/-- The master opens a transfer: with both wires high `sda` falls, and `scl` after it. A line that is held
low is a bus in use. -/
def Bus.openTransfer (chip : RegisterChip ρ) (b : Bus ρ) : Bool × Bus ρ :=
  let b := Bus.setScl chip true (Bus.setSda true b)
  if b.line then (true, Bus.setScl chip false (Bus.setSda false b)) else (false, b)

/-- It closes it: with `scl` high `sda` rises. -/
def Bus.closeTransfer (chip : RegisterChip ρ) (b : Bus ρ) : Bus ρ :=
  Bus.setSda true (Bus.setScl chip true (Bus.setSda false (Bus.setScl chip false b)))

/-- From rest a transfer can be opened. -/
theorem openTransfer_rest : Bus.openTransfer chip (.rest pointer regs) =
    (true, ⟨false, false, .taking .address [], pointer, regs⟩) := rfl

/-- So it can while the chip waits for a byte. -/
theorem openTransfer_taking (role : ByteRole) :
    Bus.openTransfer chip ⟨sda, false, .taking role [], pointer, regs⟩ =
      (true, ⟨false, false, .taking .address [], pointer, regs⟩) := rfl

/-- Closing it leaves the bus at rest: while the chip waits for a byte, -/
theorem closeTransfer_taking (role : ByteRole) :
    Bus.closeTransfer chip ⟨sda, false, .taking role [], pointer, regs⟩ = .rest pointer regs := rfl

/-- and when it is out of the transfer. -/
theorem closeTransfer_off :
    Bus.closeTransfer chip ⟨sda, false, .off, pointer, regs⟩ = .rest pointer regs := rfl

/-! ## A byte for the chip -/

/-- A bit is clocked out: `scl` low, the bit on `sda`, `scl` high. -/
def Bus.putBit (chip : RegisterChip ρ) (b : Bus ρ) (v : Bool) : Bus ρ :=
  Bus.setScl chip true (Bus.setSda v (Bus.setScl chip false b))

/-- The ninth clock: the master puts `v` on `sda`, raises `scl`, looks at the line and lowers `scl`. -/
def Bus.ackSlot (chip : RegisterChip ρ) (v : Bool) (b : Bus ρ) : Bool × Bus ρ :=
  let b := Bus.setScl chip true (Bus.setSda v (Bus.setScl chip false b))
  (b.line, Bus.setScl chip false b)

/-- A byte and its ninth clock. -/
def Bus.byteOut (chip : RegisterChip ρ) (ack : Bool) (v : UInt8) (b : Bus ρ) : Bool × Bus ρ :=
  Bus.ackSlot chip ack (Bus.setScl chip false ((topBits 8 v).foldl (Bus.putBit chip) b))

/-- A bit for a chip that takes a byte. -/
theorem putBit_taking (scl : Bool) (role : ByteRole) {bits : List Bool} (hlen : bits.length < 8)
    (v : Bool) : Bus.putBit chip ⟨sda, scl, .taking role bits, pointer, regs⟩ v =
      ⟨v, true, .taking role (bits ++ [v]), pointer, regs⟩ := by
  have hlow : Bus.setScl chip false ⟨sda, scl, .taking role bits, pointer, regs⟩ =
      ⟨sda, false, .taking role bits, pointer, regs⟩ := by
    cases scl with
    | false => rfl
    | true => exact if_neg (Nat.ne_of_lt hlen)
  rw [Bus.putBit, hlow, setSda_low]
  cases v <;> rfl

/-- When `scl` falls behind the eighth bit the chip has a byte. -/
theorem fall_taking (role : ByteRole) {bits : List Bool} (hlen : bits.length = 8) :
    Bus.fall chip ⟨sda, false, .taking role bits, pointer, regs⟩ =
      Bus.takeByte chip role (ofBits bits) ⟨sda, false, .taking role bits, pointer, regs⟩ :=
  if_pos hlen

/-- The bits of a byte reach the chip. -/
theorem foldl_putBit_taking (role : ByteRole) {bits before : List Bool} (sda scl : Bool)
    (hlen : before.length + bits.length ≤ 8) (hne : bits ≠ []) : ∃ last,
    bits.foldl (Bus.putBit chip) ⟨sda, scl, .taking role before, pointer, regs⟩ =
      ⟨last, true, .taking role (before ++ bits), pointer, regs⟩ := by
  -- induction on the bits to come; those before them are with the chip
  induction bits generalizing before sda scl with
  | nil => exact absurd rfl hne
  | cons bit bits ih =>
      rw [List.length_cons] at hlen
      rw [List.foldl_cons, putBit_taking scl role (by omega)]
      by_cases hbits : bits = []
      · exact ⟨bit, by rw [hbits]; rfl⟩
      · obtain ⟨last, hlast⟩ := @ih (before ++ [bit]) bit true
          (by rw [List.length_append, List.length_singleton]; omega) hbits
        refine ⟨last, ?_⟩
        rw [hlast, List.append_assoc, List.singleton_append]

/-- **With the last falling edge the chip has the byte.** -/
theorem byteOut_taking (ack : Bool) (role : ByteRole) (v : UInt8) : ∃ last,
    Bus.byteOut chip ack v ⟨sda, false, .taking role [], pointer, regs⟩ =
      Bus.ackSlot chip ack
        (Bus.takeByte chip role v ⟨last, false, .taking role (topBits 8 v), pointer, regs⟩) := by
  obtain ⟨last, hlast⟩ := @foldl_putBit_taking _ chip pointer regs role
    (topBits 8 v) [] sda false (by simp) (List.cons_ne_nil _ _)
  refine ⟨last, ?_⟩
  have hfall : Bus.setScl chip false ⟨last, true, .taking role (topBits 8 v), pointer, regs⟩ =
      Bus.takeByte chip role v ⟨last, false, .taking role (topBits 8 v), pointer, regs⟩ := by
    show Bus.fall chip ⟨last, false, .taking role (topBits 8 v), pointer, regs⟩ = _
    rw [fall_taking role (length_topBits 8 v), ofBits_topBits]
  rw [Bus.byteOut, hlast, List.nil_append, hfall]

/-- The ninth clock of a byte the chip has taken, whatever the master puts on `sda`. -/
theorem ackSlot_acking (ack : Bool) (role : ByteRole) :
    Bus.ackSlot chip ack ⟨sda, false, .acking (some role), pointer, regs⟩ =
      (false, ⟨ack, false, .taking role [], pointer, regs⟩) := by
  cases ack <;> rfl

/-- **A byte of data is written to the register under the pointer.** -/
theorem byteOut_data (ack : Bool) (v : UInt8) :
    Bus.byteOut chip ack v ⟨sda, false, .taking .data [], pointer, regs⟩ =
      (false, ⟨ack, false, .taking .data [], chip.next pointer, chip.write regs pointer v⟩) := by
  obtain ⟨last, hlast⟩ := @byteOut_taking _ chip sda pointer regs ack .data v
  rw [hlast]
  exact ackSlot_acking ack .data

/-- **The byte behind the address sets the pointer.** -/
theorem byteOut_pointer (ack : Bool) (v : UInt8) :
    Bus.byteOut chip ack v ⟨sda, false, .taking .pointer [], pointer, regs⟩ =
      (false, ⟨ack, false, .taking .data [], v, regs⟩) := by
  obtain ⟨last, hlast⟩ := @byteOut_taking _ chip sda pointer regs ack .pointer v
  rw [hlast]
  exact ackSlot_acking ack .data

/-- The writing address. -/
theorem byteOut_address (ack : Bool) :
    Bus.byteOut chip ack chip.address ⟨sda, false, .taking .address [], pointer, regs⟩ =
      (false, ⟨ack, false, .taking .pointer [], pointer, regs⟩) := by
  obtain ⟨last, hlast⟩ := @byteOut_taking _ chip sda pointer regs ack .address chip.address
  rw [hlast, Bus.takeByte, if_pos rfl]
  exact ackSlot_acking ack .pointer

/-- No writing address is a reading address. -/
theorem ne_readAddress {v : UInt8} (heven : v.toNat % 2 = 0) : v ≠ chip.address + 1 := by
  rintro rfl
  have haddress := chip.address_even
  rw [UInt8.toNat_add] at heven
  change (chip.address.toNat + 1) % 256 % 2 = 0 at heven
  omega

/-- The reading address: the chip begins to send. -/
theorem byteOut_readAddress (ack : Bool) :
    Bus.byteOut chip ack (chip.address + 1) ⟨sda, false, .taking .address [], pointer, regs⟩ =
      (false, ⟨ack, false, .giving (topBits 8 (chip.read regs pointer)), chip.next pointer, regs⟩) := by
  obtain ⟨last, hlast⟩ := @byteOut_taking _ chip sda pointer regs ack .address (chip.address + 1)
  rw [hlast, Bus.takeByte, if_neg (ne_readAddress chip.address_even).symm, if_pos rfl]
  cases ack <;> rfl

/-- The writing address of another chip: nobody acknowledges. -/
theorem byteOut_otherAddress (ack : Bool) {v : UInt8} (heven : v.toNat % 2 = 0)
    (hother : v ≠ chip.address) :
    Bus.byteOut chip ack v ⟨sda, false, .taking .address [], pointer, regs⟩ =
      (ack, ⟨ack, false, .off, pointer, regs⟩) := by
  obtain ⟨last, hlast⟩ := @byteOut_taking _ chip sda pointer regs ack .address v
  rw [hlast, Bus.takeByte, if_neg hother, if_neg (ne_readAddress heven)]
  cases ack <;> rfl

/-! ## A byte from the chip -/

/-- The master clocks `n` bits in. -/
def Bus.readBits (chip : RegisterChip ρ) : ℕ → Bus ρ → List Bool × Bus ρ
  | 0, b => ([], b)
  | n + 1, b =>
      let b := Bus.setScl chip true (Bus.setScl chip false b)
      let answer := Bus.readBits chip n b
      (b.line :: answer.1, answer.2)

/-- A byte and its ninth clock: the master lets `sda` go, clocks eight bits in and answers. -/
def Bus.byteIn (chip : RegisterChip ρ) (answer : Bool) (b : Bus ρ) : UInt8 × Bus ρ :=
  let bits := Bus.readBits chip 8 (Bus.setSda true b)
  (ofBits bits.1, (Bus.ackSlot chip answer (Bus.setScl chip false bits.2)).2)

/-- The master gets the bits of the chip. -/
theorem readBits_giving (bit : Bool) (bits : List Bool) :
    ∃ last, Bus.readBits chip (bits.length + 1) ⟨true, false, .giving (bit :: bits), pointer, regs⟩ =
      (bit :: bits, ⟨true, true, .giving [last], pointer, regs⟩) := by
  -- behind the first bit every turn begins with a falling edge
  have hrun : ∀ (bits : List Bool) (bit : Bool), ∃ last,
      Bus.readBits chip bits.length ⟨true, true, .giving (bit :: bits), pointer, regs⟩ =
        (bits, ⟨true, true, .giving [last], pointer, regs⟩) := by
    intro bits
    induction bits with
    | nil => exact fun bit => ⟨bit, rfl⟩
    | cons next bits ih =>
        intro bit
        obtain ⟨last, hlast⟩ := ih next
        have hedge : Bus.setScl chip true (Bus.setScl chip false
            ⟨true, true, .giving (bit :: next :: bits), pointer, regs⟩) =
            ⟨true, true, .giving (next :: bits), pointer, regs⟩ := rfl
        refine ⟨last, ?_⟩
        rw [List.length_cons, Bus.readBits, hedge, hlast]
        cases next <;> rfl
  obtain ⟨last, hlast⟩ := hrun bits bit
  have hfirst : Bus.setScl chip true (Bus.setScl chip false
      ⟨true, false, .giving (bit :: bits), pointer, regs⟩) =
      ⟨true, true, .giving (bit :: bits), pointer, regs⟩ := rfl
  refine ⟨last, ?_⟩
  rw [Bus.readBits, hfirst, hlast]
  cases bit <;> rfl

/-- The master acknowledges a byte the chip has sent, and the next one comes. -/
theorem ackSlot_asking_false :
    (Bus.ackSlot chip false ⟨sda, false, .asking none, pointer, regs⟩).2 =
      ⟨false, false, .giving (topBits 8 (chip.read regs pointer)), chip.next pointer, regs⟩ := rfl

/-- It does not, and no other one comes. -/
theorem ackSlot_asking_true :
    (Bus.ackSlot chip true ⟨sda, false, .asking none, pointer, regs⟩).2 =
      ⟨true, false, .off, pointer, regs⟩ := rfl

/-- **A byte of the chip arrives**, and what the master answers decides whether another one follows. -/
theorem byteIn_giving (answer : Bool) (v : UInt8) :
    Bus.byteIn chip answer ⟨sda, false, .giving (topBits 8 v), pointer, regs⟩ =
      (v, if answer then ⟨true, false, .off, pointer, regs⟩
        else ⟨false, false, .giving (topBits 8 (chip.read regs pointer)), chip.next pointer, regs⟩) := by
  obtain ⟨last, hlast⟩ := @readBits_giving _ chip pointer regs
    (decide (v &&& 0x80 ≠ 0)) (topBits 7 (v <<< 1))
  have hbits : Bus.readBits chip 8 (Bus.setSda true
      ⟨sda, false, .giving (topBits 8 v), pointer, regs⟩) =
      (topBits 8 v, ⟨true, true, .giving [last], pointer, regs⟩) := by
    rwa [length_topBits] at hlast
  have hlow : Bus.setScl chip false ⟨true, true, .giving [last], pointer, regs⟩ =
      ⟨true, false, .asking none, pointer, regs⟩ := rfl
  rw [Bus.byteIn, hbits]
  dsimp only
  rw [ofBits_topBits, hlow]
  cases answer with
  | false => exact congrArg (Prod.mk v) ackSlot_asking_false
  | true => exact congrArg (Prod.mk v) ackSlot_asking_true

/-! ## Several registers -/

/-- What is written to a chip, register by register. -/
def RegisterChip.writeAll (chip : RegisterChip ρ) (regs : ρ) (writes : List (UInt8 × UInt8)) : ρ :=
  writes.foldl (fun regs w => chip.write regs w.1 w.2) regs

/-- The register `n` places behind another. -/
def RegisterChip.after (chip : RegisterChip ρ) (r : UInt8) (n : ℕ) : UInt8 := chip.next^[n] r

/-- Bytes and the registers from `r` on that they are written to. -/
def RegisterChip.spread (chip : RegisterChip ρ) : UInt8 → List UInt8 → List (UInt8 × UInt8)
  | _, [] => []
  | r, v :: vs => (r, v) :: chip.spread (chip.next r) vs

/-- The first `n` registers from `r` on. -/
def RegisterChip.loadFrom (chip : RegisterChip ρ) (regs : ρ) : UInt8 → ℕ → List UInt8
  | _, 0 => []
  | r, n + 1 => chip.read regs r :: chip.loadFrom regs (chip.next r) n

/-- One register more. -/
theorem loadFrom_succ (r : UInt8) (n : ℕ) :
    chip.loadFrom regs r (n + 1) = chip.loadFrom regs r n ++ [chip.read regs (chip.after r n)] := by
  induction n generalizing r with
  | zero => rfl
  | succ n ih => rw [RegisterChip.loadFrom, ih (chip.next r), RegisterChip.loadFrom]; rfl

/-- **Bytes of data are written to one register after the other.** -/
theorem foldl_byteOut_data (ack : Bool) (vs : List UInt8) : ∃ sda',
    vs.foldl (fun b v => (Bus.byteOut chip ack v b).2) ⟨sda, false, .taking .data [], pointer, regs⟩ =
      ⟨sda', false, .taking .data [], chip.after pointer vs.length,
        chip.writeAll regs (chip.spread pointer vs)⟩ := by
  induction vs generalizing sda pointer regs with
  | nil => exact ⟨sda, rfl⟩
  | cons v vs ih =>
      rw [List.foldl_cons, byteOut_data]
      exact ih

/-- Writing in two goes. -/
theorem writeAll_append (ws ws' : List (UInt8 × UInt8)) :
    chip.writeAll regs (ws ++ ws') = chip.writeAll (chip.writeAll regs ws) ws' :=
  List.foldl_append

end I2cBus
