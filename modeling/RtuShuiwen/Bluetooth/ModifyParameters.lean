import RtuShuiwen.Library.TransitionSystem
import RtuShuiwen.Protocol.ParameterUpdate

/-! # Changing the station address over Bluetooth

`modify_rtu_parameters` puts the new address into the global `g_rtu_parameters` and writes all of it to
the flash. Nothing loads the stored block into that global, and `SetParameters` writes the flash past
it, so a change of the address also writes back whatever the global holds: zeros since power-up.
**`addressChange_iff`** gives the runs in which every change touches the address only. -/

namespace RtuShuiwen

open ByteLayout TransitionSystem

/-! ## Bluetooth commands -/

/-- `BT_MODIFY_RTU_PARAMETERS_FUNID`. -/
def btModifyRtuParametersFunid : UInt8 := 0x42

/-- `REMOTE_ADDR_GUIDE_ID`. -/
def btRemoteAddrGuideId : UInt8 := 0xF2

/-- The address in a frame, behind its guide identifier and length. -/
def btRemoteAddr (buff : List UInt8) : Vector UInt8 5 := (split 5 (buff.drop 8)).1

/-- The parameter block in the flash and the global copy of it. -/
structure ParameterImages where
  store : StoreState
  gRtuParameters : RtuOperationParameters

/-- `modify_rtu_parameters`. -/
def modifyRtuParameters (buff : List UInt8) (s : ParameterImages) : ParameterImages :=
  -- the guide identifier stands behind the header of six bytes
  if buff.getD 6 0 = btRemoteAddrGuideId then
    let gRtuParameters := { s.gRtuParameters with rtuRemoteAddr := btRemoteAddr buff }
    { gRtuParameters, store := rtuParametersWritedata gRtuParameters s.store }
  else s

/-- `Execute_commanad`, for what it does to the parameters. -/
def executeCommanad (buff : List UInt8) (funId : UInt8) (s : ParameterImages) : ParameterImages :=
  if funId = btModifyRtuParametersFunid then modifyRtuParameters buff s else s

/-! ## Runs -/

/-- What happens to the parameters: the station starts, a frame arrives over the serial line when the
stack holds `writeParameters`, or a command arrives over Bluetooth. -/
inductive ParameterEvent
  | powerUp
  | setParameters (writeParameters : RtuOperationParameters) (frame : SetparameterDownmessage)
  | bluetooth (buff : List UInt8)

/-- An address change, with the block stored just before it and the address in its frame. -/
structure AddressChange where
  before : RtuOperationParameters
  remoteAddr : Vector UInt8 5

/-- The two images of the parameters, and what the last event was if it was an address change. -/
structure ParameterState extends ParameterImages where
  change : Option AddressChange

/-- A command that asks for another address. -/
def IsAddressChange (buff : List UInt8) : Prop :=
  buff.getD 2 0 = btModifyRtuParametersFunid ∧ buff.getD 6 0 = btRemoteAddrGuideId

instance (buff : List UInt8) : Decidable (IsAddressChange buff) := by
  unfold IsAddressChange; infer_instance

/-- The global after power-up: it is static, and the call of `RTU_Operation_parameter_init` in `main`
is commented out. -/
def gRtuParametersStart : RtuOperationParameters := .ofBytes []

/-- The change that a command makes, if it makes one. -/
def changeOf (buff : List UInt8) (st : StoreState) : Option AddressChange :=
  if IsAddressChange buff then some ⟨rtuParametersReaddata st, btRemoteAddr buff⟩ else none

/-- One event. -/
def ParameterState.step (s : ParameterState) : ParameterEvent → Option ParameterState
  | .powerUp => some ⟨⟨s.store, gRtuParametersStart⟩, none⟩
  | .setParameters writeParameters frame =>
      some ⟨⟨setParameters writeParameters frame s.store, s.gRtuParameters⟩, none⟩
  | .bluetooth buff =>
      some ⟨executeCommanad buff (buff.getD 2 0) s.toParameterImages, changeOf buff s.store⟩

/-- A station that starts with some flash. -/
def ParameterState.start (st : StoreState) : ParameterState := ⟨⟨st, gRtuParametersStart⟩, none⟩

/-- **The last address change touched nothing else**: the stored block is the one from before with the
address of the frame in it. -/
def ParameterState.ChangedOnlyAddress (s : ParameterState) : Prop :=
  ∀ change ∈ s.change, rtuParametersReaddata s.store =
    { change.before with rtuRemoteAddr := change.remoteAddr }

/-- All of a block but the address is zero. -/
def RtuOperationParameters.BlankButAddress (p : RtuOperationParameters) : Prop :=
  p = { gRtuParametersStart with rtuRemoteAddr := p.rtuRemoteAddr }

/-- Before an address change nothing but the address is stored. -/
def ChangeFindsBlank (s : ParameterState) : ParameterEvent → Prop
  | .bluetooth buff => IsAddressChange buff → (rtuParametersReaddata s.store).BlankButAddress
  | _ => True

/-! ## What a step does -/

/-- A command that asks for no address change leaves both images. -/
theorem executeCommanad_of_not {buff : List UInt8} (h : ¬ IsAddressChange buff) (s : ParameterImages) :
    executeCommanad buff (buff.getD 2 0) s = s := by
  unfold executeCommanad modifyRtuParameters
  by_cases hfun : buff.getD 2 0 = btModifyRtuParametersFunid
  · rw [if_pos hfun, if_neg fun hguide => h ⟨hfun, hguide⟩]
  · rw [if_neg hfun]

/-- **An address change writes the global over the stored block.** -/
theorem executeCommanad_of_isAddressChange {buff : List UInt8} (h : IsAddressChange buff)
    (s : ParameterImages) :
    (executeCommanad buff (buff.getD 2 0) s).gRtuParameters =
        { s.gRtuParameters with rtuRemoteAddr := btRemoteAddr buff } ∧
      rtuParametersReaddata (executeCommanad buff (buff.getD 2 0) s).store =
        { s.gRtuParameters with rtuRemoteAddr := btRemoteAddr buff } := by
  obtain ⟨hfun, hguide⟩ := h
  unfold executeCommanad modifyRtuParameters
  rw [if_pos hfun, if_pos hguide]
  exact ⟨rfl, rtuParametersReaddata_writedata _ _⟩

/-- The invariant: the global holds nothing but an address, and the last change was right. -/
structure ParameterState.Inv (s : ParameterState) : Prop where
  /-- Nothing but the address is ever put into the global. -/
  blank : s.gRtuParameters.BlankButAddress
  /-- The last change touched the address only. -/
  changed : s.ChangedOnlyAddress

/-- The global keeps holding nothing but an address. -/
theorem blank_step {s s' : ParameterState} {e : ParameterEvent}
    (hblank : s.gRtuParameters.BlankButAddress) (hstep : s.step e = some s') :
    s'.gRtuParameters.BlankButAddress := by
  cases e with
  | powerUp =>
      obtain rfl := Option.some.inj hstep
      exact rfl
  | setParameters writeParameters frame =>
      obtain rfl := Option.some.inj hstep
      exact hblank
  | bluetooth buff =>
      obtain rfl := Option.some.inj hstep
      show RtuOperationParameters.BlankButAddress
        (executeCommanad buff (buff.getD 2 0) s.toParameterImages).gRtuParameters
      by_cases hchange : IsAddressChange buff
      · rw [(executeCommanad_of_isAddressChange hchange s.toParameterImages).1, hblank]
        rfl
      · rw [executeCommanad_of_not hchange]
        exact hblank

/-- **An address change touches the address only just when nothing else was stored.** -/
theorem changedOnlyAddress_iff {s s' : ParameterState} {e : ParameterEvent}
    (hblank : s.gRtuParameters.BlankButAddress) (hstep : s.step e = some s') :
    s'.ChangedOnlyAddress ↔ ChangeFindsBlank s e := by
  cases e with
  | powerUp =>
      obtain rfl := Option.some.inj hstep
      exact iff_of_true nofun trivial
  | setParameters writeParameters frame =>
      obtain rfl := Option.some.inj hstep
      exact iff_of_true nofun trivial
  | bluetooth buff =>
      obtain rfl := Option.some.inj hstep
      by_cases hchange : IsAddressChange buff
      · have hwritten := (executeCommanad_of_isAddressChange hchange s.toParameterImages).2
        have hlast : changeOf buff s.store =
            some ⟨rtuParametersReaddata s.store, btRemoteAddr buff⟩ := if_pos hchange
        rw [hblank] at hwritten
        unfold ParameterState.ChangedOnlyAddress ChangeFindsBlank
        simp only [hwritten, hlast, Option.mem_some_iff, forall_eq', hchange, true_imp_iff]
        constructor
        · -- with the address of the stored block put back, both sides agree
          intro h
          exact (congrArg (fun p : RtuOperationParameters =>
            { p with rtuRemoteAddr := (rtuParametersReaddata s.store).rtuRemoteAddr }) h).symm
        · intro h
          exact (congrArg (fun p : RtuOperationParameters =>
            { p with rtuRemoteAddr := btRemoteAddr buff }) h).symm
      · have hlast : changeOf buff s.store = none := if_neg hchange
        refine iff_of_true ?_ fun h => absurd h hchange
        unfold ParameterState.ChangedOnlyAddress
        simp only [hlast]
        exact nofun

/-- **In which runs every address change touches the address only**: those in which nothing but the
address is stored when a change comes. -/
theorem addressChange_iff (st : StoreState) (events : List ParameterEvent) :
    AllReached ParameterState.step ParameterState.ChangedOnlyAddress (.start st) events ↔
      StepsMeet ParameterState.step ChangeFindsBlank (.start st) events := by
  have hstart : (ParameterState.start st).Inv := ⟨rfl, nofun⟩
  refine allReached_iff_stepsMeet (fun s hinv => hinv.changed) ?_ ?_ hstart events
  · intro s e s' hinv hmeets hstep
    exact ⟨blank_step hinv.blank hstep, (changedOnlyAddress_iff hinv.blank hstep).mpr hmeets⟩
  · intro s e s' hinv hmeets hstep h
    exact hmeets ((changedOnlyAddress_iff hinv.blank hstep).mp h)

/-- A change of the address to 00 12 34 56 78. -/
def addressFrame : List UInt8 :=
  [0x7E, 0x7E, 0x42, 0x80, 0x07, 0x02, 0xF2, 0x28, 0x00, 0x12, 0x34, 0x56, 0x78, 0x0D, 0x0A]

/-- After the base value of the water level was set to 1 metre, a change of the address sets it back to
zero. -/
theorem addressFrame_not_changedOnlyAddress :
    ¬ AllReached ParameterState.step ParameterState.ChangedOnlyAddress (.start baseValueStore)
      [.powerUp, .bluetooth addressFrame] := by
  intro h
  have hblank : (ParameterState.start baseValueStore).gRtuParameters.BlankButAddress := rfl
  have hlast := (h.2 _ rfl).2 _ rfl
  have hmeets : ChangeFindsBlank (.start baseValueStore) (.bluetooth addressFrame) :=
    (changedOnlyAddress_iff hblank rfl).mp hlast
  have hstored := hmeets (by decide)
  rw [ParameterState.start, baseValueStore, rtuParametersReaddata_writedata] at hstored
  exact absurd (congrArg RtuOperationParameters.waterlevelBasevalue1 hstored) (by decide)

end RtuShuiwen
