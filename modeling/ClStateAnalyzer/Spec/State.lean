/-
# ClStateAnalyzer.Spec.State — `AgnosticState`, `Setup` and the per-state queries of `state.go`

The fork-agnostic state (`pkg/spec/state.go`) is one record filled by a fork-specific
constructor. Its slices are lists; an index expression that Go would check is a `?`-lookup, and
a failed lookup is a run-time panic, so every function that indexes returns an `Option`
(`none` is the panic). Go's `for i, x := range xs` loops are folds over `xs.enum`; a loop that may
panic is a `foldlM` in `Option`.

`IsActive` is declared in `pkg/spec` outside `src/`; every definition here takes it as the
parameter `isActive`, so each result holds for any activity predicate.

What the record leaves out: the fields no modelled function reads (`BlockRoots`,
`SyncCommittee`, `EpochStructs`, `PrevAttestations`, `ValAttestationInclusion`,
`AttestedValsPerSlot`). A Go slice is a `List`, with no nil: the decoded beacon state always
carries its validator list, so `Setup`'s `p.Validators == nil` guard is not representable.
-/
import ClStateAnalyzer.Spec.Block
import ClStateAnalyzer.Loop

namespace ClStateAnalyzer.Spec

/-- `phase0.Validator`, with the fields the analyzer reads. -/
structure Validator where
  effectiveBalance : Nat
  activationEpoch : Nat
  exitEpoch : Nat
  slashed : Bool
  deriving Repr, DecidableEq, Inhabited

/-- The fork tag of a beacon state (`spec.DataVersion`). -/
inductive DataVersion
  | phase0 | altair | bellatrix | capella | deneb
  deriving Repr, DecidableEq

/-- `spec.AgnosticState`. Every field defaults to Go's zero value. -/
structure AgnosticState where
  version : DataVersion := .phase0
  balances : List Nat := []
  validators : List Validator := []
  totalActiveBalance : Nat := 0
  totalActiveRealBalance : Nat := 0
  attestingBalance : List Nat := []
  maxAttestingBalance : Nat := 0
  correctFlags : List (List Nat) := []
  attestingVals : List Bool := []
  numAttestingVals : Nat := 0
  numActiveVals : Nat := 0
  epoch : Nat := 0
  slot : Nat := 0
  blockList : List AgnosticBlock := []
  deriving Repr

/-- `ValidatorStatus`, the answer of `GetValStatus`. -/
inductive ValidatorStatus
  | queue | active | exit | slashed
  deriving Repr, DecidableEq

/-- The body both `Balance` methods share, `AgnosticState.Balance` and `AltairSpec.Balance` of
package `custom_spec`: the error branch tests `len(Balances) < valIdx`, then `Balances[valIdx]` is
read. -/
def checkedBalance (balances : List Nat) (slot valIdx : Nat) : Option (Except String Nat) :=
  if balances.length < valIdx then
    some (.error s!"phase0 - validator index {valIdx} wasn't activated in slot {slot}")
  else balances[valIdx]?.map .ok

/-- A checked balance lookup answers the stored balance below the list's length, panics exactly
at the length itself, and returns the error past it. -/
theorem checkedBalance_cases (balances : List Nat) (slot valIdx : Nat) :
    (valIdx < balances.length →
        checkedBalance balances slot valIdx = some (.ok balances[valIdx]!)) ∧
      (checkedBalance balances slot valIdx = none ↔ valIdx = balances.length) ∧
      (balances.length < valIdx → checkedBalance balances slot valIdx =
        some (.error s!"phase0 - validator index {valIdx} wasn't activated in slot {slot}")) := by
  unfold checkedBalance
  refine ⟨fun h => ?_, ?_, fun h => if_pos h⟩
  · rw [if_neg (by omega), List.getElem?_eq_getElem h, getElem!_pos balances valIdx h]
    rfl
  · split
    · simp only [reduceCtorEq, false_iff]
      omega
    · rw [Option.map_eq_none', List.getElem?_eq_none_iff]
      omega

section Queries

variable (isActive : Validator → Nat → Bool)

namespace AgnosticState

/-- `ValsEffectiveBalance`: the effective balance of every validator whose entry in `valList` is
positive, skipping entries past the validator list. -/
def valsEffectiveBalance (p : AgnosticState) (valList : List Nat) : Nat :=
  valList.enum.foldl (fun resultBalance (valIdx, item) =>
    if 0 < item then
      match p.validators[valIdx]? with
      | some val => add64 resultBalance val.effectiveBalance
      | none => resultBalance
    else resultBalance) 0

/-- `GetTotalActiveEffBalance`: one pass over the validators marks the active ones in `val_array`
and recounts `NumActiveVals`; `ValsEffectiveBalance` then sums the marked entries. -/
def getTotalActiveEffBalance (p : AgnosticState) : AgnosticState × Nat :=
  let (valArray, numActiveVals) := p.validators.foldl (fun (acc : List Nat × Nat) val =>
    if isActive val p.epoch then (acc.1 ++ [1], acc.2 + 1) else (acc.1 ++ [0], acc.2)) ([], 0)
  ({ p with numActiveVals := numActiveVals }, p.valsEffectiveBalance valArray)

/-- `GetTotalActiveRealBalance`: the balances of the active validators; `p.Balances[idx]` panics
when the balance list is shorter than the validator list. -/
def getTotalActiveRealBalance (p : AgnosticState) : Option Nat :=
  p.validators.enum.foldlM (fun totalBalance (idx, val) =>
    if isActive val p.epoch then p.balances[idx]?.map (add64 totalBalance)
    else some totalBalance) 0

/-- `Setup`: allocate the per-flag arrays, then compute both active totals. -/
def setup (p : AgnosticState) : Option AgnosticState := do
  let arrayLen := p.validators.length
  let p := { p with
    attestingBalance := List.replicate 3 0
    attestingVals := List.replicate arrayLen false
    correctFlags := List.replicate 3 (List.replicate arrayLen 0) }
  let (p, totalActiveBalance) := getTotalActiveEffBalance isActive p
  let p := { p with totalActiveBalance := totalActiveBalance }
  let totalActiveRealBalance ← getTotalActiveRealBalance isActive p
  pure { p with totalActiveRealBalance := totalActiveRealBalance }

/-- `Balance`: the check on the state's balances and slot. -/
def balance (p : AgnosticState) (valIdx : Nat) : Option (Except String Nat) :=
  checkedBalance p.balances p.slot valIdx

/-- `GetMissingBlocks`: the slots of the state's epoch whose block was missed. -/
def getMissingBlocks (p : AgnosticState) : List Nat :=
  p.blockList.foldl (fun result block => if block.proposed then result else result ++ [block.slot])
    []

/-- `GetActiveVals`: the indices of the validators active at the state's epoch. -/
def getActiveVals (p : AgnosticState) : List Nat :=
  p.validators.enum.foldl (fun result (i, val) =>
    if isActive val p.epoch then result ++ [i] else result) []

/-- `GetAllVals`: every validator index of the state. -/
def getAllVals (p : AgnosticState) : List Nat :=
  p.validators.enum.foldl (fun result (i, _) => result ++ [i]) []

/-- `MissingFlags`: for each flag, whether validator `valIdx` was active in the previous epoch
and has no correct flag. The guard converts the index with Go's `int(valIdx)`; the code tests
`item[valIdx] == 0` twice. -/
def missingFlags (p : AgnosticState) (valIdx : Nat) : Option (List Bool) := do
  let flags0 ← p.correctFlags[0]?
  if flags0.length ≤ goInt valIdx then pure [false, false, false]
  else
    p.correctFlags.enum.foldlM (fun result (i, item) => do
      let val ← p.validators[valIdx]?
      if isActive val (sub64 p.epoch 1) then
        let x ← item[valIdx]?
        if x = 0 then
          if x = 0 then
            let _ ← result[i]?
            pure (result.set i true)
          else pure result
        else pure result
      else pure result) [false, false, false]

/-- `GetMissingFlagCount`: the active validators of the previous epoch with no correct flag at
`flagIndex` (0 source, 1 target, 2 head). -/
def getMissingFlagCount (p : AgnosticState) (flagIndex : Nat) : Option Nat := do
  let flags ← p.correctFlags[flagIndex]?
  flags.enum.foldlM (fun result (idx, item) => do
    let val ← p.validators[idx]?
    pure (if isActive val (sub64 p.epoch 1) ∧ item = 0 then result + 1 else result)) 0

/-- `GetValStatus`. -/
def getValStatus (p : AgnosticState) (valIdx : Nat) : Option ValidatorStatus := do
  let val ← p.validators[valIdx]?
  pure <|
    if val.exitEpoch ≤ p.epoch then .exit
    else if val.slashed then .slashed
    else if val.activationEpoch ≤ p.epoch then .active
    else .queue

end AgnosticState

/-! ## Altair participation and the fork constructors -/

/-- One visit of `ProcessAltairAttestations`' inner loop: validator `valIndex` with participation
byte `item`, for flag index `f`. The mask is `2^f`, which `math.Pow(2, f)` computes exactly. -/
def processFlag (f : Nat) (customState : AgnosticState) (valIndex item : Nat) :
    Option AgnosticState :=
  if item &&& 2 ^ f = 2 ^ f then do
    let flags ← customState.correctFlags[f]?
    let correct ← flags[valIndex]?
    let attestingBalance ← customState.attestingBalance[f]?
    let val ← customState.validators[valIndex]?
    let attested ← customState.attestingVals[valIndex]?
    pure { customState with
      correctFlags := customState.correctFlags.set f (flags.set valIndex (correct + 1))
      attestingBalance :=
        customState.attestingBalance.set f (add64 attestingBalance val.effectiveBalance)
      numAttestingVals :=
        if attested then customState.numAttestingVals else customState.numAttestingVals + 1
      maxAttestingBalance :=
        if attested then customState.maxAttestingBalance else val.effectiveBalance
      attestingVals := customState.attestingVals.set valIndex true }
  else pure customState

/-- `ProcessAltairAttestations`: for the flag indices 0 (source), 1 (target) and 2 (head), visit
every validator's previous-epoch participation byte. -/
def processAltairAttestations (customState : AgnosticState) (participation : List Nat) :
    Option AgnosticState :=
  [0, 1, 2].foldlM (fun customState participatingFlag =>
    participation.enum.foldlM (fun customState (valIndex, item) =>
      processFlag participatingFlag customState valIndex item) customState) customState

/-- The fields of a Phase0 beacon state the constructor copies. -/
structure Phase0BeaconState where
  slot : Nat
  balances : List Nat
  validators : List Validator
  deriving Repr

/-- The fields of an Altair, Bellatrix or Capella beacon state the constructors copy; the three
Go types agree on them. -/
structure AltairBeaconState where
  slot : Nat
  balances : List Nat
  validators : List Validator
  previousEpochParticipation : List Nat
  deriving Repr

/-- `spec.VersionedBeaconState`: one fork's state under its fork tag. -/
inductive VersionedBeaconState
  | phase0 (state : Phase0BeaconState)
  | altair (state : AltairBeaconState)
  | bellatrix (state : AltairBeaconState)
  | capella (state : AltairBeaconState)
  | deneb (state : AltairBeaconState)
  deriving Repr

/-- `NewPhase0State`: copy the raw fields, then `Setup` (its error is discarded). -/
def newPhase0State (bstate : Phase0BeaconState) : Option AgnosticState :=
  AgnosticState.setup isActive
    { version := .phase0, balances := bstate.balances, validators := bstate.validators,
      epoch := bstate.slot / slotsPerEpoch, slot := bstate.slot }

/-- The shared body of `NewAltairState`, `NewBellatrixState` and `NewCapellaState`: copy the raw
fields, `Setup`, then `ProcessAltairAttestations` over the previous-epoch participation. -/
def newParticipationState (version : DataVersion) (bstate : AltairBeaconState) :
    Option AgnosticState := do
  let obj ← AgnosticState.setup isActive
    { version := version, balances := bstate.balances, validators := bstate.validators,
      epoch := bstate.slot / slotsPerEpoch, slot := bstate.slot }
  processAltairAttestations obj bstate.previousEpochParticipation

/-- `NewAltairState`. -/
def newAltairState : AltairBeaconState → Option AgnosticState :=
  newParticipationState isActive .altair

/-- `NewBellatrixState`. -/
def newBellatrixState : AltairBeaconState → Option AgnosticState :=
  newParticipationState isActive .bellatrix

/-- `NewCapellaState`. -/
def newCapellaState : AltairBeaconState → Option AgnosticState :=
  newParticipationState isActive .capella

/-- `GetCustomState`: dispatch on the fork tag; a fork past Capella is an error. -/
def getCustomState : VersionedBeaconState → Option (Except String AgnosticState)
  | .phase0 s => (newPhase0State isActive s).map .ok
  | .altair s => (newAltairState isActive s).map .ok
  | .bellatrix s => (newBellatrixState isActive s).map .ok
  | .capella s => (newCapellaState isActive s).map .ok
  | .deneb _ => some (.error "could not figure out the Beacon State Fork Version: deneb")

end Queries

end ClStateAnalyzer.Spec
