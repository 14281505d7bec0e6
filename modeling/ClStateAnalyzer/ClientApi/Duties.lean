/-
# ClStateAnalyzer.ClientApi.Duties — the duties of an epoch, and the block of a missed slot

`NewEpochDuties` (`pkg/clientapi`) asks the beacon node for the committees at the last slot of an
epoch and for the epoch's proposer duties. It then builds `ValidatorAttSlot`, the slot at which each
validator attests, by assigning `validatorsAttSlot[valID] = committee.Slot` for every validator of
every committee. `CreateMissingBlock` (package `blocks`) fills a missed slot's block with the
proposer whose duty names that slot.

Both loops overwrite: a validator listed by several committees attests at the slot of the last
one, and a slot named by several duties gets the validator of the last one. The closed forms below
say so with `find?` over the reversed lists.

The arithmetic is Go's. The epoch's last slot is `epoch * 32 + 31` in `uint64` and wraps from epoch
`2^59` on. The committees are requested by the state id `strconv.Itoa(int(slot))`, which reads
negative from slot `2^63` on; the state id is that `int` here, since `strconv.Itoa` is injective.
The duties are requested for `slot / 32`. In `CreateMissingBlock` the slot is an `int`: the epoch is
`phase0.Epoch(slot / 32)`, truncated division converted to `uint64`, and the proposer index
travels as `int(duty.ValidatorIndex)` before `uint64(...)` converts it back.

A failed request is logged and its result, `nil` for the client's calls, is used as an empty list.
A Go map is modelled by its lookup. `validatorsPerSlot`, which `NewEpochDuties` fills but does not
return, is left out, as are the zero-valued fields of the missed block (`Attestations`, `Deposits`,
`Graffiti` are its only others, all nil or zero).
-/
import ClStateAnalyzer.Word

namespace ClStateAnalyzer.ClientApi

/-- A proposer duty (`apiv1.ProposerDuty`), with the fields read here. -/
structure ProposerDuty where
  slot : Nat
  validatorIndex : Nat
  deriving Repr, DecidableEq

/-- A beacon committee (`apiv1.BeaconCommittee`), with the fields read here. -/
structure BeaconCommittee where
  slot : Nat
  validators : List Nat
  deriving Repr, DecidableEq

/-- The two requests of the beacon-node API the duties come from, `none` for an error: committees
by state id, proposer duties by epoch. -/
structure DutiesApi where
  beaconCommittees : Int → Option (List BeaconCommittee)
  proposerDuties : Nat → Option (List ProposerDuty)

/-- `spec.EpochDuties`, with `ValidatorAttSlot` as the lookup of its map. -/
structure EpochDuties where
  proposerDuties : List ProposerDuty
  beaconCommittees : List BeaconCommittee
  validatorAttSlot : Nat → Option Nat

/-- The assignment loop over one committee: `validatorsAttSlot[valID] = committee.Slot`. -/
def assignCommittee (m : Nat → Option Nat) (committee : BeaconCommittee) : Nat → Option Nat :=
  committee.validators.foldl (fun m valID => fun v => if v = valID then some committee.slot else m v) m

/-- `NewEpochDuties`. -/
def newEpochDuties (api : DutiesApi) (epoch : Nat) : EpochDuties :=
  let slot := add64 (mul64 epoch slotsPerEpoch) (slotsPerEpoch - 1)
  let epochCommittees := (api.beaconCommittees (goInt slot)).getD []
  let validatorsAttSlot := epochCommittees.foldl assignCommittee fun _ => none
  let proposerDuties := (api.proposerDuties (slot / slotsPerEpoch)).getD []
  { proposerDuties := proposerDuties, beaconCommittees := epochCommittees,
    validatorAttSlot := validatorsAttSlot }

/-! ## The attestation slot map -/

theorem assignCommittee_apply (m : Nat → Option Nat) (committee : BeaconCommittee) (v : Nat) :
    assignCommittee m committee v = if v ∈ committee.validators then some committee.slot else m v := by
  unfold assignCommittee
  induction committee.validators generalizing m with
  | nil => simp
  | cons valID rest ih =>
    rw [List.foldl_cons, ih]
    by_cases hr : v ∈ rest
    · simp [hr]
    · by_cases hv : v = valID <;> simp [hr, hv]

/-- The loop over the committees, from any map: a validator gets the slot of the last committee
that lists it, and keeps its old entry when none does. -/
theorem foldl_assignCommittee (committees : List BeaconCommittee) (m : Nat → Option Nat) (v : Nat) :
    committees.foldl assignCommittee m v =
      ((committees.reverse.find? fun c => v ∈ c.validators).map (·.slot)).or (m v) := by
  induction committees generalizing m with
  | nil => simp
  | cons c rest ih =>
    rw [List.foldl_cons, ih, assignCommittee_apply, List.reverse_cons, List.find?_append,
      List.find?_singleton]
    cases rest.reverse.find? fun c => v ∈ c.validators <;> by_cases hv : v ∈ c.validators <;> simp [hv]

/-- `NewEpochDuties` requests the proposer duties of epoch `epoch mod 2^59` and the committees at
the state id `int(epoch * 32 + 31)`, both in `uint64`; below epoch `2^58` the state id is the
epoch's last slot and the duties are the epoch's own. It returns what the node answered (nothing
for a failed request), and `ValidatorAttSlot` maps each validator to the slot of the last committee
that lists it. -/
theorem newEpochDuties_eq (api : DutiesApi) (epoch : Nat) :
    newEpochDuties api epoch =
      { proposerDuties := (api.proposerDuties (epoch % 2 ^ 59)).getD []
        beaconCommittees := (api.beaconCommittees (goInt ((epoch * 32 + 31) % 2 ^ 64))).getD []
        validatorAttSlot := fun v =>
          (((api.beaconCommittees (goInt ((epoch * 32 + 31) % 2 ^ 64))).getD []).reverse.find?
            fun c => v ∈ c.validators).map (·.slot) } ∧
      (epoch < 2 ^ 58 → goInt ((epoch * 32 + 31) % 2 ^ 64) = ↑(epoch * 32 + 31) ∧
        epoch % 2 ^ 59 = epoch) := by
  have hslot : add64 (mul64 epoch 32) (32 - 1) = (epoch * 32 + 31) % 2 ^ 64 := by
    simp only [add64, mul64]
    omega
  refine ⟨?_, fun h58 => ⟨?_, Nat.mod_eq_of_lt (by omega)⟩⟩
  · simp only [newEpochDuties, slotsPerEpoch_eq, hslot]
    rw [show (epoch * 32 + 31) % 2 ^ 64 / 32 = epoch % 2 ^ 59 by omega]
    congr 1
    funext v
    rw [foldl_assignCommittee, Option.or_none]
  · rw [Nat.mod_eq_of_lt (by omega), goInt_of_lt (by omega)]

/-- Validator `2` sits in the committees of slots `35` and `37`: it attests at `37`. -/
example : (newEpochDuties ⟨fun _ => some [⟨35, [1, 2]⟩, ⟨37, [2]⟩], fun e => some [⟨e * 32, 7⟩]⟩
    1).validatorAttSlot 2 = some 37 := by
  decide

end ClStateAnalyzer.ClientApi

namespace ClStateAnalyzer.Blocks

open ClientApi

/-- `fork_block.ForkBlockContentBase`, with the fields `CreateMissingBlock` sets to other than
their zero value. -/
structure ForkBlockContentBase where
  slot : Nat
  proposerIndex : Nat
  deriving Repr, DecidableEq

/-- `BlockAnalyzer.CreateMissingBlock`, given the node's proposer duties by epoch. -/
def createMissingBlock (proposerDuties : Nat → Option (List ProposerDuty)) (slot : Int) :
    ForkBlockContentBase :=
  let proposerValIdx : Int :=
    match proposerDuties (uint64OfInt (slot.tdiv 32)) with
    | none => 0
    | some duties => duties.foldl (fun proposerValIdx duty =>
        if duty.slot = uint64OfInt slot then goInt duty.validatorIndex else proposerValIdx) 0
  { slot := uint64OfInt slot, proposerIndex := uint64OfInt proposerValIdx }

/-- The duty scan, from any index: the last duty at the slot wins, and the index stays when no duty
names the slot. -/
theorem foldl_dutyScan (duties : List ProposerDuty) (s : Nat) (idx : Int) :
    duties.foldl (fun proposerValIdx duty =>
        if duty.slot = s then goInt duty.validatorIndex else proposerValIdx) idx =
      ((duties.reverse.find? fun d => d.slot = s).map fun d => goInt d.validatorIndex).getD idx := by
  induction duties generalizing idx with
  | nil => rfl
  | cons d rest ih =>
    rw [List.foldl_cons, ih, List.reverse_cons, List.find?_append, List.find?_singleton]
    cases hr : rest.reverse.find? fun d => d.slot = s
    · by_cases hd : d.slot = s <;> simp [hd]
    · rfl

/-- For every slot `0 ≤ slot < 2^63`, `CreateMissingBlock` builds the block of that slot whose
proposer is the validator of the last duty naming the slot, among the duties of epoch `slot / 32`;
it is `0` when the request fails or no duty names the slot. The `int` round trip of the index
loses nothing. -/
theorem createMissingBlock_eq (proposerDuties : Nat → Option (List ProposerDuty)) {slot : Nat}
    (hs : slot < 2 ^ 63)
    (hv : ∀ duties, proposerDuties (slot / 32) = some duties →
      ∀ d ∈ duties, d.validatorIndex < 2 ^ 64) :
    createMissingBlock proposerDuties slot =
      { slot := slot
        proposerIndex := ((proposerDuties (slot / 32)).bind fun duties =>
          (duties.reverse.find? fun d => d.slot = slot).map (·.validatorIndex)).getD 0 } := by
  have hepoch : uint64OfInt ((slot : Int).tdiv 32) = slot / 32 := by
    show uint64OfInt ((slot / 32 : Nat) : Int) = slot / 32
    exact uint64OfInt_ofNat (by omega)
  have hslot : uint64OfInt slot = slot := uint64OfInt_ofNat (by omega)
  simp only [createMissingBlock, hepoch, hslot, ForkBlockContentBase.mk.injEq, true_and]
  cases hd : proposerDuties (slot / 32) with
  | none => rfl
  | some duties =>
    simp only [foldl_dutyScan, Option.some_bind]
    cases hf : duties.reverse.find? fun d => d.slot = slot with
    | none => rfl
    | some d =>
      exact uint64OfInt_goInt (hv duties hd d (List.mem_reverse.mp (List.mem_of_find?_eq_some hf)))

/-- Two duties name slot `3`: the block of the missed slot `3` gets the validator of the later. -/
theorem createMissingBlock_eq_at_three :
    3 < 2 ^ 63 ∧
      (∀ duties, (fun _ => some [⟨3, 9⟩, ⟨3, 11⟩, ⟨4, 12⟩] : Nat → Option (List ProposerDuty)) (3 / 32)
          = some duties → ∀ d ∈ duties, d.validatorIndex < 2 ^ 64) ∧
      createMissingBlock (fun _ => some [⟨3, 9⟩, ⟨3, 11⟩, ⟨4, 12⟩]) (3 : Nat) =
        { slot := 3
          proposerIndex := (((fun _ => some [⟨3, 9⟩, ⟨3, 11⟩, ⟨4, 12⟩] :
              Nat → Option (List ProposerDuty)) (3 / 32)).bind fun duties =>
            (duties.reverse.find? fun d => d.slot = 3).map (·.validatorIndex)).getD 0 } := by
  have hv : ∀ duties, (fun _ => some [⟨3, 9⟩, ⟨3, 11⟩, ⟨4, 12⟩] : Nat → Option (List ProposerDuty))
      (3 / 32) = some duties → ∀ d ∈ duties, d.validatorIndex < 2 ^ 64 := by
    intro duties h d hd
    obtain rfl := (Option.some.inj h).symm
    simp only [List.mem_cons, List.mem_nil_iff, or_false] at hd
    rcases hd with rfl | rfl | rfl <;> decide
  exact ⟨by decide, hv, createMissingBlock_eq _ (by decide) hv⟩

end ClStateAnalyzer.Blocks
