/-
# ClStateAnalyzer.Spec.Block — the fork-agnostic block and the rows cut from it

`spec.AgnosticBlock` and the block-content records live in `pkg/spec`, whose declarations are not
under `src/`; their fields are taken from the places in `src/` that read or build them
(`ProcessBlock`, `processWithdrawals`, `processDeposits`, `processBLSToExecutionChanges`,
`CheckFinalized`, `Reorg`, `GetMissingBlocks`). Byte strings (roots, keys, addresses,
signatures) are compared only for equality, so they are `Nat` here.

Each persisted record keeps the `Slot` column the drop queries select on. Records that come from
functions outside `src/` (`ParseTransactionsFromBlock`, `RequestBlobSidecars`) keep only that
column.
-/
import ClStateAnalyzer.Word

namespace ClStateAnalyzer.Spec

/-- A withdrawal as the execution payload carries it (`capella.Withdrawal`). -/
structure WithdrawalItem where
  index : Nat
  validatorIndex : Nat
  address : Nat
  amount : Nat
  deriving Repr, DecidableEq

/-- The deposit data of a block deposit (`phase0.Deposit.Data`). -/
structure DepositItem where
  publicKey : Nat
  withdrawalCredentials : Nat
  amount : Nat
  signature : Nat
  deriving Repr, DecidableEq

/-- A signed BLS-to-execution change's message (`capella.BLSToExecutionChange`). -/
structure BLSToExecutionChangeItem where
  validatorIndex : Nat
  fromBLSPubkey : Nat
  toExecutionAddress : Nat
  deriving Repr, DecidableEq

/-- The execution payload fields the analyzer reads. -/
structure ExecutionPayload where
  blockNumber : Nat
  timestamp : Nat
  withdrawals : List WithdrawalItem
  deriving Repr, DecidableEq

/-- `spec.AgnosticBlock`: a downloaded block, or the zero block of a missed slot
(`proposed = false`). -/
structure AgnosticBlock where
  slot : Nat
  proposerIndex : Nat
  proposed : Bool
  stateRoot : Nat
  deposits : List DepositItem
  blsToExecutionChanges : List BLSToExecutionChangeItem
  executionPayload : ExecutionPayload
  deriving Repr, DecidableEq

/-- `spec.Withdrawal`, the persisted withdrawal row. -/
structure Withdrawal where
  slot : Nat
  index : Nat
  validatorIndex : Nat
  address : Nat
  amount : Nat
  deriving Repr, DecidableEq

/-- `spec.Deposit`, the persisted deposit row; `index` is Go's `uint8(i)`. -/
structure Deposit where
  slot : Nat
  publicKey : Nat
  withdrawalCredentials : Nat
  amount : Nat
  signature : Nat
  index : Nat
  deriving Repr, DecidableEq

/-- `spec.BLSToExecutionChange`, the persisted BLS-to-execution change row. -/
structure BLSToExecutionChange where
  slot : Nat
  epoch : Nat
  validatorIndex : Nat
  fromBLSPublicKey : Nat
  toExecutionAddress : Nat
  deriving Repr, DecidableEq

/-- `spec.AgnosticTransaction`, built by `ParseTransactionsFromBlock` (outside `src/`). -/
structure AgnosticTransaction where
  slot : Nat
  deriving Repr, DecidableEq

/-- A blob sidecar as `RequestBlobSidecars` (outside `src/`) returns it. -/
structure BlobSidecar where
  slot : Nat
  deriving Repr, DecidableEq

/-- Modelled from the spec: `spec.EpochAtSlot`, declared outside `src/` ("`epoch = slot /
SLOTS_PER_EPOCH`"). -/
def epochAtSlot (slot : Nat) : Nat := slot / slotsPerEpoch

end ClStateAnalyzer.Spec
