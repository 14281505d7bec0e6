/-
# ClStateAnalyzer.Db.Store — persisted rows and the drop markers that delete them

The analyzer hands every fact it derives to `dbClient.Persist` as a `Persistable`: a row of some
table, or a drop marker (`BlockDropType`, `TransactionDropType`, `WithdrawalDropType`,
`EpochDropType`, `ProposerDutiesDropType`, `ValidatorRewardsDropType`) that deletes rows. The
database executes them in arrival order; here the database is the list of rows it holds, and
`persistAll` executes a batch.

Each row keeps only the column a drop query selects on. Of the drop queries only
`DropTransactionsQuery` is under `src/` (`WHERE f_slot = $1`); the others are modelled from the
spec, which says a drop marker deletes its table's rows "from slot/epoch onward" and that "a drop
of validator rewards from `epoch` deletes rows with recorded epoch ≥ `epoch`".

The one fact every later proof uses is `mem_persistAll`: a row that survives a batch was either
already stored and deleted by no marker of the batch, or is a row the batch itself adds.
-/
import ClStateAnalyzer.Spec.Block

namespace ClStateAnalyzer.Db

open Spec

/-- A row of the analyzer's database, by table. -/
inductive Row
  | block (b : AgnosticBlock)
  | withdrawal (w : Withdrawal)
  | transaction (t : AgnosticTransaction)
  | deposit (d : Deposit)
  | blsToExecutionChange (c : BLSToExecutionChange)
  | blobSidecar (b : BlobSidecar)
  | epoch (epoch : Nat)
  | proposerDuty (epoch : Nat)
  | validatorRewards (validatorIndex : Nat) (epoch : Nat)
  | orphanBlock (b : AgnosticBlock)
  | reorg (slot : Nat) (depth : Nat)
  | finalizedCheckpoint (epoch : Nat)
  deriving Repr, DecidableEq

/-- What `dbClient.Persist` accepts: a row, or a drop marker with its slot or epoch. -/
inductive Persistable
  | row (r : Row)
  | blockDrop (slot : Nat)
  | transactionDrop (slot : Nat)
  | withdrawalDrop (slot : Nat)
  | epochDrop (epoch : Nat)
  | proposerDutiesDrop (epoch : Nat)
  | validatorRewardsDrop (epoch : Nat)
  deriving Repr, DecidableEq

/-- The slot column of the block-scoped tables, the ones `ProcessBlock` writes. -/
def Row.blockSlot? : Row → Option Nat
  | .block b => some b.slot
  | .withdrawal w => some w.slot
  | .transaction t => some t.slot
  | .deposit d => some d.slot
  | .blsToExecutionChange c => some c.slot
  | .blobSidecar b => some b.slot
  | _ => none

/-- The block-scoped tables that no drop marker type exists for. -/
def Row.undroppable : Row → Bool
  | .deposit _ | .blsToExecutionChange _ | .blobSidecar _ => true
  | _ => false

/-- Whether executing `p` deletes row `r`. `transactionDrop` follows `DropTransactionsQuery`
(`WHERE f_slot = $1`); the other markers are modelled from the spec ("drop from slot/epoch
onward"). -/
def Persistable.deletes : Persistable → Row → Bool
  | .blockDrop s, .block b => decide (s ≤ b.slot)
  | .transactionDrop s, .transaction t => decide (t.slot = s)
  | .withdrawalDrop s, .withdrawal w => decide (s ≤ w.slot)
  | .epochDrop e, .epoch e' => decide (e ≤ e')
  | .proposerDutiesDrop e, .proposerDuty e' => decide (e ≤ e')
  | .validatorRewardsDrop e, .validatorRewards _ e' => decide (e ≤ e')
  | _, _ => false

/-- The rows a persistable adds. -/
def Persistable.adds : Persistable → List Row
  | .row r => [r]
  | _ => []

/-- Execute one persistable against the stored rows. -/
def execute (store : List Row) (p : Persistable) : List Row :=
  store.filter (fun r => !p.deletes r) ++ p.adds

/-- Execute a batch of persistables in arrival order. -/
def persistAll (store : List Row) (ps : List Persistable) : List Row :=
  ps.foldl execute store

@[simp] theorem persistAll_nil (store : List Row) : persistAll store [] = store := rfl

@[simp] theorem persistAll_cons (store : List Row) (p : Persistable) (ps : List Persistable) :
    persistAll store (p :: ps) = persistAll (execute store p) ps := rfl

@[simp] theorem row_deletes (r r' : Row) : (Persistable.row r).deletes r' = false := by
  cases r' <;> rfl

/-- A row after a batch was stored before and deleted by no marker of the batch, or the batch
adds it. -/
theorem mem_persistAll {store : List Row} {ps : List Persistable} {r : Row}
    (h : r ∈ persistAll store ps) :
    (r ∈ store ∧ ∀ p ∈ ps, p.deletes r = false) ∨ ∃ p ∈ ps, r ∈ p.adds := by
  induction ps generalizing store with
  | nil => exact .inl ⟨h, fun _ hp => absurd hp (List.not_mem_nil _)⟩
  | cons p ps ih =>
    rcases ih h with ⟨hr, hps⟩ | ⟨q, hq, hr⟩
    · rcases List.mem_append.mp hr with hr | hr
      · obtain ⟨hr, hp⟩ := List.mem_filter.mp hr
        refine .inl ⟨hr, fun q hq => ?_⟩
        rcases List.mem_cons.mp hq with rfl | hq
        · simpa using hp
        · exact hps q hq
      · exact .inr ⟨p, List.mem_cons_self p ps, hr⟩
    · exact .inr ⟨q, List.mem_cons_of_mem p hq, hr⟩

/-- A stored row that no marker of the batch deletes is still there after it. -/
theorem mem_persistAll_of_mem {store : List Row} {ps : List Persistable} {r : Row} (h : r ∈ store)
    (hnd : ∀ p ∈ ps, p.deletes r = false) : r ∈ persistAll store ps := by
  induction ps generalizing store with
  | nil => exact h
  | cons p ps ih =>
    refine ih (List.mem_append_left _ (List.mem_filter.mpr ⟨h, ?_⟩))
      (fun q hq => hnd q (List.mem_cons_of_mem p hq))
    simp [hnd p (List.mem_cons_self p ps)]

/-- A marker of the batch deletes every matching stored row for good, as long as the batch adds
no matching row. -/
theorem not_mem_persistAll {store : List Row} {ps : List Persistable} {p : Persistable}
    (hp : p ∈ ps) {r : Row} (hdel : p.deletes r = true) (hadd : ∀ q ∈ ps, r ∉ q.adds) :
    r ∉ persistAll store ps := fun h =>
  match mem_persistAll h with
  | .inl ⟨_, hnone⟩ => by simp [hnone p hp] at hdel
  | .inr ⟨q, hq, hr⟩ => hadd q hq hr

end ClStateAnalyzer.Db
