/-
# ClStateAnalyzer.Analyzer.Chain — the reorg and finality handlers of the live loop

`RewindBlockMetrics`, `RewindEpochMetrics`, `Reorg` and `CheckFinalized` (`cmd/reward_cmd.go`)
as functions from the download cache to the new cache and the persistables they hand to the
database, in the order they hand them over. Both loops of the source run over a slot interval
`[lo, hi)` with `i++`, which cannot wrap below `hi`; they are folds over `List.range' lo (hi - lo)`.
`CheckFinalized`'s early `return` on the first state-root mismatch is the recursion stopping.

`CheckFinalized` first requests the checkpoint's block. When that request fails it returns
`0, false` and the error `errors.Wrap(err, "error requesting finalized checkpoint block")`, with
the cache untouched and nothing handed to the database; the wrapped client error, which `Wrap`
appends after the message, is the client's and is left out.

Every `uint64` expression that can wrap keeps its wrap: `phase0.Epoch(i/32) - 1` and
`baseEpoch - 1` are `sub64 _ 1`, the rewards marker's `epoch + 1` is `add64 _ 1`, the rewind slot
`i - 2 * 32` is `sub64`, and the checkpoint slot `checkpoint.Epoch * 32` is `mul64`.
-/
import ClStateAnalyzer.Db.Store
import ClStateAnalyzer.Analyzer.StateQueue

namespace ClStateAnalyzer.Analyzer

open Spec Db

/-- `RewindBlockMetrics`: drop blocks, transactions and withdrawals from `slot` on. -/
def rewindBlockMetrics (slot : Nat) : List Persistable :=
  [.blockDrop slot, .transactionDrop slot, .withdrawalDrop slot]

/-- `RewindEpochMetrics`: drop epoch metrics and proposer duties from `epoch` on, and validator
rewards from `epoch + 1` ("validator rewards are always written at epoch+1"). -/
def rewindEpochMetrics (epoch : Nat) : List Persistable :=
  [.epochDrop epoch, .proposerDutiesDrop epoch, .validatorRewardsDrop (add64 epoch 1)]

/-- `Reorg(baseSlot, slot)`: roll back the block metrics from the fork point; roll back the epoch
metrics when the reorg ends an epoch or crosses an epoch boundary; persist an orphan row for every
cached block in `[baseSlot, slot)`; rewind the cache to the fork point. -/
def reorg (baseSlot slot : Nat) (queue : StateQueue) : StateQueue × List Persistable :=
  let baseEpoch := baseSlot / slotsPerEpoch
  let reorgEpoch := slot / slotsPerEpoch
  let epochDrops :=
    if slot % slotsPerEpoch = 31 ∨ baseEpoch ≠ reorgEpoch then rewindEpochMetrics (sub64 baseEpoch 1)
    else []
  let orphans := (List.range' baseSlot (slot - baseSlot)).filterMap fun i =>
    (queue.blockAt i).map fun b => .row (.orphanBlock b)
  (queue.rewind baseSlot, rewindBlockMetrics baseSlot ++ epochDrops ++ orphans)

/-- What `CheckFinalized` returns (`slotRewind`, `ok`, `err`) and leaves behind: the cache and
the persistables it handed to the database. -/
structure CheckResult where
  slotRewind : Nat
  ok : Bool
  err : Option String
  queue : StateQueue
  persisted : List Persistable

/-- The verification loop of `CheckFinalized` over the slots still to check. -/
def checkSlots (node : BeaconNode) (finalizedBlock : AgnosticBlock) :
    List Nat → StateQueue → CheckResult
  | [], queue => ⟨finalizedBlock.slot, true, none, queue, []⟩
  | i :: rest, queue =>
    let requestedRoot := node.stateRoot i
    match queue.blockAt i with
    | some b =>
      if requestedRoot = b.stateRoot then
        checkSlots node finalizedBlock rest (queue.advanceFinalized i)
      else
        ⟨sub64 i (epochsToFinalizedTentative * slotsPerEpoch), false, none,
          StateQueue.new finalizedBlock,
          rewindBlockMetrics i ++ rewindEpochMetrics (sub64 (i / slotsPerEpoch) 1)⟩
    | none => checkSlots node finalizedBlock rest queue

/-- The slots `for i := queue.LatestFinalized.Slot; i < finalizedBlock.Slot; i++` visits. -/
def verifiedSlots (queue : StateQueue) (finalizedBlock : AgnosticBlock) : List Nat :=
  List.range' queue.latestFinalized.slot (finalizedBlock.slot - queue.latestFinalized.slot)

/-- The error `CheckFinalized` returns when the checkpoint block's request fails. -/
def checkpointRequestError : String := "error requesting finalized checkpoint block"

/-- `CheckFinalized`: request the checkpoint's block, then verify every cached block from the
finalized anchor up to (not including) the checkpoint block's slot. -/
def checkFinalized (node : BeaconNode) (epoch : Nat) (queue : StateQueue) : CheckResult :=
  match node.requestBeaconBlock (mul64 epoch slotsPerEpoch) with
  | none => ⟨0, false, some checkpointRequestError, queue, []⟩
  | some finalizedBlock => checkSlots node finalizedBlock (verifiedSlots queue finalizedBlock) queue

/-- A proposed block at `slot` with state root `root` and an empty body, for the concrete runs
below. -/
def sampleBlock (slot root : Nat) : AgnosticBlock :=
  ⟨slot, 0, true, root, [], [], ⟨0, 0, []⟩⟩

/-- A node whose block at every slot has state root `1`, whose state roots all read `root`, with
finalized block at slot `0` and head at `head`. -/
def sampleNode (root head : Nat) : BeaconNode :=
  ⟨fun s => sampleBlock s 1, fun _ => root, sampleBlock 0 1, head⟩

/-! ## What the handlers persist -/

theorem adds_rewindBlockMetrics (slot : Nat) : ∀ p ∈ rewindBlockMetrics slot, p.adds = [] := by
  simp [rewindBlockMetrics, Persistable.adds]

theorem adds_rewindEpochMetrics (epoch : Nat) : ∀ p ∈ rewindEpochMetrics epoch, p.adds = [] := by
  simp [rewindEpochMetrics, Persistable.adds]

/-- The only rows `Reorg` adds are orphan blocks. -/
theorem reorg_adds (baseSlot slot : Nat) (queue : StateQueue) :
    ∀ p ∈ (reorg baseSlot slot queue).2, ∀ r ∈ p.adds, ∃ b, r = .orphanBlock b := by
  intro p hp r hr
  simp only [reorg, List.mem_append] at hp
  rcases hp with (hp | hp) | hp
  · rw [adds_rewindBlockMetrics _ p hp] at hr; exact absurd hr (List.not_mem_nil r)
  · split at hp
    · rw [adds_rewindEpochMetrics _ p hp] at hr; exact absurd hr (List.not_mem_nil r)
    · exact absurd hp (List.not_mem_nil p)
  · obtain ⟨i, -, hi⟩ := List.mem_filterMap.mp hp
    obtain ⟨b, -, rfl⟩ := Option.map_eq_some'.mp hi
    exact ⟨b, List.mem_singleton.mp hr⟩

/-- The orphan rows `Reorg(baseSlot, slot)` persists are the cached blocks of `[baseSlot, slot)`,
the interval its loop `for i := baseSlot; i < slot; i++` visits. -/
theorem mem_reorg_orphanBlock {baseSlot slot : Nat} {queue : StateQueue} {b : AgnosticBlock} :
    Persistable.row (.orphanBlock b) ∈ (reorg baseSlot slot queue).2 ↔
      ∃ i, baseSlot ≤ i ∧ i < slot ∧ queue.blockAt i = some b := by
  simp only [reorg, List.mem_append, List.mem_filterMap, List.mem_range'_1, Option.map_eq_some',
    Persistable.row.injEq, Row.orphanBlock.injEq]
  constructor
  · rintro ((h | h) | ⟨i, ⟨h1, h2⟩, b', hb, rfl⟩)
    · simp [rewindBlockMetrics] at h
    · split at h <;> simp [rewindEpochMetrics] at h
    · exact ⟨i, h1, by omega, hb⟩
  · rintro ⟨i, h1, h2, hb⟩
    exact .inr ⟨i, ⟨h1, by omega⟩, b, hb, rfl⟩

/-- `CheckFinalized` adds no row: it hands over drop markers only. -/
theorem checkSlots_adds (node : BeaconNode) (fb : AgnosticBlock) :
    ∀ (slots : List Nat) (queue : StateQueue),
      ∀ p ∈ (checkSlots node fb slots queue).persisted, p.adds = [] := by
  intro slots
  induction slots with
  | nil => intro _ p hp; exact absurd hp (List.not_mem_nil p)
  | cons i rest ih =>
    intro queue p hp
    simp only [checkSlots] at hp
    split at hp
    · split at hp
      · exact ih _ p hp
      · rcases List.mem_append.mp hp with hp | hp
        exacts [adds_rewindBlockMetrics _ p hp, adds_rewindEpochMetrics _ p hp]
    · exact ih _ p hp

/-! ## `CheckFinalized` as first mismatch plus outcome -/

/-- The first slot of `slots` whose cached block's state root differs from the node's. -/
def firstMismatch (node : BeaconNode) (queue : StateQueue) : List Nat → Option Nat
  | [] => none
  | i :: rest =>
    match queue.blockAt i with
    | some b => if node.stateRoot i = b.stateRoot then firstMismatch node queue rest else some i
    | none => firstMismatch node queue rest

/-- The outcome `CheckFinalized` reports for a first mismatch (or none): the rewind to two epochs
before the mismatch with its drop markers and a fresh cache, or the checkpoint's slot with the
anchor advanced over the verified slots. -/
def checkOutcome (finalizedBlock : AgnosticBlock) (queue : StateQueue) (slots : List Nat) :
    Option Nat → CheckResult
  | none => ⟨finalizedBlock.slot, true, none, slots.foldl StateQueue.advanceFinalized queue, []⟩
  | some m =>
    ⟨sub64 m (epochsToFinalizedTentative * slotsPerEpoch), false, none, StateQueue.new finalizedBlock,
      rewindBlockMetrics m ++ rewindEpochMetrics (sub64 (m / slotsPerEpoch) 1)⟩

@[simp] theorem firstMismatch_advanceFinalized (node : BeaconNode) (queue : StateQueue) (j : Nat)
    (slots : List Nat) :
    firstMismatch node (queue.advanceFinalized j) slots = firstMismatch node queue slots := by
  induction slots with
  | nil => rfl
  | cons i rest ih => simp only [firstMismatch, StateQueue.blockAt_advanceFinalized, ih]

theorem checkOutcome_cons (fb : AgnosticBlock) (queue : StateQueue) (i : Nat) (rest : List Nat)
    (x : Option Nat) :
    checkOutcome fb (queue.advanceFinalized i) rest x = checkOutcome fb queue (i :: rest) x := by
  cases x <;> rfl

/-- The verification loop finds the first mismatch and reports its outcome; advancing the anchor
changes no cached block, so the loop reads the cache it started with. -/
theorem checkSlots_eq (node : BeaconNode) (fb : AgnosticBlock) :
    ∀ (slots : List Nat) (queue : StateQueue),
      checkSlots node fb slots queue = checkOutcome fb queue slots (firstMismatch node queue slots) := by
  intro slots
  induction slots with
  | nil => intro _; rfl
  | cons i rest ih =>
    intro queue
    simp only [checkSlots, firstMismatch]
    cases hq : queue.blockAt i with
    | none =>
      have hadv : queue.advanceFinalized i = queue := by simp only [StateQueue.advanceFinalized, hq]
      simp only
      rw [ih, ← checkOutcome_cons, hadv]
    | some b =>
      simp only
      split
      · rw [ih, firstMismatch_advanceFinalized, checkOutcome_cons]
      · rfl

/-- `CheckFinalized` after an answered checkpoint request. -/
theorem checkFinalized_eq {node : BeaconNode} {epoch : Nat} {fb : AgnosticBlock}
    (h : node.requestBeaconBlock (mul64 epoch slotsPerEpoch) = some fb) (queue : StateQueue) :
    checkFinalized node epoch queue =
      checkOutcome fb queue (verifiedSlots queue fb) (firstMismatch node queue (verifiedSlots queue fb)) := by
  rw [checkFinalized, h]
  exact checkSlots_eq node fb _ queue

/-- `CheckFinalized` after a failed checkpoint request. -/
theorem checkFinalized_of_none {node : BeaconNode} {epoch : Nat}
    (h : node.requestBeaconBlock (mul64 epoch slotsPerEpoch) = none) (queue : StateQueue) :
    checkFinalized node epoch queue = ⟨0, false, some checkpointRequestError, queue, []⟩ := by
  rw [checkFinalized, h]

/-- A mismatch below the checkpoint block's slot is found only after an answered request: a
failed one leaves the zero block, at slot `0`, and no slot to verify. -/
theorem requestBeaconBlock_of_firstMismatch {node : BeaconNode} {epoch : Nat} {queue : StateQueue}
    {m : Nat}
    (hm : firstMismatch node queue (verifiedSlots queue (node.block (mul64 epoch slotsPerEpoch)))
      = some m) :
    node.requestBeaconBlock (mul64 epoch slotsPerEpoch) = some (node.block (mul64 epoch slotsPerEpoch)) := by
  unfold BeaconNode.block at hm ⊢
  cases hr : node.requestBeaconBlock (mul64 epoch slotsPerEpoch) with
  | none => rw [hr] at hm; simp [verifiedSlots, zeroBlock, firstMismatch] at hm
  | some fb => rfl

end ClStateAnalyzer.Analyzer
