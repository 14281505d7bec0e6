/-
# ClStateAnalyzer.Analyzer.StateQueue — the download cache and the beacon node it is checked against

`StateQueue` and its operations are declared in `pkg/analyzer` outside `src/`; `src/` only calls
them (`NewStateQueue`, `AddNewBlock`, `BlockHistory[i]`, `AdvanceFinalized`, `Rewind`,
`HeadBlock`, `LatestFinalized`). They are modelled from the spec's description of the download
cache: blocks are keyed by slot, `Rewind(slot)` "erases all entries with slot ≥ slot", and the
cache holds a finalized anchor and a head anchor. The head after a rewind is the newest block
left, or the finalized anchor when none is. The cache's states and its eviction of entries far
behind the finalized anchor are left out: no function of `src/` reads them.

The beacon node is what the analyzer's requests return at one moment: the block at a slot
(`RequestBeaconBlock`; a missed slot is a block with `proposed = false`), the state root at a slot
(`RequestStateRoot`), the finalized block (`RequestFinalizedBeaconBlock`) and the head slot
(`RequestCurrentHead`). The two block requests return an error when the client's retries are
exhausted (spec 4.1 and 7): their answers are `Option`s, `none` for that error. `RequestStateRoot`
and `RequestCurrentHead` return no error in the code and are total here.

Statements read a block answer through `BeaconNode.block`, the answered block or the zero block.
The zero block sits at slot `0`, so a statement that speaks of the block at a positive slot, or of
slots below the checkpoint block's, speaks of an answered request.
-/
import ClStateAnalyzer.Spec.Block

namespace ClStateAnalyzer.Analyzer

open Spec

/-- The answers of the beacon node to the analyzer's requests; `none` is a failed block request. -/
structure BeaconNode where
  requestBeaconBlock : Nat → Option AgnosticBlock
  stateRoot : Nat → Nat
  requestFinalizedBeaconBlock : Option AgnosticBlock
  head : Nat

/-- The zero value of `spec.AgnosticBlock`. -/
def zeroBlock : AgnosticBlock := ⟨0, 0, false, 0, [], [], ⟨0, 0, []⟩⟩

/-- The block the node answers at `slot`, the zero block when the request fails. -/
def BeaconNode.block (node : BeaconNode) (slot : Nat) : AgnosticBlock :=
  (node.requestBeaconBlock slot).getD zeroBlock

/-- The finalized block the node answers, the zero block when the request fails. -/
def BeaconNode.finalizedBlock (node : BeaconNode) : AgnosticBlock :=
  node.requestFinalizedBeaconBlock.getD zeroBlock

/-- The node answers every block request. -/
def BeaconNode.Answers (node : BeaconNode) : Prop :=
  ∀ slot, (node.requestBeaconBlock slot).isSome

theorem BeaconNode.block_eq {node : BeaconNode} {slot : Nat} {b : AgnosticBlock}
    (h : node.requestBeaconBlock slot = some b) : node.block slot = b := by
  rw [BeaconNode.block, h]; rfl

/-- A block answer at slot `i` sitting at its own slot, for `0 < i`, is an answered request. -/
theorem BeaconNode.requestBeaconBlock_of_slot {node : BeaconNode} {i : Nat}
    (h : (node.block i).slot = i) (hi : 0 < i) : node.requestBeaconBlock i = some (node.block i) := by
  unfold BeaconNode.block at h ⊢
  cases hr : node.requestBeaconBlock i with
  | none => rw [hr] at h; exact absurd h.symm (Nat.ne_of_gt hi)
  | some b => rfl

/-- Modelled from the spec: the download cache `StateQueue` (declared outside `src/`), with its
block history keyed by slot, its finalized anchor and its head anchor. -/
structure StateQueue where
  blockHistory : List AgnosticBlock
  latestFinalized : AgnosticBlock
  headBlock : AgnosticBlock

namespace StateQueue

/-- Modelled from the spec: `queue.BlockHistory[slot]`, the cached block at a slot. -/
def blockAt (q : StateQueue) (slot : Nat) : Option AgnosticBlock :=
  q.blockHistory.find? fun b => b.slot = slot

/-- Modelled from the spec: `NewStateQueue`, an empty cache anchored at a finalized block. -/
def new (finalizedBlock : AgnosticBlock) : StateQueue :=
  { blockHistory := [], latestFinalized := finalizedBlock, headBlock := finalizedBlock }

/-- Modelled from the spec: `AddNewBlock`, which replaces the entry at the block's slot and makes
the block the head. -/
def addNewBlock (q : StateQueue) (block : AgnosticBlock) : StateQueue :=
  { q with blockHistory := block :: q.blockHistory.filter (fun b => b.slot ≠ block.slot),
           headBlock := block }

/-- Modelled from the spec: `AdvanceFinalized(slot)` moves the finalized anchor to the cached
block at `slot`. -/
def advanceFinalized (q : StateQueue) (slot : Nat) : StateQueue :=
  match q.blockAt slot with
  | some b => { q with latestFinalized := b }
  | none => q

/-- The newest of a list of blocks, or `default` for none. -/
def newest (default : AgnosticBlock) (blocks : List AgnosticBlock) : AgnosticBlock :=
  blocks.foldl (fun h b => if h.slot < b.slot then b else h) default

/-- Modelled from the spec: `Rewind(slot)` erases every cached block at a slot `≥ slot`; the head
becomes the newest block left. -/
def rewind (q : StateQueue) (slot : Nat) : StateQueue :=
  let kept := q.blockHistory.filter fun b => b.slot < slot
  { q with blockHistory := kept, headBlock := newest q.latestFinalized kept }

@[simp] theorem blockHistory_advanceFinalized (q : StateQueue) (slot : Nat) :
    (q.advanceFinalized slot).blockHistory = q.blockHistory := by
  unfold advanceFinalized; split <;> rfl

@[simp] theorem blockAt_advanceFinalized (q : StateQueue) (slot i : Nat) :
    (q.advanceFinalized slot).blockAt i = q.blockAt i := by
  simp only [blockAt, blockHistory_advanceFinalized]

theorem latestFinalized_advanceFinalized {q : StateQueue} {i : Nat} {b : AgnosticBlock}
    (h : q.blockAt i = some b) : (q.advanceFinalized i).latestFinalized = b := by
  simp only [advanceFinalized, h]

/-- A cached block sits at the slot it is looked up by. -/
theorem slot_of_blockAt {q : StateQueue} {i : Nat} {b : AgnosticBlock} (h : q.blockAt i = some b) :
    b.slot = i := by
  unfold blockAt at h
  simpa using List.find?_some h

@[simp] theorem blockAt_new (finalizedBlock : AgnosticBlock) (i : Nat) :
    (new finalizedBlock).blockAt i = none := rfl

@[simp] theorem latestFinalized_addNewBlock (q : StateQueue) (block : AgnosticBlock) :
    (q.addNewBlock block).latestFinalized = q.latestFinalized := rfl

@[simp] theorem latestFinalized_rewind (q : StateQueue) (slot : Nat) :
    (q.rewind slot).latestFinalized = q.latestFinalized := rfl

/-- `AddNewBlock` replaces the entry at the block's own slot and no other. -/
theorem blockAt_addNewBlock (q : StateQueue) (block : AgnosticBlock) (i : Nat) :
    (q.addNewBlock block).blockAt i = if block.slot = i then some block else q.blockAt i := by
  simp only [addNewBlock, blockAt, List.find?_cons, decide_eq_true_eq]
  by_cases h : block.slot = i
  · simp only [h, decide_True, if_true]
  · simp only [h, decide_False, if_false, List.find?_filter]
    congr 1
    funext b
    by_cases hb : b.slot = i <;> simp [hb, Ne.symm h]

/-- The newest block is at least as new as the default and as every block of the list. -/
theorem le_slot_newest (d : AgnosticBlock) (blocks : List AgnosticBlock) :
    d.slot ≤ (newest d blocks).slot ∧ ∀ b ∈ blocks, b.slot ≤ (newest d blocks).slot := by
  induction blocks generalizing d with
  | nil => exact ⟨le_rfl, fun b hb => absurd hb (List.not_mem_nil b)⟩
  | cons c rest ih =>
    have hstep : d.slot ≤ (if d.slot < c.slot then c else d).slot ∧
        c.slot ≤ (if d.slot < c.slot then c else d).slot := by
      split <;> omega
    obtain ⟨h0, hrest⟩ := ih (if d.slot < c.slot then c else d)
    refine ⟨hstep.1.trans h0, fun b hb => ?_⟩
    rcases List.mem_cons.mp hb with rfl | hb
    exacts [hstep.2.trans h0, hrest b hb]

/-- The newest block is the default or a block of the list. -/
theorem newest_mem (d : AgnosticBlock) (blocks : List AgnosticBlock) :
    newest d blocks = d ∨ newest d blocks ∈ blocks := by
  induction blocks generalizing d with
  | nil => exact .inl rfl
  | cons c rest ih =>
    rcases ih (if d.slot < c.slot then c else d) with h | h
    · rw [newest, List.foldl_cons, ← newest, h]
      split
      · exact .inr (List.mem_cons_self c rest)
      · exact .inl rfl
    · exact .inr (List.mem_cons_of_mem c h)

theorem slot_lt_of_mem_rewind {q : StateQueue} {slot : Nat} {b : AgnosticBlock}
    (hb : b ∈ (q.rewind slot).blockHistory) : b.slot < slot :=
  of_decide_eq_true (List.mem_filter.mp hb).2

/-- After `Rewind(slot)` the head lies at or after the anchor and every block left. -/
theorem le_slot_headBlock_rewind (q : StateQueue) (slot : Nat) :
    q.latestFinalized.slot ≤ (q.rewind slot).headBlock.slot ∧
      ∀ b ∈ (q.rewind slot).blockHistory, b.slot ≤ (q.rewind slot).headBlock.slot :=
  le_slot_newest _ _

/-- After `Rewind(slot)` the head lies below every bound that the anchor and `slot` respect. -/
theorem slot_headBlock_rewind_lt {q : StateQueue} {slot c : Nat} (hF : q.latestFinalized.slot < c)
    (hc : slot ≤ c) : (q.rewind slot).headBlock.slot < c := by
  show (newest q.latestFinalized (q.rewind slot).blockHistory).slot < c
  rcases newest_mem q.latestFinalized (q.rewind slot).blockHistory with h | h
  · rw [h]; exact hF
  · exact (slot_lt_of_mem_rewind h).trans_le hc

end StateQueue

end ClStateAnalyzer.Analyzer
