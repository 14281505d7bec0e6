/-
# ClStateAnalyzer.Analyzer.Finality — what `CheckFinalized` verifies

On a finalized-checkpoint event the analyzer requests the checkpoint's block (at slot `c`) and
compares the state root of every cached block from its finalized anchor `a` on with the beacon
node's. `Chain.checkFinalized_eq` split the loop into the first mismatch and its outcome; here the
first mismatch over `[a, c)` is described by its bounds, and the anchor's advance by the cached
slots it passes. `checkFinalized_cases` lists the three outcomes, a failed checkpoint request
among them; the later modules reason from it.

The loop's bound is `i < finalizedBlock.Slot`: the cached block at the checkpoint slot `c` itself
is never compared, so a cache whose only wrong block sits at `c` passes as verified.
-/
import ClStateAnalyzer.Analyzer.Chain

namespace ClStateAnalyzer.Analyzer

open Spec

variable {node : BeaconNode} {queue : StateQueue}

/-- Every cached block of `[a, c)` has the node's state root. -/
def RootsAgree (node : BeaconNode) (queue : StateQueue) (a c : Nat) : Prop :=
  ∀ i, a ≤ i → i < c → ∀ b, queue.blockAt i = some b → b.stateRoot = node.stateRoot i

theorem rootsAgree_cons {a c : Nat} (hac : a < c) :
    RootsAgree node queue a c ↔ (∀ b, queue.blockAt a = some b → b.stateRoot = node.stateRoot a) ∧
      RootsAgree node queue (a + 1) c := by
  refine ⟨fun h => ⟨fun b hb => h a le_rfl hac b hb, fun i h1 h2 => h i (by omega) h2⟩,
    fun ⟨h0, h⟩ i h1 h2 => ?_⟩
  rcases Nat.eq_or_lt_of_le h1 with rfl | h1
  · exact h0
  · exact h i h1 h2

theorem firstMismatch_range'_eq_none_iff (a n : Nat) :
    firstMismatch node queue (List.range' a n) = none ↔ RootsAgree node queue a (a + n) := by
  induction n generalizing a with
  | zero => exact ⟨fun _ i h1 h2 => absurd h2 (by omega), fun _ => rfl⟩
  | succ n ih =>
    rw [List.range'_succ, firstMismatch, rootsAgree_cons (by omega),
      show a + (n + 1) = a + 1 + n by omega, ← ih]
    cases hq : queue.blockAt a with
    | none => simp
    | some b =>
      by_cases hr : node.stateRoot a = b.stateRoot
      · simp [hr]
      · simp [hr, Ne.symm hr]

theorem firstMismatch_range'_eq_some {a n m : Nat}
    (h : firstMismatch node queue (List.range' a n) = some m) :
    a ≤ m ∧ m < a + n ∧ (∃ b, queue.blockAt m = some b ∧ b.stateRoot ≠ node.stateRoot m) ∧
      RootsAgree node queue a m := by
  induction n generalizing a with
  | zero => exact absurd h (by simp [firstMismatch])
  | succ n ih =>
    rw [List.range'_succ, firstMismatch] at h
    have later (h0 : ∀ b, queue.blockAt a = some b → b.stateRoot = node.stateRoot a)
        (hrest : firstMismatch node queue (List.range' (a + 1) n) = some m) :
        a ≤ m ∧ m < a + (n + 1) ∧ (∃ b, queue.blockAt m = some b ∧ b.stateRoot ≠ node.stateRoot m) ∧
          RootsAgree node queue a m :=
      let ⟨h1, h2, h3, h4⟩ := ih hrest
      ⟨by omega, by omega, h3, (rootsAgree_cons (by omega)).mpr ⟨h0, h4⟩⟩
    cases hq : queue.blockAt a with
    | none =>
      rw [hq] at h
      exact later (fun b hb => by rw [hq] at hb; cases hb) h
    | some b =>
      simp only [hq] at h
      split at h
      · exact later (fun b' hb' => by
          rw [hq] at hb'; cases hb'; exact (‹node.stateRoot a = b.stateRoot›).symm) h
      · cases h
        exact ⟨le_rfl, by omega, ⟨b, hq, Ne.symm ‹_›⟩, fun i h1 h2 => absurd h2 (by omega)⟩

/-- The anchor after `AdvanceFinalized` over `[a, a + n)`: unchanged when no block of the
interval is cached, else the cached block of the greatest cached slot. -/
theorem latestFinalized_advance (a n : Nat) (queue : StateQueue) :
    ((∀ i, a ≤ i → i < a + n → queue.blockAt i = none) ∧
        ((List.range' a n).foldl StateQueue.advanceFinalized queue).latestFinalized
          = queue.latestFinalized) ∨
      ∃ m, a ≤ m ∧ m < a + n ∧
        queue.blockAt m
          = some ((List.range' a n).foldl StateQueue.advanceFinalized queue).latestFinalized ∧
        ∀ i, m < i → i < a + n → queue.blockAt i = none := by
  induction n generalizing a queue with
  | zero => exact .inl ⟨fun i h1 h2 => absurd h2 (by omega), rfl⟩
  | succ n ih =>
    rw [List.range'_succ, List.foldl_cons]
    have hsame := StateQueue.blockAt_advanceFinalized queue a
    rcases ih (a + 1) (queue.advanceFinalized a) with ⟨hnone, hlf⟩ | ⟨m, h1, h2, hm, hafter⟩
    · have hrest : ∀ i, a < i → i < a + (n + 1) → queue.blockAt i = none := fun i h1 h2 =>
        hsame i ▸ hnone i h1 (by omega)
      cases hq : queue.blockAt a with
      | none =>
        refine .inl ⟨fun i h1 h2 => ?_, by rw [hlf]; simp only [StateQueue.advanceFinalized, hq]⟩
        rcases Nat.eq_or_lt_of_le h1 with rfl | h1
        exacts [hq, hrest i h1 h2]
      | some b =>
        exact .inr ⟨a, le_rfl, by omega,
          by rw [hlf, StateQueue.latestFinalized_advanceFinalized hq, hq], hrest⟩
    · exact .inr ⟨m, by omega, by omega, hsame m ▸ hm,
        fun i h1 h2 => hsame i ▸ hafter i h1 (by omega)⟩

/-- After a passing check the anchor's slot lies between the old anchor's and the checkpoint
block's. -/
theorem latestFinalized_verifiedSlots (queue : StateQueue) (fb : AgnosticBlock) :
    queue.latestFinalized.slot ≤
        ((verifiedSlots queue fb).foldl StateQueue.advanceFinalized queue).latestFinalized.slot ∧
      ((verifiedSlots queue fb).foldl StateQueue.advanceFinalized queue).latestFinalized.slot ≤
        max queue.latestFinalized.slot fb.slot := by
  rcases latestFinalized_advance queue.latestFinalized.slot (fb.slot - queue.latestFinalized.slot)
      queue with ⟨-, hlf⟩ | ⟨m, h1, h2, hm, -⟩
  · rw [verifiedSlots, hlf]
    omega
  · rw [verifiedSlots, StateQueue.slot_of_blockAt hm]
    omega

/-- The three outcomes of `CheckFinalized`: the checkpoint request fails; or it is answered and
the first mismatch `m` of `[a, c)` rewinds; or it is answered, every cached root of `[a, c)` agrees
and the anchor advances over `[a, c)`. -/
theorem checkFinalized_cases (node : BeaconNode) (epoch : Nat) (queue : StateQueue) :
    (node.requestBeaconBlock (mul64 epoch slotsPerEpoch) = none ∧
      checkFinalized node epoch queue = ⟨0, false, some checkpointRequestError, queue, []⟩) ∨
    (∃ m, node.requestBeaconBlock (mul64 epoch slotsPerEpoch)
          = some (node.block (mul64 epoch slotsPerEpoch)) ∧
      queue.latestFinalized.slot ≤ m ∧ m < (node.block (mul64 epoch slotsPerEpoch)).slot ∧
      (∃ b, queue.blockAt m = some b ∧ b.stateRoot ≠ node.stateRoot m) ∧
      RootsAgree node queue queue.latestFinalized.slot m ∧
      checkFinalized node epoch queue =
        ⟨sub64 m (epochsToFinalizedTentative * slotsPerEpoch), false, none,
          StateQueue.new (node.block (mul64 epoch slotsPerEpoch)),
          rewindBlockMetrics m ++ rewindEpochMetrics (sub64 (m / slotsPerEpoch) 1)⟩) ∨
    (node.requestBeaconBlock (mul64 epoch slotsPerEpoch)
        = some (node.block (mul64 epoch slotsPerEpoch)) ∧
      RootsAgree node queue queue.latestFinalized.slot (node.block (mul64 epoch slotsPerEpoch)).slot ∧
      checkFinalized node epoch queue =
        ⟨(node.block (mul64 epoch slotsPerEpoch)).slot, true, none,
          (verifiedSlots queue (node.block (mul64 epoch slotsPerEpoch))).foldl
            StateQueue.advanceFinalized queue, []⟩) := by
  cases hr : node.requestBeaconBlock (mul64 epoch slotsPerEpoch) with
  | none => exact .inl ⟨rfl, checkFinalized_of_none hr queue⟩
  | some fb =>
    rw [BeaconNode.block_eq hr, checkFinalized_eq hr]
    cases hm : firstMismatch node queue (verifiedSlots queue fb) with
    | none =>
      have hagree := (firstMismatch_range'_eq_none_iff _ _).mp hm
      exact .inr (.inr ⟨rfl, fun i h1 h2 => hagree i h1 (by omega), rfl⟩)
    | some m =>
      obtain ⟨h1, h2, hb, hagree⟩ := firstMismatch_range'_eq_some hm
      exact .inr (.inl ⟨m, rfl, h1, by omega, hb, hagree, rfl⟩)

/-- `CheckFinalized` reports no rewind exactly when the checkpoint request is answered and every
cached block from the anchor `a` up to the checkpoint slot `c`, excluded, has the node's state root;
it then returns `c` and no error, persists nothing, and moves the anchor to the cached block of the
greatest cached slot of `[a, c)`, or leaves it when there is none. -/
theorem checkFinalized_ok_iff (node : BeaconNode) (epoch : Nat) (queue : StateQueue) :
    ((checkFinalized node epoch queue).ok = true ↔
      (node.requestBeaconBlock (mul64 epoch slotsPerEpoch)).isSome ∧
      RootsAgree node queue queue.latestFinalized.slot
        (node.block (mul64 epoch slotsPerEpoch)).slot) ∧
    ((checkFinalized node epoch queue).ok = true →
      (checkFinalized node epoch queue).err = none ∧
      (checkFinalized node epoch queue).slotRewind = (node.block (mul64 epoch slotsPerEpoch)).slot ∧
      (checkFinalized node epoch queue).persisted = [] ∧
      (((∀ i, queue.latestFinalized.slot ≤ i → i < (node.block (mul64 epoch slotsPerEpoch)).slot →
          queue.blockAt i = none) ∧
        (checkFinalized node epoch queue).queue.latestFinalized = queue.latestFinalized) ∨
      ∃ m, queue.latestFinalized.slot ≤ m ∧ m < (node.block (mul64 epoch slotsPerEpoch)).slot ∧
        queue.blockAt m = some (checkFinalized node epoch queue).queue.latestFinalized ∧
        ∀ i, m < i → i < (node.block (mul64 epoch slotsPerEpoch)).slot → queue.blockAt i = none)) := by
  rcases checkFinalized_cases node epoch queue with ⟨hr, heq⟩ | ⟨m, hr, h1, h2, ⟨b, hb, hne⟩, -, heq⟩ |
    ⟨hr, hagree, heq⟩ <;> rw [heq]
  · exact ⟨iff_of_false Bool.false_ne_true fun h => absurd h.1 (by rw [hr]; decide),
      fun h => absurd h Bool.false_ne_true⟩
  · exact ⟨iff_of_false Bool.false_ne_true fun h => hne (h.2 m h1 h2 b hb),
      fun h => absurd h Bool.false_ne_true⟩
  · refine ⟨iff_of_true rfl ⟨by rw [hr]; rfl, hagree⟩, fun _ => ⟨rfl, rfl, rfl, ?_⟩⟩
    rcases latestFinalized_advance queue.latestFinalized.slot
        ((node.block (mul64 epoch slotsPerEpoch)).slot - queue.latestFinalized.slot) queue with
      ⟨hnone, hlf⟩ | ⟨m, h1, h2, hm, hafter⟩
    · exact .inl ⟨fun i h1 h2 => hnone i h1 (by omega), hlf⟩
    · exact .inr ⟨m, h1, by omega, hm, fun i h1 h2 => hafter i h1 (by omega)⟩

/-- `CheckFinalized` reports `ok = false` in two ways. Either the checkpoint request fails: it
returns `0` and its error, and leaves the cache and the database alone. Or the request is answered
and the least slot `m` of `[a, c)` whose cached block has another state root than the node's
rewinds: it returns `m - 2 * 32` (a `uint64` subtraction) and no error, anchors a fresh cache at the
checkpoint block and drops the metrics from `m`. -/
theorem checkFinalized_rewind (node : BeaconNode) (epoch : Nat) (queue : StateQueue)
    (h : (checkFinalized node epoch queue).ok = false) :
    (node.requestBeaconBlock (mul64 epoch slotsPerEpoch) = none ∧
      checkFinalized node epoch queue = ⟨0, false, some checkpointRequestError, queue, []⟩) ∨
    ∃ m, node.requestBeaconBlock (mul64 epoch slotsPerEpoch)
          = some (node.block (mul64 epoch slotsPerEpoch)) ∧
      queue.latestFinalized.slot ≤ m ∧ m < (node.block (mul64 epoch slotsPerEpoch)).slot ∧
      (∃ b, queue.blockAt m = some b ∧ b.stateRoot ≠ node.stateRoot m) ∧
      RootsAgree node queue queue.latestFinalized.slot m ∧
      checkFinalized node epoch queue =
        ⟨sub64 m (epochsToFinalizedTentative * slotsPerEpoch), false, none,
          StateQueue.new (node.block (mul64 epoch slotsPerEpoch)),
          rewindBlockMetrics m ++ rewindEpochMetrics (sub64 (m / slotsPerEpoch) 1)⟩ := by
  rcases checkFinalized_cases node epoch queue with hfail | hrew | ⟨-, -, heq⟩
  · exact .inl hfail
  · exact .inr hrew
  · rw [heq] at h; cases h

theorem checkFinalized_rewind_at_three :
    (checkFinalized (sampleNode 2 40) 1 ⟨[sampleBlock 3 1], sampleBlock 0 1, sampleBlock 3 1⟩).ok
        = false ∧
      (((sampleNode 2 40).requestBeaconBlock (mul64 1 slotsPerEpoch) = none ∧
        checkFinalized (sampleNode 2 40) 1 ⟨[sampleBlock 3 1], sampleBlock 0 1, sampleBlock 3 1⟩ =
          ⟨0, false, some checkpointRequestError, ⟨[sampleBlock 3 1], sampleBlock 0 1, sampleBlock 3 1⟩,
            []⟩) ∨
      ∃ m, (sampleNode 2 40).requestBeaconBlock (mul64 1 slotsPerEpoch)
            = some ((sampleNode 2 40).block (mul64 1 slotsPerEpoch)) ∧
        (sampleBlock 0 1).slot ≤ m ∧ m < ((sampleNode 2 40).block (mul64 1 slotsPerEpoch)).slot ∧
        (∃ b, StateQueue.blockAt ⟨[sampleBlock 3 1], sampleBlock 0 1, sampleBlock 3 1⟩ m = some b ∧
          b.stateRoot ≠ (sampleNode 2 40).stateRoot m) ∧
        RootsAgree (sampleNode 2 40) ⟨[sampleBlock 3 1], sampleBlock 0 1, sampleBlock 3 1⟩
          (sampleBlock 0 1).slot m ∧
        checkFinalized (sampleNode 2 40) 1 ⟨[sampleBlock 3 1], sampleBlock 0 1, sampleBlock 3 1⟩ =
          ⟨sub64 m (epochsToFinalizedTentative * slotsPerEpoch), false, none,
            StateQueue.new ((sampleNode 2 40).block (mul64 1 slotsPerEpoch)),
            rewindBlockMetrics m ++ rewindEpochMetrics (sub64 (m / slotsPerEpoch) 1)⟩) :=
  ⟨by decide, checkFinalized_rewind (sampleNode 2 40) 1
    ⟨[sampleBlock 3 1], sampleBlock 0 1, sampleBlock 3 1⟩ (by decide)⟩

/-- A cache anchored at slot `0` whose only block, at the checkpoint slot `32`, has state root `7`
where the node reports `8`: `CheckFinalized` reports no rewind. -/
theorem checkFinalized_skips_checkpoint_slot :
    StateQueue.blockAt ⟨[sampleBlock 32 7], sampleBlock 0 1, sampleBlock 32 7⟩ 32
        = some (sampleBlock 32 7) ∧
      (sampleNode 8 40).stateRoot 32 ≠ (sampleBlock 32 7).stateRoot ∧
      ((sampleNode 8 40).block (mul64 1 slotsPerEpoch)).slot = 32 ∧
      (checkFinalized (sampleNode 8 40) 1 ⟨[sampleBlock 32 7], sampleBlock 0 1, sampleBlock 32 7⟩).ok
        = true := by
  decide

end ClStateAnalyzer.Analyzer
