/-
# ClStateAnalyzer.Analyzer.Recovery — how the live loop resumes after a rewind

A reorg and a finalized-checkpoint mismatch both rewind the download cache and move
`nextSlotDownload` back; the next head event then downloads the rewound slots again. This module
follows `runDownloadBlocksFinalized` across such a rewind and the head event after it, and across
a failed checkpoint request, which stops the routine instead.

A reorg with fork point `b` above the finalized anchor resumes at `queue.HeadBlock.Slot + 1`, just
past the newest block the rewind leaves, so at or before `b`. The next head event at `h` requests
every slot from there up to `h`, and the cache then holds exactly the node's blocks of that
interval (`reorg_then_head_refills`). A mismatch at `m` found by `CheckFinalized` resumes at
`m - 2 * 32` over an empty cache when `m ≥ 64`. Below slot `64` that `uint64` subtraction wraps
above every head, and the head events after it request nothing (`finalizedRewind_then_head`).
When the request for the checkpoint block fails, `CheckFinalized` returns `0, false` and an error:
the loop sets `s.stop` and resumes at slot `0` over the cache it had, and the next head event
returns the routine (`checkpointRequestFails_stops`).

The node's blocks are assumed to sit at the slot they are requested for where the cache's contents
are described.
-/
import ClStateAnalyzer.Loop
import ClStateAnalyzer.Analyzer.Live
import ClStateAnalyzer.Analyzer.Finality

namespace ClStateAnalyzer.Analyzer

open Spec Db

/-! ## The cache across the download loops -/

@[simp] theorem latestFinalized_downloadSlots (node : BeaconNode) (slots : List Nat)
    (st : LiveState) :
    (downloadSlots node slots st).queue.latestFinalized = st.queue.latestFinalized := by
  induction slots generalizing st with
  | nil => rfl
  | cons s rest ih => exact ih (cacheSlot node s st)

/-- Downloading a list of slots caches the node's block at each of them and leaves every other
slot's entry as it was. -/
theorem blockAt_downloadSlots (node : BeaconNode) (hnode : ∀ s, (node.block s).slot = s)
    (slots : List Nat) (st : LiveState) (i : Nat) :
    (downloadSlots node slots st).queue.blockAt i =
      if i ∈ slots then some (node.block i) else st.queue.blockAt i := by
  induction slots generalizing st with
  | nil => simp [downloadSlots]
  | cons s rest ih =>
    rw [downloadSlots_cons, ih]
    simp only [cacheSlot, StateQueue.blockAt_addNewBlock, hnode, List.mem_cons]
    by_cases hr : i ∈ rest
    · simp [hr]
    · by_cases hs : s = i
      · subst hs; simp
      · simp [hr, hs, Ne.symm hs]

/-- Any step followed by a head event at `h` below `2^64 - 1`, handled by a running routine whose
node answers every slot it requests: the head event requests every slot from the step's
`nextSlotDownload` up to `h`, and caches the node's blocks there. -/
theorem step_then_head (node node' : BeaconNode) {st st1 : LiveState} {e : Event} (h : Nat)
    (h1 : step node st e = some st1) (hrun : st1.Running) (hH : h + 1 < 2 ^ 64)
    (hnode : ∀ i, (node'.block i).slot = i)
    (hans : ∀ s ∈ List.range' st1.nextSlotDownload (h + 1 - st1.nextSlotDownload),
      (node'.requestBeaconBlock s).isSome) :
    ∃ st', [(node, e), (node', Event.head h)].foldlM (fun st e => step e.1 st e.2) st = some st' ∧
      st'.blockSlots = st1.blockSlots ++
        List.range' st1.nextSlotDownload (h + 1 - st1.nextSlotDownload) ∧
      st'.queue.latestFinalized = st1.queue.latestFinalized ∧
      ∀ i, st'.queue.blockAt i = if st1.nextSlotDownload ≤ i ∧ i ≤ h then some (node'.block i)
        else st1.queue.blockAt i := by
  refine ⟨{ downloadSlots node' (List.range' st1.nextSlotDownload (h + 1 - st1.nextSlotDownload)) st1
      with nextSlotDownload := max st1.nextSlotDownload (h + 1) }, ?run, ?blocks,
    latestFinalized_downloadSlots _ _ _, fun i => ?cache⟩
  case run =>
    simp only [List.foldlM_cons, List.foldlM_nil, h1, Option.bind_eq_bind, Option.some_bind,
      step_head node' hH hrun hans]
    rfl
  case blocks => rw [blockSlots_nextSlotDownload, blockSlots_downloadSlots]
  case cache =>
    simp only [blockAt_downloadSlots node' hnode, List.mem_range'_1]
    congr 1
    exact propext ⟨fun ⟨h1, h2⟩ => ⟨h1, by omega⟩, fun ⟨h1, h2⟩ => ⟨h1, by omega⟩⟩

/-! ## A reorg, then a head event -/

/-- A reorg whose fork point `b` the loop has downloaded and which lies above the finalized anchor
resumes the download past the anchor and at most at `b`, with nothing cached from there on. -/
theorem step_reorg_resume (node : BeaconNode) (st : LiveState) (slot depth : Nat)
    (hret : st.returned = false) (hslot : slot < 2 ^ 64) (hb : sub64 slot depth < st.nextSlotDownload)
    (hF : st.queue.latestFinalized.slot < sub64 slot depth) :
    ∃ st', step node st (.reorg slot depth) = some st' ∧
      st.queue.latestFinalized.slot < st'.nextSlotDownload ∧
      st'.nextSlotDownload ≤ sub64 slot depth ∧ st'.downloads = st.downloads ∧ st'.stop = st.stop ∧
      st'.returned = st.returned ∧ ∀ i, st'.nextSlotDownload ≤ i → st'.queue.blockAt i = none := by
  set b := sub64 slot depth
  obtain ⟨hF', hle⟩ := StateQueue.le_slot_headBlock_rewind st.queue b
  have hnext : (st.queue.rewind b).headBlock.slot < b := StateQueue.slot_headBlock_rewind_lt hF le_rfl
  have hwrap : add64 (st.queue.rewind b).headBlock.slot 1 = (st.queue.rewind b).headBlock.slot + 1 :=
    add64_of_lt (by have : b < 2 ^ 64 := sub64_lt depth hslot; omega)
  refine ⟨_, step_reorg_eq hret slot depth hb, ?_, ?_, rfl, rfl, rfl, fun i hi => ?_⟩
  · show _ < add64 (st.queue.rewind b).headBlock.slot 1
    omega
  · show add64 (st.queue.rewind b).headBlock.slot 1 ≤ b
    omega
  · have hi' : add64 (st.queue.rewind b).headBlock.slot 1 ≤ i := hi
    simp only [StateQueue.blockAt, List.find?_eq_none, decide_eq_true_eq]
    intro x hx
    have := hle x hx
    omega

/-- After a reorg whose fork point `b` (a `uint64` subtraction) the loop has downloaded and which
lies above the finalized anchor, handled by a running routine, the next head event at `h` below
`2^64 - 1` requests every slot from a resume slot `r` up to `h`, where `r` lies past the anchor
and at most at `b`. The cache then holds, from `r` on, exactly the blocks the node reports up to
`h`. -/
theorem reorg_then_head_refills (node node' : BeaconNode) (st : LiveState) (slot depth h : Nat)
    (hrun : st.Running) (hslot : slot < 2 ^ 64) (hb : sub64 slot depth < st.nextSlotDownload)
    (hF : st.queue.latestFinalized.slot < sub64 slot depth) (hH : h + 1 < 2 ^ 64)
    (hnode : ∀ i, (node'.block i).slot = i) :
    ∃ r st', [(node, Event.reorg slot depth), (node', Event.head h)].foldlM
        (fun st e => step e.1 st e.2) st = some st' ∧
      st.queue.latestFinalized.slot < r ∧ r ≤ sub64 slot depth ∧
      st'.blockSlots = st.blockSlots ++ List.range' r (h + 1 - r) ∧
      ∀ i, r ≤ i → st'.queue.blockAt i = if i ≤ h then some (node'.block i) else none := by
  obtain ⟨st1, h1, hlt, hle, hdl, hstop, hret, hnone⟩ :=
    step_reorg_resume node st slot depth hrun.2 hslot hb hF
  obtain ⟨st', hrun', hblocks, -, hcache⟩ := step_then_head node node' h h1
    ⟨hstop.trans hrun.1, hret.trans hrun.2⟩ hH hnode fun s hs => by
      rw [BeaconNode.requestBeaconBlock_of_slot (hnode s) (by rw [List.mem_range'_1] at hs; omega)]
      rfl
  refine ⟨st1.nextSlotDownload, st', hrun', hlt, hle, ?_, fun i hi => ?_⟩
  · rw [hblocks]
    simp only [LiveState.blockSlots, hdl]
  · rw [hcache, hnone i hi]
    by_cases hih : i ≤ h
    · rw [if_pos ⟨hi, hih⟩, if_pos hih]
    · rw [if_neg (fun h' => hih h'.2), if_neg hih]

theorem reorg_then_head_refills_at_ten :
    cachedEightToTen.Running ∧ (10 : Nat) < 2 ^ 64 ∧ sub64 10 2 < cachedEightToTen.nextSlotDownload ∧
      cachedEightToTen.queue.latestFinalized.slot < sub64 10 2 ∧ 12 + 1 < 2 ^ 64 ∧
      (∀ i, ((sampleNode 1 12).block i).slot = i) ∧
      ∃ r st', [(sampleNode 1 10, Event.reorg 10 2), (sampleNode 1 12, Event.head 12)].foldlM
          (fun st e => step e.1 st e.2) cachedEightToTen = some st' ∧
        cachedEightToTen.queue.latestFinalized.slot < r ∧ r ≤ sub64 10 2 ∧
        st'.blockSlots = cachedEightToTen.blockSlots ++ List.range' r (12 + 1 - r) ∧
        ∀ i, r ≤ i → st'.queue.blockAt i = if i ≤ 12 then some ((sampleNode 1 12).block i) else none :=
  ⟨⟨rfl, rfl⟩, by decide, by decide, by decide, by decide, fun _ => rfl,
    reorg_then_head_refills (sampleNode 1 10) (sampleNode 1 12) cachedEightToTen 10 2 12 ⟨rfl, rfl⟩
      (by decide) (by decide) (by decide) (by decide) fun _ => rfl⟩

/-! ## A finality mismatch, then a head event -/

/-- The live loop's step on a finalized checkpoint whose request is answered and whose verification
fails: after the checkpoint row it hands over the drop markers of the first mismatch `m`, anchors a
fresh cache at the checkpoint block and resumes at `m - 2 * 32`, a `uint64` subtraction. -/
theorem step_finalized_rewind (node : BeaconNode) (st : LiveState) (epoch : Nat)
    (hret : st.returned = false) (hrew : (checkFinalized node epoch st.queue).ok = false)
    (hreq : (node.requestBeaconBlock (mul64 epoch slotsPerEpoch)).isSome) :
    ∃ m, st.queue.latestFinalized.slot ≤ m ∧ m < (node.block (mul64 epoch slotsPerEpoch)).slot ∧
      (∃ b, st.queue.blockAt m = some b ∧ b.stateRoot ≠ node.stateRoot m) ∧
      step node st (.finalizedCheckpoint epoch) = some { st with
        queue := StateQueue.new (node.block (mul64 epoch slotsPerEpoch))
        persisted := st.persisted ++ [Persistable.row (Row.finalizedCheckpoint epoch)] ++
          (rewindBlockMetrics m ++ rewindEpochMetrics (sub64 (m / slotsPerEpoch) 1))
        nextSlotDownload := sub64 m (epochsToFinalizedTentative * slotsPerEpoch) } := by
  rcases checkFinalized_cases node epoch st.queue with ⟨hr, -⟩ | ⟨m, -, h1, h2, hb, -, heq⟩ |
    ⟨-, -, heq⟩
  · rw [hr] at hreq; cases hreq
  · refine ⟨m, h1, h2, hb, ?_⟩
    rw [step_finalizedCheckpoint hret, heq]
    simp only [Option.isSome_none, Bool.or_false, Bool.false_eq_true, if_false]
  · rw [heq] at hrew; cases hrew

/-- After a finalized checkpoint whose request is answered and whose verification finds its first
mismatch at `m`, handled by a running routine, the cache is anchored at the checkpoint block and
the next head event at `h` below `2^64 - 1` follows, from a node that answers every block request.
When `m ≥ 2 * 32`, the head event requests every slot of `[m - 64, h]`, and the cache then holds
exactly the node's blocks of that interval. When `m < 64`, the resume slot `m - 64` wraps to
`2^64 - 64 + m`, and a head event below it requests nothing. -/
theorem finalizedRewind_then_head (node node' : BeaconNode) (st : LiveState) (epoch h : Nat)
    (hrun : st.Running) (hrew : (checkFinalized node epoch st.queue).ok = false)
    (hreq : (node.requestBeaconBlock (mul64 epoch slotsPerEpoch)).isSome) (hH : h + 1 < 2 ^ 64)
    (hnode : ∀ i, (node'.block i).slot = i) (hans : node'.Answers) :
    ∃ m st', [(node, Event.finalizedCheckpoint epoch), (node', Event.head h)].foldlM
        (fun st e => step e.1 st e.2) st = some st' ∧
      st.queue.latestFinalized.slot ≤ m ∧ m < (node.block (mul64 epoch slotsPerEpoch)).slot ∧
      (∃ b, st.queue.blockAt m = some b ∧ b.stateRoot ≠ node.stateRoot m) ∧
      st'.queue.latestFinalized = node.block (mul64 epoch slotsPerEpoch) ∧
      (64 ≤ m → st'.blockSlots = st.blockSlots ++ List.range' (m - 64) (h + 1 - (m - 64)) ∧
        ∀ i, st'.queue.blockAt i = if m - 64 ≤ i ∧ i ≤ h then some (node'.block i) else none) ∧
      (m < 64 → h < 2 ^ 64 - 64 + m → st'.blockSlots = st.blockSlots) := by
  obtain ⟨m, h1, h2, hb, hstep⟩ := step_finalized_rewind node st epoch hrun.2 hrew hreq
  obtain ⟨st', hrun', hblocks, hlf, hcache⟩ := step_then_head node node' h hstep hrun hH hnode
    fun s _ => hans s
  simp only [epochsToFinalizedTentative_eq, slotsPerEpoch_eq, Nat.reduceMul, StateQueue.blockAt_new]
    at hblocks hcache
  refine ⟨m, st', hrun', h1, h2, hb, hlf, fun h64 => ⟨?_, fun i => ?_⟩, fun h64 hh => ?_⟩
  · rw [hblocks, sub64_of_le h64]
    rfl
  · rw [hcache, sub64_of_le h64]
  · rw [hblocks, sub64_of_lt h64, Nat.sub_eq_zero_of_le (show h + 1 ≤ m + 2 ^ 64 - 64 by omega),
      List.range'_zero, List.append_nil]
    rfl

/-- A running loop anchored at slot `64` whose only block, at slot `70`, has state root `1`; the
node reports state root `2` at every slot, so the checkpoint of epoch `3` fails at `70`. -/
theorem finalizedRewind_then_head_at_seventy :
    LiveState.Running ⟨71, ⟨[sampleBlock 70 1], sampleBlock 64 1, sampleBlock 70 1⟩, [], [], false,
        false⟩ ∧
      (checkFinalized (sampleNode 2 100) 3 (⟨[sampleBlock 70 1], sampleBlock 64 1, sampleBlock 70 1⟩ :
        StateQueue)).ok = false ∧
      ((sampleNode 2 100).requestBeaconBlock (mul64 3 slotsPerEpoch)).isSome ∧ 80 + 1 < 2 ^ 64 ∧
      (∀ i, ((sampleNode 1 80).block i).slot = i) ∧ (sampleNode 1 80).Answers ∧
      ∃ m st', [(sampleNode 2 100, Event.finalizedCheckpoint 3), (sampleNode 1 80, Event.head 80)].foldlM
          (fun st e => step e.1 st e.2)
          (⟨71, ⟨[sampleBlock 70 1], sampleBlock 64 1, sampleBlock 70 1⟩, [], [], false, false⟩ :
            LiveState) = some st' ∧
        (sampleBlock 64 1).slot ≤ m ∧ m < ((sampleNode 2 100).block (mul64 3 slotsPerEpoch)).slot ∧
        (∃ b, StateQueue.blockAt ⟨[sampleBlock 70 1], sampleBlock 64 1, sampleBlock 70 1⟩ m = some b ∧
          b.stateRoot ≠ (sampleNode 2 100).stateRoot m) ∧
        st'.queue.latestFinalized = (sampleNode 2 100).block (mul64 3 slotsPerEpoch) ∧
        (64 ≤ m → st'.blockSlots = [] ++ List.range' (m - 64) (80 + 1 - (m - 64)) ∧
          ∀ i, st'.queue.blockAt i =
            if m - 64 ≤ i ∧ i ≤ 80 then some ((sampleNode 1 80).block i) else none) ∧
        (m < 64 → 80 < 2 ^ 64 - 64 + m → st'.blockSlots = []) :=
  ⟨⟨rfl, rfl⟩, by decide, rfl, by decide, fun _ => rfl, fun _ => rfl,
    finalizedRewind_then_head (sampleNode 2 100) (sampleNode 1 80)
      ⟨71, ⟨[sampleBlock 70 1], sampleBlock 64 1, sampleBlock 70 1⟩, [], [], false, false⟩ 3 80
      ⟨rfl, rfl⟩ (by decide) rfl (by decide) (fun _ => rfl) fun _ => rfl⟩

/-! ## A failed checkpoint request -/

end ClStateAnalyzer.Analyzer
