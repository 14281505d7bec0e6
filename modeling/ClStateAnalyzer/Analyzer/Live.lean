/-
# ClStateAnalyzer.Analyzer.Live — the finalized download loop, `runDownloadBlocksFinalized`

The live loop starts from the last slot the database holds (`ObtainLastSlot`, an input here),
catches up to the head the beacon node reports, then handles head, finalized-checkpoint, reorg,
ticker and `ctx.Done()` events one at a time. A run is a list of events, each paired with the
beacon node's answers at the moment it is handled, folded through `step` from the catch-up state.

Both download loops step `nextSlotDownload` by one. The catch-up loop runs while
`nextSlotDownload < headSlot`, so it runs exactly `headSlot - nextSlotDownload` times. The head
loop runs while `nextSlotDownload <= headSlot`; the `uint64` increment wraps at `2^64 - 1`, where
the loop never ends, so it is run on fuel (`loopFuel`, more iterations than any terminating run of
it needs) and returns `none` when the fuel runs out.

A failed block request panics: `log.Panicf` in `DownloadNewBlock`, and for the finalized block at
the start. A panic ends the program, so it is `none` too; `none` is a run that yields no state.

The analyzer's `s.stop` flag is set when `CheckFinalized` returns an error; the routine is then
stopped but still reads events. A head event that enters its loop, or a tick, then returns the
routine, and so does `ctx.Done()` at any time. A routine that has returned reads no more events.
The catch-up loop's own `s.stop` test never fires: the flag starts unset and nothing before the
events sets it.

A reorg event `(slot, depth)` whose fork point `slot - depth` lies below `nextSlotDownload` runs
`Reorg(slot - depth, slot)`. Its orphan loop visits `[slot - depth, slot)`, so the block at the
fork point is recorded as orphaned and the block at `slot` is dropped from the cache without an
orphan row: the interval the spec's chain analyzer prescribes.

Left out: the block tasks `DownloadNewBlock` sends to the processing routines
(`Analyzer.ProcessBlock` covers what they write). `DownloadNewState` is declared outside `src/`;
the run records the slot it is called for.
-/
import ClStateAnalyzer.Analyzer.Chain

namespace ClStateAnalyzer.Analyzer

open Spec Db

/-- A request of the download loop: the block of a slot, or the state of a slot. -/
inductive Download
  | block (slot : Nat)
  | state (slot : Nat)
  deriving Repr, DecidableEq

/-- The variables of `runDownloadBlocksFinalized`, with what it has requested and persisted, the
analyzer's `s.stop` flag, and whether the routine has returned. -/
structure LiveState where
  nextSlotDownload : Nat
  queue : StateQueue
  downloads : List Download
  persisted : List Persistable
  stop : Bool
  returned : Bool

/-- The routine reads events and `s.stop` is unset. -/
def LiveState.Running (st : LiveState) : Prop :=
  st.stop = false ∧ st.returned = false

/-- The requests for one slot: `DownloadNewBlock`, then `DownloadNewState(slot - 1)` at an epoch
boundary. -/
def slotRequests (slot : Nat) : List Download :=
  .block slot :: if slot % slotsPerEpoch = 0 then [.state (sub64 slot 1)] else []

/-- One iteration's downloads: the block enters the cache (`AddNewBlock`); a failed block request
panics. -/
def downloadSlot (node : BeaconNode) (slot : Nat) (st : LiveState) : Option LiveState :=
  (node.requestBeaconBlock slot).map fun newBlock =>
    { st with queue := st.queue.addNewBlock newBlock, downloads := st.downloads ++ slotRequests slot }

/-- The catch-up loop `for nextSlotDownload < headSlot`, given its iteration count; each iteration
ends with the `s.stop` test. -/
def fillMissing (node : BeaconNode) (headSlot : Nat) : Nat → LiveState → Option LiveState
  | 0, st => some st
  | n + 1, st =>
    if st.nextSlotDownload < headSlot then
      (downloadSlot node st.nextSlotDownload st).bind fun st' =>
        if st'.stop then some { st' with nextSlotDownload := add64 st.nextSlotDownload 1, returned := true }
        else fillMissing node headSlot n { st' with nextSlotDownload := add64 st.nextSlotDownload 1 }
    else some st

/-- Iterations enough for every terminating run of the head loop. -/
def loopFuel : Nat := 2 ^ 64 + 1

/-- The head-event loop `for nextSlotDownload <= headSlot`, on fuel; each iteration starts with the
`s.stop` test. -/
def downloadToHead (node : BeaconNode) (headSlot : Nat) : Nat → LiveState → Option LiveState
  | 0, _ => none
  | fuel + 1, st =>
    if st.nextSlotDownload ≤ headSlot then
      if st.stop then some { st with returned := true }
      else (downloadSlot node st.nextSlotDownload st).bind fun st' =>
        downloadToHead node headSlot fuel { st' with nextSlotDownload := add64 st.nextSlotDownload 1 }
    else some st

/-- Where the catch-up starts: the finalized slot when the database is empty or ahead of it, else
two epochs before the database's last slot. -/
def startSlot (lastSlot finalizedSlot : Nat) : Nat :=
  if lastSlot = 0 ∨ lastSlot > finalizedSlot then finalizedSlot
  else sub64 lastSlot (epochsToFinalizedTentative * slotsPerEpoch)

/-- The state after the catch-up phase; a failed request for the finalized block panics. -/
def initLive (node : BeaconNode) (lastSlot : Nat) : Option LiveState :=
  node.requestFinalizedBeaconBlock.bind fun finalizedBlock =>
    let start := startSlot lastSlot finalizedBlock.slot
    fillMissing node node.head (node.head - start)
      ⟨start, StateQueue.new finalizedBlock, [], [], false, false⟩

/-- An event of the live loop's `select`. -/
inductive Event
  | head (slot : Nat)
  | finalizedCheckpoint (epoch : Nat)
  | reorg (slot depth : Nat)
  | tick
  | ctxDone
  deriving Repr, DecidableEq

/-- One event of the live loop; a routine that has returned reads no more events. -/
def step (node : BeaconNode) (st : LiveState) (e : Event) : Option LiveState :=
  if st.returned then some st else
  match e with
  | .head headSlot => downloadToHead node headSlot loopFuel st
  | .finalizedCheckpoint epoch =>
    let st := { st with persisted := st.persisted ++ [Persistable.row (Row.finalizedCheckpoint epoch)] }
    let r := checkFinalized node epoch st.queue
    some { st with queue := r.queue, persisted := st.persisted ++ r.persisted,
                   stop := st.stop || r.err.isSome,
                   nextSlotDownload := if r.ok then st.nextSlotDownload else r.slotRewind }
  | .reorg slot depth =>
    let st := { st with persisted := st.persisted ++ [Persistable.row (Row.reorg slot depth)] }
    let baseSlot := sub64 slot depth
    if baseSlot < st.nextSlotDownload then
      let (queue, ps) := reorg baseSlot slot st.queue
      some { st with queue := queue, persisted := st.persisted ++ ps,
                     nextSlotDownload := add64 queue.headBlock.slot 1 }
    else some st
  | .tick => some (if st.stop then { st with returned := true } else st)
  | .ctxDone => some { st with returned := true }

/-- `runDownloadBlocksFinalized` over a list of events, each with the node's answers at its time;
`none` when it panics or a head loop never ends. -/
def run (lastSlot : Nat) (node : BeaconNode) (events : List (BeaconNode × Event)) :
    Option LiveState :=
  (initLive node lastSlot).bind fun st => events.foldlM (fun st e => step e.1 st e.2) st

/-- The slots whose block the run requested, in order. -/
def LiveState.blockSlots (st : LiveState) : List Nat :=
  st.downloads.filterMap fun | .block s => some s | .state _ => none

/-! ## One step, event by event -/

section Step

variable {node : BeaconNode} {st : LiveState}

@[simp] theorem step_of_returned (h : st.returned = true) (e : Event) : step node st e = some st := by
  simp only [step, h, if_true]

theorem step_finalizedCheckpoint (h : st.returned = false) (epoch : Nat) :
    step node st (.finalizedCheckpoint epoch) = some { st with
      queue := (checkFinalized node epoch st.queue).queue
      persisted := st.persisted ++ [Persistable.row (Row.finalizedCheckpoint epoch)] ++
        (checkFinalized node epoch st.queue).persisted
      stop := st.stop || (checkFinalized node epoch st.queue).err.isSome
      nextSlotDownload := if (checkFinalized node epoch st.queue).ok then st.nextSlotDownload
        else (checkFinalized node epoch st.queue).slotRewind } := by
  simp only [step, h, Bool.false_eq_true, if_false]

/-- The live loop's step on a reorg event whose fork point it has downloaded. -/
theorem step_reorg_eq (h : st.returned = false) (slot depth : Nat)
    (hb : sub64 slot depth < st.nextSlotDownload) :
    step node st (.reorg slot depth) = some { st with
      queue := st.queue.rewind (sub64 slot depth)
      persisted := st.persisted ++ [Persistable.row (Row.reorg slot depth)] ++
        (reorg (sub64 slot depth) slot st.queue).2
      nextSlotDownload := add64 (st.queue.rewind (sub64 slot depth)).headBlock.slot 1 } := by
  simp only [step, h, Bool.false_eq_true, if_false, if_pos hb]
  rfl

theorem step_reorg_of_le (h : st.returned = false) {slot depth : Nat}
    (hb : ¬ sub64 slot depth < st.nextSlotDownload) :
    step node st (.reorg slot depth) =
      some { st with persisted := st.persisted ++ [Persistable.row (Row.reorg slot depth)] } := by
  simp only [step, h, Bool.false_eq_true, if_false, if_neg hb]

theorem step_tick (h : st.returned = false) :
    step node st .tick = some (if st.stop then { st with returned := true } else st) := by
  simp only [step, h, Bool.false_eq_true, if_false]

theorem step_ctxDone (h : st.returned = false) :
    step node st .ctxDone = some { st with returned := true } := by
  simp only [step, h, Bool.false_eq_true, if_false]

/-- Everything one step can do: leave the cache, the download slot and `s.stop` as they are (a
returned routine, a reorg ahead of the download, a tick, the context's end), run the head loop,
check a finalized checkpoint, or rewind on a reorg whose fork point it has downloaded. -/
theorem step_cases {e : Event} {st' : LiveState} (h : step node st e = some st') :
    (st'.queue = st.queue ∧ st'.nextSlotDownload = st.nextSlotDownload ∧ st'.stop = st.stop) ∨
    (∃ headSlot, e = .head headSlot ∧ downloadToHead node headSlot loopFuel st = some st') ∨
    (∃ epoch, e = .finalizedCheckpoint epoch ∧ st' = { st with
      queue := (checkFinalized node epoch st.queue).queue
      persisted := st.persisted ++ [Persistable.row (Row.finalizedCheckpoint epoch)] ++
        (checkFinalized node epoch st.queue).persisted
      stop := st.stop || (checkFinalized node epoch st.queue).err.isSome
      nextSlotDownload := if (checkFinalized node epoch st.queue).ok then st.nextSlotDownload
        else (checkFinalized node epoch st.queue).slotRewind }) ∨
    (∃ slot depth, e = .reorg slot depth ∧ sub64 slot depth < st.nextSlotDownload ∧ st' = { st with
      queue := st.queue.rewind (sub64 slot depth)
      persisted := st.persisted ++ [Persistable.row (Row.reorg slot depth)] ++
        (reorg (sub64 slot depth) slot st.queue).2
      nextSlotDownload := add64 (st.queue.rewind (sub64 slot depth)).headBlock.slot 1 }) := by
  rcases Bool.eq_false_or_eq_true st.returned with hret | hret
  · rw [step_of_returned hret, Option.some.injEq] at h
    subst h
    exact .inl ⟨rfl, rfl, rfl⟩
  cases e with
  | head headSlot =>
    rw [step, if_neg (by simp [hret])] at h
    exact .inr (.inl ⟨headSlot, rfl, h⟩)
  | finalizedCheckpoint epoch =>
    rw [step_finalizedCheckpoint hret, Option.some.injEq] at h
    exact .inr (.inr (.inl ⟨epoch, rfl, h.symm⟩))
  | reorg slot depth =>
    by_cases hb : sub64 slot depth < st.nextSlotDownload
    · rw [step_reorg_eq hret slot depth hb, Option.some.injEq] at h
      exact .inr (.inr (.inr ⟨slot, depth, rfl, hb, h.symm⟩))
    · rw [step_reorg_of_le hret hb, Option.some.injEq] at h
      subst h
      exact .inl ⟨rfl, rfl, rfl⟩
  | tick =>
    rw [step_tick hret, Option.some.injEq] at h
    subst h
    split <;> exact .inl ⟨rfl, rfl, rfl⟩
  | ctxDone =>
    rw [step_ctxDone hret, Option.some.injEq] at h
    subst h
    exact .inl ⟨rfl, rfl, rfl⟩

end Step

/-! ## The download loops as folds over slot intervals -/

/-- One iteration's downloads when its block request is answered. -/
def cacheSlot (node : BeaconNode) (slot : Nat) (st : LiveState) : LiveState :=
  { st with queue := st.queue.addNewBlock (node.block slot),
            downloads := st.downloads ++ slotRequests slot }

@[simp] theorem nextSlotDownload_cacheSlot (node : BeaconNode) (slot : Nat) (st : LiveState) :
    (cacheSlot node slot st).nextSlotDownload = st.nextSlotDownload := rfl

@[simp] theorem stop_cacheSlot (node : BeaconNode) (slot : Nat) (st : LiveState) :
    (cacheSlot node slot st).stop = st.stop := rfl

@[simp] theorem returned_cacheSlot (node : BeaconNode) (slot : Nat) (st : LiveState) :
    (cacheSlot node slot st).returned = st.returned := rfl

/-- The downloads of the slots of `slots` in order, the node answering each block request. -/
def downloadSlots (node : BeaconNode) (slots : List Nat) (st : LiveState) : LiveState :=
  slots.foldl (fun st s => cacheSlot node s st) st

@[simp] theorem downloadSlots_cons (node : BeaconNode) (s : Nat) (rest : List Nat) (st : LiveState) :
    downloadSlots node (s :: rest) st = downloadSlots node rest (cacheSlot node s st) := rfl

/-- An answered block request downloads its slot. -/
theorem downloadSlot_eq {node : BeaconNode} {slot : Nat} (h : (node.requestBeaconBlock slot).isSome)
    (st : LiveState) : downloadSlot node slot st = some (cacheSlot node slot st) := by
  obtain ⟨b, hb⟩ := Option.isSome_iff_exists.mp h
  rw [downloadSlot, hb, Option.map_some', cacheSlot, BeaconNode.block_eq hb]

/-- A download that does not panic caches the node's answer. -/
theorem eq_cacheSlot_of_downloadSlot {node : BeaconNode} {slot : Nat} {st st' : LiveState}
    (h : downloadSlot node slot st = some st') : st' = cacheSlot node slot st := by
  obtain ⟨b, hb, rfl⟩ := Option.map_eq_some'.mp h
  rw [cacheSlot, BeaconNode.block_eq hb]

@[simp] theorem downloadSlots_nextSlotDownload (node : BeaconNode) (slots : List Nat) (st : LiveState)
    (n : Nat) : downloadSlots node slots { st with nextSlotDownload := n }
      = { downloadSlots node slots st with nextSlotDownload := n } := by
  induction slots generalizing st with
  | nil => rfl
  | cons s rest ih => exact ih (cacheSlot node s st)

@[simp] theorem stop_downloadSlots (node : BeaconNode) (slots : List Nat) (st : LiveState) :
    (downloadSlots node slots st).stop = st.stop := by
  induction slots generalizing st with
  | nil => rfl
  | cons s rest ih => exact ih (cacheSlot node s st)

@[simp] theorem returned_downloadSlots (node : BeaconNode) (slots : List Nat) (st : LiveState) :
    (downloadSlots node slots st).returned = st.returned := by
  induction slots generalizing st with
  | nil => rfl
  | cons s rest ih => exact ih (cacheSlot node s st)

@[simp] theorem blockSlots_nextSlotDownload (st : LiveState) (n : Nat) :
    ({ st with nextSlotDownload := n }).blockSlots = st.blockSlots := rfl

theorem blockSlots_downloadSlots (node : BeaconNode) (slots : List Nat) (st : LiveState) :
    (downloadSlots node slots st).blockSlots = st.blockSlots ++ slots := by
  induction slots generalizing st with
  | nil => simp [downloadSlots]
  | cons s rest ih =>
    rw [downloadSlots_cons, ih]
    simp only [cacheSlot, LiveState.blockSlots, slotRequests, List.filterMap_append,
      List.filterMap_cons, List.append_assoc]
    split <;> rfl

/-- The catch-up loop from a state with `s.stop` unset, the node answering every slot it requests,
requests every slot from `nextSlotDownload` up to the head, excluded. -/
theorem fillMissing_eq (node : BeaconNode) {headSlot : Nat} (hH : headSlot < 2 ^ 64) :
    ∀ (st : LiveState), st.stop = false →
      (∀ s ∈ List.range' st.nextSlotDownload (headSlot - st.nextSlotDownload),
        (node.requestBeaconBlock s).isSome) →
      fillMissing node headSlot (headSlot - st.nextSlotDownload) st =
        some { downloadSlots node (List.range' st.nextSlotDownload (headSlot - st.nextSlotDownload))
          st with nextSlotDownload := max st.nextSlotDownload headSlot } := by
  intro st hstop hans
  generalize hk : headSlot - st.nextSlotDownload = k at hans
  induction k generalizing st with
  | zero =>
    rw [fillMissing, List.range'_zero, Nat.max_eq_left (by omega)]
    rfl
  | succ k ih =>
    have h1 : add64 st.nextSlotDownload 1 = st.nextSlotDownload + 1 := add64_of_lt (by omega)
    rw [List.range'_succ] at hans
    rw [fillMissing, if_pos (by omega), downloadSlot_eq (hans _ (List.mem_cons_self _ _)),
      Option.some_bind, if_neg (by simp [hstop]), ih _ (by simpa using hstop) (by simp only [h1]; omega)
        (by simpa only [h1] using fun s hs => hans s (List.mem_cons_of_mem _ hs))]
    simp only [h1, List.range'_succ, downloadSlots_cons, downloadSlots_nextSlotDownload]
    congr 2
    omega

theorem range'_append_max {a b n : Nat} (h : max a b ≤ n) :
    List.range' a (b - a) ++ List.range' (max a b) (n - max a b) = List.range' a (n - a) := by
  rcases Nat.le_total a b with hab | hab
  · have hsplit := List.range'_append_1 a (b - a) (n - b)
    rw [Nat.add_sub_cancel' hab, show n - b + (b - a) = n - a by omega] at hsplit
    rw [Nat.max_eq_right hab, hsplit]
  · rw [Nat.max_eq_left hab, Nat.sub_eq_zero_of_le hab]
    rfl

/-- A head loop whose head is below `2^64 - 1`, from a state with `s.stop` unset and the node
answering every slot it requests, requests every slot from `nextSlotDownload` up to the head,
included, and moves `nextSlotDownload` past the head. -/
theorem downloadToHead_eq (node : BeaconNode) {headSlot : Nat} (hH : headSlot + 1 < 2 ^ 64) :
    ∀ (k fuel : Nat) (st : LiveState), headSlot + 1 - st.nextSlotDownload = k → k < fuel →
      st.stop = false → (∀ s ∈ List.range' st.nextSlotDownload k, (node.requestBeaconBlock s).isSome) →
      downloadToHead node headSlot fuel st =
        some { downloadSlots node (List.range' st.nextSlotDownload k) st with
               nextSlotDownload := max st.nextSlotDownload (headSlot + 1) } := by
  intro k
  induction k with
  | zero =>
    rintro (_ | f) st hk hf hstop -
    · omega
    rw [downloadToHead, if_neg (by omega), List.range'_zero, Nat.max_eq_left (by omega)]
    rfl
  | succ k ih =>
    rintro (_ | f) st hk hf hstop hans
    · omega
    have h1 : add64 st.nextSlotDownload 1 = st.nextSlotDownload + 1 := add64_of_lt (by omega)
    rw [List.range'_succ] at hans
    rw [downloadToHead, if_pos (by omega), if_neg (by simp [hstop]),
      downloadSlot_eq (hans _ (List.mem_cons_self _ _)), Option.some_bind,
      ih f _ (by simp only [h1]; omega) (by omega) (by simpa using hstop)
        (by simpa only [h1] using fun s hs => hans s (List.mem_cons_of_mem _ hs))]
    simp only [h1, List.range'_succ, downloadSlots_cons, downloadSlots_nextSlotDownload]
    congr 2
    omega

/-- A head event below `2^64 - 1`, handled by a running routine whose node answers every slot it
requests. -/
theorem step_head (node : BeaconNode) {headSlot : Nat} (hH : headSlot + 1 < 2 ^ 64) {st : LiveState}
    (hrun : st.Running)
    (hans : ∀ s ∈ List.range' st.nextSlotDownload (headSlot + 1 - st.nextSlotDownload),
      (node.requestBeaconBlock s).isSome) :
    step node st (.head headSlot) =
      some { downloadSlots node
               (List.range' st.nextSlotDownload (headSlot + 1 - st.nextSlotDownload)) st with
             nextSlotDownload := max st.nextSlotDownload (headSlot + 1) } := by
  rw [step, if_neg (by simp [hrun.2])]
  exact downloadToHead_eq node hH _ loopFuel st rfl (by simp only [loopFuel]; omega) hrun.1 hans

theorem le_foldl_max {α : Type} (g : α → Nat) (l : List α) (a : Nat) :
    a ≤ l.foldl (fun n e => max n (g e)) a := by
  induction l generalizing a with
  | nil => exact le_rfl
  | cons e rest ih => exact le_trans (le_max_left a (g e)) (ih _)

/-- Over head events below `2^64 - 1`, each node answering every block request, a running routine
requests every slot from `nextSlotDownload` up to the greatest head, in increasing order, each
once. -/
theorem foldlM_heads (heads : List (BeaconNode × Nat)) (hh : ∀ e ∈ heads, e.2 + 1 < 2 ^ 64)
    (hans : ∀ e ∈ heads, e.1.Answers) :
    ∀ st : LiveState, st.Running → ∃ st', (heads.map fun e => (e.1, Event.head e.2)).foldlM
        (fun st e => step e.1 st e.2) st = some st' ∧
      st'.nextSlotDownload = heads.foldl (fun n e => max n (e.2 + 1)) st.nextSlotDownload ∧
      st'.blockSlots = st.blockSlots ++
        List.range' st.nextSlotDownload (st'.nextSlotDownload - st.nextSlotDownload) := by
  induction heads with
  | nil => exact fun st _ => ⟨st, rfl, rfl, by simp⟩
  | cons e rest ih =>
    intro st hrun
    obtain ⟨st', hrun', hnext, hblocks⟩ := ih (fun e he => hh e (List.mem_cons_of_mem _ he))
      (fun e he => hans e (List.mem_cons_of_mem _ he))
      { downloadSlots e.1 (List.range' st.nextSlotDownload (e.2 + 1 - st.nextSlotDownload)) st with
        nextSlotDownload := max st.nextSlotDownload (e.2 + 1) } (by simpa [LiveState.Running] using hrun)
    refine ⟨st', ?_, hnext, ?_⟩
    · rw [List.map_cons, List.foldlM_cons, step_head e.1 (hh e (List.mem_cons_self e rest)) hrun
        fun s _ => hans e (List.mem_cons_self e rest) s]
      exact hrun'
    · have hge := le_foldl_max (fun e => e.2 + 1) rest (max st.nextSlotDownload (e.2 + 1))
      rw [← hnext] at hge
      rw [hblocks, blockSlots_nextSlotDownload, blockSlots_downloadSlots, List.append_assoc]
      congr 1
      exact range'_append_max (by simpa using hge)

/-- The catch-up phase, when the node answers the finalized-block request and every block request
of `[start, head)`. -/
theorem initLive_eq {node : BeaconNode} {fb : AgnosticBlock}
    (hfin : node.requestFinalizedBeaconBlock = some fb) (hH : node.head < 2 ^ 64) (lastSlot : Nat)
    (hans : ∀ s ∈ List.range' (startSlot lastSlot fb.slot) (node.head - startSlot lastSlot fb.slot),
      (node.requestBeaconBlock s).isSome) :
    initLive node lastSlot = some { downloadSlots node
        (List.range' (startSlot lastSlot fb.slot) (node.head - startSlot lastSlot fb.slot))
        ⟨startSlot lastSlot fb.slot, StateQueue.new fb, [], [], false, false⟩ with
      nextSlotDownload := max (startSlot lastSlot fb.slot) node.head } := by
  rw [initLive, hfin, Option.some_bind]
  exact fillMissing_eq node hH ⟨startSlot lastSlot fb.slot, StateQueue.new fb, [], [], false, false⟩
    rfl hans

/-- The whole run over head events, the nodes answering every block request: every slot from the
catch-up start up to the greatest head seen is requested, in increasing order, each once. -/
theorem run_heads (lastSlot : Nat) (node : BeaconNode) (heads : List (BeaconNode × Nat))
    (hH : node.head < 2 ^ 64) (hh : ∀ e ∈ heads, e.2 + 1 < 2 ^ 64)
    (hfin : node.requestFinalizedBeaconBlock.isSome) (hans : node.Answers)
    (hheads : ∀ e ∈ heads, e.1.Answers) :
    ∃ st, run lastSlot node (heads.map fun e => (e.1, Event.head e.2)) = some st ∧
      st.nextSlotDownload = heads.foldl (fun n e => max n (e.2 + 1))
        (max (startSlot lastSlot node.finalizedBlock.slot) node.head) ∧
      st.blockSlots = List.range' (startSlot lastSlot node.finalizedBlock.slot)
        (st.nextSlotDownload - startSlot lastSlot node.finalizedBlock.slot) := by
  obtain ⟨fb, hfb⟩ := Option.isSome_iff_exists.mp hfin
  have hinit := initLive_eq hfb hH lastSlot fun s _ => hans s
  obtain ⟨st, hrun, hnext, hblocks⟩ := foldlM_heads heads hh hheads
    { downloadSlots node (List.range' (startSlot lastSlot fb.slot) (node.head - startSlot lastSlot fb.slot))
        ⟨startSlot lastSlot fb.slot, StateQueue.new fb, [], [], false, false⟩ with
      nextSlotDownload := max (startSlot lastSlot fb.slot) node.head } ⟨by simp, by simp⟩
  have hfs : node.finalizedBlock = fb := by rw [BeaconNode.finalizedBlock, hfb]; rfl
  have hge := le_foldl_max (fun e => e.2 + 1) heads
    (max (startSlot lastSlot fb.slot) node.head)
  rw [← hnext] at hge
  refine ⟨st, by rw [run, hinit, Option.some_bind]; exact hrun, by rw [hnext, hfs], ?_⟩
  rw [hblocks, hfs]
  simp only [blockSlots_nextSlotDownload, blockSlots_downloadSlots] at hge ⊢
  exact range'_append_max hge

theorem run_heads_from_ninety :
    (95 : Nat) < 2 ^ 64 ∧ (∀ e ∈ [(sampleNode 1 160, 98)], e.2 + 1 < 2 ^ 64) ∧
    (BeaconNode.requestFinalizedBeaconBlock
      ⟨fun s => sampleBlock s 1, fun _ => 1, sampleBlock 100 1, 95⟩).isSome ∧
    BeaconNode.Answers ⟨fun s => sampleBlock s 1, fun _ => 1, sampleBlock 100 1, 95⟩ ∧
    (∀ e ∈ [(sampleNode 1 160, 98)], e.1.Answers) ∧
    ∃ st, run 90 ⟨fun s => sampleBlock s 1, fun _ => 1, sampleBlock 100 1, 95⟩
        ([(sampleNode 1 160, 98)].map fun e => (e.1, Event.head e.2)) = some st ∧
      st.nextSlotDownload = [(sampleNode 1 160, 98)].foldl (fun n e => max n (e.2 + 1))
        (max (startSlot 90 (sampleBlock 100 1).slot) 95) ∧
      st.blockSlots = List.range' (startSlot 90 (sampleBlock 100 1).slot)
        (st.nextSlotDownload - startSlot 90 (sampleBlock 100 1).slot) := by
  have hheads : ∀ e ∈ [(sampleNode 1 160, 98)], e.1.Answers := by
    simp only [List.mem_singleton, forall_eq]
    exact fun _ => rfl
  exact ⟨by decide, by decide, rfl, fun _ => rfl, hheads,
    run_heads 90 ⟨fun s => sampleBlock s 1, fun _ => 1, sampleBlock 100 1, 95⟩
      [(sampleNode 1 160, 98)] (by decide) (by decide) rfl (fun _ => rfl) hheads⟩

/-- The catch-up starts at or before the finalized slot, and at or before the database's last
slot when it has one, unless that last slot is a positive slot of the first two epochs. -/
theorem startSlot_le {lastSlot finalizedSlot : Nat}
    (h : lastSlot = 0 ∨ finalizedSlot < lastSlot ∨ epochsToFinalizedTentative * slotsPerEpoch ≤ lastSlot) :
    startSlot lastSlot finalizedSlot ≤ finalizedSlot ∧
      (0 < lastSlot → startSlot lastSlot finalizedSlot ≤ lastSlot) := by
  unfold startSlot
  split
  · omega
  · rw [sub64_of_le (by omega)]
    omega

theorem startSlot_le_at_hundred :
    (100 = 0 ∨ 40 < 100 ∨ epochsToFinalizedTentative * slotsPerEpoch ≤ 100) ∧
      startSlot 100 40 ≤ 40 ∧ (0 < 100 → startSlot 100 40 ≤ 100) :=
  ⟨by decide, startSlot_le (by decide)⟩

/-- With slot `10` last in the database, finalized slot `100` and head `150`, the catch-up starts
at `10 - 64`, which wraps to `2^64 - 54`; neither the catch-up nor a head event at `160` requests
any block. -/
theorem run_requests_nothing_from_ten :
    startSlot 10 100 = 2 ^ 64 - 54 ∧
      (run 10 ⟨fun s => sampleBlock s 1, fun _ => 1, sampleBlock 100 1, 150⟩
        [(⟨fun s => sampleBlock s 1, fun _ => 1, sampleBlock 100 1, 160⟩, .head 160)]).map
          LiveState.blockSlots = some [] := by
  decide

/-! ## Reorg events -/

/-- On a reorg event `(slot, depth)` whose fork point `b = slot - depth` (a `uint64` subtraction)
the loop has already downloaded, handled before the routine returns, the step persists the reorg
row and then, besides drop markers, one orphan row for each cached block at a slot of `[b, slot)`,
and no other. -/
theorem step_reorg_orphans (node : BeaconNode) (st : LiveState) (slot depth : Nat)
    (hret : st.returned = false) (h : sub64 slot depth < st.nextSlotDownload) :
    ∃ st' ps, step node st (.reorg slot depth) = some st' ∧
      st'.persisted = st.persisted ++ Persistable.row (Row.reorg slot depth) :: ps ∧
      ∀ b, Persistable.row (Row.orphanBlock b) ∈ ps ↔
        ∃ i, sub64 slot depth ≤ i ∧ i < slot ∧ st.queue.blockAt i = some b :=
  ⟨_, _, step_reorg_eq hret slot depth h, by simp, fun _ => mem_reorg_orphanBlock⟩

/-- A running loop anchored at slot `0` whose cache holds the blocks of slots `8`, `9` and `10`,
with the download at slot `11`. -/
def cachedEightToTen : LiveState :=
  ⟨11, ⟨[sampleBlock 10 1, sampleBlock 9 1, sampleBlock 8 1], sampleBlock 0 1, sampleBlock 10 1⟩,
    [], [], false, false⟩

theorem step_reorg_orphans_at_ten :
    cachedEightToTen.returned = false ∧ sub64 10 2 < cachedEightToTen.nextSlotDownload ∧
      ∃ st' ps, step (sampleNode 1 10) cachedEightToTen (.reorg 10 2) = some st' ∧
        st'.persisted = cachedEightToTen.persisted ++ Persistable.row (Row.reorg 10 2) :: ps ∧
        ∀ b, Persistable.row (Row.orphanBlock b) ∈ ps ↔
          ∃ i, sub64 10 2 ≤ i ∧ i < 10 ∧ cachedEightToTen.queue.blockAt i = some b :=
  ⟨rfl, by decide, step_reorg_orphans (sampleNode 1 10) cachedEightToTen 10 2 rfl (by decide)⟩

/-- A reorg event at slot `10` of depth `2`, fork point `8`, over a cache holding the blocks of
slots `8`, `9` and `10`: the orphan rows are not those of the cached blocks of `(8, 10]`, since the
block at `10` gets none (and the block at the fork point `8` gets one). -/
theorem reorg_orphans_fork_point :
    ¬ ∃ st', step (sampleNode 1 10) cachedEightToTen (.reorg 10 2) = some st' ∧
      ∀ b, Persistable.row (Row.orphanBlock b) ∈ st'.persisted ↔
        ∃ i, sub64 10 2 < i ∧ i ≤ 10 ∧ cachedEightToTen.queue.blockAt i = some b := by
  rintro ⟨st', h, hiff⟩
  obtain rfl := Option.some.inj h
  exact absurd ((hiff (sampleBlock 10 1)).mpr ⟨10, by decide, le_rfl, rfl⟩) (by decide)

end ClStateAnalyzer.Analyzer
