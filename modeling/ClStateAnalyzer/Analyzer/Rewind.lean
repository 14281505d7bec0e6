/-
# ClStateAnalyzer.Analyzer.Rewind — what a rewind deletes from the database

A reorg (`Reorg`) or a state-root mismatch found by `CheckFinalized` rewinds the analyzer to a
slot `r`. Both hand the database a batch of persistables: `RewindBlockMetrics(r)`'s drop markers,
`RewindEpochMetrics`' markers when the handler rolls the epoch metrics back, and, for a reorg, the
orphan rows. Executed against any store, the batch clears the blocks and withdrawals tables from
`r` on, and the epoch, proposer-duty and reward tables from the epoch the rewound states fed.

What it does not clear, by the code's design: the deposits, BLS-to-execution-change and
blob-sidecar tables have no drop marker at all, and a reorg inside one epoch that does not end it
skips `RewindEpochMetrics`. The transactions marker's query deletes the rows at slot `r` only
(`WHERE f_slot = $1`): the last theorem shows that every other transaction row outlives the rewind,
among them those of the orphaned blocks after `r`. Left out of the statements: rewind slots below
`32`, where `epoch - 1` wraps to `2^64 - 1`.
-/
import ClStateAnalyzer.Analyzer.Chain

namespace ClStateAnalyzer.Analyzer

open Spec Db

/-- No row of the blocks or withdrawals table lies at or after slot `r`. -/
def BlockRowsCleared (rows : List Row) (r : Nat) : Prop :=
  (∀ b, Row.block b ∈ rows → b.slot < r) ∧ (∀ w, Row.withdrawal w ∈ rows → w.slot < r)

/-- No row computed from a state at or after slot `r` is left: epoch metrics and proposer duties
are written at the next state's epoch `- 1`, validator rewards at the epoch `+ 1`. -/
def EpochRowsCleared (rows : List Row) (r : Nat) : Prop :=
  (∀ e, Row.epoch e ∈ rows → e < r / slotsPerEpoch - 1) ∧
    (∀ e, Row.proposerDuty e ∈ rows → e < r / slotsPerEpoch - 1) ∧
    (∀ v e, Row.validatorRewards v e ∈ rows → e < r / slotsPerEpoch)

variable {store : List Row} {ps : List Persistable}

/-- A marker of a batch that adds only orphan rows deletes its rows for good. -/
theorem not_mem_of_marker {p : Persistable} (hp : p ∈ ps)
    (hadd : ∀ p ∈ ps, ∀ x ∈ p.adds, ∃ b, x = .orphanBlock b) {x : Row} (hdel : p.deletes x = true) :
    x ∉ persistAll store ps := by
  refine not_mem_persistAll hp hdel fun q hq hx => ?_
  obtain ⟨b, rfl⟩ := hadd q hq x hx
  cases p <;> simp [Persistable.deletes] at hdel

/-- A batch holding `RewindBlockMetrics(r)` and adding only orphan rows clears the blocks and
withdrawals tables from `r` on. -/
theorem blockRowsCleared_of_rewind {r : Nat} (hsub : ∀ p ∈ rewindBlockMetrics r, p ∈ ps)
    (hadd : ∀ p ∈ ps, ∀ x ∈ p.adds, ∃ b, x = .orphanBlock b) :
    BlockRowsCleared (persistAll store ps) r := by
  refine ⟨fun b hb => Nat.lt_of_not_le fun hr => ?_, fun w hw => Nat.lt_of_not_le fun hr => ?_⟩
  · exact not_mem_of_marker (hsub (.blockDrop r) (by simp [rewindBlockMetrics])) hadd
      (by simpa [Persistable.deletes] using hr) hb
  · exact not_mem_of_marker (hsub (.withdrawalDrop r) (by simp [rewindBlockMetrics])) hadd
      (by simpa [Persistable.deletes] using hr) hw

/-- A batch holding `RewindEpochMetrics(r / 32 - 1)` and adding only orphan rows clears the
epoch-scoped tables of the states at or after `r`, for a `uint64` slot `r` past the first epoch. -/
theorem epochRowsCleared_of_rewind {r : Nat} (hr : slotsPerEpoch ≤ r) (hr64 : r < 2 ^ 64)
    (hsub : ∀ p ∈ rewindEpochMetrics (sub64 (r / slotsPerEpoch) 1), p ∈ ps)
    (hadd : ∀ p ∈ ps, ∀ x ∈ p.adds, ∃ b, x = .orphanBlock b) :
    EpochRowsCleared (persistAll store ps) r := by
  have hle : 1 ≤ r / slotsPerEpoch := (Nat.one_le_div_iff (by decide)).mpr hr
  have hep : sub64 (r / slotsPerEpoch) 1 = r / slotsPerEpoch - 1 := sub64_of_le hle
  have hrw : add64 (r / slotsPerEpoch - 1) 1 = r / slotsPerEpoch := by
    rw [add64_of_lt (by simp only [slotsPerEpoch_eq] at hle ⊢; omega)]; omega
  rw [hep] at hsub
  refine ⟨fun e he => Nat.lt_of_not_le fun h => ?_, fun e he => Nat.lt_of_not_le fun h => ?_,
    fun v e he => Nat.lt_of_not_le fun h => ?_⟩
  · exact not_mem_of_marker (hsub (.epochDrop (r / slotsPerEpoch - 1)) (by simp [rewindEpochMetrics]))
      hadd (by simpa only [Persistable.deletes, decide_eq_true_eq] using h) he
  · exact not_mem_of_marker
      (hsub (.proposerDutiesDrop (r / slotsPerEpoch - 1)) (by simp [rewindEpochMetrics])) hadd
      (by simpa only [Persistable.deletes, decide_eq_true_eq] using h) he
  · exact not_mem_of_marker
      (hsub (.validatorRewardsDrop (add64 (r / slotsPerEpoch - 1) 1)) (by simp [rewindEpochMetrics]))
      hadd (by simpa only [Persistable.deletes, hrw, decide_eq_true_eq] using h) he

/-- No drop marker deletes a deposit, BLS-to-execution change or blob sidecar row. -/
theorem mem_persistAll_of_undroppable {x : Row} (hx : x ∈ store) (hu : x.undroppable = true) :
    x ∈ persistAll store ps :=
  mem_persistAll_of_mem hx fun p _ => by
    cases x <;> simp [Row.undroppable] at hu <;> cases p <;> rfl

/-- The block markers delete only block-scoped rows. -/
theorem rewindBlockMetrics_deletes {r : Nat} {x : Row} (hx : x.blockSlot? = none) :
    ∀ p ∈ rewindBlockMetrics r, p.deletes x = false := by
  intro p hp
  simp only [rewindBlockMetrics, List.mem_cons, List.mem_singleton, List.not_mem_nil,
    or_false] at hp
  rcases hp with rfl | rfl | rfl <;> cases x <;> simp_all [Row.blockSlot?, Persistable.deletes]

/-! ## The batches of the two handlers -/

theorem reorg_blockMarkers (baseSlot slot : Nat) (queue : StateQueue) :
    ∀ p ∈ rewindBlockMetrics baseSlot, p ∈ (reorg baseSlot slot queue).2 :=
  fun _ hp => List.mem_append_left _ (List.mem_append_left _ hp)

theorem reorg_epochMarkers {baseSlot slot : Nat} (queue : StateQueue)
    (h : slot % slotsPerEpoch = 31 ∨ baseSlot / slotsPerEpoch ≠ slot / slotsPerEpoch) :
    ∀ p ∈ rewindEpochMetrics (sub64 (baseSlot / slotsPerEpoch) 1), p ∈ (reorg baseSlot slot queue).2 :=
  fun _ hp => List.mem_append_left _ (List.mem_append_right _ (by simpa only [if_pos h] using hp))

/-- A reorg inside one epoch that does not end it hands over the block markers and orphans only. -/
theorem reorg_deletes_blockScoped {baseSlot slot : Nat} (queue : StateQueue)
    (h31 : slot % slotsPerEpoch ≠ 31) (hep : baseSlot / slotsPerEpoch = slot / slotsPerEpoch)
    {x : Row} (hx : x.blockSlot? = none) : ∀ p ∈ (reorg baseSlot slot queue).2, p.deletes x = false := by
  intro p hp
  simp only [reorg, List.mem_append, if_neg (not_or.mpr ⟨h31, not_not.mpr hep⟩),
    List.not_mem_nil, or_false] at hp
  rcases hp with hp | hp
  · exact rewindBlockMetrics_deletes hx p hp
  · obtain ⟨i, -, hi⟩ := List.mem_filterMap.mp hp
    obtain ⟨b, -, rfl⟩ := Option.map_eq_some'.mp hi
    exact row_deletes _ _

theorem checkFinalized_persisted {node : BeaconNode} {epoch : Nat} {queue : StateQueue} {m : Nat}
    (hm : firstMismatch node queue (verifiedSlots queue (node.block (mul64 epoch slotsPerEpoch)))
      = some m) :
    (checkFinalized node epoch queue).persisted
      = rewindBlockMetrics m ++ rewindEpochMetrics (sub64 (m / slotsPerEpoch) 1) := by
  rw [checkFinalized_eq (requestBeaconBlock_of_firstMismatch hm), hm]
  rfl

theorem checkFinalized_adds (node : BeaconNode) (epoch : Nat) (queue : StateQueue) :
    ∀ p ∈ (checkFinalized node epoch queue).persisted, ∀ x ∈ p.adds, ∃ b, x = .orphanBlock b := by
  intro p hp x hx
  unfold checkFinalized at hp
  split at hp
  · exact absurd hp (List.not_mem_nil p)
  · exact absurd hx (by rw [checkSlots_adds node _ _ queue p hp]; exact List.not_mem_nil x)

/-! ## What a rewind deletes -/

/-- After a reorg with fork point `b`, or a state-root mismatch first found at `m`, the batch the
handler hands over leaves no block or withdrawal row at or after the rewind slot, and deletes no
deposit, BLS-to-execution change or blob sidecar row, whatever the store held. -/
theorem rewind_clears_block_tables (store : List Row) :
    (∀ baseSlot slot queue,
      BlockRowsCleared (persistAll store (reorg baseSlot slot queue).2) baseSlot) ∧
    (∀ node epoch queue m,
      firstMismatch node queue (verifiedSlots queue (node.block (mul64 epoch slotsPerEpoch)))
        = some m →
      BlockRowsCleared (persistAll store (checkFinalized node epoch queue).persisted) m) ∧
    (∀ x ∈ store, x.undroppable = true →
      (∀ baseSlot slot queue, x ∈ persistAll store (reorg baseSlot slot queue).2) ∧
      ∀ node epoch queue, x ∈ persistAll store (checkFinalized node epoch queue).persisted) := by
  refine ⟨fun baseSlot slot queue => ?_, fun node epoch queue m hm => ?_, fun x hx hu => ?_⟩
  · exact blockRowsCleared_of_rewind (reorg_blockMarkers baseSlot slot queue)
      (reorg_adds baseSlot slot queue)
  · refine blockRowsCleared_of_rewind (fun p hp => ?_) (checkFinalized_adds node epoch queue)
    rw [checkFinalized_persisted hm]
    exact List.mem_append_left _ hp
  · exact ⟨fun _ _ _ => mem_persistAll_of_undroppable hx hu,
      fun _ _ _ => mem_persistAll_of_undroppable hx hu⟩

theorem rewind_clears_block_tables_at_mismatch :
    firstMismatch (sampleNode 2 40) ⟨[sampleBlock 3 1], sampleBlock 0 1, sampleBlock 3 1⟩
        (verifiedSlots ⟨[sampleBlock 3 1], sampleBlock 0 1, sampleBlock 3 1⟩
          ((sampleNode 2 40).block (mul64 1 slotsPerEpoch))) = some 3 ∧
      BlockRowsCleared (persistAll [Row.block (sampleBlock 4 1)] (checkFinalized (sampleNode 2 40) 1
        ⟨[sampleBlock 3 1], sampleBlock 0 1, sampleBlock 3 1⟩).persisted) 3 :=
  ⟨by decide, (rewind_clears_block_tables [Row.block (sampleBlock 4 1)]).2.1 _ 1 _ 3 (by decide)⟩

/-- A reorg from fork point `5` to slot `6` leaves a deposit row of slot `5` in place. -/
theorem reorg_keeps_deposit_row :
    ¬ ∀ x ∈ persistAll [Row.deposit ⟨5, 0, 0, 32, 0, 0⟩]
        (reorg 5 6 (StateQueue.new (sampleBlock 0 1))).2,
      ∀ s, x.blockSlot? = some s → s < 5 :=
  fun h => absurd (h (Row.deposit ⟨5, 0, 0, 32, 0, 0⟩) (by decide) 5 rfl) (by decide)

/-- After a state-root mismatch first found at a slot `m ≥ 32`, or a reorg with fork point
`b ≥ 32` that ends an epoch or crosses an epoch boundary, the batch leaves no epoch or
proposer-duty row from `m / 32 - 1` on and no reward row from `m / 32` on. A reorg inside one epoch
that does not end it deletes no row outside the block-scoped tables. -/
theorem rewind_clears_epoch_tables (store : List Row) :
    (∀ node epoch queue m,
      firstMismatch node queue (verifiedSlots queue (node.block (mul64 epoch slotsPerEpoch)))
        = some m → slotsPerEpoch ≤ m → m < 2 ^ 64 →
      EpochRowsCleared (persistAll store (checkFinalized node epoch queue).persisted) m) ∧
    (∀ baseSlot slot queue, slotsPerEpoch ≤ baseSlot → baseSlot < 2 ^ 64 →
      (slot % slotsPerEpoch = 31 ∨ baseSlot / slotsPerEpoch ≠ slot / slotsPerEpoch) →
      EpochRowsCleared (persistAll store (reorg baseSlot slot queue).2) baseSlot) ∧
    (∀ baseSlot slot queue, slot % slotsPerEpoch ≠ 31 →
      baseSlot / slotsPerEpoch = slot / slotsPerEpoch →
      ∀ x ∈ store, x.blockSlot? = none → x ∈ persistAll store (reorg baseSlot slot queue).2) := by
  refine ⟨fun node epoch queue m hm h32 h64 => ?_, fun baseSlot slot queue h32 h64 hcross => ?_,
    fun baseSlot slot queue h31 hep x hx hnone => ?_⟩
  · refine epochRowsCleared_of_rewind h32 h64 (fun p hp => ?_) (checkFinalized_adds node epoch queue)
    rw [checkFinalized_persisted hm]
    exact List.mem_append_right _ hp
  · exact epochRowsCleared_of_rewind h32 h64 (reorg_epochMarkers queue hcross)
      (reorg_adds baseSlot slot queue)
  · exact mem_persistAll_of_mem hx (reorg_deletes_blockScoped queue h31 hep hnone)

theorem rewind_clears_epoch_tables_crossing :
    slotsPerEpoch ≤ 40 ∧ 40 < 2 ^ 64 ∧ (70 % slotsPerEpoch = 31 ∨ 40 / slotsPerEpoch ≠ 70 / slotsPerEpoch) ∧
      EpochRowsCleared (persistAll [Row.epoch 0, Row.validatorRewards 7 1]
        (reorg 40 70 (StateQueue.new (sampleBlock 0 1))).2) 40 :=
  ⟨by decide, by decide, by decide,
    (rewind_clears_epoch_tables [Row.epoch 0, Row.validatorRewards 7 1]).2.1 40 70 _
      (by decide) (by decide) (by decide)⟩

/-- A reorg from fork point `40` to slot `45`, inside epoch `1`, leaves the epoch-`0` metrics row. -/
theorem reorg_keeps_epoch_row :
    ¬ EpochRowsCleared (persistAll [Row.epoch 0] (reorg 40 45 (StateQueue.new (sampleBlock 0 1))).2)
      40 :=
  fun h => absurd (h.1 0 (by decide)) (by decide)

/-! ## The transactions table -/

theorem deletes_transaction_iff {p : Persistable} {t : AgnosticTransaction} :
    p.deletes (.transaction t) = true ↔ p = .transactionDrop t.slot := by
  cases p <;> simp [Persistable.deletes, eq_comm]

/-- A batch that adds only orphan rows keeps a stored transaction row exactly when it holds no
transactions marker for the row's slot. -/
theorem mem_persistAll_transaction {t : AgnosticTransaction} (ht : Row.transaction t ∈ store)
    (hadd : ∀ p ∈ ps, ∀ x ∈ p.adds, ∃ b, x = .orphanBlock b) :
    Row.transaction t ∈ persistAll store ps ↔ Persistable.transactionDrop t.slot ∉ ps :=
  ⟨fun h hp => not_mem_of_marker hp hadd (deletes_transaction_iff.mpr rfl) h,
    fun hn => mem_persistAll_of_mem ht fun _ hp =>
      Bool.eq_false_iff.mpr fun hd => hn (deletes_transaction_iff.mp hd ▸ hp)⟩

/-- After a reorg with fork point `b`, or a state-root mismatch first found at `m`, a stored
transaction row outlives the handler's batch exactly when its slot is not the rewind slot. The
transactions of the orphaned blocks after the rewind slot stay, while their blocks and withdrawals
are dropped. -/
theorem rewind_keeps_other_transactions {t : AgnosticTransaction} (ht : Row.transaction t ∈ store) :
    (∀ baseSlot slot queue,
      Row.transaction t ∈ persistAll store (reorg baseSlot slot queue).2 ↔ t.slot ≠ baseSlot) ∧
    ∀ node epoch queue m,
      firstMismatch node queue (verifiedSlots queue (node.block (mul64 epoch slotsPerEpoch))) = some m →
      (Row.transaction t ∈ persistAll store (checkFinalized node epoch queue).persisted ↔
        t.slot ≠ m) := by
  refine ⟨fun baseSlot slot queue => ?_, fun node epoch queue m hm => ?_⟩
  · rw [mem_persistAll_transaction ht (reorg_adds baseSlot slot queue), not_iff_not]
    simp only [reorg, List.mem_append, rewindBlockMetrics, List.mem_filterMap, Option.map_eq_some']
    split <;> simp [rewindEpochMetrics]
  · rw [mem_persistAll_transaction ht (checkFinalized_adds node epoch queue), not_iff_not,
      checkFinalized_persisted hm]
    simp [rewindBlockMetrics, rewindEpochMetrics]

/-- A transaction row at slot `9`, after a reorg with fork point `8`. -/
theorem rewind_keeps_other_transactions_at_nine :
    Row.transaction ⟨9⟩ ∈ [Row.transaction ⟨9⟩] ∧
      (∀ baseSlot slot queue, Row.transaction ⟨9⟩ ∈ persistAll [Row.transaction ⟨9⟩]
        (reorg baseSlot slot queue).2 ↔ (⟨9⟩ : AgnosticTransaction).slot ≠ baseSlot) ∧
      ∀ node epoch queue m,
        firstMismatch node queue (verifiedSlots queue (node.block (mul64 epoch slotsPerEpoch))) = some m →
        (Row.transaction ⟨9⟩ ∈ persistAll [Row.transaction ⟨9⟩] (checkFinalized node epoch queue).persisted ↔
          (⟨9⟩ : AgnosticTransaction).slot ≠ m) :=
  ⟨List.mem_singleton_self _, rewind_keeps_other_transactions (List.mem_singleton_self _)⟩

end ClStateAnalyzer.Analyzer
