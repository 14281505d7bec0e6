/-
# ClStateAnalyzer.Analyzer.ProcessBlock — the rows `ProcessBlock` writes for one block

`ProcessBlock` (`pkg/analyzer/process_block.go`) waits for the block of a slot in the download
cache and persists the block, its withdrawals, its BLS-to-execution changes, its deposits and,
when transaction metrics are on, its transactions and blob sidecars. The execution-layer data
comes from functions outside `src/` (`GetBlockReceipts`, `ParseTransactionsFromBlock`,
`RequestBlobSidecars`): it is an input here, `none` standing for a failed receipt request or
parse, after which `ProcessETH1Data` returns before the blob sidecars. Persisting never fails in
the model (a failed `Persist*` call is only logged by the code).

`processBlock_blockSlot` records where the rows go: every row `ProcessBlock` writes lies in a
block-scoped table (`Row.blockSlot?`), at the block's own slot, the slot the block tables' drop
markers compare against.
-/
import ClStateAnalyzer.Db.Store

namespace ClStateAnalyzer.Analyzer

open Spec Db

/-- The metric switches `ProcessBlock` reads (`DBMetrics.Block`, `DBMetrics.Transactions`). -/
structure DBMetrics where
  block : Bool
  transactions : Bool
  deriving Repr, DecidableEq

/-- `processWithdrawals`: one row per withdrawal of the execution payload. -/
def processWithdrawals (block : AgnosticBlock) : List Row :=
  block.executionPayload.withdrawals.map fun item =>
    .withdrawal { slot := block.slot, index := item.index, validatorIndex := item.validatorIndex,
                  address := item.address, amount := item.amount }

/-- `processDeposits`: one row per deposit; `Index` is Go's `uint8(i)`. -/
def processDeposits (block : AgnosticBlock) : List Row :=
  if block.deposits.length = 0 then []
  else block.deposits.enum.map fun (i, item) =>
    .deposit { slot := block.slot, publicKey := item.publicKey,
               withdrawalCredentials := item.withdrawalCredentials, amount := item.amount,
               signature := item.signature, index := i % 2 ^ 8 }

/-- `processBLSToExecutionChanges`: one row per change, tagged with the block's epoch. -/
def processBLSToExecutionChanges (block : AgnosticBlock) : List Row :=
  if block.blsToExecutionChanges.length = 0 then []
  else block.blsToExecutionChanges.map fun item =>
    .blsToExecutionChange { slot := block.slot, epoch := epochAtSlot block.slot,
                            validatorIndex := item.validatorIndex,
                            fromBLSPublicKey := item.fromBLSPubkey,
                            toExecutionAddress := item.toExecutionAddress }

/-- `processTransactions`: the parsed transactions, or `none` when parsing failed. -/
def processTransactions (txs : Option (List AgnosticTransaction)) : Option (List Row) :=
  txs.map fun txs => if txs.length = 0 then [] else txs.map .transaction

/-- `processBlobSidecars`: the sidecars `RequestBlobSidecars` returned, if any. -/
def processBlobSidecars (blobs : List BlobSidecar) : List Row :=
  if 0 < blobs.length then blobs.map .blobSidecar else []

/-- `ProcessETH1Data`: transactions, then blob sidecars unless the transactions failed. -/
def processETH1Data (txs : Option (List AgnosticTransaction)) (blobs : List BlobSidecar) :
    List Row :=
  match processTransactions txs with
  | none => []
  | some rows => rows ++ processBlobSidecars blobs

/-- `ProcessBlock`, in the order the code persists. -/
def processBlock (metrics : DBMetrics) (block : AgnosticBlock)
    (txs : Option (List AgnosticTransaction)) (blobs : List BlobSidecar) : List Row :=
  if !metrics.block then []
  else
    [.block block] ++ processWithdrawals block
      ++ (if metrics.transactions then processETH1Data txs blobs else [])
      ++ processBLSToExecutionChanges block ++ processDeposits block

theorem processETH1Data_blockSlot {slot : Nat} {txs : Option (List AgnosticTransaction)}
    {blobs : List BlobSidecar} (htx : ∀ l, txs = some l → ∀ t ∈ l, t.slot = slot)
    (hblob : ∀ b ∈ blobs, b.slot = slot) :
    ∀ r ∈ processETH1Data txs blobs, r.blockSlot? = some slot := by
  intro r hr
  cases txs with
  | none => exact absurd hr (List.not_mem_nil r)
  | some l =>
    simp only [processETH1Data, processTransactions, Option.map_some', List.mem_append] at hr
    rcases hr with hr | hr
    · split at hr
      · exact absurd hr (List.not_mem_nil r)
      · obtain ⟨t, ht, rfl⟩ := List.mem_map.mp hr
        exact congrArg some (htx l rfl t ht)
    · unfold processBlobSidecars at hr
      split at hr
      · obtain ⟨b, hb, rfl⟩ := List.mem_map.mp hr
        exact congrArg some (hblob b hb)
      · exact absurd hr (List.not_mem_nil r)

/-- Every row `ProcessBlock` writes is block-scoped and sits at the block's slot, when the
execution-layer data it is given belongs to that slot. -/
theorem processBlock_blockSlot (metrics : DBMetrics) (block : AgnosticBlock)
    (txs : Option (List AgnosticTransaction)) (blobs : List BlobSidecar)
    (htx : ∀ l, txs = some l → ∀ t ∈ l, t.slot = block.slot)
    (hblob : ∀ b ∈ blobs, b.slot = block.slot) :
    ∀ r ∈ processBlock metrics block txs blobs, r.blockSlot? = some block.slot := by
  intro r hr
  simp only [processBlock, processWithdrawals, processBLSToExecutionChanges,
    processDeposits] at hr
  split at hr
  · exact absurd hr (List.not_mem_nil r)
  · simp only [List.mem_append, List.mem_singleton] at hr
    rcases hr with (((rfl | hr) | hr) | hr) | hr
    · rfl
    · obtain ⟨_, _, rfl⟩ := List.mem_map.mp hr; rfl
    · split at hr
      · exact processETH1Data_blockSlot htx hblob r hr
      · exact absurd hr (List.not_mem_nil r)
    all_goals
      split at hr
      · exact absurd hr (List.not_mem_nil r)
      · obtain ⟨_, _, rfl⟩ := List.mem_map.mp hr; rfl

end ClStateAnalyzer.Analyzer
