/-
# ClStateAnalyzer.Analyzer.Historical — the historical downloaders

In historical and hybrid mode the analyzers work through a fixed slot range. `NewBlockAnalyzer`
(package `blocks`) lists every slot of `[initSlot, finalSlot]` with
`for i := initSlot; i <= finalSlot; i += 1`, and `runDownloadBlocks` (`cmd/reward_cmd.go`) requests
the blocks of `[initSlot, finalSlot)` with `for slot := s.initSlot; slot < s.finalSlot; slot += 1`.

`runDownloadBlocks` has the body of the live loop's catch-up (`DownloadNewBlock`, then
`DownloadNewState(slot - 1)` at an epoch boundary), so it is `fillMissing` bounded by `finalSlot`,
from the zero-valued `StateQueue{}`; a failed block request panics there as in the live loop. Its
`s.stop` test comes before each iteration rather than after, which is the same while the flag is
unset: it starts unset, and only the finalized loop, running beside it in hybrid mode, sets it.
That interleaving, the `ctx.Done()` exit and the `finalized` argument of `DownloadNewState`, which
the download record does not carry, are left out. At slot `0` the state request is for `0 - 1`,
which wraps to `2^64 - 1`.

`NewBlockAnalyzer`'s loop has an inclusive bound and no validity check: a range with
`finalSlot < initSlot` gives no slot, and at `finalSlot = 2^64 - 1` every `i` passes the test and
`i += 1` wraps, so the loop never ends. It runs on fuel here, `none` being a loop that never ends.
-/
import ClStateAnalyzer.Analyzer.Live

namespace ClStateAnalyzer.Analyzer

open Spec

/-! ## `runDownloadBlocks` -/

/-- At slot `0` the state request wraps to `2^64 - 1`. -/
example : slotRequests 0 = [.block 0, .state (2 ^ 64 - 1)] := by decide

/-! ## The slot list of `NewBlockAnalyzer` -/

/-- The slot loop of `NewBlockAnalyzer`, `for i := initSlot; i <= finalSlot; i += 1`, on fuel. -/
def blockSlotLoop (finalSlot : Nat) : Nat → Nat → Option (List Nat)
  | 0, _ => none
  | fuel + 1, i =>
    if i ≤ finalSlot then (blockSlotLoop finalSlot fuel (add64 i 1)).map (i :: ·) else some []

/-- The `SlotRanges` of `NewBlockAnalyzer`; the slot loop runs on `fuel`. -/
def blockSlotRanges (fuel : Nat) (downloadMode : String) (initSlot finalSlot : Nat) :
    Option (List Nat) :=
  if downloadMode = "hybrid" ∨ downloadMode = "historical" then blockSlotLoop finalSlot fuel initSlot
  else some []

/-- While `finalSlot + 1` does not wrap, the loop lists `i, i + 1, …, finalSlot`. -/
theorem blockSlotLoop_eq {finalSlot : Nat} (hF : finalSlot + 1 < 2 ^ 64) :
    ∀ (k fuel i : Nat), k = finalSlot + 1 - i → k < fuel →
      blockSlotLoop finalSlot fuel i = some (List.range' i k) := by
  intro k
  induction k with
  | zero =>
    rintro (_ | f) i hk hf
    · omega
    rw [blockSlotLoop, if_neg (by omega)]
    rfl
  | succ k ih =>
    rintro (_ | f) i hk hf
    · omega
    rw [blockSlotLoop, if_pos (by omega), add64_of_lt (by omega), ih f (i + 1) (by omega) (by omega)]
    rfl

/-- At bound `2^64 - 1` every slot passes the test and the increment wraps: no fuel suffices. -/
theorem blockSlotLoop_top : ∀ (fuel i : Nat), i < 2 ^ 64 → blockSlotLoop (2 ^ 64 - 1) fuel i = none := by
  intro fuel
  induction fuel with
  | zero => intro _ _; rfl
  | succ f ih =>
    intro i hi
    rw [blockSlotLoop, if_pos (by omega), ih _ (add64_lt _ _)]
    rfl

/-- In historical and hybrid mode, `NewBlockAnalyzer` lists every slot of `[initSlot, finalSlot]`,
in order, and nothing when `finalSlot < initSlot`, as long as `finalSlot < 2^64 - 1`; at
`finalSlot = 2^64 - 1` its loop never ends. -/
theorem blockSlotRanges_cases {downloadMode : String}
    (hmode : downloadMode = "hybrid" ∨ downloadMode = "historical") {initSlot : Nat}
    (hi : initSlot < 2 ^ 64) (finalSlot : Nat) :
    (finalSlot + 1 < 2 ^ 64 → ∀ fuel, finalSlot + 1 - initSlot < fuel →
      blockSlotRanges fuel downloadMode initSlot finalSlot =
        some (List.range' initSlot (finalSlot + 1 - initSlot))) ∧
    (finalSlot = 2 ^ 64 - 1 → ∀ fuel, blockSlotRanges fuel downloadMode initSlot finalSlot = none) := by
  refine ⟨fun hF fuel hfuel => ?_, fun hF fuel => ?_⟩
  · rw [blockSlotRanges, if_pos hmode, blockSlotLoop_eq hF _ fuel initSlot rfl hfuel]
  · rw [blockSlotRanges, if_pos hmode, hF, blockSlotLoop_top fuel initSlot hi]

theorem blockSlotRanges_cases_from_ten :
    ("historical" = "hybrid" ∨ "historical" = "historical") ∧ (10 : Nat) < 2 ^ 64 ∧
      ((20 : Nat) + 1 < 2 ^ 64 → ∀ fuel, 20 + 1 - 10 < fuel →
        blockSlotRanges fuel "historical" 10 20 = some (List.range' 10 (20 + 1 - 10))) ∧
      ((20 : Nat) = 2 ^ 64 - 1 → ∀ fuel, blockSlotRanges fuel "historical" 10 20 = none) :=
  ⟨by decide, by decide, blockSlotRanges_cases (by decide) (by decide) 20⟩

end ClStateAnalyzer.Analyzer
