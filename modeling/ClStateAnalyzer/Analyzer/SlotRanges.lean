/-
# ClStateAnalyzer.Analyzer.SlotRanges — the epoch-end slots `NewStateAnalyzer` schedules

In historical and hybrid mode `NewStateAnalyzer` rounds both ends of the requested slot range to
the last slot of their epochs and lists every epoch-end slot from two epochs before the first to
two epochs after the last:
`for i := initSlot - 32*2; i <= finalSlot + 32*2; i += 32`. All of it is `uint64` arithmetic, kept
here with its wraps. The loop has no bound of its own: once `i` passes `2^64 - 32` the increment
wraps back below the bound, so the loop is run on fuel and `none` is a loop that never ends.

`slotRangeLoop_eq` is the loop's closed form while nothing wraps. Below it the two ends where
something does: an initial slot of the first two epochs, where `initSlot - 64` wraps to the top of
the range and the list comes out empty, and a last epoch-end slot of `2^64 - 1`, where the loop
never ends.
-/
import ClStateAnalyzer.Word

namespace ClStateAnalyzer.Analyzer

/-- The range loop from slot `i`, bounded by `bound`, on fuel. -/
def slotRangeLoop (bound : Nat) : Nat → Nat → Option (List Nat)
  | 0, _ => none
  | fuel + 1, i =>
    if i ≤ bound then (slotRangeLoop bound fuel (add64 i slotsPerEpoch)).map (i :: ·)
    else some []

/-- The `SlotRanges` of `NewStateAnalyzer`, or its error; the range loop runs on `fuel`. -/
def slotRanges (fuel : Nat) (downloadMode : String) (initSlot finalSlot : Nat) :
    Except String (Option (List Nat)) :=
  if downloadMode = "hybrid" ∨ downloadMode = "historical" then
    if finalSlot ≤ initSlot then .error "provided slot range isn't valid"
    else
      let initEpoch := initSlot / 32
      let finalEpoch := finalSlot / 32
      let initSlot := sub64 (mul64 (add64 initEpoch 1) slotsPerEpoch) 1
      let finalSlot := sub64 (mul64 (add64 finalEpoch 1) slotsPerEpoch) 1
      .ok (slotRangeLoop (add64 finalSlot (mul64 slotsPerEpoch 2)) fuel
        (sub64 initSlot (mul64 slotsPerEpoch 2)))
  else .ok (some [])

/-- While `bound + 32` does not wrap, the loop lists `i, i + 32, …` up to `bound`. -/
theorem slotRangeLoop_eq {bound : Nat} (hb : bound + slotsPerEpoch < 2 ^ 64) :
    ∀ (k fuel i : Nat), k = (bound + slotsPerEpoch - i) / slotsPerEpoch → k < fuel →
      slotRangeLoop bound fuel i = some ((List.range k).map fun j => i + slotsPerEpoch * j) := by
  intro k
  induction k with
  | zero =>
    rintro (_ | f) i hk hf
    · omega
    simp only [slotRangeLoop, slotsPerEpoch_eq] at hk hb ⊢
    rw [if_neg (by omega)]
    rfl
  | succ k ih =>
    rintro (_ | f) i hk hf
    · omega
    simp only [slotRangeLoop, slotsPerEpoch_eq] at hk hb ih ⊢
    rw [if_pos (by omega), add64_of_lt (by omega), ih f (i + 32) (by omega) (by omega),
      List.range_succ_eq_map]
    simp only [Option.map_some', List.map_cons, List.map_map, Nat.mul_zero, Nat.add_zero]
    congr 3
    funext j
    simp only [Function.comp]
    omega

/-- The last slot of epoch `e`, `(e + 1) * 32 - 1` in `uint64`, below the top epoch. -/
theorem epochEnd_eq {e : Nat} (he : e + 1 < 2 ^ 59) :
    sub64 (mul64 (add64 e 1) slotsPerEpoch) 1 = 32 * e + 31 := by
  rw [add64_of_lt (by omega), mul64, slotsPerEpoch_eq, Nat.mod_eq_of_lt (by omega),
    sub64_of_le (by omega)]
  omega

/-- Away from both ends of the `uint64` range, `SlotRanges` is every epoch-end slot from two
epochs before the initial slot's epoch to two epochs after the final slot's. -/
theorem slotRanges_eq {downloadMode : String}
    (hmode : downloadMode = "hybrid" ∨ downloadMode = "historical") {initSlot finalSlot : Nat}
    (hinit : 64 ≤ initSlot) (hlt : initSlot < finalSlot)
    (hfit : 32 * (finalSlot / 32 + 2) + 31 < 2 ^ 64 - 1) {fuel : Nat}
    (hfuel : finalSlot / 32 + 5 - initSlot / 32 < fuel) :
    slotRanges fuel downloadMode initSlot finalSlot = .ok (some
      ((List.range' (initSlot / 32 - 2) (finalSlot / 32 + 5 - initSlot / 32)).map
        fun e => 32 * e + 31)) := by
  have hie : initSlot / 32 ≤ finalSlot / 32 := Nat.div_le_div_right hlt.le
  simp only [slotRanges, if_pos hmode, if_neg (Nat.not_le.mpr hlt), epochEnd_eq (by omega : initSlot / 32 + 1 < 2 ^ 59),
    epochEnd_eq (by omega : finalSlot / 32 + 1 < 2 ^ 59)]
  have hstart : sub64 (32 * (initSlot / 32) + 31) (mul64 slotsPerEpoch 2)
      = 32 * (initSlot / 32 - 2) + 31 := by
    rw [mul64, slotsPerEpoch_eq, sub64_of_le (by omega)]
    omega
  have hbound : add64 (32 * (finalSlot / 32) + 31) (mul64 slotsPerEpoch 2)
      = 32 * (finalSlot / 32) + 95 := by
    rw [mul64, slotsPerEpoch_eq, add64_of_lt (by omega)]
    omega
  rw [hstart, hbound, slotRangeLoop_eq (by simp only [slotsPerEpoch_eq]; omega) _ fuel _
    (by simp only [slotsPerEpoch_eq]; omega) hfuel, List.range'_eq_map_range, List.map_map]
  congr 3
  funext j
  simp only [Function.comp, slotsPerEpoch_eq]
  omega

theorem slotRanges_eq_from_slot_hundred :
    ("historical" = "hybrid" ∨ "historical" = "historical") ∧ 64 ≤ 100 ∧ 100 < 200 ∧
      32 * (200 / 32 + 2) + 31 < 2 ^ 64 - 1 ∧ 200 / 32 + 5 - 100 / 32 < 9 ∧
      slotRanges 9 "historical" 100 200 = .ok (some
        ((List.range' (100 / 32 - 2) (200 / 32 + 5 - 100 / 32)).map fun e => 32 * e + 31)) :=
  ⟨by decide, by decide, by decide, by decide, by decide,
    slotRanges_eq (by decide) (by decide) (by decide) (by decide) (by decide)⟩

/-- At bound `2^64 - 1` every slot passes the test and the increment wraps: no fuel suffices. -/
theorem slotRangeLoop_top : ∀ (fuel i : Nat), i < 2 ^ 64 → slotRangeLoop (2 ^ 64 - 1) fuel i = none := by
  intro fuel
  induction fuel with
  | zero => intro _ _; rfl
  | succ f ih =>
    intro i hi
    rw [slotRangeLoop, if_pos (by omega), ih _ (add64_lt _ _)]
    rfl

/-- When the last scheduled slot is `2^64 - 1` (final epoch `2^59 - 3`), the range loop of
`NewStateAnalyzer` never ends. -/
theorem slotRanges_top (fuel : Nat) :
    slotRanges fuel "historical" (2 ^ 64 - 96) (2 ^ 64 - 65) = .ok none := by
  have h : slotRanges fuel "historical" (2 ^ 64 - 96) (2 ^ 64 - 65)
      = .ok (slotRangeLoop (2 ^ 64 - 1) fuel (2 ^ 64 - 129)) := rfl
  rw [h, slotRangeLoop_top fuel _ (by decide)]

/-- From initial slot `0` the start `31 - 64` wraps past the bound: `SlotRanges` is empty where
the epoch-end slots `31, 63, …, 191` are due. -/
theorem slotRanges_empty_from_slot_zero (fuel : Nat) :
    slotRanges (fuel + 1) "historical" 0 100 = .ok (some []) :=
  rfl

end ClStateAnalyzer.Analyzer
