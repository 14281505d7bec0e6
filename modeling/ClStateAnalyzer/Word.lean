/-
# ClStateAnalyzer.Word — Go's `uint64` arithmetic over `Nat`

Slots, epochs, Gwei amounts and validator indices are `uint64` in the analyzer (`phase0.Slot`,
`phase0.Epoch`, `phase0.Gwei`, `phase0.ValidatorIndex`). The model keeps them as plain `Nat` and
writes every wrapping operation of the source explicitly: `add64`, `sub64`, `mul64` reduce modulo
`2^64` exactly as Go does, and `goInt` is Go's `int(x)` conversion of a `uint64`, which turns the upper
half of the range negative. Operations that cannot wrap on the values the code reaches (a count
bounded by a slice length, a division) stay plain `Nat` operations.

The participation byte of Altair (`altair.ParticipationFlags`) is read only through
`(item & flag) == flag` with `flag = 2^f`; `and_two_pow_eq_iff` turns that test into `testBit`.
-/
import Mathlib

namespace ClStateAnalyzer

/-- Go's `a + b` on `uint64`. -/
def add64 (a b : Nat) : Nat := (a + b) % 2 ^ 64

/-- Go's `a - b` on `uint64`: below zero it wraps to the top of the range. -/
def sub64 (a b : Nat) : Nat := if b ≤ a then a - b else a + 2 ^ 64 - b

/-- Go's `a * b` on `uint64`. -/
def mul64 (a b : Nat) : Nat := (a * b) % 2 ^ 64

/-- Go's `int(x)` for a `uint64` `x`: the bits are kept, so `x ≥ 2^63` reads negative. -/
def goInt (x : Nat) : Int := if x < 2 ^ 63 then x else (x : Int) - 2 ^ 64

/-- Go's `uint64(x)` of an `int`: the value modulo `2^64`. -/
def uint64OfInt (x : Int) : Nat := (x % 2 ^ 64).toNat

/-- Modelled from the spec: `spec.SlotsPerEpoch`, declared in `pkg/spec` outside `src/`
("`epoch = slot / SLOTS_PER_EPOCH` (32)"). -/
def slotsPerEpoch : Nat := 32

/-- Modelled from the spec: `epochsToFinalizedTentative`, declared outside `src/`; the spec gives
its default, 2, and the code's own comment at its use reads "2 epochs before". -/
def epochsToFinalizedTentative : Nat := 2

@[simp] theorem slotsPerEpoch_eq : slotsPerEpoch = 32 := rfl

@[simp] theorem epochsToFinalizedTentative_eq : epochsToFinalizedTentative = 2 := rfl

theorem add64_lt (a b : Nat) : add64 a b < 2 ^ 64 := Nat.mod_lt _ (by decide)

theorem add64_of_lt {a b : Nat} (h : a + b < 2 ^ 64) : add64 a b = a + b := Nat.mod_eq_of_lt h

theorem sub64_of_le {a b : Nat} (h : b ≤ a) : sub64 a b = a - b := if_pos h

theorem sub64_of_lt {a b : Nat} (h : a < b) : sub64 a b = a + 2 ^ 64 - b := if_neg (by omega)

theorem sub64_lt {a : Nat} (b : Nat) (h : a < 2 ^ 64) : sub64 a b < 2 ^ 64 := by
  unfold sub64
  split <;> omega

/-- A `uint64` below `2^63` converts to the same `int`. -/
theorem goInt_of_lt {x : Nat} (h : x < 2 ^ 63) : goInt x = x := if_pos h

theorem uint64OfInt_ofNat {x : Nat} (h : x < 2 ^ 64) : uint64OfInt x = x := by
  unfold uint64OfInt
  omega

/-- `uint64(int(x))` gives back every `uint64` value `x`. -/
theorem uint64OfInt_goInt {x : Nat} (h : x < 2 ^ 64) : uint64OfInt (goInt x) = x := by
  unfold uint64OfInt goInt
  split <;> omega

/-- `(item & 2^f) == 2^f` tests bit `f` of `item`. -/
theorem and_two_pow_eq_iff (n i : Nat) : n &&& 2 ^ i = 2 ^ i ↔ n.testBit i := by
  rw [Nat.land_comm, Nat.two_pow_and]
  cases n.testBit i <;> simp [(Nat.two_pow_pos i).ne]

end ClStateAnalyzer
