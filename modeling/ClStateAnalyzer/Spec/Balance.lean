/-
# ClStateAnalyzer.Spec.Balance — the two `Balance` lookups over the whole `uint64` range

`AgnosticState.Balance` (`pkg/spec`) and `AltairSpec.Balance` (package `custom_spec`) have one
body, `checkedBalance`. It returns an error when `len(Balances) < valIdx` and otherwise reads
`Balances[valIdx]`. The test is strict, so the index `len(Balances)` itself passes it, is read one
past the end, and panics (`none`). Below that index the lookup answers the stored balance, and
past it the error (`checkedBalance_cases`, beside the definition).

The last theorem evaluates both lookups, and `MissingFlags`, on a state `GetCustomState` builds,
at the indices where they panic.

`AltairSpec` keeps only what `Balance` reads: the Altair fork of the wrapped `BState`, which
`NewAltairSpec` has already dereferenced. Its other fields (`PrevBState`, `Api`, `EpochStructs`,
`AttestingVals`, `AttestingBalance`) are left out.
-/
import ClStateAnalyzer.Spec.MissingFlags

namespace ClStateAnalyzer.Spec

/-- `custom_spec.ForkStateWrapper`, with the Altair fork of its `BState`. -/
structure ForkStateWrapper where
  bState : AltairBeaconState
  deriving Repr

/-- `custom_spec.AltairSpec`, with its wrapped state. -/
structure AltairSpec where
  wrappedState : ForkStateWrapper
  deriving Repr

/-- `AltairSpec.Balance`: the check on the wrapped Altair state's balances and slot. -/
def AltairSpec.balance (p : AltairSpec) (valIdx : Nat) : Option (Except String Nat) :=
  checkedBalance p.wrappedState.bState.balances p.wrappedState.bState.slot valIdx

/-- On the Altair state of `twoSourceAttesters` (two balances), `Balance(2)` and
`MissingFlags(2^63)` of the state `GetCustomState` builds panic, and so does
`AltairSpec.Balance(2)` over the same beacon state. -/
theorem customState_lookups_panic :
    ((getCustomState (fun v e => decide (v.activationEpoch ≤ e)) (.altair twoSourceAttesters)).bind
        Except.toOption).map (fun s => (s.balances.length, s.balance 2,
          s.missingFlags (fun v e => decide (v.activationEpoch ≤ e)) (2 ^ 63))) =
      some (2, none, none) ∧
      AltairSpec.balance ⟨⟨twoSourceAttesters⟩⟩ 2 = none :=
  ⟨rfl, rfl⟩

end ClStateAnalyzer.Spec
