/-
# ClStateAnalyzer.Spec.MissingFlags — `MissingFlags` and `GetMissingFlagCount` on a constructed state

The reward computation asks a state two questions about the previous epoch: which flags one
validator missed (`MissingFlags`, read through `CorrectFlags[f][valIdx]`), and how many active
validators missed flag `f` (`GetMissingFlagCount`, a separate loop over `CorrectFlags[f]`). Over
the tally of `Spec.Participation` both answers are the participation bits read back: a flag is
missing exactly when the validator exists, was active at `Epoch - 1` (a `uint64` subtraction) and
did not set the bit, and the count is the number of validators with that flag missing.

`MissingFlags` guards its index with Go's `int(valIdx)`. From `2^63` on that conversion is
negative, the guard lets the index through, and `p.Validators[valIdx]` panics; the
characterisation therefore holds below `2^63`. Below it, on every state `GetCustomState` builds,
`MissingFlags` never panics and answers three false flags past the validators
(`customState_missingFlags`).
-/
import ClStateAnalyzer.Spec.Participation

namespace ClStateAnalyzer.Spec

section Queries

variable (isActive : Validator → Nat → Bool)
variable {V : List Validator} {P : List Nat} {s : AgnosticState}

/-- Below `2^63`, `MissingFlags` reads back the complement of the participation bits, for the
validators active at the previous epoch. -/
theorem missingFlags_tally (hsh : Shaped V.length s) (hval : s.validators = V)
    (ht : ParticipationTally V P s) {i : Nat} (hi : i < 2 ^ 63) :
    s.missingFlags isActive i = some ([0, 1, 2].map fun f =>
      decide (i < V.length) && isActive V[i]! (sub64 s.epoch 1) && !participationBit P f i) := by
  obtain ⟨r0, r1, r2, hcf⟩ := List.length_eq_three.mp hsh.correctFlags
  have hr0 : r0.length = V.length := by simpa [hcf] using hsh.rows 0 (by decide)
  unfold AgnosticState.missingFlags
  rw [goInt_of_lt hi]
  by_cases hin : i < V.length
  · have h0 := ht.correctFlags 0 (by decide) i hin
    have h1 := ht.correctFlags 1 (by decide) i hin
    have h2 := ht.correctFlags 2 (by decide) i hin
    simp only [hcf, List.getElem?_cons_zero, List.getElem?_cons_succ, Option.some_bind] at h0 h1 h2
    simp [List.enum, List.enumFrom, hcf, hr0, hval, h0, h1, h2, getElem!_pos V i hin,
      List.getElem?_eq_getElem hin, Nat.not_le.mpr hin, hin]
    cases isActive V[i] (sub64 s.epoch 1) <;> cases participationBit P 0 i <;>
      cases participationBit P 1 i <;> cases participationBit P 2 i <;> rfl
  · simp [hcf, hr0, hin]

/-- On a shaped state, below `2^63`, `MissingFlags` indexes nothing out of range, and past the
validators it answers three false flags. -/
theorem missingFlags_of_shaped (hsh : Shaped s.validators.length s) {i : Nat} (hi : i < 2 ^ 63) :
    ∃ flags, s.missingFlags isActive i = some flags ∧
      (s.validators.length ≤ i → flags = [false, false, false]) := by
  obtain ⟨r0, r1, r2, hcf⟩ := List.length_eq_three.mp hsh.correctFlags
  have hr0 : r0.length = s.validators.length := by simpa [hcf] using hsh.rows 0 (by decide)
  have hrow : s.correctFlags[0]? = some r0 := by rw [hcf]; rfl
  unfold AgnosticState.missingFlags
  rw [goInt_of_lt hi, hrow, Option.bind_eq_bind, Option.some_bind, hr0]
  by_cases hin : i < s.validators.length
  · rw [if_neg (show ¬ ((s.validators.length : Int) ≤ (i : Int)) by omega)]
    refine Exists.imp (fun r hr => ⟨hr.1, fun h => absurd hin (Nat.not_lt.mpr h)⟩)
      (foldlM_exists _ _ (fun r : List Bool => r.length = 3) (fun b hb x hx => ?_)
        [false, false, false] rfl)
    obtain ⟨g, item⟩ := x
    have hg : g < 3 := hsh.correctFlags ▸ List.fst_lt_of_mem_enum hx
    have hitem : item.length = s.validators.length := by
      simpa [List.getD_eq_getElem?_getD, getElem?_of_mem_enum hx] using hsh.rows g hg
    simp only [List.getElem?_eq_getElem hin, List.getElem?_eq_getElem (hitem ▸ hin),
      List.getElem?_eq_getElem (hb ▸ hg), Option.bind_eq_bind, Option.some_bind]
    split_ifs <;> exact ⟨_, rfl, by simp [hb]⟩
  · exact ⟨_, by rw [if_pos (show ((s.validators.length : Int) ≤ (i : Int)) by omega)]; rfl,
      fun _ => rfl⟩

/-- `GetMissingFlagCount` counts the validators whose `MissingFlags` answer has flag `f`. -/
theorem getMissingFlagCount_tally (hsh : Shaped V.length s) (hval : s.validators = V)
    (ht : ParticipationTally V P s) (hV : V.length < 2 ^ 63) {f : Nat} (hf : f < 3) :
    s.getMissingFlagCount isActive f = some ((List.range V.length).countP fun i =>
      ((s.missingFlags isActive i).getD []).getD f false) := by
  have hrow : s.correctFlags[f]? = some (s.correctFlags.getD f []) := by
    rw [List.getD_eq_getElem?_getD, List.getElem?_eq_getElem (hsh.correctFlags ▸ hf)]; rfl
  set r := s.correctFlags.getD f []
  have hr : r.length = V.length := hsh.rows f hf
  have hloop : r.enum.foldlM (fun result (x : Nat × Nat) => do
      let val ← s.validators[x.1]?
      pure (if isActive val (sub64 s.epoch 1) ∧ x.2 = 0 then result + 1 else result)) 0
      = some (r.enum.foldl (fun result x =>
          if decide (isActive V[x.1]! (sub64 s.epoch 1) ∧ x.2 = 0) then result + 1 else result) 0) := by
    refine foldlM_eq_some_foldl _ _ _ (fun _ => True) (fun b _ x hx => ?_) (fun _ _ _ _ => trivial)
      0 trivial
    have hx1 : x.1 < V.length := hr ▸ List.fst_lt_of_mem_enum hx
    simp [hval, List.getElem?_eq_getElem hx1, getElem!_pos V x.1 hx1]
  simp only [AgnosticState.getMissingFlagCount, hrow, Option.bind_eq_bind, Option.some_bind]
  refine hloop.trans ?_
  rw [foldl_succ_eq_countP, Nat.zero_add,
    countP_enum r (fun i item => decide (isActive V[i]! (sub64 s.epoch 1) ∧ item = 0)) 0, hr]
  congr 1
  refine List.countP_congr fun i hi => ?_
  have hi' : i < V.length := List.mem_range.mp hi
  have hc := ht.correctFlags f hf i hi'
  rw [hrow, Option.some_bind] at hc
  rw [List.getD_eq_getElem?_getD r, hc, Option.getD_some,
    missingFlags_tally isActive hsh hval ht (by omega)]
  obtain rfl | rfl | rfl : f = 0 ∨ f = 1 ∨ f = 2 := by omega
  all_goals simp [hi']

/-- On every state an Altair-family constructor builds, `MissingFlags(i)[f]` holds for an index
below `2^63` iff `i` is a validator, active at `Epoch - 1`, whose bit `f` is clear. -/
theorem participationConstructors_missingFlags (bstate : AltairBeaconState)
    (hP : bstate.previousEpochParticipation.length ≤ bstate.validators.length) {s : AgnosticState}
    (hs : newAltairState isActive bstate = some s ∨ newBellatrixState isActive bstate = some s ∨
      newCapellaState isActive bstate = some s) {i : Nat} (hi : i < 2 ^ 63) :
    s.missingFlags isActive i = some ([0, 1, 2].map fun f =>
      decide (i < bstate.validators.length) &&
        isActive bstate.validators[i]! (sub64 s.epoch 1) &&
        !participationBit bstate.previousEpochParticipation f i) := by
  obtain ⟨version, hs⟩ := exists_version_of_constructors isActive hs
  obtain ⟨hsh, hval⟩ := Shaped.of_newParticipationState isActive version bstate hP hs
  exact missingFlags_tally isActive hsh hval (newParticipationState_tally isActive version bstate hP hs) hi

/-- On every state an Altair-family constructor builds, `GetMissingFlagCount(f)` is the number of
validators whose `MissingFlags` answer has flag `f`. -/
theorem participationConstructors_getMissingFlagCount (bstate : AltairBeaconState)
    (hP : bstate.previousEpochParticipation.length ≤ bstate.validators.length)
    (hV : bstate.validators.length < 2 ^ 63) {s : AgnosticState}
    (hs : newAltairState isActive bstate = some s ∨ newBellatrixState isActive bstate = some s ∨
      newCapellaState isActive bstate = some s) {f : Nat} (hf : f < 3) :
    s.getMissingFlagCount isActive f = some ((List.range bstate.validators.length).countP fun i =>
      ((s.missingFlags isActive i).getD []).getD f false) := by
  obtain ⟨version, hs⟩ := exists_version_of_constructors isActive hs
  obtain ⟨hsh, hval⟩ := Shaped.of_newParticipationState isActive version bstate hP hs
  exact getMissingFlagCount_tally isActive hsh hval
    (newParticipationState_tally isActive version bstate hP hs) hV hf

/-- On every state `GetCustomState` builds, of any fork and for any participation list, below
`2^63` `MissingFlags` does not panic, and past the validators it answers three false flags. -/
theorem customState_missingFlags (bs : VersionedBeaconState) {s : AgnosticState}
    (hs : getCustomState isActive bs = some (.ok s)) {i : Nat} (hi : i < 2 ^ 63) :
    ∃ flags, s.missingFlags isActive i = some flags ∧
      (s.validators.length ≤ i → flags = [false, false, false]) :=
  missingFlags_of_shaped isActive (Shaped.of_getCustomState isActive hs) hi

end Queries

theorem customState_missingFlags_at_five :
    ∃ s, getCustomState (fun v e => decide (v.activationEpoch ≤ e)) (.altair twoSourceAttesters)
        = some (.ok s) ∧ 5 < 2 ^ 63 ∧
      ∃ flags, s.missingFlags (fun v e => decide (v.activationEpoch ≤ e)) 5 = some flags ∧
        (s.validators.length ≤ 5 → flags = [false, false, false]) :=
  ⟨_, rfl, by decide, customState_missingFlags (fun v e => decide (v.activationEpoch ≤ e))
    (.altair twoSourceAttesters) rfl (by decide)⟩

theorem participationConstructors_missingFlags_one :
    ∃ s, newAltairState (fun v e => decide (v.activationEpoch ≤ e)) twoSourceAttesters = some s ∧
      s.missingFlags (fun v e => decide (v.activationEpoch ≤ e)) 1 = some ([0, 1, 2].map fun f =>
        decide (1 < twoSourceAttesters.validators.length) &&
          decide (twoSourceAttesters.validators[1]!.activationEpoch ≤ sub64 s.epoch 1) &&
          !participationBit twoSourceAttesters.previousEpochParticipation f 1) :=
  ⟨_, rfl, participationConstructors_missingFlags (fun v e => decide (v.activationEpoch ≤ e))
    twoSourceAttesters (by decide) (Or.inl rfl) (by decide)⟩

theorem participationConstructors_getMissingFlagCount_target :
    ∃ s, newAltairState (fun v e => decide (v.activationEpoch ≤ e)) twoSourceAttesters = some s ∧
      s.getMissingFlagCount (fun v e => decide (v.activationEpoch ≤ e)) 1 =
        some ((List.range twoSourceAttesters.validators.length).countP fun i =>
          ((s.missingFlags (fun v e => decide (v.activationEpoch ≤ e)) i).getD []).getD 1 false) :=
  ⟨_, rfl, participationConstructors_getMissingFlagCount (fun v e => decide (v.activationEpoch ≤ e))
    twoSourceAttesters (by decide) (by decide) (Or.inl rfl) (by decide)⟩

/-- At index `2^63` the `int` guard is negative and `MissingFlags` indexes `Validators` past its
end: the Go code panics, here `none`. -/
theorem missingFlags_panics_two_pow_63 :
    (newAltairState (fun v e => decide (v.activationEpoch ≤ e)) twoSourceAttesters).bind
      (fun s => s.missingFlags (fun v e => decide (v.activationEpoch ≤ e)) (2 ^ 63)) = none := by
  decide

end ClStateAnalyzer.Spec
