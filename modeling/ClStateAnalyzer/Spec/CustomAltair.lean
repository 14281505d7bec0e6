/-
# ClStateAnalyzer.Spec.CustomAltair — `custom_spec.AltairSpec` refines `NewAltairState`'s accounting

Package `custom_spec` keeps a second implementation of the Altair attestation accounting.
`NewAltairSpec` sizes one vote array per flag by the previous state's validators. Then
`CalculatePreviousAttestingVals` adds one to `AttestingVals[f][i]` for every participation byte
with bit `f`. Last, `AttestingBalance[f]` is `ValsEffectiveBalance(AttestingVals[f])`, which sums
the effective balances at the positive entries. `NewAltairState` (package `spec`) instead
accumulates `CorrectFlags` and `AttestingBalance` in one visit per flag and validator
(`Spec.Participation`).

The refinement runs in three layers, as the loops do. `countPass_getD` gives one pass of the vote
loop in closed form, entry by entry. `calculatePreviousAttestingVals_eq` chains the three passes,
and from the fresh arrays their entries are the participation bits. `newAltairSpec_refines` then
compares whole arrays: the vote arrays are `NewAltairState`'s `CorrectFlags` and the attesting
balances are its `AttestingBalance`, whenever the previous state has as many validators.

The two `ValsEffectiveBalance` differ in one test. The one of package `spec` skips an index past
the validators; the one of `custom_spec` reads it and panics. `AltairSpec.valsEffectiveBalance_eq`
says exactly when they agree. `TotalActiveBalance` follows the same pattern, except in the genesis
epoch, where `custom_spec` counts every validator at the maximum effective balance.

Both packages' `IsActive` are declared outside `src/`; they are one parameter `isActive` here, as
are the constants `EFFECTIVE_BALANCE_INCREMENT` and `MAX_EFFECTIVE_INCREMENTS`. Left out: the API
client and `EpochStructs` of the wrapper, `InitializeArrays`, the unused `countedVals` counter, and
the reward estimates, which are `float64` computations.
-/
import ClStateAnalyzer.Spec.Balance

namespace ClStateAnalyzer.Spec

/-- `custom_spec.AltairSpec` with the fields its attestation accounting reads and writes: the
wrapped Altair state of `AltairSpec`, the wrapper's `PrevBState`, and the per-flag arrays. -/
structure AltairSpecState extends AltairSpec where
  prevBState : AltairBeaconState
  attestingVals : List (List Nat)
  attestingBalance : List Nat
  deriving Repr

/-- `AltairSpec.ValsEffectiveBalance`: the summed effective balance of the validators whose entry in
`valList` is positive. It indexes `Validators[valIdx]` without testing `valIdx`. -/
def AltairSpec.valsEffectiveBalance (p : AltairSpec) (valList : List Nat) : Option Nat :=
  valList.enum.foldlM (fun combinedEffectiveBalance (valIdx, numAtt) =>
    if 0 < numAtt then
      p.wrappedState.bState.validators[valIdx]?.map fun val =>
        add64 combinedEffectiveBalance val.effectiveBalance
    else some combinedEffectiveBalance) 0

/-- `AltairSpec.CurrentSlot`. -/
def AltairSpec.currentSlot (p : AltairSpec) : Nat :=
  p.wrappedState.bState.slot

/-- `AltairSpec.CurrentEpoch`. -/
def AltairSpec.currentEpoch (p : AltairSpec) : Nat :=
  p.currentSlot / 32

/-- `AltairSpec.TotalActiveBalance`. In the genesis epoch every validator counts at the maximum
effective balance, `len(Validators) * EFFECTIVE_BALANCE_INCREMENT * MAX_EFFECTIVE_INCREMENTS`, a Go
`int` product converted to `uint64`. Past it, `ValsEffectiveBalance` of the array that the loop
`val_array[idx] += 1` marks for the validators active at `CurrentEpoch`. -/
def AltairSpec.totalActiveBalance (isActive : Validator → Nat → Bool)
    (effectiveBalanceIncrement maxEffectiveIncrements : Nat) (p : AltairSpec) : Option Nat :=
  if p.currentSlot < 32 then
    some (p.wrappedState.bState.validators.length * effectiveBalanceIncrement *
      maxEffectiveIncrements % 2 ^ 64)
  else
    p.valsEffectiveBalance (p.wrappedState.bState.validators.map fun val =>
      if isActive val p.currentEpoch then 1 else 0)

/-- One visit of `CalculatePreviousAttestingVals`' inner loop: validator `valIndex` with
participation byte `item`, for flag index `participatingFlag`. The mask is `2^f`, which
`math.Pow(2, f)` computes exactly. -/
def AltairSpecState.voteFlag (participatingFlag : Nat) (p : AltairSpecState) (valIndex item : Nat) :
    Option AltairSpecState :=
  if item &&& 2 ^ participatingFlag = 2 ^ participatingFlag then do
    let votes ← p.attestingVals[participatingFlag]?
    let count ← votes[valIndex]?
    pure { p with attestingVals :=
      p.attestingVals.set participatingFlag (votes.set valIndex (add64 count 1)) }
  else pure p

/-- `AltairSpec.CalculatePreviousAttestingVals`: for the flag indices 0 (source), 1 (target) and
2 (head), visit every participation byte of the state. -/
def AltairSpecState.calculatePreviousAttestingVals (p : AltairSpecState) :
    Option AltairSpecState :=
  let participation := p.wrappedState.bState.previousEpochParticipation
  [0, 1, 2].foldlM (fun p participatingFlag =>
    participation.enum.foldlM (fun p (valIndex, item) =>
      p.voteFlag participatingFlag valIndex item) p) p

/-- `AltairSpec.PrevEpochReward`: the balance change since the previous state, a `uint64`
subtraction. -/
def AltairSpecState.prevEpochReward (p : AltairSpecState) (valIdx : Nat) : Option Nat := do
  let balance ← p.wrappedState.bState.balances[valIdx]?
  let prevBalance ← p.prevBState.balances[valIdx]?
  pure (sub64 balance prevBalance)

/-- `NewAltairSpec`: a nil previous Altair state is replaced by the state itself, and the vote
arrays are sized by the previous state's validators. Then `CalculatePreviousAttestingVals`, and
`AttestingBalance[i] = ValsEffectiveBalance(AttestingVals[i])` for each flag. -/
def newAltairSpec (bstate : AltairBeaconState) (prevBstate : Option AltairBeaconState) :
    Option AltairSpecState := do
  let prevBstate := prevBstate.getD bstate
  let altairObj : AltairSpecState :=
    { wrappedState := ⟨bstate⟩, prevBState := prevBstate,
      attestingVals := List.replicate 3 (List.replicate prevBstate.validators.length 0),
      attestingBalance := List.replicate 3 0 }
  let altairObj ← altairObj.calculatePreviousAttestingVals
  (List.range altairObj.attestingBalance.length).foldlM (fun (altairObj : AltairSpecState) i => do
    let votes ← altairObj.attestingVals[i]?
    let balance ← altairObj.toAltairSpec.valsEffectiveBalance votes
    pure { altairObj with attestingBalance := altairObj.attestingBalance.set i balance })
    altairObj

/-! ## The two `ValsEffectiveBalance` -/

/-- The `custom_spec` sum agrees with the `spec` one, over the same validators, exactly when every
positive entry indexes a validator; otherwise it panics where the `spec` sum skips the entry. -/
theorem AltairSpec.valsEffectiveBalance_eq (p : AltairSpec) (s : AgnosticState)
    (hv : s.validators = p.wrappedState.bState.validators) (valList : List Nat) :
    p.valsEffectiveBalance valList =
      if ∀ x ∈ valList.enum, 0 < x.2 → x.1 < s.validators.length then
        some (s.valsEffectiveBalance valList)
      else none := by
  unfold AltairSpec.valsEffectiveBalance AgnosticState.valsEffectiveBalance
  split
  · next h =>
    refine foldlM_eq_some_foldl _ _ _ (fun _ => True) (fun c _ x hx => ?_)
      (fun _ _ _ _ => trivial) 0 trivial
    obtain ⟨i, item⟩ := x
    by_cases hpos : 0 < item
    · simp [hpos, hv, List.getElem?_eq_getElem (hv ▸ h _ hx hpos)]
    · simp [hpos]
  · next h =>
    push_neg at h
    obtain ⟨⟨i, item⟩, hx, hpos, hi⟩ := h
    exact foldlM_eq_none _ _ hx (fun c => by simp [hpos, List.getElem?_eq_none (hv ▸ hi)]) 0

/-- Over two validators, the entry at index 2 makes the `custom_spec` sum panic. -/
theorem valsEffectiveBalance_eq_past_validators :
    ({ validators := twoSourceAttesters.validators } : AgnosticState).validators
        = (⟨⟨twoSourceAttesters⟩⟩ : AltairSpec).wrappedState.bState.validators ∧
      AltairSpec.valsEffectiveBalance ⟨⟨twoSourceAttesters⟩⟩ [0, 0, 1] =
        if ∀ x ∈ [0, 0, 1].enum, 0 < x.2 →
            x.1 < ({ validators := twoSourceAttesters.validators } : AgnosticState).validators.length
          then some (({ validators := twoSourceAttesters.validators } : AgnosticState).valsEffectiveBalance
            [0, 0, 1])
          else none :=
  ⟨rfl, AltairSpec.valsEffectiveBalance_eq _ _ rfl _⟩

/-! ## One pass of the vote loop -/

/-- Three vote arrays of `n` entries, as `NewAltairSpec` allocates them. -/
structure VotesShaped (n : Nat) (votes : List (List Nat)) : Prop where
  length : votes.length = 3
  rows : ∀ g < 3, (votes.getD g []).length = n

/-- The update one visit of the vote loop makes when every index it reads is in range. -/
def countVisit (f : Nat) (votes : List (List Nat)) (i item : Nat) : List (List Nat) :=
  if item.testBit f then
    votes.set f ((votes.getD f []).set i (add64 ((votes.getD f []).getD i 0) 1))
  else votes

/-- The vote loop for flag `f` over `xs` from index `k`, with every visit in range. -/
def countPass (f k : Nat) (xs : List Nat) (votes : List (List Nat)) : List (List Nat) :=
  (xs.enumFrom k).foldl (fun votes x => countVisit f votes x.1 x.2) votes

variable {n f : Nat} {votes : List (List Nat)}

@[simp] theorem countPass_nil (k : Nat) : countPass f k [] votes = votes := rfl

@[simp] theorem countPass_cons (k x : Nat) (xs : List Nat) :
    countPass f k (x :: xs) votes = countPass f (k + 1) xs (countVisit f votes k x) := rfl

theorem VotesShaped.countVisit (hv : VotesShaped n votes) (hf : f < 3) (i item : Nat) :
    VotesShaped n (countVisit f votes i item) := by
  unfold ClStateAnalyzer.Spec.countVisit
  split
  · refine ⟨by simp [hv.length], fun g hg => ?_⟩
    by_cases hgf : f = g
    · subst hgf; simpa [hv.length, hf] using hv.rows f hf
    · simpa [List.getElem?_set, hgf] using hv.rows g hg
  · exact hv

theorem VotesShaped.countPass (hv : VotesShaped n votes) (hf : f < 3) (k : Nat) (xs : List Nat) :
    VotesShaped n (countPass f k xs votes) := by
  induction xs generalizing k votes with
  | nil => exact hv
  | cons x xs ih => exact ih (hv.countVisit hf k x) (k + 1)

/-- The three passes of `CalculatePreviousAttestingVals` keep the shape. -/
theorem countPasses_shaped (hv : VotesShaped n votes) (P : List Nat) :
    VotesShaped n (countPass 2 0 P (countPass 1 0 P (countPass 0 0 P votes))) :=
  ((hv.countPass (by decide) 0 P).countPass (by decide) 0 P).countPass (by decide) 0 P

/-- A visit at an entry below `2^64 - 1` adds one to it when the bit is set. -/
theorem countVisit_getD (hv : VotesShaped n votes) (hf : f < 3) {i : Nat} (hi : i < n)
    (hb : (votes.getD f []).getD i 0 + 1 < 2 ^ 64) (item g j : Nat) :
    ((countVisit f votes i item).getD g []).getD j 0
      = (votes.getD g []).getD j 0 + if g = f ∧ i = j ∧ item.testBit f then 1 else 0 := by
  have h1 : f < votes.length := hv.length ▸ hf
  have h2 : i < (votes.getD f []).length := (hv.rows f hf).symm ▸ hi
  unfold countVisit
  split
  · by_cases hgf : f = g
    · subst hgf
      by_cases hij : i = j
      · subst hij
        simp_all [add64_of_lt]
      · simp_all [List.getElem?_set]
    · simp [List.getElem?_set, hgf, Ne.symm hgf]
  · simp [*]

/-- From arrays whose entries of row `f` are zero from index `k` on, a pass sets them to the
participation bits. -/
theorem countPass_getD (hf : f < 3) :
    ∀ (xs : List Nat) (k : Nat) {votes : List (List Nat)}, VotesShaped n votes →
      k + xs.length ≤ n → (∀ j, k ≤ j → (votes.getD f []).getD j 0 = 0) → ∀ g j,
      ((countPass f k xs votes).getD g []).getD j 0
        = (votes.getD g []).getD j 0
          + if g = f ∧ (decide (k ≤ j) && participationBit xs f (j - k)) then 1 else 0 := by
  intro xs
  induction xs with
  | nil => intro k votes _ _ _ g j; simp
  | cons x xs ih =>
    intro k votes hv hk hz g j
    simp only [List.length_cons] at hk
    have hvisit := countVisit_getD hv hf (i := k) (by omega) (by rw [hz k le_rfl]; decide) x
    rw [countPass_cons, ih (k + 1) (hv.countVisit hf k x) (by omega)
      (fun j hj => by rw [hvisit, hz j (by omega)]; simp; omega), hvisit,
      participationBit_window_cons]
    by_cases hkj : k = j
    · subst hkj; simp [show ¬ k + 1 ≤ k by omega]
    · simp [hkj]

/-! ## The three passes -/

theorem AltairSpecState.voteFlag_eq {p : AltairSpecState} (hv : VotesShaped n p.attestingVals)
    (hf : f < 3) {i : Nat} (hi : i < n) (item : Nat) :
    p.voteFlag f i item = some { p with attestingVals := countVisit f p.attestingVals i item } := by
  have h1 : f < p.attestingVals.length := hv.length ▸ hf
  have h2 : i < (p.attestingVals.getD f []).length := (hv.rows f hf).symm ▸ hi
  simp only [List.getD_eq_getElem?_getD, List.getElem?_eq_getElem h1, Option.getD_some] at h2
  unfold AltairSpecState.voteFlag countVisit
  by_cases hb : item.testBit f = true
  · rw [if_pos ((and_two_pow_eq_iff item f).mpr hb), if_pos hb]
    simp [List.getElem?_eq_getElem, h1, h2]
  · rw [if_neg (mt (and_two_pow_eq_iff item f).mp hb), if_neg hb]
    rfl

/-- The inner loop panics nowhere on shaped vote arrays: it is the pure pass. -/
theorem AltairSpecState.voteLoop_eq (hf : f < 3) (xs : List Nat) :
    ∀ (k : Nat) (p : AltairSpecState), VotesShaped n p.attestingVals → k + xs.length ≤ n →
      (xs.enumFrom k).foldlM (fun p (valIndex, item) => p.voteFlag f valIndex item) p
        = some { p with attestingVals := countPass f k xs p.attestingVals } := by
  induction xs with
  | nil => intro k p _ _; rfl
  | cons x xs ih =>
    intro k p hv hk
    simp only [List.length_cons] at hk
    simp only [List.enumFrom_cons, List.foldlM_cons, voteFlag_eq hv hf (by omega : k < n) x,
      Option.bind_eq_bind, Option.some_bind]
    exact ih (k + 1) _ (hv.countVisit hf k x) (by omega)

theorem AltairSpecState.calculatePreviousAttestingVals_eq {p : AltairSpecState}
    (hv : VotesShaped n p.attestingVals)
    (hP : p.wrappedState.bState.previousEpochParticipation.length ≤ n) :
    p.calculatePreviousAttestingVals = some { p with
      attestingVals := (countPass 2 0 p.wrappedState.bState.previousEpochParticipation
        (countPass 1 0 p.wrappedState.bState.previousEpochParticipation
          (countPass 0 0 p.wrappedState.bState.previousEpochParticipation p.attestingVals))) } := by
  set P := p.wrappedState.bState.previousEpochParticipation
  have hv1 := hv.countPass (by decide : (0 : Nat) < 3) 0 P
  have h0 := voteLoop_eq (by decide : (0 : Nat) < 3) P 0 p hv (by omega)
  have h1 := voteLoop_eq (by decide : (1 : Nat) < 3) P 0
    { p with attestingVals := countPass 0 0 P p.attestingVals } hv1 (by omega)
  have h2 := voteLoop_eq (by decide : (2 : Nat) < 3) P 0
    { p with attestingVals := countPass 1 0 P (countPass 0 0 P p.attestingVals) }
    (hv1.countPass (by decide : (1 : Nat) < 3) 0 P) (by omega)
  simp only [calculatePreviousAttestingVals, List.foldlM_cons, List.foldlM_nil, List.enum, h0, h1,
    h2, Option.bind_eq_bind, Option.some_bind]
  rfl

theorem VotesShaped.fresh (n : Nat) : VotesShaped n (List.replicate 3 (List.replicate n 0)) :=
  ⟨List.length_replicate _ _, fun g hg => by
    simp only [List.getD_eq_getElem?_getD, List.getElem?_replicate, if_pos hg, Option.getD_some,
      List.length_replicate]⟩

/-- From the fresh arrays `NewAltairSpec` allocates, the three passes leave in row `g` the
participation bits `g` of the validators. -/
theorem countPasses_fresh (P : List Nat) (hP : P.length ≤ n) {g : Nat} (hg : g < 3) (j : Nat) :
    ((countPass 2 0 P (countPass 1 0 P (countPass 0 0 P
        (List.replicate 3 (List.replicate n 0))))).getD g []).getD j 0
      = if participationBit P g j then 1 else 0 := by
  have hz : ∀ g j, ((List.replicate 3 (List.replicate n 0)).getD g []).getD j 0 = 0 := by
    intro g j
    simp only [List.getD_eq_getElem?_getD, List.getElem?_replicate]
    split
    · rw [Option.getD_some, List.getElem?_getD_replicate_default_eq]
    · rfl
  have hv := VotesShaped.fresh n
  have hv1 := hv.countPass (by decide : (0 : Nat) < 3) 0 P
  have e0 := countPass_getD (by decide : (0 : Nat) < 3) P 0 hv (by omega) (fun j _ => hz 0 j)
  have e1 := countPass_getD (by decide : (1 : Nat) < 3) P 0 hv1 (by omega)
    (fun j _ => by rw [e0, hz]; simp)
  have e2 := countPass_getD (by decide : (2 : Nat) < 3) P 0
    (hv1.countPass (by decide : (1 : Nat) < 3) 0 P) (by omega)
    (fun j _ => by rw [e1, e0, hz]; simp)
  rw [e2, e1, e0, hz]
  obtain rfl | rfl | rfl : g = 0 ∨ g = 1 ∨ g = 2 := by omega
  all_goals simp

/-- Two shaped vote arrays with the same entries are equal. -/
theorem votes_ext {a b : List (List Nat)} (ha : VotesShaped n a) (hb : VotesShaped n b)
    (h : ∀ g < 3, ∀ j < n, (a.getD g []).getD j 0 = (b.getD g []).getD j 0) : a = b := by
  refine List.ext_getElem (ha.length.trans hb.length.symm) fun g hga hgb => ?_
  have hg : g < 3 := ha.length ▸ hga
  have hra := ha.rows g hg
  have hrb := hb.rows g hg
  rw [List.getD_eq_getElem _ _ hga] at hra
  rw [List.getD_eq_getElem _ _ hgb] at hrb
  refine List.ext_getElem (hra.trans hrb.symm) fun j hja hjb => ?_
  have e := h g hg j (hra ▸ hja)
  rwa [List.getD_eq_getElem _ _ hga, List.getD_eq_getElem _ _ hgb, List.getD_eq_getElem _ _ hja,
    List.getD_eq_getElem _ _ hjb] at e

/-- A participation bit past the participation list is clear. -/
theorem participationBit_of_length_le {P : List Nat} {i : Nat} (h : P.length ≤ i) (f : Nat) :
    participationBit P f i = false := by
  rw [participationBit, List.getD_eq_default _ _ h, Nat.zero_testBit]

theorem range_filter_participationBit {P : List Nat} (hP : P.length ≤ n) (f : Nat) :
    (List.range n).filter (participationBit P f) = (List.range P.length).filter (participationBit P f) := by
  obtain ⟨m, rfl⟩ := Nat.exists_eq_add_of_le hP
  have hpast : ((List.range m).map (P.length + ·)).filter (participationBit P f) = [] :=
    List.filter_eq_nil_iff.mpr fun i hi => by
      obtain ⟨k, -, rfl⟩ := List.mem_map.mp hi
      rw [participationBit_of_length_le (Nat.le_add_right _ k)]
      decide
  rw [List.range_add, List.filter_append, hpast, List.append_nil]

/-- `ValsEffectiveBalance` of a vote array holding the participation bits `f` is the summed
effective balance of the validators with bit `f`, as `NewAltairState` tallies it. -/
theorem AltairSpec.valsEffectiveBalance_votes (p : AltairSpec) {P row : List Nat} {f : Nat}
    (hP : P.length ≤ p.wrappedState.bState.validators.length)
    (hrow : row.length = p.wrappedState.bState.validators.length)
    (hval : ∀ j < row.length, row.getD j 0 = if participationBit P f j then 1 else 0) :
    p.valsEffectiveBalance row = some
      (((P.enum.filter fun x => x.2.testBit f).map fun x =>
        p.wrappedState.bState.validators[x.1]!.effectiveBalance).sum % 2 ^ 64) := by
  set V := p.wrappedState.bState.validators
  unfold AltairSpec.valsEffectiveBalance
  rw [foldlM_eq_some_foldl _ _ (fun c (x : Nat × Nat) =>
    if decide (0 < x.2) then add64 c V[x.1]!.effectiveBalance else c) (fun _ => True)
    _ (fun _ _ _ _ => trivial) 0 trivial]
  · rw [foldl_add64_filter _ _ _ (by decide), Nat.zero_add,
      enum_filter_map_fst row (fun _ a => decide (0 < a)) (fun i => V[i]!.effectiveBalance) 0,
      enum_filter_map_fst P (fun _ a => a.testBit f) (fun i => V[i]!.effectiveBalance) 0]
    have hc : ∀ i ∈ List.range row.length,
        decide (0 < row.getD i 0) = participationBit P f i := by
      intro i hi
      rw [hval i (List.mem_range.mp hi)]
      cases participationBit P f i <;> rfl
    rw [List.filter_congr hc, hrow, range_filter_participationBit hP]
    rfl
  · rintro c - ⟨i, item⟩ hx
    have hi : i < V.length := hrow ▸ List.fst_lt_of_mem_enum hx
    by_cases hpos : 0 < item <;> simp [hpos, List.getElem?_eq_getElem hi, getElem!_pos V i hi]

theorem VotesShaped.getElem? (hv : VotesShaped n votes) {g : Nat} (hg : g < 3) :
    votes[g]? = some (votes.getD g []) := by
  rw [List.getD_eq_getElem?_getD, List.getElem?_eq_getElem (hv.length ▸ hg)]
  rfl

/-! ## `NewAltairSpec` against `NewAltairState` -/

/-- What `NewAltairSpec` builds when the previous state has as many validators and the
participation list is no longer than the validator list: the three passes over fresh arrays, and
for each flag the summed effective balance of the validators with that bit. -/
theorem newAltairSpec_eq (bstate : AltairBeaconState) (prev : Option AltairBeaconState)
    (hP : bstate.previousEpochParticipation.length ≤ bstate.validators.length)
    (hprev : (prev.getD bstate).validators.length = bstate.validators.length) :
    newAltairSpec bstate prev = some
      { wrappedState := ⟨bstate⟩, prevBState := prev.getD bstate,
        attestingVals := countPass 2 0 bstate.previousEpochParticipation
          (countPass 1 0 bstate.previousEpochParticipation
            (countPass 0 0 bstate.previousEpochParticipation
              (List.replicate 3 (List.replicate bstate.validators.length 0)))),
        attestingBalance := (List.range 3).map fun f =>
          ((bstate.previousEpochParticipation.enum.filter fun x => x.2.testBit f).map fun x =>
            bstate.validators[x.1]!.effectiveBalance).sum % 2 ^ 64 } := by
  set P := bstate.previousEpochParticipation
  have hZ := VotesShaped.fresh bstate.validators.length
  have hW := countPasses_shaped hZ P
  have hb : ∀ f < 3, (⟨⟨bstate⟩⟩ : AltairSpec).valsEffectiveBalance
      ((countPass 2 0 P (countPass 1 0 P (countPass 0 0 P
        (List.replicate 3 (List.replicate bstate.validators.length 0))))).getD f [])
      = some (((P.enum.filter fun x => x.2.testBit f).map fun x =>
          bstate.validators[x.1]!.effectiveBalance).sum % 2 ^ 64) := fun f hf =>
    AltairSpec.valsEffectiveBalance_votes _ hP (hW.rows f hf)
      (fun j _ => countPasses_fresh P hP hf j)
  unfold newAltairSpec
  simp only [hprev]
  rw [AltairSpecState.calculatePreviousAttestingVals_eq hZ hP]
  simp only [Option.bind_eq_bind, Option.some_bind, Option.pure_def, List.length_replicate,
    show List.range 3 = [0, 1, 2] from rfl, List.foldlM_cons, List.foldlM_nil,
    hW.getElem? (by decide : (0 : Nat) < 3), hW.getElem? (by decide : (1 : Nat) < 3),
    hW.getElem? (by decide : (2 : Nat) < 3), hb 0 (by decide), hb 1 (by decide),
    hb 2 (by decide)]
  rfl

section Refinement

variable (isActive : Validator → Nat → Bool)

/-- `custom_spec`'s Altair accounting refines `NewAltairState`'s. On every Altair state whose
participation list is no longer than its validator list, with no previous state or one with as
many validators, `NewAltairSpec` does not panic. Its vote arrays are then `NewAltairState`'s
`CorrectFlags`, and its attesting balances are its `AttestingBalance`. -/
theorem newAltairSpec_refines (bstate : AltairBeaconState) (prev : Option AltairBeaconState)
    (hP : bstate.previousEpochParticipation.length ≤ bstate.validators.length)
    (hprev : (prev.getD bstate).validators.length = bstate.validators.length)
    {s : AgnosticState} (hs : newAltairState isActive bstate = some s) :
    ∃ q, newAltairSpec bstate prev = some q ∧ q.attestingVals = s.correctFlags ∧
      q.attestingBalance = s.attestingBalance := by
  obtain ⟨hsh, -⟩ := Shaped.of_newParticipationState isActive .altair bstate hP hs
  have ht := newParticipationState_tally isActive .altair bstate hP hs
  have hW := countPasses_shaped (VotesShaped.fresh bstate.validators.length)
    bstate.previousEpochParticipation
  refine ⟨_, newAltairSpec_eq bstate prev hP hprev, ?votes, ?balances⟩
  case votes =>
    refine votes_ext hW ⟨hsh.correctFlags, hsh.rows⟩ fun g hg j hj => ?_
    have h := ht.correctFlags g hg j hj
    rw [hsh.getElem?_correctFlags hg hj] at h
    rw [countPasses_fresh _ hP hg j, Option.some.inj h]
  case balances =>
    refine List.ext_getElem? fun f => ?_
    by_cases hf : f < 3
    · rw [ht.attestingBalance f hf, List.getElem?_map, List.getElem?_range hf]
      rfl
    · rw [List.getElem?_eq_none (by simpa using hf),
        List.getElem?_eq_none (by rw [hsh.attestingBalance]; omega)]

end Refinement

theorem newAltairSpec_refines_twoSourceAttesters :
    twoSourceAttesters.previousEpochParticipation.length ≤ twoSourceAttesters.validators.length ∧
      ((none : Option AltairBeaconState).getD twoSourceAttesters).validators.length
        = twoSourceAttesters.validators.length ∧
      ∃ s, newAltairState (fun v e => decide (v.activationEpoch ≤ e)) twoSourceAttesters = some s ∧
        ∃ q, newAltairSpec twoSourceAttesters none = some q ∧ q.attestingVals = s.correctFlags ∧
          q.attestingBalance = s.attestingBalance :=
  ⟨by decide, rfl, _, rfl, newAltairSpec_refines (fun v e => decide (v.activationEpoch ≤ e))
    twoSourceAttesters none (by decide) rfl rfl⟩

/-! ## `TotalActiveBalance` -/

/-- A visit that does not panic leaves `TotalActiveBalance` as it was. -/
theorem processFlag_totalActiveBalance {f i item : Nat} {s s' : AgnosticState}
    (h : processFlag f s i item = some s') : s'.totalActiveBalance = s.totalActiveBalance := by
  unfold processFlag at h
  split at h
  · simp only [Option.bind_eq_bind, Option.bind_eq_some, Option.pure_def, Option.some.injEq] at h
    obtain ⟨_, -, _, -, _, -, _, -, _, -, rfl⟩ := h
    rfl
  · rw [← Option.some.inj h]

theorem processAltairAttestations_totalActiveBalance {s s' : AgnosticState} {participation : List Nat}
    (h : processAltairAttestations s participation = some s') :
    s'.totalActiveBalance = s.totalActiveBalance :=
  foldlM_invariant _ _ (fun b => b.totalActiveBalance = s.totalActiveBalance)
    (fun b hb _ _ b' hb' =>
      foldlM_invariant _ _ (fun c => c.totalActiveBalance = s.totalActiveBalance)
        (fun _ hc ⟨_, _⟩ _ _ hc' => (processFlag_totalActiveBalance hc').trans hc) b hb b' hb')
    s rfl s' h

section Refinement

variable (isActive : Validator → Nat → Bool)

/-- The `TotalActiveBalance` of a participation-era state is the summed effective balance of the
validators active at the state's epoch. -/
theorem newParticipationState_totalActiveBalance {version : DataVersion} {bstate : AltairBeaconState}
    {s : AgnosticState} (hs : newParticipationState isActive version bstate = some s) :
    s.totalActiveBalance = ((bstate.validators.filter (isActive · (bstate.slot / slotsPerEpoch))).map
      (·.effectiveBalance)).sum % 2 ^ 64 := by
  simp only [newParticipationState, Option.bind_eq_bind, Option.bind_eq_some] at hs
  obtain ⟨obj, hobj, hs⟩ := hs
  obtain ⟨r, rfl⟩ := AgnosticState.setup_eq_some isActive hobj
  exact processAltairAttestations_totalActiveBalance hs

/-- `custom_spec`'s `TotalActiveBalance` never panics on the state `NewAltairState` reads. Past the
genesis epoch it is `NewAltairState`'s `TotalActiveBalance`. In the genesis epoch it is
`len(Validators)` times the maximum effective balance, whatever the validators' balances and
activity. -/
theorem totalActiveBalance_refines (bstate : AltairBeaconState) (inc maxInc : Nat)
    {s : AgnosticState} (hs : newAltairState isActive bstate = some s) :
    AltairSpec.totalActiveBalance isActive inc maxInc ⟨⟨bstate⟩⟩ =
      some (if bstate.slot < 32 then bstate.validators.length * inc * maxInc % 2 ^ 64
        else s.totalActiveBalance) := by
  simp only [AltairSpec.totalActiveBalance, AltairSpec.currentEpoch, AltairSpec.currentSlot]
  split
  · rfl
  · rw [AltairSpec.valsEffectiveBalance_eq _ { validators := bstate.validators, epoch := bstate.slot / 32 }
      rfl, if_pos fun x hx _ => by simpa using List.fst_lt_of_mem_enum hx,
      newParticipationState_totalActiveBalance isActive hs, slotsPerEpoch_eq]
    exact congrArg some (AgnosticState.valsEffectiveBalance_marks isActive
      { validators := bstate.validators, epoch := bstate.slot / 32 })

end Refinement

theorem totalActiveBalance_refines_twoSourceAttesters :
    ∃ s, newAltairState (fun v e => decide (v.activationEpoch ≤ e)) twoSourceAttesters = some s ∧
      AltairSpec.totalActiveBalance (fun v e => decide (v.activationEpoch ≤ e)) 1 32
          ⟨⟨twoSourceAttesters⟩⟩ =
        some (if twoSourceAttesters.slot < 32 then twoSourceAttesters.validators.length * 1 * 32 % 2 ^ 64
          else s.totalActiveBalance) :=
  ⟨_, rfl, totalActiveBalance_refines (fun v e => decide (v.activationEpoch ≤ e)) twoSourceAttesters
    1 32 rfl⟩

end ClStateAnalyzer.Spec
