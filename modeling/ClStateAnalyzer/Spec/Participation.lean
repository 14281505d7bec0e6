/-
# ClStateAnalyzer.Spec.Participation — what `ProcessAltairAttestations` tallies

The Altair, Bellatrix and Capella constructors run `Setup` and then
`ProcessAltairAttestations`: three passes, one per flag index (0 source, 1 target, 2 head), over
the previous-epoch participation bytes. A visit indexes `CorrectFlags`, `AttestingBalance`,
`Validators` and `AttestingVals`, so in Go it can panic; on the arrays `Setup` allocates it never
does (`Shaped`), and each pass is then the pure fold `flagPass` of `flagVisit`.

Every field the visit writes is described pointwise over a whole pass (`flagPass_correctFlags`,
`flagPass_attestingBalance`, `flagPass_attestingVals`, `flagPass_numAttestingVals`); the three
passes from `Setup`'s zero arrays then give `ParticipationTally`, the table of what a constructed
state records. Without any bound on the participation list, a visit that does not panic still
keeps the shape, so every state `GetCustomState` builds is shaped (`Shaped.of_getCustomState`).
`MaxAttestingBalance` is written by the same visit but is not part of the tally:
the visit overwrites it with the balance of each newly attesting validator instead of adding.
-/
import ClStateAnalyzer.Spec.Totals

namespace ClStateAnalyzer.Spec

/-- Bit `f` of validator `i`'s participation byte; a validator past the list has none set. -/
def participationBit (participation : List Nat) (f i : Nat) : Bool :=
  (participation.getD i 0).testBit f

/-- The update one visit of `processFlag` makes when every index it reads is in range. -/
def flagVisit (f : Nat) (s : AgnosticState) (i item : Nat) : AgnosticState :=
  if item.testBit f then
    { s with
      correctFlags := s.correctFlags.set f
        ((s.correctFlags.getD f []).set i ((s.correctFlags.getD f []).getD i 0 + 1))
      attestingBalance := s.attestingBalance.set f
        (add64 (s.attestingBalance.getD f 0) s.validators[i]!.effectiveBalance)
      numAttestingVals :=
        if s.attestingVals.getD i false then s.numAttestingVals else s.numAttestingVals + 1
      maxAttestingBalance := if s.attestingVals.getD i false then s.maxAttestingBalance
        else s.validators[i]!.effectiveBalance
      attestingVals := s.attestingVals.set i true }
  else s

/-- The arrays `Setup` allocated for `n` validators, at the lengths
`ProcessAltairAttestations` indexes them with. -/
structure Shaped (n : Nat) (s : AgnosticState) : Prop where
  validators : s.validators.length = n
  correctFlags : s.correctFlags.length = 3
  rows : ∀ g < 3, (s.correctFlags.getD g []).length = n
  attestingBalance : s.attestingBalance.length = 3
  attestingVals : s.attestingVals.length = n
  balanceBound : ∀ g, s.attestingBalance.getD g 0 < 2 ^ 64

variable {n f : Nat} {s : AgnosticState}

/-! ## One visit -/

@[simp] theorem flagVisit_validators (i item : Nat) :
    (flagVisit f s i item).validators = s.validators := by
  unfold flagVisit; split <;> rfl

theorem processFlag_eq (hs : Shaped n s) (hf : f < 3) {i : Nat} (hi : i < n) (item : Nat) :
    processFlag f s i item = some (flagVisit f s i item) := by
  have h1 : f < s.correctFlags.length := hs.correctFlags ▸ hf
  have h2 : i < (s.correctFlags.getD f []).length := (hs.rows f hf).symm ▸ hi
  have h3 : f < s.attestingBalance.length := hs.attestingBalance ▸ hf
  have h4 : i < s.validators.length := hs.validators ▸ hi
  have h5 : i < s.attestingVals.length := hs.attestingVals ▸ hi
  simp only [List.getD_eq_getElem?_getD, List.getElem?_eq_getElem h1, Option.getD_some] at h2
  unfold processFlag flagVisit
  by_cases hb : item.testBit f = true
  · rw [if_pos hb, if_pos ((and_two_pow_eq_iff item f).mpr hb)]
    simp [List.getElem?_eq_getElem, h1, h2, h3, h4, h5, getElem!_pos s.validators i h4]
  · rw [if_neg hb, if_neg (mt (and_two_pow_eq_iff item f).mp hb)]
    rfl

theorem Shaped.flagVisit (hs : Shaped n s) (hf : f < 3) (i item : Nat) :
    Shaped n (flagVisit f s i item) := by
  unfold ClStateAnalyzer.Spec.flagVisit
  split
  · refine ⟨hs.validators, by simp [hs.correctFlags], fun g hg => ?_, by simp [hs.attestingBalance],
      by simp [hs.attestingVals], fun g => ?_⟩
    · by_cases hgf : f = g
      · subst hgf; simpa [hs.correctFlags, hf] using hs.rows f hf
      · simpa [List.getElem?_set, hgf] using hs.rows g hg
    · by_cases hgf : f = g
      · subst hgf; simpa [hs.attestingBalance, hf] using add64_lt _ _
      · simpa [List.getElem?_set, hgf] using hs.balanceBound g
  · exact hs

@[simp] theorem participationBit_nil (f i : Nat) : participationBit [] f i = false := by
  simp [participationBit]

@[simp] theorem participationBit_cons_zero (x : Nat) (xs : List Nat) (f : Nat) :
    participationBit (x :: xs) f 0 = x.testBit f := rfl

@[simp] theorem participationBit_cons_succ (x : Nat) (xs : List Nat) (f m : Nat) :
    participationBit (x :: xs) f (m + 1) = participationBit xs f m := rfl

theorem flagVisit_attestingVals (hs : Shaped n s) {i : Nat} (hi : i < n) (item j : Nat) :
    (flagVisit f s i item).attestingVals.getD j false
      = (s.attestingVals.getD j false || (decide (i = j) && item.testBit f)) := by
  have h5 : i < s.attestingVals.length := hs.attestingVals ▸ hi
  unfold flagVisit
  split
  · by_cases hij : i = j
    · subst hij; simp [h5, *]
    · simp [List.getElem?_set, hij]
  · simp [*]

theorem flagVisit_correctFlags (hs : Shaped n s) (hf : f < 3) {i : Nat} (hi : i < n)
    (item g j : Nat) :
    ((flagVisit f s i item).correctFlags.getD g []).getD j 0
      = (s.correctFlags.getD g []).getD j 0
        + if g = f ∧ i = j ∧ item.testBit f then 1 else 0 := by
  have h1 : f < s.correctFlags.length := hs.correctFlags ▸ hf
  have h2 : i < (s.correctFlags.getD f []).length := (hs.rows f hf).symm ▸ hi
  unfold flagVisit
  split
  · by_cases hgf : f = g
    · subst hgf
      by_cases hij : i = j
      · subst hij; simp_all
      · simp_all [List.getElem?_set]
    · simp [List.getElem?_set, hgf, Ne.symm hgf]
  · simp [*]

theorem flagVisit_attestingBalance (hs : Shaped n s) (hf : f < 3) (i item g : Nat) :
    (flagVisit f s i item).attestingBalance.getD g 0
      = if g = f ∧ item.testBit f then
          add64 (s.attestingBalance.getD f 0) s.validators[i]!.effectiveBalance
        else s.attestingBalance.getD g 0 := by
  have h3 : f < s.attestingBalance.length := hs.attestingBalance ▸ hf
  unfold flagVisit
  split
  · by_cases hgf : g = f
    · subst hgf; simp [*]
    · simp [List.getElem?_set, hgf, Ne.symm hgf]
  · simp [*]

theorem flagVisit_numAttestingVals (hs : Shaped n s) {i : Nat} (hi : i < n) (item : Nat)
    (hc : s.numAttestingVals = s.attestingVals.count true) :
    (flagVisit f s i item).numAttestingVals = (flagVisit f s i item).attestingVals.count true := by
  have h5 : i < s.attestingVals.length := hs.attestingVals ▸ hi
  unfold flagVisit
  split
  · simp only [List.count_set _ _ _ _ h5, List.getD_eq_getElem?_getD, List.getElem?_eq_getElem h5,
      Option.getD_some, hc]
    have := List.count_pos_iff.mpr (List.getElem_mem h5)
    cases h : s.attestingVals[i] <;> simp only [h] at this ⊢ <;> simp; omega
  · exact hc

/-! ## One pass over the participation list -/

/-- The inner loop of `ProcessAltairAttestations` for flag `f` over `xs` from index `k`, with
every visit in range. -/
def flagPass (f k : Nat) (xs : List Nat) (s : AgnosticState) : AgnosticState :=
  (xs.enumFrom k).foldl (fun s x => flagVisit f s x.1 x.2) s

@[simp] theorem flagPass_nil (k : Nat) : flagPass f k [] s = s := rfl

@[simp] theorem flagPass_cons (k x : Nat) (xs : List Nat) :
    flagPass f k (x :: xs) s = flagPass f (k + 1) xs (flagVisit f s k x) := rfl

theorem participationBit_window_cons (x : Nat) (xs : List Nat) (f k j : Nat) :
    (decide (k ≤ j) && participationBit (x :: xs) f (j - k))
      = (decide (k = j) && x.testBit f
          || decide (k + 1 ≤ j) && participationBit xs f (j - (k + 1))) := by
  rcases Nat.lt_trichotomy j k with hj | rfl | hj
  · simp [Nat.not_le.mpr hj, hj.ne', show ¬ k + 1 ≤ j by omega]
  · simp
  · obtain ⟨m, rfl⟩ : ∃ m, j = k + 1 + m := ⟨j - (k + 1), by omega⟩
    simp [show k + 1 + m - k = m + 1 by omega, show k ≠ k + 1 + m by omega, hj.le]

theorem Shaped.flagPass (hf : f < 3) (k : Nat) :
    ∀ (xs : List Nat) {s : AgnosticState}, Shaped n s → Shaped n (flagPass f k xs s) := by
  intro xs
  induction xs generalizing k with
  | nil => exact id
  | cons x xs ih => exact fun hs => ih (k + 1) (hs.flagVisit hf k x)

theorem flagPass_validators (k : Nat) (xs : List Nat) :
    (flagPass f k xs s).validators = s.validators := by
  induction xs generalizing k s with
  | nil => rfl
  | cons x xs ih => simp [ih]

theorem flagPass_attestingVals (hf : f < 3) :
    ∀ (xs : List Nat) (k : Nat) {s : AgnosticState}, Shaped n s → k + xs.length ≤ n → ∀ j,
      (flagPass f k xs s).attestingVals.getD j false
        = (s.attestingVals.getD j false || (decide (k ≤ j) && participationBit xs f (j - k))) := by
  intro xs
  induction xs with
  | nil => intro k s _ _ j; simp
  | cons x xs ih =>
    intro k s hs hk j
    rw [flagPass_cons, ih (k + 1) (hs.flagVisit hf k x) (by simp at hk; omega),
      flagVisit_attestingVals hs (by simp at hk; omega), participationBit_window_cons, Bool.or_assoc]

theorem flagPass_correctFlags (hf : f < 3) :
    ∀ (xs : List Nat) (k : Nat) {s : AgnosticState}, Shaped n s → k + xs.length ≤ n → ∀ g j,
      ((flagPass f k xs s).correctFlags.getD g []).getD j 0
        = (s.correctFlags.getD g []).getD j 0
          + if g = f ∧ (decide (k ≤ j) && participationBit xs f (j - k)) then 1 else 0 := by
  intro xs
  induction xs with
  | nil => intro k s _ _ g j; simp
  | cons x xs ih =>
    intro k s hs hk g j
    rw [flagPass_cons, ih (k + 1) (hs.flagVisit hf k x) (by simp at hk; omega),
      flagVisit_correctFlags hs hf (by simp at hk; omega), participationBit_window_cons]
    by_cases hkj : k = j
    · subst hkj; simp [show ¬ k + 1 ≤ k by omega]
    · simp [hkj]

theorem flagPass_attestingBalance (hf : f < 3) :
    ∀ (xs : List Nat) (k : Nat) {s : AgnosticState}, Shaped n s → ∀ g,
      (flagPass f k xs s).attestingBalance.getD g 0
        = if g = f then (s.attestingBalance.getD f 0 + (((xs.enumFrom k).filter
            fun x => x.2.testBit f).map fun x => s.validators[x.1]!.effectiveBalance).sum)
            % 2 ^ 64
          else s.attestingBalance.getD g 0 := by
  intro xs
  induction xs with
  | nil =>
    intro k s hs g
    split
    · subst g; simpa using (Nat.mod_eq_of_lt (hs.balanceBound f)).symm
    · rfl
  | cons x xs ih =>
    intro k s hs g
    rw [flagPass_cons, ih (k + 1) (hs.flagVisit hf k x), flagVisit_validators,
      flagVisit_attestingBalance hs hf, flagVisit_attestingBalance hs hf, List.enumFrom_cons]
    by_cases hgf : g = f
    · subst hgf
      by_cases hx : x.testBit g
      · simp [hx, List.filter_cons, add64, Nat.add_assoc]
      · simp [hx, List.filter_cons]
    · simp [hgf]

theorem flagPass_numAttestingVals (hf : f < 3) :
    ∀ (xs : List Nat) (k : Nat) {s : AgnosticState}, Shaped n s → k + xs.length ≤ n →
      s.numAttestingVals = s.attestingVals.count true →
      (flagPass f k xs s).numAttestingVals = (flagPass f k xs s).attestingVals.count true := by
  intro xs
  induction xs with
  | nil => intro k s _ _ hc; exact hc
  | cons x xs ih =>
    intro k s hs hk hc
    simp only [List.length_cons] at hk
    exact ih (k + 1) (hs.flagVisit hf k x) (by omega)
      (flagVisit_numAttestingVals hs (by omega) x hc)

/-- The inner loop panics nowhere on a shaped state: it is the pure pass. -/
theorem flagLoop_eq (hf : f < 3) (xs : List Nat) (k : Nat) (hs : Shaped n s)
    (hk : k + xs.length ≤ n) :
    (xs.enumFrom k).foldlM (fun customState (valIndex, item) =>
      processFlag f customState valIndex item) s = some (flagPass f k xs s) := by
  refine foldlM_eq_some_foldl _ _ _ (Shaped n) (fun b hb x hx => ?_)
    (fun b hb x _ => hb.flagVisit hf x.1 x.2) s hs
  obtain ⟨hlo, hhi, -⟩ := List.mem_enumFrom hx
  exact processFlag_eq hb hf (by omega) x.2

theorem processAltairAttestations_eq (participation : List Nat) (hs : Shaped n s)
    (hP : participation.length ≤ n) :
    processAltairAttestations s participation = some
      (flagPass 2 0 participation (flagPass 1 0 participation (flagPass 0 0 participation s))) := by
  have h0 := flagLoop_eq (by decide : (0 : Nat) < 3) participation 0 hs (by omega)
  have hs1 := hs.flagPass (by decide : (0 : Nat) < 3) 0 participation
  have h1 := flagLoop_eq (by decide : (1 : Nat) < 3) participation 0 hs1 (by omega)
  have h2 := flagLoop_eq (by decide : (2 : Nat) < 3) participation 0
    (hs1.flagPass (by decide : (1 : Nat) < 3) 0 participation) (by omega)
  simp only [processAltairAttestations, List.foldlM_cons, List.foldlM_nil, List.enum, h0, h1, h2,
    Option.bind_eq_bind, Option.some_bind]
  rfl

/-- A visit that does not panic keeps the shape, whatever its index: past the validators only a
visit with the bit clear succeeds, and it changes nothing. -/
theorem Shaped.of_processFlag (hs : Shaped n s) (hf : f < 3) {i item : Nat} {s' : AgnosticState}
    (h : processFlag f s i item = some s') : Shaped n s' := by
  by_cases hi : i < n
  · rw [processFlag_eq hs hf hi] at h
    exact Option.some.inj h ▸ hs.flagVisit hf i item
  · have hv : s.validators[i]? = none := List.getElem?_eq_none (by rw [hs.validators]; omega)
    unfold processFlag at h
    split at h
    · simp [hv] at h
    · exact Option.some.inj h ▸ hs

/-- `ProcessAltairAttestations`, when it does not panic, keeps the shape, for a participation list
of any length. -/
theorem Shaped.of_processAltairAttestations (hs : Shaped n s) {participation : List Nat}
    {s' : AgnosticState} (h : processAltairAttestations s participation = some s') : Shaped n s' :=
  foldlM_invariant _ _ (Shaped n) (fun b hb g hg b' hb' =>
    foldlM_invariant _ _ (Shaped n) (fun c hc ⟨_, _⟩ _ c' hc' =>
      hc.of_processFlag (by simp only [List.mem_cons, List.mem_nil_iff, or_false] at hg; omega) hc')
      b hb b' hb') s hs s' h

theorem Shaped.getElem?_attestingBalance (hs : Shaped n s) (hf : f < 3) :
    s.attestingBalance[f]? = some (s.attestingBalance.getD f 0) := by
  rw [List.getD_eq_getElem?_getD, List.getElem?_eq_getElem (hs.attestingBalance ▸ hf)]
  rfl

theorem Shaped.getElem?_attestingVals (hs : Shaped n s) {i : Nat} (hi : i < n) :
    s.attestingVals[i]? = some (s.attestingVals.getD i false) := by
  rw [List.getD_eq_getElem?_getD, List.getElem?_eq_getElem (hs.attestingVals ▸ hi)]
  rfl

theorem Shaped.getElem?_correctFlags (hs : Shaped n s) (hf : f < 3) {i : Nat} (hi : i < n) :
    s.correctFlags[f]?.bind (·[i]?) = some ((s.correctFlags.getD f []).getD i 0) := by
  have h1 : f < s.correctFlags.length := hs.correctFlags ▸ hf
  have h2 := hs.rows f hf
  simp only [List.getD_eq_getElem?_getD, List.getElem?_eq_getElem h1, Option.getD_some,
    Option.some_bind] at h2 ⊢
  rw [List.getElem?_eq_getElem (by omega), Option.getD_some]

/-! ## The three passes from `Setup`'s arrays -/

/-- What `ProcessAltairAttestations` leaves in a state set up for validators `V`, from the
previous-epoch participation `P`. -/
structure ParticipationTally (V : List Validator) (P : List Nat) (s : AgnosticState) : Prop where
  correctFlags : ∀ f < 3, ∀ i < V.length,
    s.correctFlags[f]?.bind (·[i]?) = some (if participationBit P f i then 1 else 0)
  attestingBalance : ∀ f < 3, s.attestingBalance[f]? =
    some (((P.enum.filter fun x => x.2.testBit f).map fun x => V[x.1]!.effectiveBalance).sum
      % 2 ^ 64)
  attestingVals : ∀ i < V.length, s.attestingVals[i]? =
    some (participationBit P 0 i || participationBit P 1 i || participationBit P 2 i)
  numAttestingVals : s.numAttestingVals = s.attestingVals.count true

section Constructors

variable (isActive : Validator → Nat → Bool)

theorem Shaped.of_setup {p s : AgnosticState} (h : p.setup isActive = some s) :
    Shaped p.validators.length s := by
  obtain ⟨r, rfl⟩ := AgnosticState.setup_eq_some isActive h
  refine ⟨rfl, List.length_replicate _ _, fun g hg => ?_, List.length_replicate _ _,
    List.length_replicate _ _, fun g => ?_⟩
  · simp only [List.getD_eq_getElem?_getD, List.getElem?_replicate, if_pos hg, Option.getD_some,
      List.length_replicate]
  · simp only [List.getD_eq_getElem?_getD, List.getElem?_getD_replicate_default_eq]
    decide

/-- `Setup` starts every flag count, every attesting balance and every attesting bit at zero. -/
theorem setup_tally_zero {p s : AgnosticState} (h : p.setup isActive = some s) :
    (∀ g j, (s.correctFlags.getD g []).getD j 0 = 0) ∧ (∀ g, s.attestingBalance.getD g 0 = 0) ∧
    (∀ j, s.attestingVals.getD j false = false) ∧ s.attestingVals.count true = 0 ∧
    s.validators = p.validators ∧ s.numAttestingVals = p.numAttestingVals := by
  obtain ⟨r, rfl⟩ := AgnosticState.setup_eq_some isActive h
  refine ⟨fun g j => ?_, fun g => ?_, fun j => ?_, by simp [List.count_replicate], rfl, rfl⟩
  · simp only [List.getD_eq_getElem?_getD, List.getElem?_replicate]
    split
    · rw [Option.getD_some, List.getElem?_getD_replicate_default_eq]
    · rfl
  all_goals simp only [List.getD_eq_getElem?_getD, List.getElem?_getD_replicate_default_eq]

theorem newParticipationState_tally (version : DataVersion) (bstate : AltairBeaconState)
    (hP : bstate.previousEpochParticipation.length ≤ bstate.validators.length)
    {s : AgnosticState} (hs : newParticipationState isActive version bstate = some s) :
    ParticipationTally bstate.validators bstate.previousEpochParticipation s := by
  obtain ⟨s0, h0, h1⟩ := Option.bind_eq_some.mp hs
  have hsh := Shaped.of_setup isActive h0
  obtain ⟨hcf, hab, hav, hcount, hval, hnum⟩ := setup_tally_zero isActive h0
  have hk : 0 + bstate.previousEpochParticipation.length ≤ bstate.validators.length := by omega
  rw [processAltairAttestations_eq _ hsh hP] at h1
  obtain rfl := Option.some.inj h1
  have hs1 := hsh.flagPass (by decide : (0 : Nat) < 3) 0 bstate.previousEpochParticipation
  have hs2 := hs1.flagPass (by decide : (1 : Nat) < 3) 0 bstate.previousEpochParticipation
  have hs3 := hs2.flagPass (by decide : (2 : Nat) < 3) 0 bstate.previousEpochParticipation
  refine ⟨fun f hf i hi => ?_, fun f hf => ?_, fun i hi => ?_, ?_⟩
  · rw [hs3.getElem?_correctFlags hf hi, flagPass_correctFlags (by decide) _ _ hs2 hk,
      flagPass_correctFlags (by decide) _ _ hs1 hk, flagPass_correctFlags (by decide) _ _ hsh hk, hcf]
    obtain rfl | rfl | rfl : f = 0 ∨ f = 1 ∨ f = 2 := by omega
    all_goals simp
  · rw [hs3.getElem?_attestingBalance hf]
    simp only [flagPass_attestingBalance (by decide : (2 : Nat) < 3) _ _ hs2,
      flagPass_attestingBalance (by decide : (1 : Nat) < 3) _ _ hs1,
      flagPass_attestingBalance (by decide : (0 : Nat) < 3) _ _ hsh, hab, flagPass_validators, hval]
    obtain rfl | rfl | rfl : f = 0 ∨ f = 1 ∨ f = 2 := by omega
    all_goals simp [List.enum]
  · rw [hs3.getElem?_attestingVals hi, flagPass_attestingVals (by decide) _ _ hs2 hk,
      flagPass_attestingVals (by decide) _ _ hs1 hk, flagPass_attestingVals (by decide) _ _ hsh hk,
      hav]
    simp
  · exact flagPass_numAttestingVals (by decide) _ _ hs2 hk
      (flagPass_numAttestingVals (by decide) _ _ hs1 hk
        (flagPass_numAttestingVals (by decide) _ _ hsh hk (by rw [hnum, hcount])))

/-- A constructed state is shaped for its validators, which it keeps. -/
theorem Shaped.of_newParticipationState (version : DataVersion) (bstate : AltairBeaconState)
    (hP : bstate.previousEpochParticipation.length ≤ bstate.validators.length)
    {s : AgnosticState} (hs : newParticipationState isActive version bstate = some s) :
    Shaped bstate.validators.length s ∧ s.validators = bstate.validators := by
  obtain ⟨s0, h0, h1⟩ := Option.bind_eq_some.mp hs
  have hsh := Shaped.of_setup isActive h0
  rw [processAltairAttestations_eq _ hsh hP] at h1
  obtain rfl := Option.some.inj h1
  exact ⟨((hsh.flagPass (by decide : (0 : Nat) < 3) 0 _).flagPass (by decide : (1 : Nat) < 3) 0 _
    ).flagPass (by decide : (2 : Nat) < 3) 0 _,
    by simp only [flagPass_validators, (setup_tally_zero isActive h0).2.2.2.2.1]⟩

/-- Every state `GetCustomState` builds, of any fork, is shaped for its own validators. -/
theorem Shaped.of_getCustomState {bs : VersionedBeaconState} {s : AgnosticState}
    (h : getCustomState isActive bs = some (.ok s)) : Shaped s.validators.length s := by
  have hn : ∀ {n}, Shaped n s → Shaped s.validators.length s := fun hs => hs.validators ▸ hs
  cases bs with
  | phase0 b =>
    obtain ⟨s0, h0, h1⟩ := Option.map_eq_some'.mp h
    cases h1
    exact hn (Shaped.of_setup isActive h0)
  | altair b | bellatrix b | capella b =>
    obtain ⟨s0, h0, h1⟩ := Option.map_eq_some'.mp h
    cases h1
    obtain ⟨s1, h2, h3⟩ := Option.bind_eq_some.mp h0
    exact hn ((Shaped.of_setup isActive h2).of_processAltairAttestations h3)
  | deneb _ => cases h

/-- The three Altair-family constructors are `newParticipationState` at their fork tag. -/
theorem exists_version_of_constructors {bstate : AltairBeaconState} {s : AgnosticState}
    (hs : newAltairState isActive bstate = some s ∨ newBellatrixState isActive bstate = some s ∨
      newCapellaState isActive bstate = some s) :
    ∃ version, newParticipationState isActive version bstate = some s := by
  rcases hs with hs | hs | hs <;> exact ⟨_, hs⟩

/-- The Altair, Bellatrix and Capella constructors record, for every flag and validator, exactly
the participation bits of the previous epoch. -/
theorem participationConstructors_tally (bstate : AltairBeaconState)
    (hP : bstate.previousEpochParticipation.length ≤ bstate.validators.length) {s : AgnosticState}
    (hs : newAltairState isActive bstate = some s ∨ newBellatrixState isActive bstate = some s ∨
      newCapellaState isActive bstate = some s) :
    ParticipationTally bstate.validators bstate.previousEpochParticipation s := by
  obtain ⟨version, hs⟩ := exists_version_of_constructors isActive hs
  exact newParticipationState_tally isActive version bstate hP hs

end Constructors

/-- Two validators of effective balance 1 and 2, both with the source bit set. -/
def twoSourceAttesters : AltairBeaconState :=
  { slot := 64, balances := [1, 2],
    validators := [⟨1, 0, 10, false⟩, ⟨2, 0, 10, false⟩], previousEpochParticipation := [1, 1] }

theorem participationConstructors_tally_twoSourceAttesters :
    ∃ s, newAltairState (fun v e => decide (v.activationEpoch ≤ e)) twoSourceAttesters = some s ∧
      ParticipationTally twoSourceAttesters.validators
        twoSourceAttesters.previousEpochParticipation s :=
  ⟨_, rfl, participationConstructors_tally (fun v e => decide (v.activationEpoch ≤ e))
    twoSourceAttesters (by decide) (Or.inl rfl)⟩

theorem maxAttestingBalance_overwritten :
    (newAltairState (fun v e => decide (v.activationEpoch ≤ e)) twoSourceAttesters).map
      AgnosticState.maxAttestingBalance = some 2 := by
  decide

end ClStateAnalyzer.Spec
