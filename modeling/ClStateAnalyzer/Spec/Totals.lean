/-
# ClStateAnalyzer.Spec.Totals — the active-validator totals of `Setup`

`Setup` computes `NumActiveVals` and `TotalActiveBalance` in one pass of
`GetTotalActiveEffBalance` (an indicator array summed by `ValsEffectiveBalance`), and
`TotalActiveRealBalance` in a second loop, `GetTotalActiveRealBalance`; `GetActiveVals` is a third,
separate loop. Each loop gets its closed form here (`getTotalActiveEffBalance_eq`,
`getTotalActiveRealBalance_eq`, `getActiveVals_eq`), `setup_eq` and `setup_eq_some` say what
`Setup` builds, and `setup_active_totals_agree` proves that the three loops agree for every
validator list, every balance list at least as long, every epoch and every activity predicate.
Sums are `uint64` sums, so they are reduced modulo `2^64`.
-/
import ClStateAnalyzer.Spec.State

namespace ClStateAnalyzer.Spec.AgnosticState

variable (isActive : Validator → Nat → Bool)

/-! ## The three loops in closed form -/

theorem foldl_mark_count (vals : List Validator) (e : Nat) (acc : List Nat × Nat) :
    vals.foldl (fun (acc : List Nat × Nat) val =>
      if isActive val e then (acc.1 ++ [1], acc.2 + 1) else (acc.1 ++ [0], acc.2)) acc
      = (acc.1 ++ vals.map (fun val => if isActive val e then 1 else 0),
         acc.2 + vals.countP (isActive · e)) := by
  induction vals generalizing acc with
  | nil => simp
  | cons v vs ih =>
    by_cases hv : isActive v e <;> simp [hv, ih, List.countP_cons, Nat.add_assoc, Nat.add_comm 1]

/-- `ValsEffectiveBalance` over the indicator array of the active validators is their summed
effective balance. -/
theorem valsEffectiveBalance_marks (p : AgnosticState) :
    p.valsEffectiveBalance (p.validators.map fun val => if isActive val p.epoch then 1 else 0)
      = ((p.validators.filter (isActive · p.epoch)).map (·.effectiveBalance)).sum % 2 ^ 64 := by
  unfold valsEffectiveBalance
  rw [List.enum_map, List.foldl_map, List.foldl_ext _ (fun acc (x : Nat × Validator) =>
    if isActive x.2 p.epoch then add64 acc x.2.effectiveBalance else acc)]
  · rw [foldl_add64_filter _ _ _ (by decide), Nat.zero_add,
      enum_filter_map_snd p.validators (isActive · p.epoch) Validator.effectiveBalance]
  · rintro acc ⟨i, v⟩ hx
    have hv : p.validators[i]? = some v := getElem?_of_mem_enum hx
    by_cases h : isActive v p.epoch <;> simp [h, hv]

theorem getTotalActiveEffBalance_eq (p : AgnosticState) :
    getTotalActiveEffBalance isActive p =
      ({ p with numActiveVals := p.validators.countP (isActive · p.epoch) },
       ((p.validators.filter (isActive · p.epoch)).map (·.effectiveBalance)).sum % 2 ^ 64) := by
  simp only [getTotalActiveEffBalance, foldl_mark_count, List.nil_append, Nat.zero_add,
    valsEffectiveBalance_marks]

/-- `GetTotalActiveRealBalance` panics nowhere when every validator has a balance. -/
theorem getTotalActiveRealBalance_eq (p : AgnosticState)
    (hB : p.validators.length ≤ p.balances.length) :
    getTotalActiveRealBalance isActive p = some
      (((p.validators.enum.filter (fun x => isActive x.2 p.epoch)).map
        fun x => p.balances[x.1]!).sum % 2 ^ 64) := by
  unfold getTotalActiveRealBalance
  rw [foldlM_eq_some_foldl _ _ (fun acc (x : Nat × Validator) =>
    if isActive x.2 p.epoch then add64 acc p.balances[x.1]! else acc) (fun _ => True)
    _ (fun _ _ _ _ => trivial) _ trivial]
  · rw [foldl_add64_filter _ _ _ (by decide), Nat.zero_add]
  · rintro acc - ⟨i, v⟩ hx
    have hi : i < p.balances.length := (List.fst_lt_of_mem_enum hx).trans_le hB
    by_cases h : isActive v p.epoch
      <;> simp [h, List.getElem?_eq_getElem hi, getElem!_pos p.balances i hi]

theorem getActiveVals_eq (p : AgnosticState) :
    p.getActiveVals isActive
      = (p.validators.enum.filter (fun x => isActive x.2 p.epoch)).map (·.1) :=
  foldl_append_filter _ _ _ []

/-! ## What `Setup` builds -/

/-- `Setup` panics nowhere when every validator has a balance, and builds this state. -/
theorem setup_eq (p : AgnosticState) (hB : p.validators.length ≤ p.balances.length) :
    p.setup isActive = some { p with
      attestingBalance := List.replicate 3 0
      attestingVals := List.replicate p.validators.length false
      correctFlags := List.replicate 3 (List.replicate p.validators.length 0)
      numActiveVals := p.validators.countP (isActive · p.epoch)
      totalActiveBalance :=
        ((p.validators.filter (isActive · p.epoch)).map (·.effectiveBalance)).sum % 2 ^ 64
      totalActiveRealBalance := (((p.validators.enum.filter (fun x => isActive x.2 p.epoch)).map
        fun x => p.balances[x.1]!).sum % 2 ^ 64) } := by
  simp only [setup, getTotalActiveEffBalance_eq]
  rw [getTotalActiveRealBalance_eq isActive _ (by exact hB)]
  rfl

/-- Whatever `Setup` returns has its arrays freshly allocated and its effective-balance total in
place; only the real-balance total depends on the balances. -/
theorem setup_eq_some {p s : AgnosticState} (h : p.setup isActive = some s) :
    ∃ r, s = { p with
      attestingBalance := List.replicate 3 0
      attestingVals := List.replicate p.validators.length false
      correctFlags := List.replicate 3 (List.replicate p.validators.length 0)
      numActiveVals := p.validators.countP (isActive · p.epoch)
      totalActiveBalance :=
        ((p.validators.filter (isActive · p.epoch)).map (·.effectiveBalance)).sum % 2 ^ 64
      totalActiveRealBalance := r } := by
  simp only [setup, getTotalActiveEffBalance_eq, Option.bind_eq_bind] at h
  obtain ⟨r, -, hr⟩ := Option.bind_eq_some.mp h
  exact ⟨r, (Option.some.inj hr).symm⟩

/-! ## The three loops agree -/

/-- For every state `Setup` builds from validators and at least as many balances, and for every
activity predicate: the state keeps the input validators, balances and epoch, `NumActiveVals`
counts `GetActiveVals`, `TotalActiveBalance` sums the effective balances of `GetActiveVals` and
`TotalActiveRealBalance` sums their balances. -/
theorem setup_active_totals_agree (p : AgnosticState)
    (hB : p.validators.length ≤ p.balances.length) :
    ∃ s, p.setup isActive = some s ∧
      s.validators = p.validators ∧ s.balances = p.balances ∧ s.epoch = p.epoch ∧
      s.numActiveVals = (s.getActiveVals isActive).length ∧
      s.totalActiveBalance =
        ((s.getActiveVals isActive).map fun i => s.validators[i]!.effectiveBalance).sum % 2 ^ 64 ∧
      s.totalActiveRealBalance =
        ((s.getActiveVals isActive).map fun i => s.balances[i]!).sum % 2 ^ 64 := by
  refine ⟨_, setup_eq isActive p hB, rfl, rfl, rfl, ?_, ?_, ?_⟩ <;>
    simp only [getActiveVals_eq, List.length_map, List.map_map]
  · rw [List.countP_eq_length_filter, ← List.map_id (p.validators.filter _),
      ← enum_filter_map_snd p.validators (isActive · p.epoch) id, List.length_map]
  · have hmem : ∀ x ∈ p.validators.enum.filter (fun x => isActive x.2 p.epoch),
        ((fun i => p.validators[i]!.effectiveBalance) ∘ Prod.fst) x = x.2.effectiveBalance :=
      fun x hx => by
        rw [Function.comp_apply,
          List.getElem!_of_getElem? (getElem?_of_mem_enum (List.mem_filter.mp hx).1)]
    rw [List.map_congr_left hmem,
      enum_filter_map_snd p.validators (isActive · p.epoch) Validator.effectiveBalance]
  · rfl

/-- Two validators, one active at epoch 3, each with a balance. -/
theorem setup_active_totals_agree_two :
    ([(⟨32, 0, 10, false⟩ : Validator), ⟨31, 5, 10, false⟩].length ≤ [40, 41].length) ∧
    ∃ s, ({ validators := [⟨32, 0, 10, false⟩, ⟨31, 5, 10, false⟩], balances := [40, 41]
            epoch := 3 } : AgnosticState).setup (fun v e => decide (v.activationEpoch ≤ e))
        = some s ∧
      s.validators = [⟨32, 0, 10, false⟩, ⟨31, 5, 10, false⟩] ∧ s.balances = [40, 41] ∧
      s.epoch = 3 ∧
      s.numActiveVals = (s.getActiveVals fun v e => decide (v.activationEpoch ≤ e)).length ∧
      s.totalActiveBalance = ((s.getActiveVals fun v e => decide (v.activationEpoch ≤ e)).map
        fun i => s.validators[i]!.effectiveBalance).sum % 2 ^ 64 ∧
      s.totalActiveRealBalance = ((s.getActiveVals fun v e => decide (v.activationEpoch ≤ e)).map
        fun i => s.balances[i]!).sum % 2 ^ 64 :=
  ⟨by decide, setup_active_totals_agree _ _ (by decide)⟩

end ClStateAnalyzer.Spec.AgnosticState
