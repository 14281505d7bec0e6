/-
# ClStateAnalyzer.Loop — Go `range` loops as folds

The accumulating loops of the analyzer come in three shapes: a conditional `uint64` sum
(`total += x` under a test), a conditional append (`result = append(result, x)`), and a loop
in `Option` whose steps can panic. Each shape is stated once here and the per-function proofs
cite it: a sum loop is the filtered sum reduced once modulo `2^64`, an append loop is the
filtered map, and a panicking loop whose every step succeeds is the pure fold. When only an
invariant of the steps is known, a panicking loop keeps it (`foldlM_invariant`) and, when every
step succeeds on it, does not panic (`foldlM_exists`).
-/
import ClStateAnalyzer.Word

namespace ClStateAnalyzer

variable {α β : Type}

/-- A loop adding `g x` to a `uint64` total for the elements passing `p` computes the filtered
sum, reduced once. -/
theorem foldl_add64_filter (l : List α) (p : α → Bool) (g : α → Nat) {a : Nat}
    (ha : a < 2 ^ 64) :
    l.foldl (fun acc x => if p x then add64 acc (g x) else acc) a
      = (a + ((l.filter p).map g).sum) % 2 ^ 64 := by
  induction l generalizing a with
  | nil => exact (Nat.mod_eq_of_lt ha).symm
  | cons x xs ih =>
    by_cases hx : p x
    · rw [List.foldl_cons, if_pos hx, ih (add64_lt _ _), List.filter_cons_of_pos hx,
        List.map_cons, List.sum_cons, add64, Nat.mod_add_mod, Nat.add_assoc]
    · rw [List.foldl_cons, if_neg hx, ih ha, List.filter_cons_of_neg hx]

/-- A loop appending `f x` for the elements passing `p` builds the filtered map. -/
theorem foldl_append_filter (l : List α) (p : α → Bool) (f : α → β) (acc : List β) :
    l.foldl (fun r x => if p x then r ++ [f x] else r) acc = acc ++ (l.filter p).map f := by
  induction l generalizing acc with
  | nil => simp
  | cons x xs ih => by_cases hx : p x <;> simp [hx, ih]

/-- A loop in `Option` whose steps succeed on the states satisfying an invariant `I` that the
steps keep is, from such a state, the pure fold of the successful steps. -/
theorem foldlM_eq_some_foldl (l : List α) (f : β → α → Option β) (g : β → α → β) (I : β → Prop)
    (hfg : ∀ b, I b → ∀ x ∈ l, f b x = some (g b x)) (hI : ∀ b, I b → ∀ x ∈ l, I (g b x))
    (b : β) (hb : I b) :
    l.foldlM f b = some (l.foldl g b) := by
  induction l generalizing b with
  | nil => rfl
  | cons x xs ih =>
    simp only [List.foldlM_cons, hfg b hb x (List.mem_cons_self x xs), Option.bind_eq_bind,
      Option.some_bind, List.foldl_cons]
    exact ih (fun b hb y hy => hfg b hb y (List.mem_cons_of_mem x hy))
      (fun b hb y hy => hI b hb y (List.mem_cons_of_mem x hy)) _
      (hI b hb x (List.mem_cons_self x xs))

/-- A loop in `Option` whose successful steps keep an invariant `I` ends, when it succeeds, in a
state satisfying `I`. -/
theorem foldlM_invariant (l : List α) (f : β → α → Option β) (I : β → Prop)
    (hf : ∀ b, I b → ∀ x ∈ l, ∀ b', f b x = some b' → I b') :
    ∀ b, I b → ∀ b', l.foldlM f b = some b' → I b' := by
  induction l with
  | nil => intro b hb b' h; exact Option.some.inj h ▸ hb
  | cons x xs ih =>
    intro b hb b' h
    obtain ⟨c, hc, h⟩ := Option.bind_eq_some.mp h
    exact ih (fun b hb y hy => hf b hb y (List.mem_cons_of_mem x hy)) c
      (hf b hb x (List.mem_cons_self x xs) c hc) b' h

/-- A loop in `Option` whose every step succeeds from the states satisfying `I`, into such a
state, does not panic from such a state. -/
theorem foldlM_exists (l : List α) (f : β → α → Option β) (I : β → Prop)
    (hf : ∀ b, I b → ∀ x ∈ l, ∃ b', f b x = some b' ∧ I b') :
    ∀ b, I b → ∃ b', l.foldlM f b = some b' ∧ I b' := by
  induction l with
  | nil => exact fun b hb => ⟨b, rfl, hb⟩
  | cons x xs ih =>
    intro b hb
    obtain ⟨c, hc, hIc⟩ := hf b hb x (List.mem_cons_self x xs)
    simp only [List.foldlM_cons, hc, Option.bind_eq_bind, Option.some_bind]
    exact ih (fun b hb y hy => hf b hb y (List.mem_cons_of_mem x hy)) c hIc

/-- A loop in `Option` over a list holding an element whose step panics from every state
panics. -/
theorem foldlM_eq_none (l : List α) (f : β → α → Option β) {x : α} (hx : x ∈ l)
    (hf : ∀ b, f b x = none) : ∀ b, l.foldlM f b = none := by
  induction l with
  | nil => exact absurd hx (List.not_mem_nil x)
  | cons y ys ih =>
    intro b
    rw [List.foldlM_cons]
    rcases List.mem_cons.mp hx with rfl | hys
    · rw [hf b]; rfl
    · cases f b y with
      | none => rfl
      | some c => exact ih hys c

/-- A loop adding one for the elements passing `p` counts them. -/
theorem foldl_succ_eq_countP (l : List α) (p : α → Bool) (a : Nat) :
    l.foldl (fun acc x => if p x then acc + 1 else acc) a = a + l.countP p := by
  induction l generalizing a with
  | nil => rfl
  | cons x xs ih => by_cases hx : p x <;> simp [hx, ih, List.countP_cons]; omega

/-- Filtering `l.enum` on the element and keeping the element is filtering `l`. -/
theorem enum_filter_map_snd (l : List α) (q : α → Bool) (h : α → β) :
    ((l.enum.filter fun x => q x.2).map fun x => h x.2) = (l.filter q).map h := by
  conv_rhs => rw [← List.enum_map_snd l, List.filter_map, List.map_map]
  rfl

/-- An entry of `l.enum` is an index of `l` together with the element stored there. -/
theorem getElem?_of_mem_enum {l : List α} {x : Nat × α} (h : x ∈ l.enum) : l[x.1]? = some x.2 :=
  List.mem_enum_iff_getElem?.mp h

/-- Counting the entries of `l.enum` by index and element is counting the indices of `l`, each
read back with `getD`. -/
theorem countP_enum (l : List α) (p : Nat → α → Bool) (d : α) :
    l.enum.countP (fun x => p x.1 x.2) = (List.range l.length).countP fun i => p i (l.getD i d) := by
  have h : ∀ x ∈ l.enum, p x.1 x.2 = true ↔ p x.1 (l.getD x.1 d) = true := by
    intro x hx
    rw [List.getD_eq_getElem?_getD, getElem?_of_mem_enum hx]
    rfl
  rw [List.countP_congr h, ← List.enum_map_fst l, List.countP_map]
  rfl

/-- Filtering `l.enum` on index and element and keeping a function of the index is filtering the
indices of `l`, each element read back with `getD`. -/
theorem enum_filter_map_fst (l : List α) (p : Nat → α → Bool) (h : Nat → β) (d : α) :
    ((l.enum.filter fun x => p x.1 x.2).map fun x => h x.1)
      = ((List.range l.length).filter fun i => p i (l.getD i d)).map h := by
  have hc : ∀ x ∈ l.enum, p x.1 x.2 = p x.1 (l.getD x.1 d) := by
    intro x hx
    rw [List.getD_eq_getElem?_getD, getElem?_of_mem_enum hx]
    rfl
  rw [List.filter_congr hc, ← List.enum_map_fst l, List.filter_map, List.map_map]
  rfl

end ClStateAnalyzer
