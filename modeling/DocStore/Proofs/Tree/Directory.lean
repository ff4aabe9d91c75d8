import DocStore.Proofs.Tree.Patch

/-!
# What making objects along a path does to a tree

Objects that stand on the path already keep their fields, and what is missing is made without any
others. So the only places that change are the prefixes of the path.

Results:
  * `makeBelow_cons`: what one step down the path comes to;
  * `at?_makeDir_of_not_prefix`: every place but the prefixes of the path reads as before.
-/

namespace DocStore.Tree

/-! ## Chains of objects -/

theorem at?_chain_of_not_prefix {segments q : List String} (outside : ¬ q <+: segments) :
    at? q (chain segments) = none := by
  induction segments generalizing q with
  | nil =>
    cases q with
    | nil => exact absurd List.nil_prefix outside
    | cons first q => rfl
  | cons segment rest ih =>
    cases q with
    | nil => exact absurd List.nil_prefix outside
    | cons first q =>
      rw [chain, at?_cons_object, Dict.find?_cons]
      split
      · next same =>
        subst same
        exact ih fun deeper => outside (List.cons_prefix_cons.2 ⟨rfl, deeper⟩)
      · rfl

/-! ## Below the root -/

/-- Along the path there are objects, or nothing yet. -/
theorem makeBelow_cons {depth : Nat} {segment : String} {rest : List String} {v changed : Value}
    {made : Bool} (ok : makeBelow depth (segment :: rest) v = .ok (changed, made)) :
    ∃ fields, v = .object fields ∧
      ((Dict.find? fields segment = none ∧ made = true ∧
          changed = .object (Dict.insert fields segment (chain rest))) ∨
        ∃ child below, Dict.find? fields segment = some child ∧
          makeBelow (depth + 1) rest child = .ok (below, made) ∧
          changed = .object (Dict.insert fields segment below)) := by
  cases v with
  | object fields =>
    refine ⟨fields, rfl, ?_⟩
    simp only [makeBelow] at ok
    cases found : Dict.find? fields segment with
    | none =>
      rw [found] at ok
      cases ok
      exact Or.inl ⟨rfl, rfl, rfl⟩
    | some child =>
      rw [found] at ok
      cases below : makeBelow (depth + 1) rest child with
      | error e =>
        simp only [below] at ok
        cases ok
      | ok result =>
        obtain ⟨changedChild, madeBelow⟩ := result
        simp only [below] at ok
        cases ok
        exact Or.inr ⟨child, changedChild, rfl, below, rfl⟩
  | null | bool | int | float | string | array => cases ok

theorem makeBelow_nil {depth : Nat} {v changed : Value} {made : Bool}
    (ok : makeBelow depth [] v = .ok (changed, made)) :
    made = false ∧ changed = v ∧ ∃ fields, v = .object fields := by
  cases v with
  | object fields =>
    cases ok
    exact ⟨rfl, rfl, fields, rfl⟩
  | null | bool | int | float | string | array => cases ok

theorem at?_makeBelow_of_not_prefix {depth : Nat} {segments q : List String} {v changed : Value}
    {made : Bool} (ok : makeBelow depth segments v = .ok (changed, made))
    (outside : ¬ q <+: segments) : at? q changed = at? q v := by
  induction segments generalizing depth v changed q with
  | nil =>
    obtain ⟨_, rfl, _⟩ := makeBelow_nil ok
    rfl
  | cons segment rest ih =>
    cases q with
    | nil => exact absurd List.nil_prefix outside
    | cons first q =>
      obtain ⟨fields, rfl, ⟨missing, _, rfl⟩ | ⟨child, below, found, okBelow, rfl⟩⟩ :=
        makeBelow_cons ok
      · by_cases same : first = segment
        · subst same
          rw [at?_insert_self, at?_cons_object, missing]
          exact at?_chain_of_not_prefix fun deeper =>
            outside (List.cons_prefix_cons.2 ⟨rfl, deeper⟩)
        · exact at?_insert_ne q fields _ same
      · by_cases same : first = segment
        · subst same
          rw [at?_insert_self, at?_cons_object, found]
          exact ih okBelow fun deeper => outside (List.cons_prefix_cons.2 ⟨rfl, deeper⟩)
        · exact at?_insert_ne q fields _ same

/-! ## Paths -/

theorem makeDir_below {v changed : Value} {path : Path} {made : Bool}
    (ok : makeDir v path = .ok (changed, made)) :
    makeBelow 0 path.segments v = .ok (changed, made) := by
  unfold makeDir at ok
  cases below : makeBelow 0 path.segments v with
  | ok result =>
    simp only [below] at ok
    rw [Except.ok.inj ok]
  | error e =>
    simp only [below] at ok
    cases ok

/-- Every other place reads as before. -/
theorem at?_makeDir_of_not_prefix {v changed : Value} {path : Path} {made : Bool}
    (ok : makeDir v path = .ok (changed, made)) {q : List String}
    (outside : ¬ q <+: path.segments) : at? q changed = at? q v :=
  at?_makeBelow_of_not_prefix (makeDir_below ok) outside

end DocStore.Tree
