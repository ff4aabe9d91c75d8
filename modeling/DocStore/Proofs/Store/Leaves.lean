import DocStore.Proofs.Store.Effect

/-!
# What edits make of leaves

A leaf is a value that is no object. Edits need objects on the way to the places they are about, so
above these places no leaf comes or goes. For leaves, then, no place has to be left out: each stands
where the placements of a row of edits say.

Results:
  * `objects_above_apply`, `objects_along_makeDir`: what stands on the way;
  * `leaf_amendAll`: the leaves after a row of edits.
-/

namespace DocStore

namespace Tree

variable {v changed new : Value} {op : PatchOp} {p : List String}

theorem objects_above_patchBelow {depth : Nat} {key : String} {rest : List String}
    (ok : patchBelow op new depth key rest v = .ok changed) (above : p <+: key :: rest)
    (strict : p ≠ key :: rest) :
    (∃ fields, at? p v = some (.object fields)) ∧ ∃ fields, at? p changed = some (.object fields) := by
  induction rest generalizing depth key v changed p with
  | nil =>
    obtain ⟨fields, rfl, rfl⟩ := patchBelow_last ok
    cases p with
    | nil => exact ⟨⟨fields, at?_nil _⟩, _, at?_nil _⟩
    | cons first p =>
      obtain ⟨rfl, none⟩ := List.cons_prefix_cons.1 above
      rw [List.prefix_nil.1 none] at strict
      exact absurd rfl strict
  | cons next rest ih =>
    obtain ⟨fields, child, below, rfl, found, okBelow, rfl⟩ := patchBelow_next ok
    cases p with
    | nil => exact ⟨⟨fields, at?_nil _⟩, _, at?_nil _⟩
    | cons first p =>
      obtain ⟨rfl, deeper⟩ := List.cons_prefix_cons.1 above
      rw [at?_cons_object, found, at?_insert_self]
      exact ih okBelow deeper fun same => strict (by rw [same])

/-- Strictly above a patched place there are objects, before and after. -/
theorem objects_above_apply {path : Path} (ok : apply v op path new = .ok changed)
    (above : p <+: path.segments) (strict : p ≠ path.segments) :
    (∃ fields, at? p v = some (.object fields)) ∧ ∃ fields, at? p changed = some (.object fields) := by
  cases segments : path.segments with
  | nil =>
    rw [segments] at above strict
    exact absurd (List.prefix_nil.1 above) strict
  | cons key rest =>
    rw [segments] at above strict
    exact objects_above_patchBelow (apply_below segments ok) above strict

theorem object_at_chain {segments : List String} (above : p <+: segments) :
    ∃ fields, at? p (chain segments) = some (.object fields) := by
  induction segments generalizing p with
  | nil =>
    rw [List.prefix_nil.1 above]
    exact ⟨[], at?_nil _⟩
  | cons segment rest ih =>
    cases p with
    | nil => exact ⟨_, at?_nil _⟩
    | cons first p =>
      obtain ⟨rfl, deeper⟩ := List.cons_prefix_cons.1 above
      rw [chain, at?_cons_object, Dict.find?_cons, if_pos rfl]
      exact ih deeper

theorem objects_along_makeBelow {depth : Nat} {segments : List String} {made : Bool}
    (ok : makeBelow depth segments v = .ok (changed, made)) (above : p <+: segments) :
    (∀ w, at? p v = some w → w.isObject = true) ∧ ∃ fields, at? p changed = some (.object fields) := by
  induction segments generalizing depth v changed p with
  | nil =>
    obtain ⟨-, rfl, fields, rfl⟩ := makeBelow_nil ok
    rw [List.prefix_nil.1 above, at?_nil]
    refine ⟨fun w same => ?_, fields, rfl⟩
    cases same
    rfl
  | cons segment rest ih =>
    obtain ⟨fields, rfl, step⟩ := makeBelow_cons ok
    cases p with
    | nil =>
      rw [at?_nil, at?_nil]
      refine ⟨fun w same => ?_, ?_⟩
      · cases same
        rfl
      · obtain ⟨-, -, rfl⟩ | ⟨_, _, -, -, rfl⟩ := step <;> exact ⟨_, rfl⟩
    | cons first p =>
      obtain ⟨rfl, deeper⟩ := List.cons_prefix_cons.1 above
      rw [at?_cons_object]
      obtain ⟨missing, -, rfl⟩ | ⟨child, below, found, okBelow, rfl⟩ := step
      · rw [missing, at?_insert_self]
        refine ⟨fun w nothing => ?_, object_at_chain deeper⟩
        cases nothing
      · rw [found, at?_insert_self]
        exact ih okBelow deeper

/-- On a path along which objects are made, there is nothing else before, and objects after. -/
theorem objects_along_makeDir {path : Path} {made : Bool}
    (ok : makeDir v path = .ok (changed, made)) (above : p <+: path.segments) :
    (∀ w, at? p v = some w → w.isObject = true) ∧ ∃ fields, at? p changed = some (.object fields) :=
  objects_along_makeBelow (makeDir_below ok) above

end Tree

namespace Contents

variable {c d : Contents} {path q : Path} {v : Value}

theorem leaf_patch {op : PatchOp} {value : Value} (ok : c.patch op path value = .ok d)
    (leaf : v.isObject = false) :
    d.get? q = some v ↔
      (Placement.mk path (if op = .remove then none else some value)).leaves q (c.get? q) = some v := by
  by_cases misses : path.hasPrefix q = true → path = q
  · rw [get?_patch ok misses]
  · obtain ⟨above, strict⟩ := Classical.not_imp.1 misses
    have leads := Path.hasPrefix_iff_leads.1 above
    have unreached : q.hasPrefix path = false := by
      refine Bool.eq_false_iff.2 fun below => strict ?_
      exact Path.ext ((Path.hasPrefix_iff_leads.1 below).eq_of_length
        (Nat.le_antisymm (Path.hasPrefix_iff_leads.1 below).length_le leads.length_le))
    unfold patch at ok
    obtain ⟨data, applied, rfl⟩ := map_ok ok
    obtain ⟨⟨before, was⟩, after, is⟩ :=
      Tree.objects_above_apply applied leads fun same => strict (Path.ext same).symm
    unfold Placement.leaves Contents.get? Tree.get?
    rw [unreached, was, is]
    constructor
    · intro same
      cases same
      cases leaf
    · intro same
      cases same
      cases leaf

theorem leaf_makeDir (ok : c.makeDir path = .ok d) (leaf : v.isObject = false) :
    d.get? q = some v ↔ c.get? q = some v := by
  cases inside : path.hasPrefix q with
  | false => rw [get?_makeDir ok inside]
  | true =>
    unfold makeDir at ok
    obtain ⟨⟨data, made⟩, done, rfl⟩ := map_ok ok
    obtain ⟨before, after, is⟩ :=
      Tree.objects_along_makeDir done (Path.hasPrefix_iff_leads.1 inside)
    constructor
    · intro same
      unfold Contents.get? Tree.get? at same
      rw [is] at same
      cases same
      cases leaf
    · intro same
      rw [before v same] at leaf
      cases leaf

end Contents

namespace Store

variable {s : Store} {c d : Contents} {q : Path} {v : Value}

/-- The leaf at a place after an edit, wherever that place is. -/
theorem leaf_amend {e : Edit} (ok : s.amend c e = .ok d) (leaf : v.isObject = false) :
    d.get? q = some v ↔ Placement.settle e.puts q (c.get? q) = some v := by
  cases e with
  | write op path value => exact Contents.leaf_patch (amendOwned_ok ok).2 leaf
  | writeUnchecked op path value => exact Contents.leaf_patch ok leaf
  | makeDir path => exact Contents.leaf_makeDir ok leaf
  | clear path =>
    obtain ⟨nothing, rfl⟩ | written := amend_clear_ok ok
    · show d.get? q = some v ↔ (Placement.mk path none).leaves q (d.get? q) = some v
      rw [leaves_nothing nothing]
    · exact Contents.leaf_patch (amendOwned_ok written).2 leaf
  | discard path =>
    obtain ⟨nothing, rfl⟩ | written := amend_discard_ok ok
    · show d.get? q = some v ↔ (Placement.mk path none).leaves q (d.get? q) = some v
      rw [leaves_nothing nothing]
    · exact Contents.leaf_patch (amendOwned_ok written).2 leaf
  | requireOwnerless path => rw [get?_amend ok trivial]
  | requireNoClaims => rw [get?_amend ok trivial]
  | upsertPolicy id text => rw [get?_amend ok trivial]
  | deletePolicy id => rw [get?_amend ok trivial]
  | dropPolicies start => rw [get?_amend ok trivial]

/-- Placements make the same of places with the same leaves. -/
theorem settle_leaf {x y : Option Value} (same : x = some v ↔ y = some v)
    (placements : List Placement) :
    Placement.settle placements q x = some v ↔ Placement.settle placements q y = some v := by
  induction placements generalizing x y with
  | nil => exact same
  | cons p rest ih =>
    refine ih ?_
    show p.leaves q x = some v ↔ p.leaves q y = some v
    unfold Placement.leaves
    split
    · rfl
    · exact same

/-- The leaf at a place after a row of edits, wherever that place is. -/
theorem leaf_amendAll {edits : List Edit} (ok : s.amendAll c edits = (d, .ok ()))
    (leaf : v.isObject = false) :
    d.get? q = some v ↔
      Placement.settle (edits.flatMap Edit.puts) q (c.get? q) = some v := by
  induction edits generalizing c with
  | nil =>
    cases ok
    rfl
  | cons e rest ih =>
    obtain ⟨between, first, others⟩ := amendAll_cons_ok ok
    rw [ih others, List.flatMap_cons, Placement.settle_append]
    exact settle_leaf (leaf_amend first leaf) _

end Store

end DocStore
