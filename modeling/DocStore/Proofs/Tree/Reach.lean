import DocStore.Proofs.Tree.Surface

/-!
# What keys lead to

Keys lead down through objects only. That differs from reading at a path, which also takes an index
into a list: what keys lead to can be read there, and what is read there is led to when only objects
stand above it.

Results:
  * `reach?_eq_some_iff`: being led to against being read;
  * `eq_of_reach?`: a tree with fields in order is known by what its keys lead to.
-/

namespace DocStore

namespace Value

theorem isObject_object (fields : Dict Value) : (Value.object fields).isObject = true := rfl

/-- A value is an object, or it is not. -/
theorem leaf_or_object (v : Value) : v.isObject = false ∨ ∃ fields, v = .object fields := by
  cases v with
  | object fields => exact .inr ⟨fields, rfl⟩
  | null | bool | int | float | string | array => exact .inl rfl

theorem field?_of_leaf {v : Value} (leaf : v.isObject = false) (key : String) :
    v.field? key = none := by
  cases v with
  | object fields => cases leaf
  | null | bool | int | float | string | array => rfl

end Value

namespace Tree

/-- What a row of keys leads to, going through objects only. -/
def reach? : List String → Value → Option Value
  | [], v => some v
  | key :: rest, v => (v.field? key).bind (reach? rest)

variable {u v w : Value} {fields : Dict Value} {key : String} {p q rest : List String}

@[simp] theorem reach?_nil (v : Value) : reach? [] v = some v := rfl

theorem reach?_cons_object (fields : Dict Value) (key : String) (rest : List String) :
    reach? (key :: rest) (.object fields) = (Dict.find? fields key).bind (reach? rest) := rfl

/-- No keys lead on from a value that is no object. -/
theorem reach?_cons_of_leaf (leaf : v.isObject = false) (key : String) (rest : List String) :
    reach? (key :: rest) v = none := by
  rw [reach?, Value.field?_of_leaf leaf]
  rfl

theorem reach?_append (p q : List String) (v : Value) :
    reach? (p ++ q) v = (reach? p v).bind (reach? q) := by
  induction p generalizing v with
  | nil => rfl
  | cons key rest ih =>
    rw [List.cons_append, reach?, reach?, Option.bind_assoc]
    congr 1
    funext child
    exact ih child

/-- Keys that lead on have an object to go through. -/
theorem object_of_reach? (strict : q ≠ []) (leads : reach? q v = some w) : v.isObject = true := by
  cases q with
  | nil => exact absurd rfl strict
  | cons key rest =>
    cases object : v.isObject with
    | true => rfl
    | false =>
      rw [reach?_cons_of_leaf object] at leads
      cases leads

/-- Keys that lead somewhere lead to an object before they do. -/
theorem object_above (above : p <+: q) (strict : p ≠ q) (leads : reach? q v = some w) :
    ∃ fields, reach? p v = some (.object fields) := by
  obtain ⟨rest, rfl⟩ := above
  rw [reach?_append] at leads
  obtain ⟨x, first, later⟩ := Option.bind_eq_some_iff.1 leads
  have object := object_of_reach? (fun none => strict (by rw [none, List.append_nil])) later
  rcases x.leaf_or_object with leaf | ⟨fields, rfl⟩
  · rw [leaf] at object
    cases object
  · exact ⟨fields, first⟩

/-- Where keys lead to a value that is no object, they lead no further. -/
theorem eq_of_leaf_above (above : p <+: q) (stands : reach? p v = some u) (leaf : u.isObject = false)
    (leads : reach? q v = some w) : p = q := by
  by_contra strict
  obtain ⟨fields, object⟩ := object_above above strict leads
  cases stands.symm.trans object
  cases leaf

/-! ## Reading -/

theorem at?_of_reach? (leads : reach? p v = some w) : at? p v = some w := by
  induction p generalizing v with
  | nil => rwa [at?_nil]
  | cons key rest ih =>
    rcases v.leaf_or_object with leaf | ⟨fields, rfl⟩
    · rw [reach?_cons_of_leaf leaf] at leads
      cases leads
    · rw [reach?_cons_object] at leads
      obtain ⟨child, found, later⟩ := Option.bind_eq_some_iff.1 leads
      rw [at?_cons_object, found]
      exact ih later

/-- What is read at a place is led to exactly when only objects stand above it. -/
theorem reach?_eq_some_iff : reach? p v = some w ↔
    at? p v = some w ∧ ∀ r, r <+: p → r ≠ p → ∃ fields, at? r v = some (.object fields) := by
  constructor
  · intro leads
    refine ⟨at?_of_reach? leads, fun r above strict => ?_⟩
    obtain ⟨fields, object⟩ := object_above above strict leads
    exact ⟨fields, at?_of_reach? object⟩
  · rintro ⟨stands, objects⟩
    induction p generalizing v with
    | nil => rwa [at?_nil] at stands
    | cons key rest ih =>
      obtain ⟨fields, top⟩ := objects [] List.nil_prefix (List.cons_ne_nil _ _).symm
      rw [at?_nil, Option.some.injEq] at top
      subst top
      rw [at?_cons_object] at stands
      obtain ⟨child, found, below⟩ := Option.bind_eq_some_iff.1 stands
      rw [reach?_cons_object, found]
      refine ih below fun r above strict => ?_
      have object := objects (key :: r) (List.cons_prefix_cons.2 ⟨rfl, above⟩)
        fun same => strict (List.cons.inj same).2
      rwa [at?_cons_object, found] at object

theorem ordered_reach? (ordered : v.Ordered) (leads : reach? p v = some w) : w.Ordered :=
  ordered_at? ordered (at?_of_reach? leads)

/-! ## What a tree is known by -/

theorem surface_of_reach? (same : ∀ p, (reach? p u).map Value.shell = (reach? p v).map Value.shell)
    (p : List String) : surface u p = surface v p := by
  have top : u.shell = v.shell := Option.some.inj (same [])
  induction p generalizing u v with
  | nil => rw [surface_nil, surface_nil, top]
  | cons key rest ih =>
    rcases v.leaf_or_object with leaf | ⟨others, rfl⟩
    · rw [Value.eq_of_shell leaf top]
    · rcases u.leaf_or_object with leaf | ⟨fields, rfl⟩
      · rw [Value.isObject_of_shell top] at leaf
        cases leaf
      -- Under each key both have nothing, or parts that are known in the same way.
      · have below (rest : List String) := same (key :: rest)
        simp only [reach?_cons_object] at below
        rw [surface_cons_object, surface_cons_object]
        cases mine : Dict.find? fields key with
        | none =>
          cases theirs : Dict.find? others key with
          | none => rfl
          | some other => simpa [mine, theirs] using below []
        | some child =>
          cases theirs : Dict.find? others key with
          | none => simpa [mine, theirs] using below []
          | some other =>
            have parts (rest : List String) : (reach? rest child).map Value.shell =
                (reach? rest other).map Value.shell := by
              simpa [mine, theirs] using below rest
            exact ih parts (Option.some.inj (parts []))

/-- A tree with fields in order is known by what its keys lead to. -/
theorem eq_of_reach? (ordered : u.Ordered) (ordered' : v.Ordered)
    (same : ∀ p, (reach? p u).map Value.shell = (reach? p v).map Value.shell) : u = v :=
  eq_of_surface u ordered ordered' (funext (surface_of_reach? same))

end Tree

end DocStore
