import DocStore.Proofs.Tree.Order

/-!
# The surface of a tree

The surface of a tree says for every place what stands there, but not what an object there holds: that
is said at the places below. So the surface changes only where something comes or goes, and two trees
with fields in order are the same when they have the same surface.

When two trees say the same wherever both say something, their merge says all that either of them says.

Results:
  * `eq_of_surface`: a tree with fields in order is known by its surface;
  * `surface_merge`: the surface of the merge of two trees that agree;
  * `exists_makeBelow`, `exists_patchBelow`: where objects can be made, and where a patch can be applied.
-/

namespace DocStore

namespace Value

/-- A value without what it holds, if it is an object. -/
def shell : Value → Value
  | .object _ => .empty
  | v => v

theorem shell_of_object {v : Value} (object : v.isObject = true) : v.shell = .empty := by
  cases v with
  | object fields => rfl
  | null | bool | int | float | string | array => cases object

theorem shell_of_leaf {v : Value} (leaf : v.isObject = false) : v.shell = v := by
  cases v with
  | object fields => cases leaf
  | null | bool | int | float | string | array => rfl

theorem eq_of_shell {u v : Value} (leaf : v.isObject = false) (same : u.shell = v.shell) : u = v := by
  rw [shell_of_leaf leaf] at same
  cases object : u.isObject with
  | true =>
    rw [← same, shell_of_object object] at leaf
    cases leaf
  | false => rw [← same, shell_of_leaf object]

theorem isObject_of_shell {v : Value} (empty : v.shell = .empty) : v.isObject = true := by
  cases v with
  | object fields => rfl
  | null | bool | int | float | string | array => cases empty

end Value

namespace Tree

/-- What stands at each place, without what an object there holds. -/
abbrev Surface := List String → Option Value

/-- The surface of a tree. -/
def surface (v : Value) : Surface := fun p => (at? p v).map Value.shell

/-- Nothing but an object stands at a place. -/
def Passable (look : Surface) (p : List String) : Prop := ∀ w, look p = some w → w = .empty

@[simp] theorem surface_nil (v : Value) : surface v [] = some v.shell := by
  simp [surface]

theorem surface_cons_object (fields : Dict Value) (key : String) (rest : List String) :
    surface (.object fields) (key :: rest) =
      (Dict.find? fields key).bind fun child => surface child rest := by
  unfold surface
  rw [at?_cons_object, Option.map_bind]
  rfl

theorem surface_eq_none_iff {v : Value} {p : List String} : surface v p = none ↔ at? p v = none :=
  Option.map_eq_none_iff

theorem surface_congr {u v : Value} {p : List String} (same : at? p u = at? p v) :
    surface u p = surface v p := by
  unfold surface
  rw [same]

theorem passable_iff {v : Value} {p : List String} :
    Passable (surface v) p ↔ ∀ w, at? p v = some w → w.isObject = true := by
  unfold Passable surface
  constructor
  · intro passable w stands
    exact Value.isObject_of_shell (passable w.shell (by rw [stands]; rfl))
  · intro objects w shown
    obtain ⟨v, stands, rfl⟩ := Option.map_eq_some_iff.1 shown
    exact Value.shell_of_object (objects v stands)

theorem surface_eq_empty_iff {v : Value} {p : List String} :
    surface v p = some .empty ↔ ∃ fields, at? p v = some (.object fields) := by
  unfold surface
  rw [Option.map_eq_some_iff]
  constructor
  · rintro ⟨w, stands, empty⟩
    cases w with
    | object fields => exact ⟨fields, stands⟩
    | null | bool | int | float | string | array => cases empty
  · rintro ⟨fields, stands⟩
    exact ⟨_, stands, rfl⟩

/-! ## Trees with fields in order -/

/-- A tree with fields in order is known by its surface. -/
theorem eq_of_surface : (u : Value) → {v : Value} → u.Ordered → v.Ordered →
    surface u = surface v → u = v
  | .object fields, v, ordered, ordered', same => by
    have top := congrFun same []
    rw [surface_nil, surface_nil, Option.some.injEq] at top
    cases v with
    | object others =>
      congr 1
      refine ordered.1.ext ordered'.1 fun key => ?_
      have below (rest : List String) := congrFun same (key :: rest)
      simp only [surface_cons_object] at below
      cases mine : Dict.find? fields key with
      | none =>
        cases theirs : Dict.find? others key with
        | none => rfl
        | some child => simpa [mine, theirs] using below []
      | some child =>
        cases theirs : Dict.find? others key with
        | none => simpa [mine, theirs] using below []
        | some other =>
          have inside := Dict.mem_of_find? mine
          congr 1
          refine eq_of_surface child (ordered_child ordered mine) (ordered_child ordered' theirs) ?_
          funext rest
          simpa [mine, theirs] using below rest
    | null | bool | int | float | string | array => cases top
  | .null, v, _, _, same | .bool _, v, _, _, same | .int _, v, _, _, same
  | .float _, v, _, _, same | .string _, v, _, _, same | .array _, v, _, _, same => by
    have top := congrFun same []
    rw [surface_nil, surface_nil, Option.some.injEq] at top
    cases v with
    | object others => cases top
    | null | bool | int | float | string | array => exact top
termination_by u => sizeOf u
decreasing_by
  have smaller := List.sizeOf_lt_of_mem inside
  simp only [Prod.mk.sizeOf_spec, Value.object.sizeOf_spec] at smaller ⊢
  omega

/-! ## Merges -/

/-- Wherever both trees have something, it looks the same. -/
def Agree (u v : Value) : Prop :=
  ∀ p a b, surface u p = some a → surface v p = some b → a = b

/-- Parts under one key agree when the objects do. -/
theorem Agree.child {fields others : Dict Value} {key : String} {u v : Value}
    (agree : Agree (.object fields) (.object others)) (mine : Dict.find? fields key = some u)
    (theirs : Dict.find? others key = some v) : Agree u v := by
  intro p a b shown shown'
  refine agree (key :: p) a b ?_ ?_
  · rw [surface_cons_object, mine]
    exact shown
  · rw [surface_cons_object, theirs]
    exact shown'

/-- A leaf takes the place of what was there. -/
theorem merge_of_leaf {v : Value} (leaf : v.isObject = false) (t : Value) : merge t v = v := by
  cases v with
  | object fields => cases leaf
  | null | bool | int | float | string | array => simp only [merge]

/-- The merge of two trees that agree says all that either of them says. -/
theorem surface_merge {t v : Value} (agree : Agree t v) (ordered : v.Ordered) (p : List String) :
    surface (merge t v) p = (surface v p).or (surface t p) := by
  have top : t.shell = v.shell := agree [] _ _ (surface_nil t) (surface_nil v)
  induction p generalizing t v with
  | nil =>
    rw [surface_nil, surface_nil, Option.some_or]
    cases v with
    | object incoming => cases t <;> rfl
    | null | bool | int | float | string | array => rw [merge_of_leaf rfl]
  | cons key rest ih =>
    cases v with
    | object incoming =>
      cases t with
      | object existing =>
        rw [merge, surface_cons_object, surface_cons_object, surface_cons_object,
          find?_mergeFields ordered.1]
        cases new : Dict.find? incoming key with
        | none => rfl
        | some w =>
          cases old : Dict.find? existing key with
          | none => exact (Option.or_none).symm
          | some u =>
            have below := agree.child old new
            exact ih below (ordered_child ordered new) (below [] _ _ (surface_nil u) (surface_nil w))
      | null | bool | int | float | string | array => cases top
    | null | bool | int | float | string | array =>
      rw [merge_of_leaf rfl, Value.eq_of_shell rfl top, Option.or_self]

/-- The merge of two trees that agree says nothing but what one of them says. -/
theorem surface_merge_eq_some_iff {t v : Value} (agree : Agree t v) (ordered : v.Ordered)
    {p : List String} {x : Value} :
    surface (merge t v) p = some x ↔ surface t p = some x ∨ surface v p = some x := by
  rw [surface_merge agree ordered, Option.or_eq_some_iff]
  constructor
  · rintro (new | ⟨-, old⟩)
    · exact .inr new
    · exact .inl old
  · rintro (old | new)
    · cases shown : surface v p with
      | none => exact .inr ⟨rfl, old⟩
      | some y => exact .inl (by rw [agree p x y old shown])
    · exact .inl new

/-! ## Where changes can be made -/

/-- Objects can be made along a path when nothing else stands on it. -/
theorem exists_makeBelow {depth : Nat} {segments : List String} {v : Value}
    (passable : ∀ p, p <+: segments → Passable (surface v) p) :
    ∃ changed made, makeBelow depth segments v = .ok (changed, made) := by
  induction segments generalizing depth v with
  | nil =>
    have object := passable_iff.1 (passable [] List.prefix_rfl) v (at?_nil v)
    cases v with
    | object fields => exact ⟨_, _, rfl⟩
    | null | bool | int | float | string | array => cases object
  | cons segment rest ih =>
    have object := passable_iff.1 (passable [] List.nil_prefix) v (at?_nil v)
    cases v with
    | object fields =>
      simp only [makeBelow]
      cases found : Dict.find? fields segment with
      | none => exact ⟨_, _, rfl⟩
      | some child =>
        have below : ∀ p, p <+: rest → Passable (surface child) p := by
          intro p above w shown
          refine passable (segment :: p) (List.cons_prefix_cons.2 ⟨rfl, above⟩) w ?_
          rw [surface_cons_object, found]
          exact shown
        obtain ⟨changed, made, done⟩ :
            ∃ changed made, makeBelow (depth + 1) rest child = .ok (changed, made) := ih below
        simp only [done]
        exact ⟨_, _, rfl⟩
    | null | bool | int | float | string | array => cases object

/-- A patch can be applied where objects lead to its place; a replacement or a removal needs something
there. -/
theorem exists_patchBelow {op : PatchOp} {new : Value} {depth : Nat} {key : String}
    {rest : List String} {v : Value}
    (objects : ∀ p, p <+: key :: rest → p ≠ key :: rest → surface v p = some .empty)
    (stands : op = .add ∨ surface v (key :: rest) ≠ none) :
    ∃ changed, patchBelow op new depth key rest v = .ok changed := by
  induction rest generalizing depth key v with
  | nil =>
    obtain ⟨fields, top⟩ := surface_eq_empty_iff.1 (objects [] List.nil_prefix (List.cons_ne_nil _ _).symm)
    rw [at?_nil, Option.some.injEq] at top
    subst top
    cases op with
    | add => exact ⟨_, rfl⟩
    | replace | remove =>
      have present : Dict.contains fields key = true := by
        have something := stands.resolve_left fun never => by cases never
        rw [surface_cons_object] at something
        unfold Dict.contains
        cases found : Dict.find? fields key with
        | none => simp [found] at something
        | some child => rfl
      simp only [patchBelow, if_pos present]
      exact ⟨_, rfl⟩
  | cons next rest ih =>
    obtain ⟨fields, top⟩ := surface_eq_empty_iff.1 (objects [] List.nil_prefix (List.cons_ne_nil _ _).symm)
    rw [at?_nil, Option.some.injEq] at top
    subst top
    have first := objects [key] (List.cons_prefix_cons.2 ⟨rfl, List.nil_prefix⟩) (by simp)
    rw [surface_cons_object] at first
    simp only [patchBelow]
    cases found : Dict.find? fields key with
    | none => simp [found] at first
    | some child =>
      have shift (p : List String) : surface (.object fields) (key :: p) = surface child p := by
        rw [surface_cons_object, found]
        rfl
      obtain ⟨changed, done⟩ :
          ∃ changed, patchBelow op new (depth + 1) next rest child = .ok changed := by
        refine ih (fun p above strict => ?_) (stands.imp_right fun something => ?_)
        · rw [← shift]
          exact objects (key :: p) (List.cons_prefix_cons.2 ⟨rfl, above⟩)
            fun same => strict (List.cons.inj same).2
        · rwa [← shift]
      simp only [done]
      exact ⟨_, rfl⟩

end Tree

end DocStore
