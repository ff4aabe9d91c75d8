import DocStore.Proofs.Tree.Reach

/-!
# What a merge leaves everywhere

Putting a value in at a path is a merge of the tree with that value, nested in objects along the path.
What keys lead to after a merge depends on how far they lead in the value that is merged in. Where they
lead all the way, it is in place, with the fields that an object had before. Where they stop at an
object, what was there stays; and where they stop at anything else, nothing is left.

Results:
  * `mergeAt_eq_merge`: putting in at a path is a merge;
  * `reach?_merge_of_some`, `reach?_merge_of_none`: what keys lead to after a merge;
  * `merge_merge`: a second merge changes nothing;
  * `mergeInsert_exact`: what putting a value in at a path does to a tree.
-/

namespace DocStore.Tree

variable {t v w new : Value} {key : String} {p q r s : List String}

/-! ## How far keys lead -/

/-- Of the leading parts of a row of keys, `q` is the longest that leads to a value, and that is `w`. -/
structure Deepest (v : Value) (s q : List String) (w : Value) : Prop where
  above : q <+: s
  leads : reach? q v = some w
  last : ∀ r, r <+: s → reach? r v ≠ none → r <+: q

namespace Deepest

/-- A whole row that leads somewhere is its own longest part. -/
theorem whole (leads : reach? s v = some w) : Deepest v s s w where
  above := List.prefix_rfl
  leads := leads
  last := fun _ above _ => above

/-- Keys stop at once at a value without a field under the first one. -/
theorem stop (nothing : v.field? key = none) : Deepest v (key :: s) [] v where
  above := List.nil_prefix
  leads := rfl
  last := by
    intro r above leads
    cases r with
    | nil => exact List.prefix_rfl
    | cons first r =>
      obtain ⟨rfl, -⟩ := List.cons_prefix_cons.1 above
      rw [reach?, nothing] at leads
      exact absurd rfl leads

theorem step {child : Value} (found : v.field? key = some child) (deepest : Deepest child s q w) :
    Deepest v (key :: s) (key :: q) w where
  above := List.cons_prefix_cons.2 ⟨rfl, deepest.above⟩
  leads := by
    rw [reach?, found]
    exact deepest.leads
  last := by
    intro r above leads
    cases r with
    | nil => exact List.nil_prefix
    | cons first r =>
      obtain ⟨rfl, later⟩ := List.cons_prefix_cons.1 above
      rw [reach?, found] at leads
      exact List.cons_prefix_cons.2 ⟨rfl, deepest.last r later leads⟩

theorem exists_deepest (v : Value) (s : List String) : ∃ q w, Deepest v s q w := by
  induction s generalizing v with
  | nil => exact ⟨[], v, whole rfl⟩
  | cons key rest ih =>
    cases found : v.field? key with
    | none => exact ⟨[], v, stop found⟩
    | some child =>
      obtain ⟨q, w, deepest⟩ := ih child
      exact ⟨key :: q, w, step found deepest⟩

theorem unique {q' : List String} {w' : Value} (h : Deepest v s q w) (h' : Deepest v s q' w') :
    q = q' ∧ w = w' := by
  have shorter := h'.last q h.above (by simp [h.leads])
  have longer := h.last q' h'.above (by simp [h'.leads])
  have same : q = q' := shorter.eq_of_length (Nat.le_antisymm shorter.length_le longer.length_le)
  subst same
  exact ⟨rfl, Option.some.inj (h.leads.symm.trans h'.leads)⟩

end Deepest

/-! ## Merges -/

theorem merge_object_of_leaf (leaf : t.isObject = false) (incoming : Dict Value) :
    merge t (.object incoming) = .object incoming := by
  cases t with
  | object existing => cases leaf
  | null | bool | int | float | string | array => simp only [merge]

/-- What the keys lead to in the value that is merged in is in place afterwards, merged into what they
led to before. -/
theorem reach?_merge_of_some (ordered : v.Ordered) (leads : reach? q v = some w) :
    reach? q (merge t v) = some (mergedField (reach? q t) w) := by
  induction q generalizing t v with
  | nil =>
    cases leads
    rfl
  | cons key rest ih =>
    rcases v.leaf_or_object with leaf | ⟨incoming, rfl⟩
    · rw [reach?_cons_of_leaf leaf] at leads
      cases leads
    · rw [reach?_cons_object] at leads
      obtain ⟨child, found, later⟩ := Option.bind_eq_some_iff.1 leads
      rcases t.leaf_or_object with leaf | ⟨existing, rfl⟩
      · rw [merge_object_of_leaf leaf, reach?_cons_of_leaf leaf, reach?_cons_object, found]
        exact later
      · rw [merge, reach?_cons_object, reach?_cons_object, find?_mergeFields ordered.1, found]
        cases old : Dict.find? existing key with
        | none => exact later
        | some old => exact ih (ordered_child ordered found) later

/-- Where the keys lead nowhere in the value that is merged in, what they led to before stays if they
stop at an object, and goes otherwise. -/
theorem reach?_merge_of_none (ordered : v.Ordered) (nothing : reach? q v = none)
    (deepest : Deepest v q r w) :
    reach? q (merge t v) = if w.isObject = true then reach? q t else none := by
  induction q generalizing t v r with
  | nil => cases nothing
  | cons key rest ih =>
    rcases v.leaf_or_object with leaf | ⟨incoming, rfl⟩
    · obtain ⟨-, rfl⟩ := deepest.unique (.stop (Value.field?_of_leaf leaf key))
      rw [merge_of_leaf leaf, leaf, nothing]
      rfl
    cases found : Dict.find? incoming key with
    | none =>
      obtain ⟨-, rfl⟩ := deepest.unique (.stop found)
      rw [if_pos (Value.isObject_object incoming)]
      rcases t.leaf_or_object with leaf | ⟨existing, rfl⟩
      · rw [merge_object_of_leaf leaf, nothing, reach?_cons_of_leaf leaf]
      · rw [merge, reach?_cons_object, find?_mergeFields ordered.1, found]
        rfl
    | some child =>
      rw [reach?_cons_object, found] at nothing
      obtain ⟨below, x, deeper⟩ := Deepest.exists_deepest child rest
      obtain ⟨-, rfl⟩ := deepest.unique (.step found deeper)
      rcases t.leaf_or_object with leaf | ⟨existing, rfl⟩
      · rw [merge_object_of_leaf leaf, reach?_cons_of_leaf leaf, reach?_cons_object, found, ite_self]
        exact nothing
      · rw [merge, reach?_cons_object, reach?_cons_object, find?_mergeFields ordered.1, found]
        cases old : Dict.find? existing key with
        | none =>
          rw [Option.bind_none, ite_self]
          exact nothing
        | some old => exact ih (ordered_child ordered found) nothing deeper

theorem mem_keys_iff_find? {fields : Dict Value} {key : String} :
    key ∈ Dict.keys fields ↔ Dict.find? fields key ≠ none := by
  rw [Ne, Dict.find?_eq_none_iff, not_not]

/-- Merged objects have the keys of both. -/
theorem mem_keys_mergeFields {existing incoming : Dict Value} (ordered : Dict.Ordered incoming)
    (key : String) :
    key ∈ Dict.keys (mergeFields existing incoming) ↔
      key ∈ Dict.keys incoming ∨ key ∈ Dict.keys existing := by
  rw [mem_keys_iff_find?, mem_keys_iff_find?, mem_keys_iff_find?, find?_mergeFields ordered]
  cases Dict.find? incoming key <;> simp

/-- An object that is merged in is an object afterwards, with the keys that an object there had. -/
theorem mergedField_object (old : Option Value) {incoming : Dict Value}
    (ordered : Dict.Ordered incoming) :
    ∃ fields, mergedField old (.object incoming) = .object fields ∧
      ∀ key, key ∈ Dict.keys fields ↔ key ∈ Dict.keys incoming ∨
        ∃ existing, old = some (.object existing) ∧ key ∈ Dict.keys existing := by
  cases old with
  | none => exact ⟨incoming, rfl, fun key => by simp⟩
  | some old =>
    rcases old.leaf_or_object with leaf | ⟨existing, rfl⟩
    · refine ⟨incoming, merge_object_of_leaf leaf incoming, fun key => ?_⟩
      rw [or_iff_left]
      rintro ⟨existing, same, -⟩
      cases same
      cases leaf
    · refine ⟨mergeFields existing incoming, by rw [mergedField, merge], fun key => ?_⟩
      rw [mem_keys_mergeFields ordered]
      simp

theorem mergedField_of_leaf (leaf : w.isObject = false) (old : Option Value) :
    mergedField old w = w := by
  cases old with
  | none => rfl
  | some old => exact merge_of_leaf leaf old

theorem shell_mergedField (old : Option Value) (w : Value) : (mergedField old w).shell = w.shell := by
  rcases w.leaf_or_object with leaf | ⟨incoming, rfl⟩
  · rw [mergedField_of_leaf leaf]
  · cases old with
    | none => rfl
    | some old => cases old <;> rfl

/-- A second merge changes nothing. -/
theorem merge_merge (ordered : t.Ordered) (ordered' : v.Ordered) :
    merge (merge t v) v = merge t v := by
  have once := ordered_merge t ordered v ordered'
  refine eq_of_reach? (ordered_merge _ once v ordered') once fun q => ?_
  cases leads : reach? q v with
  | some w =>
    rw [reach?_merge_of_some ordered' leads, reach?_merge_of_some ordered' leads, Option.map_some,
      Option.map_some, shell_mergedField, shell_mergedField]
  | none =>
    obtain ⟨r, w, deepest⟩ := Deepest.exists_deepest v q
    rw [reach?_merge_of_none ordered' leads deepest, reach?_merge_of_none ordered' leads deepest]
    split <;> rfl

/-- A merge into an empty object gives the other value. -/
theorem merge_empty (ordered : v.Ordered) : merge .empty v = v := by
  refine eq_of_reach? (ordered_merge _ Value.ordered_empty v ordered) ordered fun q => ?_
  cases leads : reach? q v with
  | some w =>
    rw [reach?_merge_of_some ordered leads, Option.map_some, Option.map_some, shell_mergedField]
  | none =>
    obtain ⟨r, w, deepest⟩ := Deepest.exists_deepest v q
    have nowhere : reach? q .empty = none := by
      cases q with
      | nil => cases leads
      | cons key rest => rfl
    rw [reach?_merge_of_none ordered leads deepest, nowhere, ite_self]

/-! ## Putting in at a path -/

/-- A value, nested in objects along keys. -/
def nest : List String → Value → Value
  | [], v => v
  | key :: rest, v => .object [(key, nest rest v)]

theorem nest_append (p q : List String) (v : Value) : nest (p ++ q) v = nest p (nest q v) := by
  induction p with
  | nil => rfl
  | cons key rest ih => rw [List.cons_append, nest, nest, ih]

theorem ordered_nest (ordered : v.Ordered) (p : List String) : (nest p v).Ordered := by
  induction p with
  | nil => exact ordered
  | cons key rest ih => exact ⟨List.pairwise_singleton _ _, ih, trivial⟩

theorem field?_nest (key : String) (rest : List String) (v : Value) :
    (nest (key :: rest) v).field? key = some (nest rest v) := by
  rw [nest, Value.field?, Dict.find?_cons, if_pos rfl]

theorem field?_nest_of_ne {other : String} (ne : other ≠ key) (rest : List String) (v : Value) :
    (nest (key :: rest) v).field? other = none := by
  rw [nest, Value.field?, Dict.find?_cons, if_neg (Ne.symm ne)]
  rfl

theorem reach?_nest (p s : List String) (v : Value) : reach? (p ++ s) (nest p v) = reach? s v := by
  induction p with
  | nil => rfl
  | cons key rest ih =>
    rw [List.cons_append, reach?, field?_nest]
    exact ih

/-- Strictly above its place a nested value has objects around it. -/
theorem object_of_nest (above : q <+: p) (strict : q ≠ p) (v : Value) :
    ∃ fields, reach? q (nest p v) = some (.object fields) := by
  have leads := reach?_nest p [] v
  rw [List.append_nil] at leads
  exact object_above above strict leads

theorem deepest_nest (deepest : Deepest v s q w) (p : List String) :
    Deepest (nest p v) (p ++ s) (p ++ q) w := by
  induction p with
  | nil => exact deepest
  | cons key rest ih => exact .step (field?_nest key rest v) ih

/-- Apart from its place a nested value has nothing, and keys stop at one of the objects around it. -/
theorem nest_of_apart (apart : Apart q p) (v : Value) :
    reach? q (nest p v) = none ∧ ∃ r fields, Deepest (nest p v) q r (.object fields) := by
  induction p generalizing q with
  | nil => exact absurd apart (not_apart_nil_right q)
  | cons key rest ih =>
    cases q with
    | nil => exact absurd apart (not_apart_nil_left _)
    | cons first q =>
      by_cases same : first = key
      · subst same
        have deeper : Apart q rest := (apart_cons_cons.1 apart).resolve_left fun differ => differ rfl
        obtain ⟨nothing, r, fields, deepest⟩ := ih deeper
        refine ⟨?_, first :: r, fields, .step (field?_nest first rest v) deepest⟩
        rw [reach?, field?_nest]
        exact nothing
      · have stops := field?_nest_of_ne same rest v
        refine ⟨?_, [], [(key, nest rest v)], .stop stops⟩
        rw [reach?, stops]
        rfl

theorem mergeFields_single (existing : Dict Value) (key : String) (v : Value) :
    mergeFields existing [(key, v)] =
      Dict.insert existing key (mergedField (Dict.find? existing key) v) := by
  rw [mergeFields_cons, mergeFields]

/-- Putting a value in at a path is a merge with the nested value. -/
theorem mergeAt_eq_merge (ordered : new.Ordered) (p : List String) (t : Value) :
    mergeAt new p t = merge t (nest p new) := by
  induction p generalizing t with
  | nil => rfl
  | cons key rest ih =>
    -- A field that is missing counts as an empty object.
    have fresh : merge .empty (nest rest new) = nest rest new := merge_empty (ordered_nest ordered rest)
    rw [nest]
    cases t with
    | object existing =>
      rw [merge, mergeFields_single, mergeAt, ih]
      cases Dict.find? existing key with
      | none =>
        rw [Option.getD_none, fresh]
        rfl
      | some old => rfl
    | null | bool | int | float | string | array =>
      rw [merge_object_of_leaf rfl]
      simp only [mergeAt, ih, Dict.find?_nil, Option.getD_none, fresh]
      rfl

theorem mergeInsert_eq_merge (ordered : new.Ordered) (root : Value) (path : Path) :
    mergeInsert root path new = merge root (nest path.segments new) :=
  mergeAt_eq_merge ordered path.segments root

/-- What a tree is after a value has been put in at a path, as far as keys lead. -/
structure Merged (t : Value) (path : Path) (v merged : Value) : Prop where
  /-- Strictly above the path there are objects. -/
  above : ∀ q, q <+: path.segments → q ≠ path.segments →
    ∃ fields, reach? q merged = some (.object fields)
  /-- What does not overlap the path is as before. -/
  elsewhere : ∀ q, Apart q path.segments → reach? q merged = reach? q t
  /-- Where the value has something that is no object, that is in place. -/
  leaf : ∀ s w, reach? s v = some w → w.isObject = false →
    reach? (path.segments ++ s) merged = some w
  /-- Where the value has an object, there is one with its keys and those of an object before. -/
  object : ∀ s incoming, reach? s v = some (.object incoming) →
    ∃ fields, reach? (path.segments ++ s) merged = some (.object fields) ∧
      ∀ key, key ∈ Dict.keys fields ↔ key ∈ Dict.keys incoming ∨
        ∃ existing, reach? (path.segments ++ s) t = some (.object existing) ∧
          key ∈ Dict.keys existing
  /-- Where the value has nothing, what was there is kept below an object of the value, and is gone
  below anything else. -/
  nothing : ∀ s, reach? s v = none → ∃ q w, Deepest v s q w ∧
    reach? (path.segments ++ s) merged =
      if w.isObject = true then reach? (path.segments ++ s) t else none
  /-- Putting the value in again changes nothing. -/
  again : mergeInsert merged path v = merged

/-- What putting a value in at a path does to a tree. -/
theorem mergeInsert_exact (ordered : t.Ordered) (ordered' : v.Ordered) (path : Path) :
    Merged t path v (mergeInsert t path v) := by
  have nested := ordered_nest ordered' path.segments
  rw [mergeInsert_eq_merge ordered']
  constructor
  case above =>
    intro q above strict
    obtain ⟨incoming, leads⟩ := object_of_nest above strict v
    obtain ⟨fields, object, -⟩ :=
      mergedField_object (reach? q t) (ordered_reach? nested leads).1
    exact ⟨fields, by rw [reach?_merge_of_some nested leads, object]⟩
  case elsewhere =>
    intro q apart
    obtain ⟨nowhere, r, fields, deepest⟩ := nest_of_apart apart v
    rw [reach?_merge_of_none nested nowhere deepest, if_pos (Value.isObject_object fields)]
  case leaf =>
    intro s w leads isLeaf
    rw [← reach?_nest path.segments s v] at leads
    rw [reach?_merge_of_some nested leads, mergedField_of_leaf isLeaf]
  case object =>
    intro s incoming leads
    have inside := (ordered_reach? ordered' leads).1
    rw [← reach?_nest path.segments s v] at leads
    obtain ⟨fields, object, keys⟩ :=
      mergedField_object (reach? (path.segments ++ s) t) inside
    exact ⟨fields, by rw [reach?_merge_of_some nested leads, object], keys⟩
  case nothing =>
    intro s nowhere
    obtain ⟨q, w, deepest⟩ := Deepest.exists_deepest v s
    rw [← reach?_nest path.segments s v] at nowhere
    exact ⟨q, w, deepest, reach?_merge_of_none nested nowhere (deepest_nest deepest path.segments)⟩
  case again =>
    rw [mergeInsert_eq_merge ordered']
    exact merge_merge ordered nested

/-- A tree with objects on several levels. -/
def plot : Value := .object
  [("a", .object [("x", .object [("k", .int 1)]), ("y", .object [("k", .int 1), ("m", .int 2)]),
    ("z", .int 3)]), ("b", .string "s")]

/-- A value that has an object where that tree has a number, and the other way round. -/
def graft : Value := .object
  [("w", .empty), ("x", .bool true), ("y", .object [("j", .int 2), ("m", .null)]), ("z", .empty)]

theorem mergeInsert_exact_plot :
    plot.Ordered ∧ graft.Ordered ∧ Merged plot ⟨["a"], by decide⟩ graft (.object
      [("a", .object [("w", .empty), ("x", .bool true),
        ("y", .object [("j", .int 2), ("k", .int 1), ("m", .null)]), ("z", .empty)]),
      ("b", .string "s")]) := by
  have ordered : plot.Ordered := by
    simp only [plot, Value.Ordered, Value.OrderedFields, Dict.Ordered]
    decide
  have ordered' : graft.Ordered := by
    simp only [graft, Value.empty, Value.Ordered, Value.OrderedFields, Dict.Ordered]
    decide
  exact ⟨ordered, ordered', mergeInsert_exact ordered ordered' ⟨["a"], by decide⟩⟩

end DocStore.Tree
