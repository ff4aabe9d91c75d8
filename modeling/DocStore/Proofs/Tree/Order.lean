import DocStore.Proofs.Tree.Directory
import DocStore.Proofs.Tree.Merge

/-!
# The order of fields is kept

A tree in which the fields of every object ascend stays such a tree whatever is patched or made in
it. In such a tree it makes no difference to put a field back where it stands, so making objects
along a path that has them already changes nothing at all.

An addition below objects that stand already is the same as one that first makes them. Where objects
are made along a path, they can also be made above its last place first, and an empty object be added
there.

Results:
  * `ordered_apply`, `ordered_makeDir`: patches and directories keep the order;
  * `makeDir_of_not_made`: where nothing is made, the tree is the same as before;
  * `makeDir_above_of_apply`: a patch needs objects above its place;
  * `apply_add_of_makeDir`: objects along a path, made in two steps.
-/

namespace DocStore

namespace Dict

variable {α : Type u} {d : Dict α}

/-- Of two insertions under one key only the later one counts. -/
theorem insert_insert (d : Dict α) (key : String) (first second : α) :
    (d.insert key first).insert key second = d.insert key second := by
  induction d with
  | nil => simp [Dict.insert]
  | cons head rest ih =>
    obtain ⟨k, v⟩ := head
    by_cases same : k = key
    · simp [Dict.insert, same]
    · by_cases below : key < k
      · simp [Dict.insert, same, below]
      · simp [Dict.insert, same, below, ih]

/-- Putting back what stands under a key changes nothing. -/
theorem Ordered.insert_of_find? (ordered : Ordered d) {key : String} {value : α}
    (found : d.find? key = some value) : d.insert key value = d := by
  induction d with
  | nil => cases found
  | cons head rest ih =>
    obtain ⟨k, v⟩ := head
    rw [find?_cons] at found
    by_cases same : k = key
    · rw [if_pos same] at found
      cases found
      simp [Dict.insert, same]
    · rw [if_neg same] at found
      have above : k < key := by
        have present := mem_of_find? found
        exact (List.pairwise_cons.1 ordered).1 _ present
      have notBelow : ¬ key < k := fun below => String.lt_irrefl _ (String.lt_trans above below)
      simp only [Dict.insert, if_neg same, if_neg notBelow, ih ordered.tail found]

end Dict

namespace Value

theorem orderedFields_iff {fields : List (String × Value)} :
    OrderedFields fields ↔ ∀ entry ∈ fields, entry.2.Ordered := by
  induction fields with
  | nil => simp [OrderedFields]
  | cons head rest ih =>
    obtain ⟨k, v⟩ := head
    simp [OrderedFields, ih]

theorem orderedItems_iff {items : List Value} :
    OrderedItems items ↔ ∀ item ∈ items, item.Ordered := by
  induction items with
  | nil => simp [OrderedItems]
  | cons head rest ih => simp [OrderedItems, ih]

@[simp] theorem ordered_null : Value.null.Ordered := trivial

@[simp] theorem ordered_empty : Value.empty.Ordered := ⟨.nil, trivial⟩

theorem Ordered.insert {fields : Dict Value} (ordered : (Value.object fields).Ordered)
    {key : String} {v : Value} (new : v.Ordered) : (Value.object (Dict.insert fields key v)).Ordered := by
  obtain ⟨ascending, inside⟩ := ordered
  refine ⟨Dict.Ordered.insert ascending key v, orderedFields_iff.2 fun entry present => ?_⟩
  rcases Dict.mem_insert present with rfl | before
  · exact new
  · exact orderedFields_iff.1 inside entry before

theorem Ordered.erase {fields : Dict Value} (ordered : (Value.object fields).Ordered)
    (key : String) : (Value.object (Dict.erase fields key)).Ordered := by
  obtain ⟨ascending, inside⟩ := ordered
  refine ⟨Dict.Ordered.erase ascending key, orderedFields_iff.2 fun entry present => ?_⟩
  exact orderedFields_iff.1 inside entry (List.mem_filter.1 present).1

end Value

namespace Tree

/-! ## Patches -/

theorem ordered_patchBelow {op : PatchOp} {new v changed : Value} {depth : Nat} {key : String}
    {rest : List String} (ok : patchBelow op new depth key rest v = .ok changed)
    (ordered : v.Ordered) (newOrdered : new.Ordered) : changed.Ordered := by
  induction rest generalizing depth key v changed with
  | nil =>
    obtain ⟨fields, rfl, rfl⟩ := patchBelow_last ok
    split
    · exact ordered.erase key
    · exact ordered.insert newOrdered
  | cons next rest ih =>
    obtain ⟨fields, child, below, rfl, found, okBelow, rfl⟩ := patchBelow_next ok
    exact ordered.insert (ih okBelow (ordered_child ordered found))

theorem ordered_apply {op : PatchOp} {new v changed : Value} {path : Path}
    (ok : apply v op path new = .ok changed) (ordered : v.Ordered) (newOrdered : new.Ordered) :
    changed.Ordered := by
  cases segments : path.segments with
  | nil =>
    obtain ⟨-, -, rfl⟩ := apply_root segments ok
    exact newOrdered
  | cons key rest => exact ordered_patchBelow (apply_below segments ok) ordered newOrdered

/-! ## Objects along a path -/

theorem ordered_chain (segments : List String) : (chain segments).Ordered := by
  induction segments with
  | nil => exact Value.ordered_empty
  | cons segment rest ih => exact ⟨List.pairwise_singleton _ _, ih, trivial⟩

theorem ordered_makeBelow {depth : Nat} {segments : List String} {v changed : Value} {made : Bool}
    (ok : makeBelow depth segments v = .ok (changed, made)) (ordered : v.Ordered) :
    changed.Ordered := by
  induction segments generalizing depth v changed with
  | nil =>
    obtain ⟨-, rfl, -⟩ := makeBelow_nil ok
    exact ordered
  | cons segment rest ih =>
    obtain ⟨fields, rfl, ⟨-, -, rfl⟩ | ⟨child, below, found, okBelow, rfl⟩⟩ := makeBelow_cons ok
    · exact ordered.insert (ordered_chain rest)
    · exact ordered.insert (ih okBelow (ordered_child ordered found))

theorem makeBelow_of_not_made {depth : Nat} {segments : List String} {v changed : Value}
    (ok : makeBelow depth segments v = .ok (changed, false)) (ordered : v.Ordered) :
    changed = v := by
  induction segments generalizing depth v changed with
  | nil => exact (makeBelow_nil ok).2.1
  | cons segment rest ih =>
    obtain ⟨fields, rfl, ⟨-, never, -⟩ | ⟨child, below, found, okBelow, rfl⟩⟩ := makeBelow_cons ok
    · cases never
    · rw [ih okBelow (ordered_child ordered found), ordered.1.insert_of_find? found]

theorem ordered_makeDir {v changed : Value} {path : Path} {made : Bool}
    (ok : makeDir v path = .ok (changed, made)) (ordered : v.Ordered) : changed.Ordered :=
  ordered_makeBelow (makeDir_below ok) ordered

/-- Where objects stand along the whole path already, the tree stays the same. -/
theorem makeDir_of_not_made {v changed : Value} {path : Path}
    (ok : makeDir v path = .ok (changed, false)) (ordered : v.Ordered) : changed = v :=
  makeBelow_of_not_made (makeDir_below ok) ordered

theorem makeDir_of_below {v changed : Value} {path : Path} {made : Bool}
    (ok : makeBelow 0 path.segments v = .ok (changed, made)) :
    makeDir v path = .ok (changed, made) := by
  unfold makeDir
  rw [ok]
  rfl

theorem apply_of_below {op : PatchOp} {new v changed : Value} {path : Path} {key : String}
    {rest : List String} (segments : path.segments = key :: rest)
    (ok : patchBelow op new 0 key rest v = .ok changed) : apply v op path new = .ok changed := by
  unfold apply
  rw [segments]
  simp only [ok]
  rfl

/-! ## Above the last place of a path -/

/-- The last segment of a path stands below its parent. -/
theorem segments_of_parent? {path parent : Path} (above : path.parent? = some parent) :
    ∃ last, path.segments = parent.segments ++ [last] := by
  unfold Path.parent? at above
  split at above
  · cases above
  · next below =>
    cases above
    have some : path.segments ≠ [] := by
      intro none
      exact below (by simp [Path.isRoot, none])
    refine ⟨path.segments.getLast some, ?_⟩
    show path.segments = path.segments.take (path.segments.length - 1) ++ _
    rw [← List.dropLast_eq_take, List.dropLast_concat_getLast]

/-- A patch goes through objects only, so making those above its place changes nothing. -/
theorem makeBelow_above_of_patch {op : PatchOp} {new v changed : Value} {depth : Nat}
    {segments : List String} {key last : String} {rest : List String}
    (split : segments ++ [last] = key :: rest)
    (ok : patchBelow op new depth key rest v = .ok changed) (ordered : v.Ordered) :
    makeBelow depth segments v = .ok (v, false) := by
  induction segments generalizing depth key rest v changed with
  | nil =>
    cases split
    obtain ⟨fields, rfl, -⟩ := patchBelow_last ok
    rfl
  | cons segment more ih =>
    obtain ⟨rfl, deeper⟩ := List.cons.inj split
    cases rest with
    | nil => simp at deeper
    | cons next rest =>
      obtain ⟨fields, child, below, rfl, found, okBelow, -⟩ := patchBelow_next ok
      have stands := ih deeper okBelow (ordered_child ordered found)
      simp only [makeBelow, found, stands]
      show Except.ok (Value.object (Dict.insert fields segment child), false) = _
      rw [ordered.1.insert_of_find? found]

theorem makeDir_above_of_apply {op : PatchOp} {new v changed : Value} {path parent : Path}
    (above : path.parent? = some parent) (ok : apply v op path new = .ok changed)
    (ordered : v.Ordered) : makeDir v parent = .ok (v, false) := by
  obtain ⟨last, split⟩ := segments_of_parent? above
  cases segments : path.segments with
  | nil =>
    rw [segments] at split
    simp at split
  | cons key rest =>
    have at_last : parent.segments ++ [last] = key :: rest := split.symm.trans segments
    exact makeDir_of_below (makeBelow_above_of_patch at_last (apply_below segments ok) ordered)

/-- An empty object at the end of a chain of objects makes it longer. -/
theorem patchBelow_chain {depth : Nat} {segments : List String} {key last : String}
    {rest : List String} (split : segments ++ [last] = key :: rest) :
    patchBelow .add .empty depth key rest (chain segments) = .ok (chain (segments ++ [last])) := by
  induction segments generalizing depth key rest with
  | nil =>
    cases split
    rfl
  | cons segment more ih =>
    obtain ⟨rfl, deeper⟩ := List.cons.inj split
    cases rest with
    | nil => simp at deeper
    | cons next rest =>
      have longer : patchBelow .add .empty (depth + 1) next rest (chain more) =
          .ok (chain (more ++ [last])) := ih deeper
      simp only [chain, patchBelow, Dict.find?_cons, if_pos, longer, List.cons_append]
      show Except.ok (Value.object (Dict.insert [(segment, chain more)] segment _)) = _
      simp [Dict.insert]

/-- Objects along a path, made above its last place first. -/
theorem patchBelow_of_makeBelow {depth : Nat} {segments : List String} {key last : String}
    {rest : List String} {v changed : Value} (split : segments ++ [last] = key :: rest)
    (ok : makeBelow depth (segments ++ [last]) v = .ok (changed, true)) :
    ∃ above made, makeBelow depth segments v = .ok (above, made) ∧
      patchBelow .add .empty depth key rest above = .ok changed := by
  induction segments generalizing depth key rest v changed with
  | nil =>
    cases split
    obtain ⟨fields, rfl, ⟨-, -, rfl⟩ | ⟨child, below, -, okBelow, -⟩⟩ := makeBelow_cons ok
    · exact ⟨.object fields, false, rfl, rfl⟩
    · cases (makeBelow_nil okBelow).1
  | cons segment more ih =>
    obtain ⟨rfl, deeper⟩ := List.cons.inj split
    cases rest with
    | nil => simp at deeper
    | cons next rest =>
      obtain ⟨fields, rfl, ⟨missing, -, rfl⟩ | ⟨child, below, found, okBelow, rfl⟩⟩ :=
        makeBelow_cons ok
      · refine ⟨.object (Dict.insert fields segment (chain more)), true, ?_, ?_⟩
        · simp only [makeBelow, missing]
        · have longer : patchBelow .add .empty (depth + 1) next rest (chain more) =
              .ok (chain (more ++ [last])) := patchBelow_chain deeper
          simp only [patchBelow, Dict.find?_insert_self, longer]
          show Except.ok (Value.object (Dict.insert (Dict.insert fields segment _) segment _)) = _
          rw [Dict.insert_insert]
          rfl
      · obtain ⟨above, made, okAbove, patched⟩ := ih deeper okBelow
        refine ⟨.object (Dict.insert fields segment above), made, ?_, ?_⟩
        · simp only [makeBelow, found, okAbove]
          rfl
        · simp only [patchBelow, Dict.find?_insert_self, patched]
          show Except.ok (Value.object (Dict.insert (Dict.insert fields segment _) segment _)) = _
          rw [Dict.insert_insert]

/-- When objects are made along a path, making them above its last place and adding an empty object
there comes to the same. -/
theorem apply_add_of_makeDir {v changed : Value} {path : Path}
    (ok : makeDir v path = .ok (changed, true)) :
    ∃ parent above made, path.parent? = some parent ∧ makeDir v parent = .ok (above, made) ∧
      apply above .add path .empty = .ok changed := by
  have below := makeDir_below ok
  cases segments : path.segments with
  | nil =>
    rw [segments] at below
    cases (makeBelow_nil below).1
  | cons key rest =>
    obtain ⟨parent, isParent⟩ : ∃ parent, path.parent? = some parent := by
      simp [Path.parent?, Path.isRoot, segments]
    obtain ⟨last, split⟩ := segments_of_parent? isParent
    rw [split] at below
    obtain ⟨above, made, okAbove, patched⟩ :=
      patchBelow_of_makeBelow (split.symm.trans segments) below
    exact ⟨parent, above, made, isParent, makeDir_of_below okAbove, apply_of_below segments patched⟩

/-! ## Removals -/

/-- A removal does not look at the value that comes with it. -/
theorem apply_remove_congr (v : Value) (path : Path) (new other : Value) :
    apply v .remove path new = apply v .remove path other := by
  have below : ∀ depth key rest (v : Value),
      patchBelow .remove new depth key rest v = patchBelow .remove other depth key rest v := by
    intro depth key rest
    induction rest generalizing depth key with
    | nil =>
      intro v
      cases v <;> rfl
    | cons next rest ih =>
      intro v
      cases v with
      | object fields => simp only [patchBelow, ih]
      | null | bool | int | float | string | array => rfl
  unfold apply
  cases path.segments with
  | nil => rfl
  | cons key rest => simp only [below]

/-! ## Places -/

/-- What stands somewhere in a tree with fields in order has its fields in order. -/
theorem ordered_at? {segments : List String} {v found : Value} (ordered : v.Ordered)
    (stands : at? segments v = some found) : found.Ordered := by
  induction segments generalizing v with
  | nil =>
    simp only [at?_nil, Option.some.injEq] at stands
    rw [← stands]
    exact ordered
  | cons segment rest ih =>
    cases v with
    | object fields =>
      rw [at?_cons_object] at stands
      obtain ⟨child, isField, below⟩ := Option.bind_eq_some_iff.1 stands
      exact ih (ordered_child ordered isField) below
    | array items =>
      simp only [at?] at stands
      split at stands
      · next child isItem =>
        obtain ⟨place, -, isItem⟩ := Option.bind_eq_some_iff.1 isItem
        have inside := List.mem_of_getElem? isItem
        exact ih (Value.orderedItems_iff.1 ordered child inside) stands
      · cases stands
    | null | bool | int | float | string => cases stands

/-! ## Merges -/

theorem ordered_mergeFields {existing incoming : Dict Value}
    (each : ∀ key v, (key, v) ∈ incoming → ∀ old : Value, old.Ordered → (merge old v).Ordered)
    (ordered : (Value.object existing).Ordered) (new : Value.OrderedFields incoming) :
    (Value.object (mergeFields existing incoming)).Ordered := by
  induction incoming generalizing existing with
  | nil => exact ordered
  | cons head rest ih =>
    obtain ⟨key, v⟩ := head
    rw [mergeFields_cons]
    refine ih (fun key v later => each key v (List.mem_cons_of_mem _ later)) ?_ new.2
    refine ordered.insert ?_
    unfold mergedField
    cases found : Dict.find? existing key with
    | none => exact new.1
    | some old => exact each key v List.mem_cons_self old (ordered_child ordered found)

theorem ordered_merge (target : Value) (ordered : target.Ordered) :
    (v : Value) → v.Ordered → (merge target v).Ordered
  | .object incoming, new => by
    cases target with
    | object existing =>
      rw [merge]
      refine ordered_mergeFields (fun key v inside old oldOrdered => ?_) ordered new.2
      exact ordered_merge old oldOrdered v (Value.orderedFields_iff.1 new.2 (key, v) inside)
    | null | bool | int | float | string | array => simpa only [merge] using new
  | .null, new | .bool _, new | .int _, new | .float _, new | .string _, new | .array _, new => by
    simpa only [merge] using new
termination_by v => sizeOf v
decreasing_by
  have smaller := List.sizeOf_lt_of_mem inside
  simp only [Prod.mk.sizeOf_spec, Value.object.sizeOf_spec] at smaller ⊢
  omega

theorem ordered_mergeAt {new : Value} (newOrdered : new.Ordered) (segments : List String)
    {target : Value} (ordered : target.Ordered) : (mergeAt new segments target).Ordered := by
  induction segments generalizing target with
  | nil => exact ordered_merge target ordered new newOrdered
  | cons segment rest ih =>
    have into : ∀ fields, (Value.object fields).Ordered →
        (Value.object (Dict.insert fields segment
          (mergeAt new rest ((Dict.find? fields segment).getD .empty)))).Ordered := by
      intro fields inside
      refine inside.insert (ih ?_)
      cases found : Dict.find? fields segment with
      | none => exact Value.ordered_empty
      | some child => exact ordered_child inside found
    -- Whatever is no object on the way counts as an empty one.
    cases target with
    | object fields => exact into fields ordered
    | null | bool | int | float | string | array => exact into [] Value.ordered_empty

theorem ordered_mergeInsert {root new : Value} (ordered : root.Ordered) (newOrdered : new.Ordered)
    (path : Path) : (mergeInsert root path new).Ordered :=
  ordered_mergeAt newOrdered path.segments ordered

end Tree

end DocStore
