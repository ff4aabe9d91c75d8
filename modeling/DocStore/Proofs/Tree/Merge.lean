import DocStore.Proofs.Dict
import DocStore.Proofs.Tree.Patch

/-!
# What a merge leaves at a place

Two trees that both have only objects on the way down to a place do not disturb each other above it.
When only one of them has something there, that is what their merge has there.

Results:
  * `find?_mergeFields`: the fields of two merged objects;
  * `at?_merge_of_left`, `at?_merge_of_right`: a place where only one tree has something.
-/

namespace DocStore.Tree

/-- On the way down a path there are objects, as far as there is anything. What stands at the end of
the path does not count. -/
def ObjectsAlong : List String → Value → Prop
  | [], _ => True
  | key :: rest, .object fields =>
    ∀ child, Dict.find? fields key = some child → ObjectsAlong rest child
  | _ :: _, _ => False

theorem objectsAlong_of {p : List String} {v : Value}
    (objects : ∀ q w, q <+: p → q ≠ p → at? q v = some w → ∃ fields, w = .object fields) :
    ObjectsAlong p v := by
  induction p generalizing v with
  | nil => trivial
  | cons key rest ih =>
    obtain ⟨fields, rfl⟩ := objects [] v List.nil_prefix (List.cons_ne_nil _ _).symm (at?_nil v)
    intro child found
    refine ih fun q w above strict stands => ?_
    refine objects (key :: q) w (List.cons_prefix_cons.2 ⟨rfl, above⟩) ?_ ?_
    · intro same
      exact strict (List.cons.inj same).2
    · rw [at?_cons_object, found]
      exact stands

theorem ordered_child {fields : Dict Value} {key : String} {child : Value}
    (ordered : (Value.object fields).Ordered) (found : Dict.find? fields key = some child) :
    child.Ordered := by
  have inside : Value.OrderedFields fields := ordered.2
  clear ordered
  induction fields with
  | nil => cases found
  | cons head rest ih =>
    obtain ⟨k, v⟩ := head
    rw [Dict.find?_cons] at found
    split at found
    · cases found
      exact inside.1
    · exact ih found inside.2

/-! ## Fields -/

/-- A field that is merged into what stood there. -/
def mergedField (old : Option Value) (v : Value) : Value :=
  match old with
  | some old => merge old v
  | none => v

theorem mergeFields_cons (existing : Dict Value) (key : String) (v : Value)
    (rest : List (String × Value)) :
    mergeFields existing ((key, v) :: rest) =
      mergeFields (Dict.insert existing key (mergedField (Dict.find? existing key) v)) rest := by
  rw [mergeFields]
  rfl

/-- A merge keeps the fields that only the one object has, adds those that only the other has, and
merges those that both have. -/
theorem find?_mergeFields {existing incoming : Dict Value} (ordered : Dict.Ordered incoming)
    (key : String) :
    Dict.find? (mergeFields existing incoming) key =
      match Dict.find? incoming key with
      | some v => some (mergedField (Dict.find? existing key) v)
      | none => Dict.find? existing key := by
  induction incoming generalizing existing with
  | nil => rfl
  | cons head rest ih =>
    obtain ⟨k, v⟩ := head
    rw [mergeFields_cons, ih ordered.tail, Dict.find?_cons]
    by_cases same : k = key
    · subst same
      have once : Dict.find? rest k = none := Dict.find?_eq_none_iff.2 ordered.head_not_mem
      rw [once, if_pos rfl, Dict.find?_insert_self]
    · rw [if_neg same, Dict.find?_insert_ne _ _ (Ne.symm same)]

/-! ## Places -/

variable {p : List String} {t v : Value}

/-- Two trees with objects along a path have a merge with objects along it. -/
theorem objectsAlong_merge (along : ObjectsAlong p t) (along' : ObjectsAlong p v)
    (ordered : v.Ordered) : ObjectsAlong p (merge t v) := by
  induction p generalizing t v with
  | nil => trivial
  | cons key rest ih =>
    cases t with
    | object existing =>
      cases v with
      | object incoming =>
        rw [merge]
        intro child found
        rw [find?_mergeFields ordered.1] at found
        cases new : Dict.find? incoming key with
        | none =>
          rw [new] at found
          exact along child found
        | some v =>
          rw [new] at found
          cases found
          cases old : Dict.find? existing key with
          | none => exact along' v new
          | some t => exact ih (along t old) (along' v new) (ordered_child ordered new)
      | null | bool | int | float | string | array => cases along'
    | null | bool | int | float | string | array => cases along

/-- Where the second tree has nothing, the merge has what the first one has. -/
theorem at?_merge_of_left (along : ObjectsAlong p t) (along' : ObjectsAlong p v)
    (ordered : v.Ordered) (nothing : at? p v = none) : at? p (merge t v) = at? p t := by
  induction p generalizing t v with
  | nil =>
    rw [at?_nil] at nothing
    cases nothing
  | cons key rest ih =>
    cases t with
    | object existing =>
      cases v with
      | object incoming =>
        rw [merge, at?_cons_object, at?_cons_object, find?_mergeFields ordered.1]
        rw [at?_cons_object] at nothing
        cases new : Dict.find? incoming key with
        | none => rfl
        | some v =>
          rw [new] at nothing
          change at? rest v = none at nothing
          cases old : Dict.find? existing key with
          | none => exact nothing
          | some t => exact ih (along t old) (along' v new) (ordered_child ordered new) nothing
      | null | bool | int | float | string | array => cases along'
    | null | bool | int | float | string | array => cases along

/-- Where the first tree has nothing, the merge has what the second one has. -/
theorem at?_merge_of_right (along : ObjectsAlong p t) (along' : ObjectsAlong p v)
    (ordered : v.Ordered) (nothing : at? p t = none) : at? p (merge t v) = at? p v := by
  induction p generalizing t v with
  | nil =>
    rw [at?_nil] at nothing
    cases nothing
  | cons key rest ih =>
    cases t with
    | object existing =>
      cases v with
      | object incoming =>
        rw [merge, at?_cons_object, at?_cons_object, find?_mergeFields ordered.1]
        rw [at?_cons_object] at nothing
        cases old : Dict.find? existing key with
        | none =>
          cases Dict.find? incoming key <;> rfl
        | some t =>
          rw [old] at nothing
          change at? rest t = none at nothing
          cases new : Dict.find? incoming key with
          | none => exact nothing
          | some v => exact ih (along t old) (along' v new) (ordered_child ordered new) nothing
      | null | bool | int | float | string | array => cases along'
    | null | bool | int | float | string | array => cases along

end DocStore.Tree
