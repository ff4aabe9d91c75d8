import DocStore.Proofs.Store.Changes
import DocStore.Proofs.Store.Patching
import DocStore.Proofs.Tree.Reach

/-!
# Making objects along a path

The objects of a path are made in one walk. The same can be done in two: the first one looks how much of
the path stands already and whether it leads through objects only, the second one makes what is missing.
Whatever the first walk accepts, the second one can go through, so a failure never leaves half of the
path behind.

Results:
  * `survey_eq_error_iff`: what the first walk refuses;
  * `extend_of_survey`: what it accepts can be made, and comes to what the one walk makes;
  * `makeDir_eq_error_iff`: when objects cannot be made along a path, and why;
  * `makeDir_exact`: what making objects along a path does, in every case.
-/

namespace DocStore.Tree

/-! ## Two walks -/

/-- How many segments lead somewhere, below a value that is `depth` segments down. Fails with the depth
of the first value that is no object. -/
def survey : (depth : Nat) → List String → Value → Except Nat Nat
  | depth, [], .object _ => .ok depth
  | depth, segment :: rest, .object fields =>
    match Dict.find? fields segment with
    | none => .ok depth
    | some child => survey (depth + 1) rest child
  | depth, _, _ => .error depth

/-- Go along the segments, making an empty object wherever a field is missing. -/
def extend : List String → Value → Option Value
  | [], v => some v
  | segment :: rest, .object fields =>
    (extend rest ((Dict.find? fields segment).getD .empty)).map fun changed =>
      .object (Dict.insert fields segment changed)
  | _, _ => none

/-- Make every prefix of a path an object, in two walks. -/
def makeInTwo (root : Value) (path : Path) : Except StoreError (Value × Bool) :=
  match survey 0 path.segments root with
  | .error depth => .error (.writeConflict (path.take depth) .occupied)
  | .ok standing =>
    if standing = path.length then .ok (root, false)
    else
      match extend path.segments root with
      | some changed => .ok (changed, true)
      | none => .error (.writeConflict path .occupied)

variable {v changed : Value} {path : Path} {segments : List String} {depth found : Nat} {made : Bool}
  {e : StoreError}

theorem survey_of_leaf (leaf : v.isObject = false) : survey depth segments v = .error depth := by
  cases v with
  | object fields => cases leaf
  | null | bool | int | float | string | array => cases segments <;> rfl

theorem makeBelow_of_leaf (leaf : v.isObject = false) : makeBelow depth segments v = .error depth := by
  cases v with
  | object fields => cases leaf
  | null | bool | int | float | string | array => cases segments <;> rfl

theorem survey_cons_object (depth : Nat) (segment : String) (rest : List String)
    (fields : Dict Value) :
    survey depth (segment :: rest) (.object fields) =
      match Dict.find? fields segment with
      | none => .ok depth
      | some child => survey (depth + 1) rest child := rfl

/-- What stands at a part of the path below an object stands at a part of the rest, below its field. -/
theorem leaf_above_cons {fields : Dict Value} {segment : String} {rest : List String} :
    (∃ q w, q <+: segment :: rest ∧ reach? q (.object fields) = some w ∧ w.isObject = false ∧
        found = depth + q.length) ↔
      ∃ child, Dict.find? fields segment = some child ∧ ∃ q w, q <+: rest ∧
        reach? q child = some w ∧ w.isObject = false ∧ found = depth + 1 + q.length := by
  constructor
  · rintro ⟨q, w, above, leads, leaf, same⟩
    cases q with
    | nil =>
      -- The first part of the path is the object itself.
      cases leads
      cases leaf
    | cons first q =>
      obtain ⟨rfl, later⟩ := List.cons_prefix_cons.1 above
      rw [reach?_cons_object] at leads
      obtain ⟨child, isField, below⟩ := Option.bind_eq_some_iff.1 leads
      rw [List.length_cons] at same
      exact ⟨child, isField, q, w, later, below, leaf, by omega⟩
  · rintro ⟨child, isField, q, w, above, leads, leaf, same⟩
    refine ⟨segment :: q, w, List.cons_prefix_cons.2 ⟨rfl, above⟩, ?_, leaf, ?_⟩
    · rw [reach?_cons_object, isField]
      exact leads
    · rw [List.length_cons]
      omega

/-- No part of a path leads further than a value that is no object. -/
theorem leaf_above_of_leaf (leaf : v.isObject = false) :
    (∃ q w, q <+: segments ∧ reach? q v = some w ∧ w.isObject = false ∧ found = depth + q.length) ↔
      depth = found := by
  constructor
  · rintro ⟨q, w, -, leads, -, rfl⟩
    rw [← eq_of_leaf_above List.nil_prefix rfl leaf leads]
    rfl
  · rintro rfl
    exact ⟨[], v, List.nil_prefix, rfl, leaf, rfl⟩

/-- The first walk refuses a path when a part of it leads to something that is no object. -/
theorem survey_eq_error_iff : survey depth segments v = .error found ↔
    ∃ q w, q <+: segments ∧ reach? q v = some w ∧ w.isObject = false ∧ found = depth + q.length := by
  induction segments generalizing depth v with
  | nil =>
    rcases v.leaf_or_object with leaf | ⟨fields, rfl⟩
    · rw [survey_of_leaf leaf, leaf_above_of_leaf leaf, Except.error.injEq]
    · refine iff_of_false (fun never => by cases never) ?_
      rintro ⟨q, w, above, leads, leaf, -⟩
      rw [List.prefix_nil.1 above] at leads
      cases leads
      cases leaf
  | cons segment rest ih =>
    rcases v.leaf_or_object with leaf | ⟨fields, rfl⟩
    · rw [survey_of_leaf leaf, leaf_above_of_leaf leaf, Except.error.injEq]
    · rw [leaf_above_cons, survey_cons_object]
      cases isField : Dict.find? fields segment with
      | none => simp
      | some child => simp [ih]

/-! ## One walk for both -/

theorem extend_empty (segments : List String) : extend segments .empty = some (chain segments) := by
  induction segments with
  | nil => rfl
  | cons segment rest ih =>
    show (extend rest .empty).map _ = _
    rw [ih]
    rfl

/-- What the first walk refuses is refused by the one walk, at the same depth. -/
theorem makeBelow_of_refused (refused : survey depth segments v = .error found) :
    makeBelow depth segments v = .error found := by
  induction segments generalizing depth v with
  | nil =>
    rcases v.leaf_or_object with leaf | ⟨fields, rfl⟩
    · rw [survey_of_leaf leaf] at refused
      cases refused
      rw [makeBelow_of_leaf leaf]
    · cases refused
  | cons segment rest ih =>
    rcases v.leaf_or_object with leaf | ⟨fields, rfl⟩
    · rw [survey_of_leaf leaf] at refused
      cases refused
      rw [makeBelow_of_leaf leaf]
    · rw [survey_cons_object] at refused
      cases isField : Dict.find? fields segment with
      | none =>
        rw [isField] at refused
        cases refused
      | some child =>
        rw [isField] at refused
        simp only [makeBelow, isField, ih refused]
        rfl

/-- Whatever the first walk accepts the second one can go through. It ends where the one walk ends, and
something is made unless the first walk came to the end of the path. -/
theorem extend_of_survey (accepted : survey depth segments v = .ok found) :
    found ≤ depth + segments.length ∧ ∃ changed, extend segments v = some changed ∧
      makeBelow depth segments v = .ok (changed, decide (found ≠ depth + segments.length)) := by
  induction segments generalizing depth v with
  | nil =>
    rcases v.leaf_or_object with leaf | ⟨fields, rfl⟩
    · rw [survey_of_leaf leaf] at accepted
      cases accepted
    · cases accepted
      exact ⟨Nat.le_refl _, _, rfl, by simp [makeBelow]⟩
  | cons segment rest ih =>
    rcases v.leaf_or_object with leaf | ⟨fields, rfl⟩
    · rw [survey_of_leaf leaf] at accepted
      cases accepted
    · rw [survey_cons_object] at accepted
      cases isField : Dict.find? fields segment with
      | none =>
        rw [isField] at accepted
        cases accepted
        refine ⟨Nat.le_add_right _ _, .object (Dict.insert fields segment (chain rest)), ?_, ?_⟩
        · simp only [extend, isField, Option.getD_none, extend_empty, Option.map_some]
        · simp [makeBelow, isField]
      | some child =>
        rw [isField] at accepted
        obtain ⟨within, changed, extended, below⟩ := ih accepted
        have same : depth + (segment :: rest).length = depth + 1 + rest.length := by
          rw [List.length_cons]
          omega
        rw [same]
        refine ⟨within, .object (Dict.insert fields segment changed), ?_, ?_⟩
        · simp only [extend, isField, Option.getD_some, extended, Option.map_some]
        · simp only [makeBelow, isField, below]
          rfl

/-! ## Failure -/

theorem makeDir_of_refused (refused : survey 0 path.segments v = .error found) :
    makeDir v path = .error (.writeConflict (path.take found) .occupied) := by
  unfold makeDir
  rw [makeBelow_of_refused refused]
  rfl

theorem makeDir_of_survey (accepted : survey 0 path.segments v = .ok found) :
    ∃ changed, extend path.segments v = some changed ∧
      makeDir v path = .ok (changed, decide (found ≠ path.length)) := by
  obtain ⟨-, changed, extended, below⟩ := extend_of_survey accepted
  rw [Nat.zero_add] at below
  exact ⟨changed, extended, makeDir_of_below below⟩

/-- Objects cannot be made along a path when one of its leading parts leads to something that is no
object; the error names that part. -/
theorem makeDir_eq_error_iff : makeDir v path = .error e ↔
    ∃ q w, path.hasPrefix q = true ∧ reach? q.segments v = some w ∧ w.isObject = false ∧
      e = .writeConflict q .occupied := by
  have refused_at {q : Path} {w : Value} (above : path.hasPrefix q = true)
      (leads : reach? q.segments v = some w) (leaf : w.isObject = false) :
      makeDir v path = .error (.writeConflict q .occupied) := by
    rw [makeDir_of_refused (survey_eq_error_iff.2
      ⟨q.segments, w, Path.hasPrefix_iff_leads.1 above, leads, leaf, (Nat.zero_add _).symm⟩),
      Path.take_of_hasPrefix above]
  constructor
  · intro failed
    cases passed : survey 0 path.segments v with
    | ok found =>
      obtain ⟨changed, -, ok⟩ := makeDir_of_survey passed
      cases failed.symm.trans ok
    | error found =>
      obtain ⟨place, w, above, leads, leaf, -⟩ := survey_eq_error_iff.1 passed
      obtain ⟨q, rfl, part⟩ := Path.exists_of_leads above
      cases failed.symm.trans (refused_at part leads leaf)
      exact ⟨q, w, part, leads, leaf, rfl⟩
  · rintro ⟨q, w, above, leads, leaf, rfl⟩
    exact refused_at above leads leaf

/-- Nothing but objects stands on the way to what keys lead to, so it is the first such place. -/
theorem hasPrefix_of_leaf {q r : Path} {u w : Value} (above : path.hasPrefix q = true)
    (leads : reach? q.segments v = some w) (above' : path.hasPrefix r = true)
    (stands : get? v r = some u) (leaf : u.isObject = false) : r.hasPrefix q = true := by
  rw [Path.hasPrefix_iff_leads] at above above' ⊢
  rcases List.prefix_or_prefix_of_prefix above above' with shorter | longer
  · exact shorter
  · by_cases same : r.segments = q.segments
    · exact same ▸ List.prefix_rfl
    · obtain ⟨fields, object⟩ := object_above longer same leads
      cases stands.symm.trans (at?_of_reach? object)
      cases leaf

/-! ## Success -/

theorem at?_chain_append (q rest : List String) : at? q (chain (q ++ rest)) = some (chain rest) := by
  induction q with
  | nil => exact at?_nil _
  | cons segment q ih =>
    rw [List.cons_append, chain, at?_cons_object, Dict.find?_cons, if_pos rfl]
    exact ih

/-- Where nothing stood there are objects along the rest of the path now, and no others. -/
theorem at?_makeBelow_of_missing {q rest : List String}
    (ok : makeBelow depth (q ++ rest) v = .ok (changed, made)) (missing : at? q v = none) :
    at? q changed = some (chain rest) := by
  induction q generalizing depth v changed with
  | nil =>
    rw [at?_nil] at missing
    cases missing
  | cons segment q ih =>
    obtain ⟨fields, rfl, ⟨absent, -, rfl⟩ | ⟨child, below, isField, okBelow, rfl⟩⟩ :=
      makeBelow_cons ok
    · rw [at?_insert_self]
      exact at?_chain_append q rest
    · rw [at?_cons_object, isField] at missing
      rw [at?_insert_self]
      exact ih okBelow missing

/-- Something is made exactly when nothing stood at the end of the path. -/
theorem made_iff_of_makeBelow (ok : makeBelow depth segments v = .ok (changed, made)) :
    made = true ↔ at? segments v = none := by
  induction segments generalizing depth v changed with
  | nil =>
    rw [(makeBelow_nil ok).1, at?_nil]
    simp
  | cons segment rest ih =>
    obtain ⟨fields, rfl, ⟨absent, rfl, -⟩ | ⟨child, below, isField, okBelow, -⟩⟩ := makeBelow_cons ok
    · rw [at?_cons_object, absent]
      simp
    · rw [at?_cons_object, isField]
      exact ih okBelow

/-- Something is made exactly when somewhere something stands now and nothing did before. -/
theorem made_iff_of_makeDir (ok : makeDir v path = .ok (changed, made)) :
    made = true ↔ ∃ place, at? place v = none ∧ at? place changed ≠ none := by
  rw [made_iff_of_makeBelow (makeDir_below ok)]
  constructor
  · intro missing
    obtain ⟨fields, object⟩ := (objects_along_makeDir ok (List.prefix_refl _)).2
    exact ⟨path.segments, missing, by simp [object]⟩
  · rintro ⟨place, missing, stands⟩
    by_cases above : place <+: path.segments
    · -- What is missing on the way to the end is missing there as well.
      obtain ⟨rest, same⟩ := above
      rw [← same, at?_append, missing]
      rfl
    · have same := at?_makeDir_of_not_prefix ok above
      rw [same] at stands
      exact absurd missing stands

/-- Where objects have been made along a path there is nothing left to make. -/
theorem makeDir_again (ok : makeDir v path = .ok (changed, made)) (ordered : v.Ordered) :
    makeDir changed path = .ok (changed, false) := by
  have objects {place : List String} (above : place <+: path.segments) :=
    (objects_along_makeDir ok above).2
  cases result : makeDir changed path with
  | error e =>
    obtain ⟨q, w, above, leads, leaf, -⟩ := makeDir_eq_error_iff.1 result
    obtain ⟨fields, object⟩ := objects (Path.hasPrefix_iff_leads.1 above)
    cases object.symm.trans (at?_of_reach? leads)
    cases leaf
  | ok pair =>
    obtain ⟨later, again⟩ := pair
    obtain ⟨fields, object⟩ := objects (List.prefix_refl _)
    have nothing : ¬ again = true := by
      rw [made_iff_of_makeBelow (makeDir_below result), object]
      exact Option.some_ne_none _
    rw [Bool.not_eq_true] at nothing
    subst nothing
    rw [makeDir_of_not_made result (ordered_makeDir ok ordered)]

/-- In a tree with fields in order the one walk does what the two do. -/
theorem makeDir_eq_makeInTwo (ordered : v.Ordered) : makeDir v path = makeInTwo v path := by
  unfold makeInTwo
  cases passed : survey 0 path.segments v with
  | error found => exact makeDir_of_refused passed
  | ok found =>
    obtain ⟨changed, extended, ok⟩ := makeDir_of_survey passed
    simp only [extended]
    split
    · next complete =>
      rw [decide_eq_false fun differ => differ complete] at ok
      rw [ok, makeDir_of_not_made ok ordered]
    · next incomplete => rw [ok, decide_eq_true incomplete]

/-! ## Transactions -/

theorem edit_makeDir_of_error {s : Store} {t : Transaction} (write : s.Writes t)
    (view : (s.view t).data = v) (failed : makeDir v path = .error e) :
    s.edit t (.makeDir path) = .error e := by
  have follows := Store.follows_makeDir write path
  unfold Contents.makeDir at follows
  rw [view, failed] at follows
  exact follows

theorem edit_makeDir_of_ok {s : Store} {t : Transaction} (write : s.Writes t)
    (view : (s.view t).data = v) (ok : makeDir v path = .ok (changed, made)) :
    ∃ later, s.edit t (.makeDir path) = .ok later ∧
      s.view later = { s.view t with data := changed } ∧
      later.changes = t.changes ++ if made then Changes.ofData ⟨path, .add, .empty⟩ else .none := by
  have follows := Store.follows_makeDir write path
  unfold Contents.makeDir at follows
  rw [view, ok] at follows
  obtain ⟨later, done, continues⟩ := follows
  refine ⟨later, done, continues.view, ?_⟩
  rw [Store.makeDir_changes done]
  simp only [Edit.notes, view, ok]
  cases made <;> rfl

/-! ## The result -/

/-- What making objects along a path does to a tree. -/
structure Makes (v : Value) (path : Path) : Prop where
  /-- It fails when a leading part of the path leads through objects to something that is none. -/
  fails : (∃ e, makeDir v path = .error e) ↔
    ∃ q w, path.hasPrefix q = true ∧ reach? q.segments v = some w ∧ w.isObject = false
  /-- The error is a conflict at that part, which is shorter than any other with no object. -/
  conflict : ∀ e, makeDir v path = .error e → ∃ q w, path.hasPrefix q = true ∧
    reach? q.segments v = some w ∧ w.isObject = false ∧ e = .writeConflict q .occupied ∧
    ∀ r u, path.hasPrefix r = true → get? v r = some u → u.isObject = false → r.hasPrefix q = true
  /-- A transaction in which it fails is left as it was. -/
  unchanged : ∀ e, makeDir v path = .error e → ∀ (s : Store) (t : Transaction), s.Writes t →
    (s.view t).data = v → s.editAll t [.makeDir path] = (t, .error e)
  /-- The walk that makes objects never fails where the walk that looks has found nothing in the
  way. -/
  never : ∀ found, survey 0 path.segments v = .ok found →
    ∃ changed, extend path.segments v = some changed
  /-- The two walks come to the same as the one. -/
  walks : v.Ordered → makeDir v path = makeInTwo v path
  /-- Every leading part of the path is an object afterwards. -/
  objects : ∀ changed made, makeDir v path = .ok (changed, made) → ∀ q, path.hasPrefix q = true →
    ∃ fields, get? changed q = some (.object fields)
  /-- Every place that is not on the way to the path reads as before. -/
  elsewhere : ∀ changed made, makeDir v path = .ok (changed, made) →
    ∀ place, ¬ place <+: path.segments → at? place changed = at? place v
  /-- A leading part that was missing is an object with the next segment only; the last is empty. -/
  missing : ∀ changed made, makeDir v path = .ok (changed, made) →
    ∀ q rest, path.segments = q ++ rest → at? q v = none → at? q changed = some (chain rest)
  /-- It says that something was made exactly when something stands where nothing did. -/
  made : ∀ changed made, makeDir v path = .ok (changed, made) →
    (made = true ↔ ∃ place, at? place v = none ∧ at? place changed ≠ none)
  /-- A second time makes nothing and changes nothing. -/
  again : v.Ordered → ∀ changed made, makeDir v path = .ok (changed, made) →
    makeDir changed path = .ok (changed, false)
  /-- In a transaction the tree is changed so, and a change is recorded if anything was made. -/
  staged : ∀ changed made, makeDir v path = .ok (changed, made) → ∀ (s : Store) (t : Transaction),
    s.Writes t → (s.view t).data = v → ∃ later, s.edit t (.makeDir path) = .ok later ∧
      s.view later = { s.view t with data := changed } ∧
      later.changes = t.changes ++ if made then Changes.ofData ⟨path, .add, .empty⟩ else .none

/-- What making objects along a path does to any tree: when it succeeds, what stands where afterwards,
and else what it is that fails. -/
theorem makeDir_exact (v : Value) (path : Path) : Makes v path := by
  constructor
  case fails =>
    constructor
    · rintro ⟨e, failed⟩
      obtain ⟨q, w, above, leads, leaf, -⟩ := makeDir_eq_error_iff.1 failed
      exact ⟨q, w, above, leads, leaf⟩
    · rintro ⟨q, w, above, leads, leaf⟩
      exact ⟨_, makeDir_eq_error_iff.2 ⟨q, w, above, leads, leaf, rfl⟩⟩
  case conflict =>
    intro e failed
    obtain ⟨q, w, above, leads, leaf, same⟩ := makeDir_eq_error_iff.1 failed
    exact ⟨q, w, above, leads, leaf, same, fun r u above' stands other =>
      hasPrefix_of_leaf above leads above' stands other⟩
  case unchanged =>
    intro e failed s t write view
    simp only [Store.editAll, edit_makeDir_of_error write view failed]
  case never =>
    intro found accepted
    obtain ⟨-, changed, extended, -⟩ := extend_of_survey accepted
    exact ⟨changed, extended⟩
  case walks => exact makeDir_eq_makeInTwo
  case objects =>
    intro changed made ok q above
    exact (objects_along_makeDir ok (Path.hasPrefix_iff_leads.1 above)).2
  case elsewhere => exact fun changed made ok place outside => at?_makeDir_of_not_prefix ok outside
  case missing =>
    intro changed made ok q rest split nothing
    have below := makeDir_below ok
    rw [split] at below
    exact at?_makeBelow_of_missing below nothing
  case made => exact fun changed made ok => made_iff_of_makeDir ok
  case again => exact fun ordered changed made ok => makeDir_again ok ordered
  case staged => exact fun changed made ok s t write view => edit_makeDir_of_ok write view ok

/-- A path through a list is in the way, although it can be read there. -/
example : get? (.object [("l", .array [.empty])]) ⟨["l", "0"], by decide⟩ = some .empty ∧
    makeDir (.object [("l", .array [.empty])]) ⟨["l", "0"], by decide⟩ =
      .error (.writeConflict ⟨["l"], by decide⟩ .occupied) := by
  decide

end DocStore.Tree
