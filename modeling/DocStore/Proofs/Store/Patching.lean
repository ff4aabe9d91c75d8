import DocStore.Proofs.Store.Leaves
import DocStore.Proofs.Tree.Surface

/-!
# When a patch is refused, and why

A patch below the root needs objects on the way to its place; a replacement and a removal need a value
there as well. When it is refused, the error names the first place on the path where something is in the
way: either nothing stands there, or something that is no object although the path goes on. Nothing has
changed then.

Results:
  * `exists_apply_iff`: when a patch below the root succeeds;
  * `apply_eq_error_iff`: with which error it fails;
  * `patch_exact`: what a patch does, in every case.
-/

namespace DocStore

namespace Path

variable {p q : Path}

/-- A leading part of a path is as many of its segments as it has itself. -/
theorem take_of_hasPrefix (above : p.hasPrefix q = true) : p.take q.segments.length = q :=
  Path.ext (List.prefix_iff_eq_take.1 (hasPrefix_iff_leads.1 above)).symm

theorem segments_ne_nil (below : p ≠ .root) : p.segments ≠ [] :=
  fun empty => below (Path.ext empty)

/-- What leads to a path is a path. -/
theorem exists_of_leads {place : List String} (above : place <+: p.segments) :
    ∃ q : Path, q.segments = place ∧ p.hasPrefix q = true := by
  have same : (p.take place.length).segments = place := (List.prefix_iff_eq_take.1 above).symm
  refine ⟨p.take place.length, same, ?_⟩
  rw [hasPrefix_iff_leads, same]
  exact above

end Path

namespace Tree

variable {v new : Value} {op : PatchOp} {path q : Path} {e : StoreError}

/-! ## What stops a patch on its way down -/

/-- Objects stand everywhere strictly above a place. -/
def ObjectsAbove (v : Value) (place : List String) : Prop :=
  ∀ r, r <+: place → r ≠ place → ∃ fields, at? r v = some (.object fields)

/-- At a place on the way to `target` a patch cannot go on. The depth of the fault counts from
`depth` segments above. -/
inductive Stops (op : PatchOp) (v : Value) (target : List String) (depth : Nat) :
    List String → Fault → Prop
  | missing {place : List String} :
      place <+: target → at? place v = none → (place = target → op ≠ .add) →
      Stops op v target depth place (.missing (depth + place.length))
  | blocked {place : List String} {w : Value} :
      place <+: target → place ≠ target → at? place v = some w → w.isObject = false →
      Stops op v target depth place (.blocked (depth + place.length))

section

variable {fields : Dict Value} {child : Value} {key : String} {rest place : List String} {depth : Nat}
  {fault : Fault}

theorem objectsAbove_nil (v : Value) : ObjectsAbove v [] :=
  fun _ above strict => absurd (List.prefix_nil.1 above) strict

theorem ObjectsAbove.within (found : Dict.find? fields key = some child)
    (objects : ObjectsAbove child place) : ObjectsAbove (.object fields) (key :: place) := by
  intro r above strict
  cases r with
  | nil => exact ⟨fields, at?_nil _⟩
  | cons first r =>
    obtain ⟨rfl, deeper⟩ := List.cons_prefix_cons.1 above
    rw [at?_cons_object, found]
    exact objects r deeper fun arrived => strict (by rw [arrived])

/-- What stops a patch in a field stops it on the way through that field. -/
theorem Stops.within (found : Dict.find? fields key = some child)
    (stops : Stops op child rest (depth + 1) place fault) :
    Stops op (.object fields) (key :: rest) depth (key :: place) fault := by
  have same : depth + 1 + place.length = depth + (key :: place).length := by
    rw [List.length_cons]
    omega
  have through : at? (key :: place) (.object fields) = at? place child := by
    rw [at?_cons_object, found]
    rfl
  cases stops with
  | missing above nothing last =>
    rw [same]
    refine .missing (List.cons_prefix_cons.2 ⟨rfl, above⟩) (through.trans nothing) ?_
    exact fun arrived => last (List.cons.inj arrived).2
  | blocked above strict stands leaf =>
    rw [same]
    refine .blocked (List.cons_prefix_cons.2 ⟨rfl, above⟩) ?_ (through.trans stands) leaf
    exact fun arrived => strict (List.cons.inj arrived).2

/-- A value that is no object stops a patch below it at once. -/
theorem stops_at_leaf (leaf : v.isObject = false) :
    Stops op v (key :: rest) depth [] (.blocked depth) :=
  .blocked List.nil_prefix (List.cons_ne_nil _ _).symm (at?_nil v) leaf

/-- A missing field stops a patch, unless it is the one to be added. -/
theorem stops_at_field (absent : Dict.find? fields key = none) (last : rest = [] → op ≠ .add) :
    Stops op (.object fields) (key :: rest) depth [key] (.missing (depth + 1)) := by
  refine .missing (List.cons_prefix_cons.2 ⟨rfl, List.nil_prefix⟩) ?_ ?_
  · rw [at?_cons_object, absent]
    rfl
  · intro arrived
    exact last (List.cons.inj arrived).2.symm

theorem objectsAbove_field : ObjectsAbove (.object fields) [key] := by
  intro r above strict
  have leads : r <+: [] ++ [key] := above
  rcases List.prefix_concat_iff.1 leads with same | higher
  · exact absurd same strict
  · rw [List.prefix_nil.1 higher]
    exact ⟨fields, at?_nil _⟩

/-- A patch that fails is stopped at some place, and objects stand above it. -/
theorem stops_of_patchBelow (failed : patchBelow op new depth key rest v = .error fault) :
    ∃ place, Stops op v (key :: rest) depth place fault ∧ ObjectsAbove v place := by
  induction rest generalizing depth key v with
  | nil =>
    cases v with
    | object fields =>
      cases op with
      | add => cases failed
      | replace | remove =>
        simp only [patchBelow] at failed
        split at failed
        · cases failed
        · next absent =>
          cases failed
          have nothing : Dict.find? fields key = none := by simpa [Dict.contains] using absent
          exact ⟨[key], stops_at_field nothing fun _ => by decide, objectsAbove_field⟩
    | null | bool | int | float | string | array =>
      cases failed
      exact ⟨[], stops_at_leaf rfl, objectsAbove_nil _⟩
  | cons next rest ih =>
    cases v with
    | object fields =>
      simp only [patchBelow] at failed
      cases found : Dict.find? fields key with
      | none =>
        rw [found] at failed
        cases failed
        exact ⟨[key], stops_at_field found fun last => (List.cons_ne_nil _ _ last).elim,
          objectsAbove_field⟩
      | some child =>
        rw [found] at failed
        cases below : patchBelow op new (depth + 1) next rest child with
        | ok changed =>
          simp only [below] at failed
          cases failed
        | error inner =>
          simp only [below] at failed
          cases failed
          obtain ⟨place, stops, objects⟩ := ih below
          exact ⟨key :: place, stops.within found, objects.within found⟩
    | null | bool | int | float | string | array =>
      cases failed
      exact ⟨[], stops_at_leaf rfl, objectsAbove_nil _⟩

end

/-! ## Success -/

/-- A patch below the root succeeds when objects lead to its place, and something to be replaced or
removed stands there. -/
theorem exists_apply_iff (below : path ≠ .root) :
    (∃ changed, apply v op path new = .ok changed) ↔
      ObjectsAbove v path.segments ∧ (op = .add ∨ get? v path ≠ none) := by
  obtain ⟨key, rest, segments⟩ : ∃ key rest, path.segments = key :: rest :=
    List.exists_cons_of_ne_nil (Path.segments_ne_nil below)
  constructor
  · rintro ⟨changed, ok⟩
    refine ⟨fun r above strict => (objects_above_apply ok above strict).1, ?_⟩
    by_contra neither
    obtain ⟨needs, nothing⟩ := not_or.1 neither
    have stood := get?_of_apply needs ok
    rw [not_not.1 nothing] at stood
    cases stood
  · rintro ⟨objects, stands⟩
    unfold get? at stands
    rw [segments] at objects stands
    obtain ⟨changed, done⟩ : ∃ changed, patchBelow op new 0 key rest v = .ok changed := by
      refine exists_patchBelow (fun r above strict => ?_) ?_
      · exact surface_eq_empty_iff.2 (objects r above strict)
      · exact stands.imp_right fun something nothing => something (surface_eq_none_iff.1 nothing)
    exact ⟨changed, apply_of_below segments done⟩

/-! ## Failure -/

/-- At a place on its path a patch cannot go on, and this is the error. -/
inductive Obstructs (v : Value) (op : PatchOp) (path : Path) : Path → StoreError → Prop
  | missing {q : Path} :
      path.hasPrefix q = true → get? v q = none → (q = path → op ≠ .add) →
      Obstructs v op path q (.notFound q)
  | blocked {q : Path} {w : Value} :
      path.hasPrefix q = true → q ≠ path → get? v q = some w → w.isObject = false →
      Obstructs v op path q (.writeConflict q .throughNonObject)

/-- Every place above an obstruction is passed. -/
theorem Obstructs.not_object {fields : Dict Value} (obstructs : Obstructs v op path q e) :
    get? v q ≠ some (.object fields) := by
  intro stands
  cases obstructs with
  | missing _ nothing _ => cases nothing.symm.trans stands
  | blocked _ _ found leaf =>
    cases found.symm.trans stands
    cases leaf

/-- At one place a patch cannot go on for one reason. -/
theorem Obstructs.unique {e' : StoreError} (obstructs : Obstructs v op path q e)
    (obstructs' : Obstructs v op path q e') : e = e' := by
  cases obstructs with
  | missing _ nothing _ =>
    cases obstructs' with
    | missing => rfl
    | blocked _ _ found _ => cases nothing.symm.trans found
  | blocked _ _ found _ =>
    cases obstructs' with
    | missing _ nothing _ => cases nothing.symm.trans found
    | blocked => rfl

/-- The first place on the path at which a patch cannot go on, and the error. -/
def FirstObstruction (v : Value) (op : PatchOp) (path q : Path) (e : StoreError) : Prop :=
  Obstructs v op path q e ∧ ObjectsAbove v q.segments

theorem obstructs_of_apply (below : path ≠ .root) (failed : apply v op path new = .error e) :
    ∃ q, FirstObstruction v op path q e := by
  obtain ⟨key, rest, segments⟩ : ∃ key rest, path.segments = key :: rest :=
    List.exists_cons_of_ne_nil (Path.segments_ne_nil below)
  unfold apply at failed
  rw [segments] at failed
  cases patched : patchBelow op new 0 key rest v with
  | ok changed =>
    simp only [patched] at failed
    cases failed
  | error fault =>
    simp only [patched] at failed
    cases failed
    obtain ⟨place, stops, objects⟩ := stops_of_patchBelow patched
    rw [← segments] at stops
    cases stops with
    | missing above nothing last =>
      obtain ⟨q, rfl, leads⟩ := Path.exists_of_leads above
      refine ⟨q, ?_, objects⟩
      rw [Fault.toError, Nat.zero_add, Path.take_of_hasPrefix leads]
      exact .missing leads nothing fun same => last (congrArg Path.segments same)
    | blocked above strict stands leaf =>
      obtain ⟨q, rfl, leads⟩ := Path.exists_of_leads above
      refine ⟨q, ?_, objects⟩
      rw [Fault.toError, Nat.zero_add, Path.take_of_hasPrefix leads]
      exact .blocked leads (fun same => strict (congrArg Path.segments same)) stands leaf

/-- There is at most one first obstruction, since above it everything is passed. -/
theorem FirstObstruction.unique {q' : Path} {e' : StoreError} (first : FirstObstruction v op path q e)
    (first' : FirstObstruction v op path q' e') : e = e' := by
  obtain ⟨obstructs, objects⟩ := first
  obtain ⟨obstructs', objects'⟩ := first'
  have above : path.hasPrefix q = true := by cases obstructs <;> assumption
  have above' : path.hasPrefix q' = true := by cases obstructs' <;> assumption
  have same : q.segments = q'.segments := by
    by_contra differ
    rcases List.prefix_or_prefix_of_prefix (Path.hasPrefix_iff_leads.1 above)
      (Path.hasPrefix_iff_leads.1 above') with higher | higher
    · obtain ⟨fields, stands⟩ := objects' q.segments higher differ
      exact obstructs.not_object stands
    · obtain ⟨fields, stands⟩ := objects q'.segments higher fun same => differ same.symm
      exact obstructs'.not_object stands
  cases Path.ext same
  exact obstructs.unique obstructs'

/-- A patch below the root fails with the error of the first obstruction on its path. -/
theorem apply_eq_error_iff (below : path ≠ .root) :
    apply v op path new = .error e ↔ ∃ q, FirstObstruction v op path q e := by
  refine ⟨obstructs_of_apply below, ?_⟩
  rintro ⟨q, obstructs, objects⟩
  cases result : apply v op path new with
  | error e' =>
    obtain ⟨q', first⟩ := obstructs_of_apply below result
    rw [first.unique ⟨obstructs, objects⟩]
  | ok changed =>
    -- A patch that succeeds has passed everything on its path.
    obtain ⟨passed, stands⟩ := (exists_apply_iff below).1 ⟨changed, result⟩
    exfalso
    cases obstructs with
    | missing above nothing last =>
      by_cases same : q = path
      · subst same
        exact stands.elim (last rfl) fun something => something nothing
      · obtain ⟨fields, found⟩ := passed q.segments (Path.hasPrefix_iff_leads.1 above)
          fun arrived => same (Path.ext arrived)
        cases nothing.symm.trans found
    | blocked above strict found leaf =>
      obtain ⟨fields, object⟩ := passed q.segments (Path.hasPrefix_iff_leads.1 above)
        fun arrived => strict (Path.ext arrived)
      cases found.symm.trans object
      cases leaf

/-- A patch of the root fails when it would leave something else than an object there. -/
theorem apply_root_eq_error_iff : apply v op .root new = .error e ↔
    (op = .remove ∧ e = .writeConflict .root .removesRoot) ∨
      (op ≠ .remove ∧ new.isObject = false ∧ e = .writeConflict .root .rootNotObject) := by
  show applyRoot op new = .error e ↔ _
  cases op with
  | remove => simp [applyRoot, eq_comm (a := e)]
  | add | replace => cases object : new.isObject <;> simp [applyRoot, object, eq_comm (a := e)]

/-! ## The result -/

/-- What a patch does to a tree. -/
structure Patches (v : Value) (op : PatchOp) (path : Path) (new : Value) : Prop where
  /-- The root is replaced by an object, and never removed. -/
  root : path = .root → ((∃ changed, apply v op path new = .ok changed) ↔
    (op = .add ∨ op = .replace) ∧ new.isObject = true)
  /-- Below the root every place above the path is an object, and something to be replaced or removed
  stands there. -/
  below : path ≠ .root → ((∃ changed, apply v op path new = .ok changed) ↔
    (∀ q, path.hasPrefix q = true → q ≠ path → ∃ fields, get? v q = some (.object fields)) ∧
      (op ≠ .add → get? v path ≠ none))
  /-- The root stays an object. -/
  object : ∀ changed, apply v op path new = .ok changed → changed.isObject = true
  /-- At the path and below it stands what was put there, and nothing after a removal. -/
  placed : ∀ changed, apply v op path new = .ok changed → ∀ rest : Path,
    get? changed (path.join rest) = if op = .remove then none else get? new rest
  /-- Every path that does not overlap this one reads as before. -/
  elsewhere : ∀ changed, apply v op path new = .ok changed → ∀ q, q.overlaps path = false →
    get? changed q = get? v q
  /-- A failure at the root is a conflict there: it would be removed, or not be an object. -/
  rootError : path = .root → ∀ e, apply v op path new = .error e ↔
    (op = .remove ∧ e = .writeConflict .root .removesRoot) ∨
      (op ≠ .remove ∧ new.isObject = false ∧ e = .writeConflict .root .rootNotObject)
  /-- A failure below the root names the shortest leading part of the path at which nothing stands, or
  something that is no object although the path goes on. -/
  belowError : path ≠ .root → ∀ e, apply v op path new = .error e ↔
    ∃ q, path.hasPrefix q = true ∧
      (∀ r, q.hasPrefix r = true → r ≠ q → ∃ fields, get? v r = some (.object fields)) ∧
      ((get? v q = none ∧ (q = path → op ≠ .add) ∧ e = .notFound q) ∨
        (q ≠ path ∧ ∃ w, get? v q = some w ∧ w.isObject = false ∧
          e = .writeConflict q .throughNonObject))
  /-- A transaction in which the patch fails is left as it was. -/
  unchanged : ∀ e, apply v op path new = .error e → ∀ (s : Store) (t : Transaction), s.Writes t →
    (s.view t).data = v → s.editAll t [.writeUnchecked op path new] = (t, .error e)

theorem objectsAbove_iff : ObjectsAbove v q.segments ↔
    ∀ r, q.hasPrefix r = true → r ≠ q → ∃ fields, get? v r = some (.object fields) := by
  constructor
  · intro objects r above strict
    exact objects r.segments (Path.hasPrefix_iff_leads.1 above) fun same => strict (Path.ext same)
  · intro objects place above strict
    obtain ⟨r, rfl, leads⟩ := Path.exists_of_leads above
    exact objects r leads fun same => strict (congrArg Path.segments same)

theorem isObject_apply {changed : Value} (ok : apply v op path new = .ok changed) :
    changed.isObject = true := by
  cases segments : path.segments with
  | nil =>
    obtain ⟨-, object, rfl⟩ := apply_root segments ok
    exact object
  | cons key rest =>
    obtain ⟨-, fields, stands⟩ := objects_above_apply (p := []) ok List.nil_prefix (by simp [segments])
    rw [at?_nil] at stands
    cases stands
    rfl

/-- What a patch does to any tree: when it succeeds, what stands where afterwards, and else what it is
that fails. -/
theorem patch_exact (v : Value) (op : PatchOp) (path : Path) (new : Value) :
    Patches v op path new := by
  constructor
  case root =>
    rintro rfl
    show (∃ changed, applyRoot op new = .ok changed) ↔ _
    cases op <;> cases object : new.isObject <;> simp [applyRoot, object]
  case below =>
    intro below
    rw [exists_apply_iff below, objectsAbove_iff]
    exact and_congr_right fun _ => Decidable.or_iff_not_imp_left
  case object => exact fun changed ok => isObject_apply ok
  case placed => exact fun changed ok rest => at?_apply_below ok rest.segments
  case elsewhere =>
    intro changed ok q apart
    exact at?_apply_of_apart ok (Path.overlaps_eq_false_iff.1 apart).symm
  case rootError =>
    rintro rfl e
    exact apply_root_eq_error_iff
  case belowError =>
    intro below e
    rw [apply_eq_error_iff below]
    refine exists_congr fun q => ?_
    rw [← objectsAbove_iff]
    constructor
    · rintro ⟨obstructs, objects⟩
      cases obstructs with
      | missing above nothing last => exact ⟨above, objects, .inl ⟨nothing, last, rfl⟩⟩
      | blocked above strict found leaf => exact ⟨above, objects, .inr ⟨strict, _, found, leaf, rfl⟩⟩
    · rintro ⟨above, objects, ⟨nothing, last, rfl⟩ | ⟨strict, w, found, leaf, rfl⟩⟩
      · exact ⟨.missing above nothing last, objects⟩
      · exact ⟨.blocked above strict found leaf, objects⟩
  case unchanged =>
    intro e failed s t write view
    have follows := Store.follows_patch write op path new
    unfold Contents.patch at follows
    rw [view, failed] at follows
    have refused : s.edit t (.writeUnchecked op path new) = .error e := follows
    simp only [Store.editAll, refused]

/-- An item of a list can be read, but a list is never patched. -/
example : get? (.object [("l", .array [.int 1])]) ⟨["l", "0"], by decide⟩ = some (.int 1) ∧
    apply (.object [("l", .array [.int 1])]) .replace ⟨["l", "0"], by decide⟩ (.int 2) =
      .error (.writeConflict ⟨["l"], by decide⟩ .throughNonObject) := by
  decide

end Tree

end DocStore
