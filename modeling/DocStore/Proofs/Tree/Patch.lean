import DocStore.Tree

/-!
# What a patch does to a tree

A patch walks down through objects to the place it is about. Reading the tree after it is described
place by place.

Results:
  * `at?_append`: a path is read in two halves;
  * `at?_apply_below`: at and below the patched place stands what was put there;
  * `at?_apply_of_apart`: a place that does not overlap the patched one reads as before.
-/

namespace DocStore

/-! ## Overlap -/

/-- Neither row of segments is a leading part of the other. -/
def Apart (p q : List String) : Prop := ¬ p <+: q ∧ ¬ q <+: p

theorem Apart.symm {p q : List String} (h : Apart p q) : Apart q p := ⟨h.2, h.1⟩

/-- Rows with one first segment are apart when what follows it is. -/
@[simp] theorem apart_cons_cons {a b : String} {p q : List String} :
    Apart (a :: p) (b :: q) ↔ a ≠ b ∨ Apart p q := by
  unfold Apart
  simp only [List.cons_prefix_cons, not_and]
  constructor
  · rintro ⟨h, h'⟩
    by_cases same : a = b
    · exact Or.inr ⟨h same, h' same.symm⟩
    · exact Or.inl same
  · rintro (differ | h)
    · exact ⟨fun same => absurd same differ, fun same => absurd same.symm differ⟩
    · exact ⟨fun _ => h.1, fun _ => h.2⟩

@[simp] theorem not_apart_nil_left (q : List String) : ¬ Apart [] q := fun h => h.1 (List.nil_prefix)

@[simp] theorem not_apart_nil_right (p : List String) : ¬ Apart p [] := fun h => h.2 (List.nil_prefix)

/-- What is apart from a row is apart from everything below it. -/
theorem Apart.below {p q : List String} (h : Apart p q) {r : List String} (below : q <+: r) :
    Apart p r :=
  ⟨fun above => (List.prefix_or_prefix_of_prefix above below).elim h.1 h.2,
    fun above => h.2 (below.trans above)⟩

namespace Path

theorem hasPrefix_iff_leads {p q : Path} : p.hasPrefix q = true ↔ q.segments <+: p.segments := by
  unfold hasPrefix
  exact List.isPrefixOf_iff_prefix

theorem hasPrefix_eq_false_iff {p q : Path} :
    p.hasPrefix q = false ↔ ¬ q.segments <+: p.segments := by
  rw [← hasPrefix_iff_leads, Bool.not_eq_true]

theorem overlaps_eq_false_iff {p q : Path} :
    p.overlaps q = false ↔ Apart p.segments q.segments := by
  unfold overlaps Apart
  rw [Bool.or_eq_false_iff, hasPrefix_eq_false_iff, hasPrefix_eq_false_iff]
  exact ⟨fun h => ⟨h.2, h.1⟩, fun h => ⟨h.2, h.1⟩⟩

/-- Two paths above a third overlap. -/
theorem overlaps_of_above {p q r : Path} (above : r.hasPrefix p = true)
    (above' : r.hasPrefix q = true) : p.overlaps q = true := by
  rw [Path.hasPrefix_iff_leads] at above above'
  unfold Path.overlaps
  rw [Bool.or_eq_true, Path.hasPrefix_iff_leads, Path.hasPrefix_iff_leads]
  exact (List.prefix_or_prefix_of_prefix above above').symm

/-- Neither path is a leading part of the other. -/
def ApartFrom (p q : Path) : Prop := Apart p.segments q.segments

instance : Std.Symm ApartFrom := ⟨fun _ _ apart => Apart.symm apart⟩

/-- The root of the tree overlaps every path, so it comes alone. -/
theorem root_alone {roots : List Path} (apart : roots.Pairwise ApartFrom)
    (whole : .root ∈ roots) : roots = [.root] := by
  obtain ⟨before, after, rfl⟩ := List.append_of_mem whole
  rw [List.pairwise_append, List.pairwise_cons] at apart
  obtain ⟨-, ⟨late, -⟩, early⟩ := apart
  have noneBefore : before = [] := List.eq_nil_iff_forall_not_mem.2 fun root present =>
    absurd (early root present .root List.mem_cons_self) (not_apart_nil_right _)
  have noneAfter : after = [] := List.eq_nil_iff_forall_not_mem.2 fun root present =>
    absurd (late root present) (not_apart_nil_left _)
  rw [noneBefore, noneAfter]
  rfl

end Path

namespace Tree

/-! ## Reading -/

@[simp] theorem at?_nil (v : Value) : at? [] v = some v := by
  cases v <;> rfl

theorem at?_cons_object (segment : String) (rest : List String) (fields : Dict Value) :
    at? (segment :: rest) (.object fields) = (Dict.find? fields segment).bind (at? rest) := by
  rw [at?]
  cases Dict.find? fields segment <;> rfl

/-- The part that a segment of a value leads to. -/
theorem at?_cons (segment : String) (rest : List String) (v : Value) :
    at? (segment :: rest) v = (at? [segment] v).bind (at? rest) := by
  cases v with
  | object fields =>
    rw [at?_cons_object, at?_cons_object]
    cases Dict.find? fields segment <;> simp
  | array items =>
    simp only [at?]
    cases (index? segment).bind (items[·]?) <;> simp
  | null | bool | int | float | string => rfl

/-- A path is read in two halves. -/
theorem at?_append (p q : List String) (v : Value) :
    at? (p ++ q) v = (at? p v).bind (at? q) := by
  induction p generalizing v with
  | nil => simp
  | cons segment rest ih =>
    rw [List.cons_append, at?_cons, at?_cons segment rest, Option.bind_assoc]
    congr 1
    funext child
    exact ih child

/-- Below a place with nothing there is nothing. -/
theorem at?_eq_none_of_prefix {p q : List String} {v : Value} (below : p <+: q)
    (nothing : at? p v = none) : at? q v = none := by
  obtain ⟨rest, rfl⟩ := below
  rw [at?_append, nothing]
  rfl

theorem at?_insert_self (segment : String) (rest : List String) (fields : Dict Value) (v : Value) :
    at? (segment :: rest) (.object (Dict.insert fields segment v)) = at? rest v := by
  rw [at?_cons_object, Dict.find?_insert_self]
  rfl

theorem at?_insert_ne {segment other : String} (rest : List String) (fields : Dict Value)
    (v : Value) (ne : other ≠ segment) :
    at? (other :: rest) (.object (Dict.insert fields segment v))
      = at? (other :: rest) (.object fields) := by
  rw [at?_cons_object, at?_cons_object, Dict.find?_insert_ne fields v ne]

theorem at?_erase_self (segment : String) (rest : List String) (fields : Dict Value) :
    at? (segment :: rest) (.object (Dict.erase fields segment)) = none := by
  rw [at?_cons_object, Dict.find?_erase_self]
  rfl

theorem at?_erase_ne {segment other : String} (rest : List String) (fields : Dict Value)
    (ne : other ≠ segment) :
    at? (other :: rest) (.object (Dict.erase fields segment))
      = at? (other :: rest) (.object fields) := by
  rw [at?_cons_object, at?_cons_object, Dict.find?_erase_ne fields ne]

/-! ## Patches below the root -/

/-- A patch of a direct field. -/
theorem patchBelow_last {op : PatchOp} {new v changed : Value} {depth : Nat} {key : String}
    (ok : patchBelow op new depth key [] v = .ok changed) :
    ∃ fields, v = .object fields ∧
      changed = .object (if op = .remove then Dict.erase fields key
        else Dict.insert fields key new) := by
  cases v with
  | object fields =>
    refine ⟨fields, rfl, ?_⟩
    cases op with
    | add => exact (Except.ok.inj ok).symm
    | replace | remove =>
      simp only [patchBelow] at ok
      split at ok
      · exact (Except.ok.inj ok).symm
      · cases ok
  | null | bool | int | float | string | array => cases ok

/-- A patch further down goes through a field that is there. -/
theorem patchBelow_next {op : PatchOp} {new v changed : Value} {depth : Nat} {key next : String}
    {rest : List String} (ok : patchBelow op new depth key (next :: rest) v = .ok changed) :
    ∃ fields child below, v = .object fields ∧ Dict.find? fields key = some child ∧
      patchBelow op new (depth + 1) next rest child = .ok below ∧
      changed = .object (Dict.insert fields key below) := by
  cases v with
  | object fields =>
    simp only [patchBelow] at ok
    cases found : Dict.find? fields key with
    | none =>
      rw [found] at ok
      cases ok
    | some child =>
      rw [found] at ok
      cases below : patchBelow op new (depth + 1) next rest child with
      | error e =>
        simp only [below] at ok
        cases ok
      | ok changedChild =>
        simp only [below] at ok
        exact ⟨fields, child, changedChild, rfl, found, below, (Except.ok.inj ok).symm⟩
  | null | bool | int | float | string | array => cases ok

theorem at?_patchBelow_below {op : PatchOp} {new v changed : Value} {depth : Nat} {key : String}
    {rest : List String} (ok : patchBelow op new depth key rest v = .ok changed)
    (s : List String) :
    at? (key :: rest ++ s) changed = if op = .remove then none else at? s new := by
  induction rest generalizing depth key v changed with
  | nil =>
    obtain ⟨fields, rfl, rfl⟩ := patchBelow_last ok
    split
    · exact at?_erase_self key s fields
    · exact at?_insert_self key s fields new
  | cons next rest ih =>
    obtain ⟨fields, child, below, rfl, _, okBelow, rfl⟩ := patchBelow_next ok
    rw [List.cons_append, at?_insert_self]
    exact ih okBelow

theorem at?_patchBelow_of_apart {op : PatchOp} {new v changed : Value} {depth : Nat} {key : String}
    {rest q : List String} (ok : patchBelow op new depth key rest v = .ok changed)
    (apart : Apart (key :: rest) q) : at? q changed = at? q v := by
  induction rest generalizing depth key v changed q with
  | nil =>
    obtain ⟨fields, rfl, rfl⟩ := patchBelow_last ok
    cases q with
    | nil => exact absurd apart (not_apart_nil_right _)
    | cons first q =>
      have ne : first ≠ key := by
        rcases apart_cons_cons.1 apart with differ | apart
        · exact differ.symm
        · exact absurd apart (not_apart_nil_left q)
      split
      · exact at?_erase_ne q fields ne
      · exact at?_insert_ne q fields new ne
  | cons next rest ih =>
    obtain ⟨fields, child, below, rfl, found, okBelow, rfl⟩ := patchBelow_next ok
    cases q with
    | nil => exact absurd apart (not_apart_nil_right _)
    | cons first q =>
      by_cases same : first = key
      · subst same
        have deeper : Apart (next :: rest) q :=
          (apart_cons_cons.1 apart).resolve_left fun differ => differ rfl
        rw [at?_insert_self, at?_cons_object, found]
        exact ih okBelow deeper
      · exact at?_insert_ne q fields below same

/-! ## Patches -/

/-- A patch of the root puts an object there. -/
theorem apply_root {v new changed : Value} {op : PatchOp} {path : Path}
    (root : path.segments = []) (ok : apply v op path new = .ok changed) :
    op ≠ .remove ∧ new.isObject = true ∧ changed = new := by
  unfold apply at ok
  rw [root] at ok
  cases op with
  | remove => cases ok
  | add | replace =>
    simp only [applyRoot] at ok
    split at ok
    · next object => exact ⟨by decide, object, (Except.ok.inj ok).symm⟩
    · cases ok

theorem apply_below {v new changed : Value} {op : PatchOp} {path : Path} {key : String}
    {rest : List String} (segments : path.segments = key :: rest)
    (ok : apply v op path new = .ok changed) : patchBelow op new 0 key rest v = .ok changed := by
  unfold apply at ok
  rw [segments] at ok
  cases below : patchBelow op new 0 key rest v with
  | ok w =>
    simp only [below] at ok
    rw [Except.ok.inj ok]
  | error e =>
    simp only [below] at ok
    cases ok

/-- At and below the patched place stands what was put there. -/
theorem at?_apply_below {v new changed : Value} {op : PatchOp} {path : Path}
    (ok : apply v op path new = .ok changed) (s : List String) :
    at? (path.segments ++ s) changed = if op = .remove then none else at? s new := by
  cases segments : path.segments with
  | nil =>
    obtain ⟨keeps, _, rfl⟩ := apply_root segments ok
    rw [if_neg keeps]
    rfl
  | cons key rest => exact at?_patchBelow_below (apply_below segments ok) s

/-- A place that does not overlap the patched one reads as before. -/
theorem at?_apply_of_apart {v new changed : Value} {op : PatchOp} {path : Path}
    (ok : apply v op path new = .ok changed) {q : List String} (apart : Apart path.segments q) :
    at? q changed = at? q v := by
  cases segments : path.segments with
  | nil =>
    rw [segments] at apart
    exact absurd apart (not_apart_nil_left q)
  | cons key rest =>
    rw [segments] at apart
    exact at?_patchBelow_of_apart (apply_below segments ok) apart

theorem at?_of_patchBelow_missing {op : PatchOp} {new v : Value} {depth found : Nat} {key : String}
    {rest : List String} (failed : patchBelow op new depth key rest v = .error (.missing found)) :
    at? (key :: rest) v = none := by
  induction rest generalizing depth key v with
  | nil =>
    cases v with
    | object fields =>
      have absent : Dict.contains fields key ≠ true := by
        intro present
        cases op with
        | add => cases failed
        | replace | remove =>
          simp only [patchBelow, if_pos present] at failed
          cases failed
      have nothing : Dict.find? fields key = none := by
        unfold Dict.contains at absent
        exact Option.not_isSome_iff_eq_none.1 absent
      rw [at?_cons_object, nothing]
      rfl
    | null | bool | int | float | string | array => cases failed
  | cons next rest ih =>
    cases v with
    | object fields =>
      rw [at?_cons_object]
      cases looked : Dict.find? fields key with
      | none => rfl
      | some child =>
        simp only [patchBelow, looked] at failed
        cases below : patchBelow op new (depth + 1) next rest child with
        | ok changed =>
          simp only [below] at failed
          cases failed
        | error fault =>
          simp only [below] at failed
          cases failed
          exact ih below
    | null | bool | int | float | string | array => cases failed

/-- A patch that finds nothing was made where nothing stands. -/
theorem get?_of_apply_notFound {v new : Value} {op : PatchOp} {path : Path} {e : StoreError}
    (failed : apply v op path new = .error e) (missing : e.isNotFound = true) :
    get? v path = none := by
  unfold get?
  unfold apply at failed
  cases segments : path.segments with
  | nil =>
    rw [segments] at failed
    cases op with
    | remove =>
      cases failed
      cases missing
    | add | replace =>
      simp only [applyRoot] at failed
      split at failed
      · cases failed
      · cases failed
        cases missing
  | cons key rest =>
    rw [segments] at failed
    cases below : patchBelow op new 0 key rest v with
    | ok changed =>
      simp only [below] at failed
      cases failed
    | error fault =>
      simp only [below] at failed
      cases fault with
      | missing depth => exact at?_of_patchBelow_missing below
      | blocked depth =>
        cases failed
        cases missing

theorem at?_of_patchBelow {op : PatchOp} {new v changed : Value} {depth : Nat} {key : String}
    {rest : List String} (needs : op ≠ .add)
    (ok : patchBelow op new depth key rest v = .ok changed) : (at? (key :: rest) v).isSome = true := by
  induction rest generalizing depth key v changed with
  | nil =>
    obtain ⟨fields, rfl, -⟩ := patchBelow_last ok
    have present : Dict.contains fields key = true := by
      cases op with
      | add => exact absurd rfl needs
      | replace | remove =>
        simp only [patchBelow] at ok
        split at ok
        · assumption
        · cases ok
    obtain ⟨child, found⟩ := Option.isSome_iff_exists.1 present
    rw [at?_cons_object, found]
    simp
  | cons next rest ih =>
    obtain ⟨fields, child, below, rfl, found, okBelow, -⟩ := patchBelow_next ok
    rw [at?_cons_object, found]
    exact ih okBelow

/-- A replacement or a removal that is done had something to replace or remove. -/
theorem get?_of_apply {op : PatchOp} {new v changed : Value} {path : Path} (needs : op ≠ .add)
    (ok : apply v op path new = .ok changed) : (get? v path).isSome = true := by
  unfold get?
  cases segments : path.segments with
  | nil => simp
  | cons key rest => exact at?_of_patchBelow needs (apply_below segments ok)

end Tree

end DocStore
