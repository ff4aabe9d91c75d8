import DocStore.Proofs.Bundle.Records

/-!
# Orphans of bundles

What bundles put into a store is found again through their recorded manifests: a leaf outside the
records belongs to the bundle whose recorded roots it lies under, and a policy to the bundle whose name
its id starts with. What is not found so is an orphan: no deactivation removes it.

An action replaces what stands under the roots that it knows of: those of the bundles to activate, or
those recorded for the bundles to deactivate. It makes no orphans exactly when all else that it leaves
in the store is found afterwards.

Results:
  * `does_run`: what an action leaves of leaves, policies and recorded roots;
  * `noOrphans_iff`: when there are no orphans after an action.
-/

namespace DocStore.Bundle

open DocStore.Tree

/-! ## Orphans -/

/-- A place lies at or under a root that is found in the tree. -/
def Covered (data : Value) (q : Path) : Prop :=
  ∃ name roots root, (name, roots) ∈ rootsIn data ∧ root ∈ roots ∧ q.hasPrefix root = true

/-- A policy carries the name of a bundle whose roots are found in the tree. -/
def Listed (data : Value) (id : String) : Prop :=
  ∃ name roots file, (name, roots) ∈ rootsIn data ∧ id = name ++ "/" ++ file

/-- A leaf outside the records of bundles. -/
structure LeafAt (c : Contents) (q : Path) (v : Value) : Prop where
  stands : c.get? q = some v
  leaf : v.isObject = false
  outside : q.hasPrefix recordsPath = false

/-- All that bundles put into the store is found through their recorded manifests. -/
structure NoOrphans (c : Contents) : Prop where
  data : ∀ q v, LeafAt c q v → Covered c.data q
  policies : ∀ id, c.policies.contains id = true → Listed c.data id

/-! ## Actions -/

/-- What is done with bundles in a write transaction of its own. -/
inductive Action
  | activate (bundles : List Bundle)
  | deactivate (names : List String)

namespace Action

/-- The bundles that an action puts into the store. -/
def bundles : Action → List Bundle
  | .activate bundles => bundles
  | .deactivate _ => []

/-- The names that an action is about. -/
def names : Action → List String
  | .activate bundles => bundles.map (·.name)
  | .deactivate names => names

/-- The data of all bundles that an action puts into the store. -/
def merged (a : Action) : Value := Truncate.payload (a.bundles.flatMap updates)

/-- The store after an action under a ticket. -/
def run (s : Store) (ticket : Nat) : Action → Except BundleError Store
  | .activate bundles => Bundle.activate bundles fun bundles => do
    let (s, t) := s.openWrite ticket
    let t ← activateIn s t bundles
    pure (s.install t)
  | .deactivate names => do
    let (s, t) := s.openWrite ticket
    let t ← deactivateIn s t names
    pure (s.install t)

end Action

/-- A root that is read from the manifest recorded under a name. -/
def RecordedRoot (c : Contents) (name : String) (root : Path) : Prop :=
  ∃ path raw m roots, manifestPath name = .ok path ∧ c.get? path = some raw ∧
    Manifest.ofValue? raw = some m ∧ m.rootPaths name = .ok roots ∧ root ∈ roots

namespace Action

/-- An action replaces what stands at and under these roots. -/
def Touches (c : Contents) (root : Path) : Action → Prop
  | .activate bundles => ∃ b ∈ bundles, b.Declares root
  | .deactivate names => ∃ name ∈ names, RecordedRoot c name root

/-- The policy carries one of the names that an action is about. -/
def Names (a : Action) (id : String) : Prop :=
  ∃ name ∈ a.names, (policyStart name).toList.isPrefixOf id.toList = true

/-- The action puts a leaf under a root of one of its bundles. -/
structure Brings (a : Action) (b : Bundle) (q : Path) (v : Value) : Prop where
  bundle : b ∈ a.bundles
  root : ∃ root, b.Declares root ∧ q.hasPrefix root = true
  stands : get? a.merged q = some v
  leaf : v.isObject = false
  outside : q.hasPrefix recordsPath = false

/-- What an action makes of a store, as far as orphans go. -/
structure Does (a : Action) (before after : Contents) : Prop where
  /-- Leaves are those brought, and those that were out of the way. -/
  leaves : ∀ q v, LeafAt after q v ↔
    (∃ b, a.Brings b q v) ∨
      (LeafAt before q v ∧ ∀ root, a.Touches before root → q.hasPrefix root = false)
  /-- A policy is one of a bundle, or was there and carries no name that the action is about. -/
  policies : ∀ id, after.policies.contains id = true →
    (∃ b ∈ a.bundles, ∃ file, id = b.policyId file) ∨
      (before.policies.contains id = true ∧ ¬ a.Names id)
  kept : ∀ id, before.policies.contains id = true → ¬ a.Names id → after.policies.contains id = true
  /-- The roots of bundles are found, unless another one of the name follows. -/
  found : ∀ b, LastOfName a.bundles b → ∀ roots, b.manifest.rootPaths b.name = .ok roots →
    (b.name, roots) ∈ rootsIn after.data
  /-- All roots are paths. -/
  declared : ∀ b ∈ a.bundles, ∃ roots, b.manifest.rootPaths b.name = .ok roots

end Action

/-! ## What an activation does -/

variable {s s' : Store} {c d : Contents} {bundles : List Bundle} {roots : List Path}
  {records : List (Path × Value)} {q : Path} {v : Value} {id : String}

/-- A place outside the records is out of the way of what is recorded. -/
theorem outside_records (recorded : bundles.mapM recordOf = .ok records)
    (outside : q.hasPrefix recordsPath = false) {p : Placement}
    (present : p ∈ records.map fun record => Placement.mk record.1 (some record.2)) :
    q.hasPrefix p.path = false := by
  obtain ⟨record, isRecord, rfl⟩ := List.mem_map.1 present
  obtain ⟨b, -, found⟩ := exists_of_mem_results recorded isRecord
  refine Bool.eq_false_iff.2 fun (below : q.hasPrefix record.1 = true) => ?_
  rw [Path.hasPrefix_trans below (manifestPath_below_records (recordOf_ok found).1)] at outside
  cases outside

/-- The leaves after an activation, outside the records. -/
theorem leaf_activationEdits (pairwise : roots.Pairwise Path.ApartFrom)
    (recorded : bundles.mapM recordOf = .ok records)
    (ok : s.amendAll c (activationEdits bundles roots records) = (d, .ok ()))
    (leaf : v.isObject = false) (outside : q.hasPrefix recordsPath = false) :
    d.get? q = some v ↔ (if roots.any q.hasPrefix
      then get? (Truncate.payload (bundles.flatMap updates)) q else c.get? q) = some v := by
  -- The records come last, and lie elsewhere; what is left are the roots and their data.
  rw [Store.leaf_amendAll ok leaf]
  unfold activationEdits
  rw [List.flatMap_append, puts_dropEdits, List.flatMap_append, puts_recordEdits,
    Truncate.puts_edits (Path.root_alone pairwise), List.nil_append, Placement.settle_append,
    Placement.settle_elsewhere fun p present => outside_records recorded outside present,
    Placement.settle_parts]

/-- A policy after an activation is one of a bundle, or it was there and carries none of the
names. -/
theorem policies_activationEdits
    (ok : s.amendAll c (activationEdits bundles roots records) = (d, .ok ()))
    (present : d.policies.contains id = true) :
    (∃ b ∈ bundles, ∃ file, id = b.policyId file) ∨
      (c.policies.contains id = true ∧
        ¬ (Action.activate bundles).Names id) := by
  by_cases brought : ∃ b ∈ bundles, ∃ file, id = b.policyId file
  · exact .inl brought
  · refine .inr ?_
    -- What no bundle brings is what dropping the policies of earlier revisions has left.
    have unbrought : ∀ e ∈ bundles.flatMap upserts, ∀ before, e.text id before = before := by
      intro e isEdit before
      obtain ⟨b, isBundle, mine⟩ := List.mem_flatMap.1 isEdit
      obtain ⟨⟨file, text⟩, -, rfl⟩ := List.mem_map.1 mine
      exact if_neg fun same => brought ⟨b, isBundle, file, same.symm⟩
    unfold Dict.contains at present ⊢
    rw [Store.find?_amendAll ok, texts_activation, Edit.texts_elsewhere unbrought,
      texts_dropEdits] at present
    split at present
    · cases present
    · next unnamed =>
      refine ⟨present, fun named => unnamed ?_⟩
      obtain ⟨name, isName, starts⟩ := named
      exact List.any_eq_true.2 ⟨name, isName, starts⟩

theorem policies_kept (ok : s.amendAll c (activationEdits bundles roots records) = (d, .ok ()))
    (present : c.policies.contains id = true) (unnamed : ¬ (Action.activate bundles).Names id) :
    d.policies.contains id = true := by
  unfold Dict.contains at present ⊢
  rw [Store.find?_amendAll ok, texts_activationEdits_elsewhere]
  · exact present
  · intro b isBundle
    refine Bool.eq_false_iff.2 fun starts => unnamed ⟨b.name, ?_, starts⟩
    exact List.mem_map.2 ⟨b, isBundle, rfl⟩

/-- A fresh write transaction of a store sees what is committed. -/
theorem writes_openWrite (s : Store) (ticket : Nat) :
    (s.openWrite ticket).1.Writes (s.openWrite ticket).2 ∧
      (s.openWrite ticket).1.view (s.openWrite ticket).2 = s.contents :=
  ⟨⟨rfl, rfl⟩, rfl⟩

/-- An activation is one row of edits on what is committed. -/
theorem run_activate_ok {ticket : Nat} (ran : (Action.activate bundles).run s ticket = .ok s') :
    ∃ roots records, validateSet bundles = .ok () ∧ allRoots bundles = .ok roots ∧
      bundles.mapM recordOf = .ok records ∧
      (s.openWrite ticket).1.amendAll s.contents (activationEdits bundles roots records) =
        (s'.contents, .ok ()) := by
  unfold Action.run at ran
  obtain ⟨valid, ran⟩ := activate_eq_ok_iff.1 ran
  obtain ⟨u, activated, done⟩ := bind_ok ran
  obtain ⟨writes, view⟩ := writes_openWrite s ticket
  obtain ⟨roots, records, d, collected, recorded, row, continues⟩ := activateIn_ok writes activated
  have after : s'.contents = d := by
    rw [← Except.ok.inj done]
    exact (Store.contents_install _ u).trans continues.view
  rw [after, ← view]
  exact ⟨roots, records, valid, collected, recorded, row⟩

/-- A row of edits that succeeds on what is committed makes an activation. -/
theorem run_activate_of_row {ticket : Nat} (valid : validateSet bundles = .ok ())
    (collected : allRoots bundles = .ok roots) (recorded : bundles.mapM recordOf = .ok records)
    (row : s.amendAll s.contents (activationEdits bundles roots records) = (d, .ok ())) :
    ∃ s', (Action.activate bundles).run s ticket = .ok s' ∧ s'.contents = d := by
  obtain ⟨writes, view⟩ := writes_openWrite s ticket
  have sameClaims : (s.openWrite ticket).1.claims = s.claims := rfl
  rw [← view, ← Store.amendAll_congr sameClaims] at row
  obtain ⟨u, activated, continues⟩ := activateIn_of_row writes collected recorded row
  refine ⟨(s.openWrite ticket).1.install u, ?_, (Store.contents_install _ u).trans continues.view⟩
  unfold Action.run
  refine activate_eq_ok_iff.2 ⟨valid, ?_⟩
  show (activateIn (s.openWrite ticket).1 (s.openWrite ticket).2 bundles >>= _) = _
  rw [activated]
  rfl

/-- An activation touches the roots of its bundles, which lie apart. -/
theorem mem_allRoots (valid : validateSet bundles = .ok ()) (collected : allRoots bundles = .ok roots) :
    roots.Pairwise Path.ApartFrom ∧
      ∀ root, root ∈ roots ↔ (Action.activate bundles).Touches c root := by
  obtain ⟨-, -, all⟩ := validateSet_ok valid
  exact all roots collected

theorem does_activate {ticket : Nat} (ran : (Action.activate bundles).run s ticket = .ok s') :
    (Action.activate bundles).Does s.contents s'.contents := by
  obtain ⟨roots, records, valid, collected, recorded, row⟩ := run_activate_ok ran
  obtain ⟨pairwise, mem_roots⟩ := mem_allRoots valid collected (c := s.contents)
  obtain ⟨_, -, rest⟩ := Store.amendAll_append_ok row
  obtain ⟨_, -, recording⟩ := Store.amendAll_append_ok rest
  constructor
  case leaves =>
    intro q v
    constructor
    · intro found
      have stands := (leaf_activationEdits pairwise recorded row found.leaf found.outside).1
        found.stands
      split at stands
      · next inside =>
        obtain ⟨root, isRoot, under⟩ := List.any_eq_true.1 inside
        obtain ⟨b, isBundle, declared⟩ := (mem_roots root).1 isRoot
        exact .inl ⟨b, isBundle, ⟨root, declared, under⟩, stands, found.leaf, found.outside⟩
      · next aside =>
        refine .inr ⟨⟨stands, found.leaf, found.outside⟩, fun root touched => ?_⟩
        exact Bool.eq_false_iff.2 fun under =>
          aside (List.any_eq_true.2 ⟨root, (mem_roots root).2 touched, under⟩)
    · rintro (⟨b, brings⟩ | ⟨found, aside⟩)
      · obtain ⟨root, declared, under⟩ := brings.root
        have inside : roots.any q.hasPrefix = true :=
          List.any_eq_true.2 ⟨root, (mem_roots root).2 ⟨b, brings.bundle, declared⟩, under⟩
        refine ⟨?_, brings.leaf, brings.outside⟩
        rw [leaf_activationEdits pairwise recorded row brings.leaf brings.outside, if_pos inside]
        exact brings.stands
      · have missed : ¬ roots.any q.hasPrefix = true := fun inside => by
          obtain ⟨root, isRoot, under⟩ := List.any_eq_true.1 inside
          rw [aside root ((mem_roots root).1 isRoot)] at under
          cases under
        refine ⟨?_, found.leaf, found.outside⟩
        rw [leaf_activationEdits pairwise recorded row found.leaf found.outside, if_neg missed]
        exact found.stands
  case policies => exact fun id present => policies_activationEdits row present
  case kept => exact fun id present unnamed => policies_kept row present unnamed
  case found =>
    intro b last roots declared
    exact mem_rootsIn_of_last recorded recording last declared
  case declared =>
    intro b isBundle
    obtain ⟨lists, each, -⟩ := bind_ok collected
    obtain ⟨roots, -, declared⟩ := exists_result_of_mem each isBundle
    exact ⟨roots, declared⟩

/-! ## What a deactivation does -/

/-- An empty tree has no leaves. -/
theorem no_leaf_in_empty (leaf : v.isObject = false) (p : List String) :
    at? p .empty ≠ some v := by
  intro found
  cases p with
  | nil =>
    rw [at?_nil] at found
    cases found
    cases leaf
  | cons key rest => cases found

/-- A replacement by nothing takes the leaves at and under its base paths, and no others. -/
theorem leaf_removal (leaf : v.isObject = false) (x : Option Value) :
    Placement.settle ((Truncate.edits roots []).flatMap Edit.puts) q x = some v ↔
      roots.any q.hasPrefix = false ∧ x = some v := by
  by_cases whole : .root ∈ roots
  · have inside : roots.any q.hasPrefix = true :=
      List.any_eq_true.2 ⟨.root, whole, Path.hasPrefix_root q⟩
    rw [Truncate.edits_whole whole, inside]
    constructor
    · -- With the whole tree as a root nothing but an empty object is put at the root.
      intro found
      have nothing : at? q.segments .empty = some v := found
      exact absurd nothing (no_leaf_in_empty leaf _)
    · rintro ⟨never, -⟩
      cases never
  · rw [Truncate.puts_edits fun root => absurd root whole, Placement.settle_parts]
    cases roots.any q.hasPrefix with
    | false => simp
    | true =>
      constructor
      · intro found
        exact absurd found (no_leaf_in_empty leaf _)
      · rintro ⟨never, -⟩
        cases never

theorem recordedRoot_iff {s : Store} {t : Transaction} (write : s.Writes t) {name : String}
    {found : List Path} (ok : recordedRoots s t name = .ok found) {root : Path} :
    root ∈ found ↔ RecordedRoot (s.view t) name root := by
  unfold recordedRoots at ok
  obtain ⟨path, located, ok⟩ := bind_ok ok
  rw [Store.read_eq_lookup write] at ok
  unfold Store.lookup at ok
  cases stands : get? (s.view t).data path with
  | none =>
    rw [stands] at ok
    cases ok
  | some raw =>
    rw [stands] at ok
    dsimp only at ok
    cases read : Manifest.ofValue? raw with
    | none =>
      rw [read] at ok
      cases ok
    | some m =>
      rw [read] at ok
      constructor
      · exact fun isRoot => ⟨path, raw, m, found, located, stands, read, ok, isRoot⟩
      · rintro ⟨path', raw', m', roots', located', stands', read', ok', isRoot⟩
        cases located.symm.trans located'
        cases stands.symm.trans stands'
        cases read.symm.trans read'
        cases ok.symm.trans ok'
        exact isRoot

/-- A place outside the records is out of the way of what is recorded about bundles. -/
theorem outside_places {names : List String} {paths : List Path}
    (located : names.mapM recordPath = .ok paths) (outside : q.hasPrefix recordsPath = false)
    {p : Placement} (present : p ∈ paths.map fun path => Placement.mk path none) :
    q.hasPrefix p.path = false := by
  obtain ⟨path, isPath, rfl⟩ := List.mem_map.1 present
  obtain ⟨name, -, found⟩ := exists_of_mem_results located isPath
  refine Bool.eq_false_iff.2 fun (below : q.hasPrefix path = true) => ?_
  have inside : path.hasPrefix recordsPath = true := by
    rw [Path.hasPrefix_iff_leads, segments_recordPath found]
    exact ⟨[name], rfl⟩
  rw [Path.hasPrefix_trans below inside] at outside
  cases outside

/-- The leaves after a deactivation, outside the records. -/
theorem leaf_deactivationEdits {names : List String} {paths : List Path}
    (located : names.mapM recordPath = .ok paths)
    (ok : s.amendAll c (deactivationEdits names roots paths) = (d, .ok ()))
    (leaf : v.isObject = false) (outside : q.hasPrefix recordsPath = false) :
    d.get? q = some v ↔ roots.any q.hasPrefix = false ∧ c.get? q = some v := by
  rw [Store.leaf_amendAll ok leaf]
  unfold deactivationEdits
  rw [List.flatMap_append, puts_dropEdits, List.flatMap_append, puts_discards, List.nil_append,
    Placement.settle_append,
    Placement.settle_elsewhere fun p present => outside_places located outside present]
  exact leaf_removal leaf _

/-- The policies after a deactivation. -/
theorem find?_deactivationEdits {names : List String} {paths : List Path}
    (ok : s.amendAll c (deactivationEdits names roots paths) = (d, .ok ())) (id : String) :
    d.policies.find? id =
      if names.any fun name => (policyStart name).toList.isPrefixOf id.toList then none
      else c.policies.find? id := by
  have discards : ∀ e ∈ paths.map Edit.discard, ∀ before, e.text id before = before := by
    intro e present before
    obtain ⟨path, -, rfl⟩ := List.mem_map.1 present
    rfl
  rw [Store.find?_amendAll ok]
  unfold deactivationEdits
  rw [Edit.texts_append, Edit.texts_append, Truncate.texts_edits, texts_dropEdits,
    Edit.texts_elsewhere discards]
  rfl

/-- A deactivation is one row of edits on what is committed. -/
theorem run_deactivate_ok {names : List String} {ticket : Nat}
    (ran : (Action.deactivate names).run s ticket = .ok s') :
    ∃ roots paths, names.mapM recordPath = .ok paths ∧
      (∀ root, root ∈ roots ↔ (Action.deactivate names).Touches s.contents root) ∧
      (s.openWrite ticket).1.amendAll s.contents (deactivationEdits names roots paths) =
        (s'.contents, .ok ()) := by
  obtain ⟨u, deactivated, done⟩ := bind_ok ran
  obtain ⟨writes, view⟩ := writes_openWrite s ticket
  obtain ⟨lists, paths, d, recorded, located, row, continues⟩ := deactivateIn_ok writes deactivated
  have after : s'.contents = d := by
    rw [← Except.ok.inj done]
    exact (Store.contents_install _ u).trans continues.view
  rw [after, ← view]
  refine ⟨lists.flatten, paths, located, fun root => ?_, row⟩
  rw [List.mem_flatten]
  constructor
  · rintro ⟨found, isFound, isRoot⟩
    obtain ⟨name, isName, ok⟩ := exists_of_mem_results recorded isFound
    exact ⟨name, isName, (recordedRoot_iff writes ok).1 isRoot⟩
  · rintro ⟨name, isName, isRoot⟩
    obtain ⟨found, isFound, ok⟩ := exists_result_of_mem recorded isName
    exact ⟨found, isFound, (recordedRoot_iff writes ok).2 isRoot⟩

theorem does_deactivate {names : List String} {ticket : Nat}
    (ran : (Action.deactivate names).run s ticket = .ok s') :
    (Action.deactivate names).Does s.contents s'.contents := by
  obtain ⟨roots, paths, located, mem_roots, row⟩ := run_deactivate_ok ran
  have aside_iff (q : Path) : roots.any q.hasPrefix = false ↔
      ∀ root, (Action.deactivate names).Touches s.contents root → q.hasPrefix root = false := by
    rw [List.any_eq_false]
    constructor
    · exact fun aside root touched => Bool.eq_false_iff.2 (aside root ((mem_roots root).2 touched))
    · exact fun aside root isRoot => Bool.eq_false_iff.1 (aside root ((mem_roots root).1 isRoot))
  have named_iff (id : String) : (names.any fun name =>
      (policyStart name).toList.isPrefixOf id.toList) = true ↔
        (Action.deactivate names).Names id := List.any_eq_true
  constructor
  case leaves =>
    intro q v
    constructor
    · intro found
      obtain ⟨aside, stands⟩ :=
        (leaf_deactivationEdits located row found.leaf found.outside).1 found.stands
      exact .inr ⟨⟨stands, found.leaf, found.outside⟩, (aside_iff q).1 aside⟩
    · rintro (⟨b, brings⟩ | ⟨found, aside⟩)
      · cases brings.bundle
      · refine ⟨?_, found.leaf, found.outside⟩
        rw [leaf_deactivationEdits located row found.leaf found.outside]
        exact ⟨(aside_iff q).2 aside, found.stands⟩
  case policies =>
    intro id present
    unfold Dict.contains at present
    rw [find?_deactivationEdits row] at present
    split at present
    · cases present
    · next unnamed => exact .inr ⟨present, fun named => unnamed ((named_iff id).2 named)⟩
  case kept =>
    intro id present unnamed
    unfold Dict.contains
    rw [find?_deactivationEdits row, if_neg fun named => unnamed ((named_iff id).1 named)]
    exact present
  case found =>
    intro b last
    cases last.mem
  case declared =>
    intro b never
    cases never

/-- What an action makes of the leaves, the policies and the recorded roots of a store. -/
theorem does_run {a : Action} {ticket : Nat} (ran : a.run s ticket = .ok s') :
    a.Does s.contents s'.contents := by
  cases a with
  | activate bundles => exact does_activate ran
  | deactivate names => exact does_deactivate ran

/-! ## Considerate actions -/

/-- All that an action lets stand, of what was there before and of bundles whose name comes again in
the same call, is found afterwards. -/
structure Action.Considerate (a : Action) (before after : Contents) : Prop where
  data : ∀ q v, LeafAt before q v → (∀ root, a.Touches before root → q.hasPrefix root = false) →
    Covered after.data q
  policies : ∀ id, before.policies.contains id = true → ¬ a.Names id → Listed after.data id
  repeats : ∀ b, ¬ LastOfName a.bundles b → ∀ q v, a.Brings b q v → Covered after.data q

/-- There are no orphans after an action exactly when it is considerate. -/
theorem noOrphans_iff {a : Action} {ticket : Nat} (ran : a.run s ticket = .ok s') :
    NoOrphans s'.contents ↔ a.Considerate s.contents s'.contents := by
  have does := does_run ran
  constructor
  · intro clean
    constructor
    case data =>
      exact fun q v found aside => clean.data q v ((does.leaves q v).2 (.inr ⟨found, aside⟩))
    case policies =>
      exact fun id present unnamed => clean.policies id (does.kept id present unnamed)
    case repeats =>
      exact fun b _ q v brings => clean.data q v ((does.leaves q v).2 (.inl ⟨b, brings⟩))
  · intro considerate
    constructor
    case data =>
      intro q v found
      obtain ⟨b, brings⟩ | ⟨stood, aside⟩ := (does.leaves q v).1 found
      · by_cases last : LastOfName a.bundles b
        · obtain ⟨root, ⟨roots, declared, isRoot⟩, under⟩ := brings.root
          exact ⟨b.name, roots, root, does.found b last roots declared, isRoot, under⟩
        · exact considerate.repeats b last q v brings
      · exact considerate.data q v stood aside
    case policies =>
      intro id present
      obtain ⟨b, isBundle, file, rfl⟩ | ⟨stood, unnamed⟩ := does.policies id present
      · -- The last bundle of the name may be another one, but it is recorded under the same name.
        obtain ⟨last, isLast, named⟩ := exists_lastOfName isBundle
        obtain ⟨roots, declared⟩ := does.declared last isLast.mem
        refine ⟨last.name, roots, file, does.found last isLast roots declared, ?_⟩
        rw [named]
        rfl
      · exact considerate.policies id stood unnamed

end DocStore.Bundle
