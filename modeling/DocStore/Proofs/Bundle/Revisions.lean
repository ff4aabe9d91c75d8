import DocStore.Proofs.Bundle.Orphans
import DocStore.Proofs.Store.Replay

/-!
# Runs of activations and deactivations

An action that names each bundle once and keeps off the records changes what is recorded about the
bundles that it names, and about no others. Then the trees before it tell whether it makes orphans: an
activation does so exactly when a leaf that stood under roots of an earlier revision stands under none
of the roots declared now. A deactivation never does.

Results:
  * `mem_rootsIn_run`: the roots that are found after an action;
  * `considerate_iff_redeclares`: which actions are considerate;
  * `redeclares_deactivate`: deactivations always are;
  * `noOrphans_run_iff`: when there are no orphans in any committed state of a run.
-/

namespace DocStore

/-! ## What edits are apart from -/

/-- An edit is apart from a place, wherever that is in the tree. -/
def Edit.Spares (p : List String) : Edit → Prop
  | .write _ path _ | .writeUnchecked _ path _ | .clear path | .discard path =>
    Apart path.segments p
  | .makeDir path => ¬ p <+: path.segments
  | _ => True

namespace Edit

variable {p : List String}

/-- What an edit puts in place is apart from what the edit is apart from. -/
theorem apart_of_spares {e : Edit} (spares : e.Spares p) {placement : Placement}
    (present : placement ∈ e.puts) : Apart placement.path.segments p := by
  cases e with
  | write | writeUnchecked | clear | discard =>
    rw [List.mem_singleton.1 present]
    exact spares
  | makeDir | requireOwnerless | requireNoClaims | upsertPolicy | deletePolicy | dropPolicies =>
    cases present

theorem spares_above {path : Path} (apart : Apart path.segments p) {e : Edit}
    (present : e ∈ above path) : e.Spares p := by
  obtain ⟨parent, found, rfl⟩ := mem_above present
  intro below
  exact apart.2 (below.trans (Path.hasPrefix_iff_leads.1 (Path.parent?_above found).1))

end Edit

namespace Truncate

/-- A bulk replacement is apart from what its base paths are apart from. -/
theorem spares_edits {bases : List Path} {updates : List Update} {p : List String}
    (apart : ∀ base ∈ bases, Apart base.segments p) {e : Edit}
    (present : e ∈ edits bases updates) : e.Spares p := by
  have parts : .root ∉ bases := fun whole => not_apart_nil_left p (apart .root whole)
  rw [edits_parts parts] at present
  rcases List.mem_append.1 present with data | policy
  · obtain ⟨base, isBase, mine⟩ := List.mem_flatMap.1 data
    cases found : Tree.get? (payload updates) base with
    | none =>
      rw [baseEdits_none found, List.mem_singleton] at mine
      rw [mine]
      exact apart base isBase
    | some value =>
      rw [baseEdits_some found] at mine
      rcases List.mem_append.1 mine with before | write
      · rcases List.mem_cons.1 before with rfl | above
        · trivial
        · exact Edit.spares_above (apart base isBase) above
      · rw [List.mem_singleton.1 write]
        exact apart base isBase
  · obtain ⟨update, -, found⟩ := List.mem_filterMap.1 policy
    cases update <;> cases found
    trivial

end Truncate

namespace Store

variable {s : Store} {c d : Contents} {p : List String}

theorem at?_patch_of_apart {op : PatchOp} {path : Path} {value : Value}
    (ok : c.patch op path value = .ok d) (apart : Apart path.segments p) :
    Tree.at? p d.data = Tree.at? p c.data := by
  unfold Contents.patch at ok
  obtain ⟨data, applied, rfl⟩ := map_ok ok
  exact Tree.at?_apply_of_apart applied apart

theorem at?_amend_of_spares {e : Edit} (ok : s.amend c e = .ok d) (spares : e.Spares p) :
    Tree.at? p d.data = Tree.at? p c.data := by
  cases e with
  | write op path value => exact at?_patch_of_apart (amendOwned_ok ok).2 spares
  | writeUnchecked op path value => exact at?_patch_of_apart ok spares
  | makeDir path =>
    obtain ⟨⟨data, made⟩, done, rfl⟩ := map_ok ok
    exact Tree.at?_makeDir_of_not_prefix done spares
  | clear path =>
    obtain ⟨-, rfl⟩ | written := amend_clear_ok ok
    · rfl
    · exact at?_patch_of_apart (amendOwned_ok written).2 spares
  | discard path =>
    obtain ⟨-, rfl⟩ | written := amend_discard_ok ok
    · rfl
    · exact at?_patch_of_apart (amendOwned_ok written).2 spares
  | requireOwnerless path =>
    obtain ⟨-, -, same⟩ := bind_ok ok
    cases same
    rfl
  | requireNoClaims =>
    obtain ⟨-, -, same⟩ := bind_ok ok
    cases same
    rfl
  | upsertPolicy id text =>
    cases ok
    rfl
  | deletePolicy id => rw [Contents.deletePolicy_ok ok]
  | dropPolicies start => rw [(Contents.deletePolicies_ok ok).1]

/-- A row of edits leaves alone what all of them are apart from. -/
theorem at?_amendAll_of_spares {edits : List Edit} (ok : s.amendAll c edits = (d, .ok ()))
    (spares : ∀ e ∈ edits, e.Spares p) : Tree.at? p d.data = Tree.at? p c.data := by
  induction edits generalizing c with
  | nil =>
    cases ok
    rfl
  | cons e rest ih =>
    obtain ⟨between, first, others⟩ := amendAll_cons_ok ok
    rw [ih others fun other later => spares other (List.mem_cons_of_mem e later)]
    exact at?_amend_of_spares first (spares e List.mem_cons_self)

end Store

namespace Bundle

variable {s s' : Store} {c d : Contents} {a : Action} {ticket : Nat} {name : String}
  {roots : List Path}

/-! ## Regular actions -/

namespace Action

/-- The action names each bundle once and keeps off the records. -/
structure Regular (a : Action) (c : Contents) : Prop where
  distinct : (a.bundles.map (·.name)).Nodup
  off : ∀ root, a.Touches c root → root.overlaps recordsPath = false

/-- The maps that come with an action are in the order of their keys, as maps are. -/
def Sorted (a : Action) : Prop := ∀ b ∈ a.bundles, b.Sorted ∧ b.manifest.toValue.Ordered

end Action

/-! ### What is recorded about other bundles -/

/-- What is recorded about a bundle stands at a place, unless the records are no object. -/
theorem record?_eq_at? {data : Value}
    (objects : ∀ records, Tree.get? data recordsPath = some records → records.isObject = true) :
    record? data name = Tree.at? (recordsPath.segments ++ [name]) data := by
  unfold record?
  rw [Tree.at?_append]
  show (Tree.get? data recordsPath).bind _ = (Tree.get? data recordsPath).bind _
  cases stands : Tree.get? data recordsPath with
  | none => rfl
  | some records =>
    cases records with
    | object fields =>
      rw [Option.bind_some, Option.bind_some, Tree.at?_cons_object]
      show Dict.find? fields name = _
      cases Dict.find? fields name <;> rfl
    | null | bool | int | float | string | array => cases objects _ stands

theorem record?_of_leaf {data v : Value} (stands : Tree.get? data recordsPath = some v)
    (leaf : v.isObject = false) : record? data name = none := by
  unfold record?
  rw [stands]
  cases v with
  | object fields => cases leaf
  | null | bool | int | float | string | array => rfl

/-- Edits that are apart from what is recorded about a bundle leave it alone. -/
theorem record?_amendAll {edits : List Edit} (ok : s.amendAll c edits = (d, .ok ()))
    (spares : ∀ e ∈ edits, e.Spares (recordsPath.segments ++ [name])) :
    record? d.data name = record? c.data name := by
  have elsewhere : ∀ p ∈ edits.flatMap Edit.puts, recordsPath.hasPrefix p.path = false := by
    intro p present
    obtain ⟨e, isEdit, mine⟩ := List.mem_flatMap.1 present
    refine Path.hasPrefix_eq_false_iff.2 fun above => ?_
    exact (Edit.apart_of_spares (spares e isEdit) mine).1 (above.trans (List.prefix_append _ _))
  have leaves {v : Value} (leaf : v.isObject = false) :
      Tree.get? d.data recordsPath = some v ↔ Tree.get? c.data recordsPath = some v := by
    have same := Store.leaf_amendAll ok leaf (q := recordsPath)
    rw [Placement.settle_elsewhere elsewhere] at same
    exact same
  -- A leaf in the place of the records stays such a leaf, and then nothing is recorded at all.
  by_cases objects : ∀ records, Tree.get? c.data recordsPath = some records → records.isObject = true
  · have objects' : ∀ records, Tree.get? d.data recordsPath = some records →
        records.isObject = true := by
      intro records stands
      by_contra leaf
      exact leaf (objects records ((leaves (Bool.eq_false_iff.2 leaf)).1 stands))
    rw [record?_eq_at? objects, record?_eq_at? objects']
    exact Store.at?_amendAll_of_spares ok spares
  · obtain ⟨records, stands⟩ := Classical.not_forall.1 objects
    obtain ⟨stands, notObject⟩ := Classical.not_imp.1 stands
    have leaf := Bool.eq_false_iff.2 notObject
    rw [record?_of_leaf stands leaf, record?_of_leaf ((leaves leaf).2 stands) leaf]

/-- A root off the records is apart from all that is recorded. -/
theorem apart_of_off {root : Path} (off : root.overlaps recordsPath = false) (name : String) :
    Apart root.segments (recordsPath.segments ++ [name]) :=
  (Path.overlaps_eq_false_iff.1 off).below (List.prefix_append _ _)

theorem spares_dropEdits {names : List String} {p : List String} {e : Edit}
    (present : e ∈ dropEdits names) : e.Spares p := by
  obtain ⟨name, -, rfl⟩ := List.mem_map.1 present
  trivial

/-- An activation leaves alone what is recorded about another bundle when no root overlaps it. -/
theorem record?_activationEdits {bundles : List Bundle} {records : List (Path × Value)}
    (apart : ∀ root ∈ roots, Apart root.segments (recordsPath.segments ++ [name]))
    (recorded : bundles.mapM recordOf = .ok records)
    (ok : s.amendAll c (activationEdits bundles roots records) = (d, .ok ()))
    (other : name ∉ bundles.map (·.name)) : record? d.data name = record? c.data name := by
  refine record?_amendAll ok fun e present => ?_
  rcases List.mem_append.1 present with drop | present
  · exact spares_dropEdits drop
  rcases List.mem_append.1 present with replacement | record
  · exact Truncate.spares_edits apart replacement
  · obtain ⟨record, isRecord, mine⟩ := List.mem_flatMap.1 record
    obtain ⟨b, isBundle, found⟩ := exists_of_mem_results recorded isRecord
    have differs : b.name ≠ name := fun same => other (List.mem_map.2 ⟨b, isBundle, same⟩)
    have apart : Apart record.1.segments (recordsPath.segments ++ [name]) := by
      rw [segments_manifestPath (recordOf_ok found).1]
      simp [recordsPath, differs]
    rcases List.mem_append.1 mine with above | write
    · exact Edit.spares_above apart above
    · rw [List.mem_singleton.1 write]
      exact apart

variable {names : List String} {paths : List Path}

/-- A deactivation leaves alone what is recorded about other bundles. -/
theorem record?_deactivationEdits (off : ∀ root ∈ roots, root.overlaps recordsPath = false)
    (located : names.mapM recordPath = .ok paths)
    (ok : s.amendAll c (deactivationEdits names roots paths) = (d, .ok ()))
    (other : name ∉ names) : record? d.data name = record? c.data name := by
  refine record?_amendAll ok fun e present => ?_
  rcases List.mem_append.1 present with drop | present
  · exact spares_dropEdits drop
  rcases List.mem_append.1 present with replacement | discard
  · exact Truncate.spares_edits (fun root isRoot => apart_of_off (off root isRoot) name) replacement
  · obtain ⟨path, isPath, rfl⟩ := List.mem_map.1 discard
    obtain ⟨given, isName, found⟩ := exists_of_mem_results located isPath
    have differs : given ≠ name := fun same => other (same ▸ isName)
    show Apart path.segments (recordsPath.segments ++ [name])
    rw [segments_recordPath found]
    simp [recordsPath, differs]

theorem settle_discards (q : Path) (before : Option Value) :
    Placement.settle (paths.map fun path => ⟨path, none⟩) q before =
      if paths.any q.hasPrefix then none else before := by
  induction paths generalizing before with
  | nil => rfl
  | cons path rest ih =>
    show Placement.settle (rest.map _) q ((Placement.mk path none).leaves q before) = _
    rw [ih, List.any_cons]
    unfold Placement.leaves
    cases q.hasPrefix path with
    | true =>
      rw [Bool.true_or, if_pos rfl]
      exact ite_self none
    | false => rfl

/-- After a deactivation nothing is recorded about the bundles. -/
theorem record?_deactivationEdits_of_mem (off : ∀ root ∈ roots, root.overlaps recordsPath = false)
    (located : names.mapM recordPath = .ok paths)
    (ok : s.amendAll c (deactivationEdits names roots paths) = (d, .ok ()))
    (mine : name ∈ names) : record? d.data name = none := by
  obtain ⟨place, isPlace, found⟩ := exists_result_of_mem located mine
  have segments := segments_recordPath found
  have noRoot : .root ∉ roots := fun whole => by cases off .root whole
  have misses : ∀ e ∈ deactivationEdits names roots paths, e.Misses place := by
    intro e present
    rcases List.mem_append.1 present with drop | present
    · exact misses_dropEdits drop place
    rcases List.mem_append.1 present with replacement | discard
    · refine Truncate.misses_edits (fun root isRoot above => ?_) replacement
      have inside := Path.hasPrefix_iff_leads.1 above
      rw [segments] at inside
      exact absurd inside (apart_of_off (off root isRoot) name).2
    · obtain ⟨path, isPath, rfl⟩ := List.mem_map.1 discard
      obtain ⟨given, -, located⟩ := exists_of_mem_results located isPath
      intro above
      refine (Path.ext ((Path.hasPrefix_iff_leads.1 above).eq_of_length ?_)).symm
      rw [segments, segments_recordPath located]
      rfl
  have gone : d.get? place = none := by
    rw [Store.get?_amendAll ok misses]
    unfold deactivationEdits
    rw [List.flatMap_append, List.flatMap_append, puts_discards, Placement.settle_append,
      Placement.settle_append, settle_discards,
      if_pos (List.any_eq_true.2 ⟨place, isPlace, Path.hasPrefix_self place⟩)]
  by_contra present
  obtain ⟨entry, stands⟩ := Option.ne_none_iff_exists'.1 present
  have there : d.get? place = some entry := by
    unfold Contents.get? Tree.get?
    rw [segments]
    exact at?_of_entry stands
  rw [gone] at there
  cases there

/-! ## The order of fields -/

theorem sorted_dropEdits {names : List String} {e : Edit} (present : e ∈ dropEdits names) :
    e.Sorted := by
  obtain ⟨name, -, rfl⟩ := List.mem_map.1 present
  trivial

theorem sorted_updates {b : Bundle} (sorted : b.Sorted) {update : Update}
    (present : update ∈ b.updates) : update.Sorted := by
  rcases List.mem_cons.1 present with rfl | policy
  · exact sorted.1
  · obtain ⟨file, -, rfl⟩ := List.mem_map.1 policy
    trivial

theorem ordered_amendAll {edits : List Edit} (ok : s.amendAll c edits = (d, .ok ()))
    (ordered : c.data.Ordered) (sorted : ∀ e ∈ edits, e.Sorted) : d.data.Ordered := by
  have kept := (Store.accounts_notesAll (s := s) ordered sorted).2
  rw [ok] at kept
  exact kept

/-- The edits of an activation bring maps in order only. -/
theorem sorted_activationEdits {bundles : List Bundle} {records : List (Path × Value)}
    (sorted : (Action.activate bundles).Sorted) (recorded : bundles.mapM recordOf = .ok records)
    {e : Edit} (present : e ∈ activationEdits bundles roots records) : e.Sorted := by
  rcases List.mem_append.1 present with drop | present
  · exact sorted_dropEdits drop
  rcases List.mem_append.1 present with replacement | record
  · refine Truncate.sorted_edits [] (fun update present => ?_) e replacement
    obtain ⟨b, isBundle, mine⟩ := List.mem_flatMap.1 present
    exact sorted_updates (sorted b isBundle).1 mine
  · obtain ⟨record, isRecord, mine⟩ := List.mem_flatMap.1 record
    obtain ⟨b, isBundle, found⟩ := exists_of_mem_results recorded isRecord
    rcases List.mem_append.1 mine with above | write
    · obtain ⟨parent, -, rfl⟩ := Edit.mem_above above
      trivial
    · rw [List.mem_singleton.1 write]
      show record.2.Ordered
      rw [(recordOf_ok found).2]
      exact (sorted b isBundle).2

/-- Actions keep the fields of the tree in order. -/
theorem ordered_run (sorted : a.Sorted) (ordered : s.contents.data.Ordered)
    (ran : a.run s ticket = .ok s') : s'.contents.data.Ordered := by
  cases a with
  | activate bundles =>
    obtain ⟨roots, records, -, -, recorded, row⟩ := run_activate_ok ran
    exact ordered_amendAll row ordered fun e => sorted_activationEdits sorted recorded
  | deactivate names =>
    obtain ⟨roots, paths, -, -, row⟩ := run_deactivate_ok ran
    refine ordered_amendAll row ordered fun e present => ?_
    rcases List.mem_append.1 present with drop | present
    · exact sorted_dropEdits drop
    rcases List.mem_append.1 present with replacement | discard
    · exact Truncate.sorted_edits [] (fun update never => by cases never) e replacement
    · obtain ⟨path, -, rfl⟩ := List.mem_map.1 discard
      trivial

/-! ## The roots that are found after an action -/

/-- A regular action changes the roots that are found for the bundles that it names, and no
others. -/
theorem mem_rootsIn_run (regular : a.Regular s.contents) (sorted : a.Sorted)
    (ordered : s.contents.data.Ordered) (ran : a.run s ticket = .ok s') :
    (name, roots) ∈ rootsIn s'.contents.data ↔
      (name ∉ a.names ∧ (name, roots) ∈ rootsIn s.contents.data) ∨
        ∃ b ∈ a.bundles, b.name = name ∧ b.manifest.rootPaths name = .ok roots := by
  rw [mem_rootsIn_iff (ordered_run sorted ordered ran), mem_rootsIn_iff ordered]
  cases a with
  | activate bundles =>
    obtain ⟨all, records, valid, collected, recorded, row⟩ := run_activate_ok ran
    have mem_roots := (mem_allRoots valid collected (c := s.contents)).2
    have off : ∀ root ∈ all, root.overlaps recordsPath = false :=
      fun root isRoot => regular.off root ((mem_roots root).1 isRoot)
    obtain ⟨_, -, rest⟩ := Store.amendAll_append_ok row
    obtain ⟨_, -, recording⟩ := Store.amendAll_append_ok rest
    by_cases named : name ∈ bundles.map (·.name)
    · obtain ⟨b, isBundle, rfl⟩ := List.mem_map.1 named
      have last := lastOfName_of_nodup regular.distinct isBundle
      obtain ⟨_, each, -⟩ := bind_ok collected
      obtain ⟨declared, -, isDeclared⟩ := exists_result_of_mem each isBundle
      rw [entryRoots?_of_last recorded recording last isDeclared]
      constructor
      · intro same
        cases same
        exact .inr ⟨b, isBundle, rfl, isDeclared⟩
      · rintro (⟨unnamed, -⟩ | ⟨other, isOther, same, declared'⟩)
        · exact absurd named unnamed
        · rw [List.inj_on_of_nodup_map regular.distinct isOther isBundle same] at declared'
          cases isDeclared.symm.trans declared'
          rfl
    · have apart := fun root isRoot => apart_of_off (off root isRoot) name
      rw [record?_activationEdits apart recorded row named]
      constructor
      · exact fun found => .inl ⟨named, found⟩
      · rintro (⟨-, found⟩ | ⟨b, isBundle, rfl, -⟩)
        · exact found
        · exact absurd (List.mem_map.2 ⟨b, isBundle, rfl⟩) named
  | deactivate names =>
    obtain ⟨all, paths, located, mem_roots, row⟩ := run_deactivate_ok ran
    have off : ∀ root ∈ all, root.overlaps recordsPath = false :=
      fun root isRoot => regular.off root ((mem_roots root).1 isRoot)
    by_cases named : name ∈ names
    · rw [record?_deactivationEdits_of_mem off located row named]
      constructor
      · intro never
        cases never
      · rintro (⟨unnamed, -⟩ | ⟨b, never, -⟩)
        · exact absurd named unnamed
        · cases never
    · rw [record?_deactivationEdits off located row named]
      constructor
      · exact fun found => .inl ⟨named, found⟩
      · rintro (⟨-, found⟩ | ⟨b, never, -⟩)
        · exact found
        · cases never

/-! ## Redeclared roots -/

/-- Each leaf that stands under none of the roots that an action replaces stands under a root that is
recorded for a bundle that the action does not name. -/
def Action.Redeclares (a : Action) (before : Contents) : Prop :=
  ∀ q v, LeafAt before q v → (∀ root, a.Touches before root → q.hasPrefix root = false) →
    ∃ name roots root, name ∉ a.names ∧ (name, roots) ∈ rootsIn before.data ∧ root ∈ roots ∧
      q.hasPrefix root = true

/-- Where there are no orphans yet, a regular action is considerate exactly when it redeclares. -/
theorem considerate_iff_redeclares (regular : a.Regular s.contents) (sorted : a.Sorted)
    (ordered : s.contents.data.Ordered) (clean : NoOrphans s.contents)
    (ran : a.run s ticket = .ok s') :
    a.Considerate s.contents s'.contents ↔ a.Redeclares s.contents := by
  have found {name : String} {roots : List Path} : (name, roots) ∈ rootsIn s'.contents.data ↔ _ :=
    mem_rootsIn_run regular sorted ordered ran
  constructor
  · intro considerate q v stood aside
    obtain ⟨name, roots, root, isFound, isRoot, under⟩ := considerate.data q v stood aside
    obtain ⟨unnamed, recorded⟩ | ⟨b, isBundle, rfl, declared⟩ := found.1 isFound
    · exact ⟨name, roots, root, unnamed, recorded, isRoot, under⟩
    · -- A root that the action declares is one that it replaces, so nothing aside stands under it.
      have touched : a.Touches s.contents root := by
        cases a with
        | activate bundles => exact ⟨b, isBundle, roots, declared, isRoot⟩
        | deactivate names => cases isBundle
      rw [aside root touched] at under
      cases under
  · intro redeclares
    constructor
    case data =>
      intro q v stood aside
      obtain ⟨name, roots, root, unnamed, recorded, isRoot, under⟩ := redeclares q v stood aside
      exact ⟨name, roots, root, found.2 (.inl ⟨unnamed, recorded⟩), isRoot, under⟩
    case policies =>
      intro id present unnamed
      obtain ⟨name, roots, file, recorded, rfl⟩ := clean.policies id present
      refine ⟨name, roots, file, found.2 (.inl ⟨fun isName => unnamed ?_, recorded⟩), rfl⟩
      refine ⟨name, isName, ?_⟩
      rw [List.isPrefixOf_iff_prefix, toList_policyStart]
      exact ⟨file.toList, by simp⟩
    case repeats =>
      intro b again q v brings
      exact absurd (lastOfName_of_nodup regular.distinct brings.bundle) again

/-- The roots that are found for a bundle are those read from its manifest. -/
theorem recordedRoot_of_mem (ordered : c.data.Ordered) {path root : Path}
    (located : manifestPath name = .ok path) (recorded : (name, roots) ∈ rootsIn c.data)
    (isRoot : root ∈ roots) : RecordedRoot c name root := by
  obtain ⟨entry, found, read⟩ := Option.bind_eq_some_iff.1 ((mem_rootsIn_iff ordered).1 recorded)
  obtain ⟨raw, isRaw, read⟩ := Option.bind_eq_some_iff.1 read
  obtain ⟨m, isManifest, declared⟩ := Option.bind_eq_some_iff.1 read
  refine ⟨path, raw, m, roots, located, ?_, isManifest, ?_, isRoot⟩
  · unfold Contents.get? Tree.get?
    rw [segments_manifestPath located, show ["system", "bundles", name, "manifest"] =
      (recordsPath.segments ++ [name]) ++ ["manifest"] from rfl, Tree.at?_append,
      at?_of_entry found]
    exact at?_of_field? isRaw
  · cases result : m.rootPaths name with
    | ok roots =>
      rw [result] at declared
      cases declared
      rfl
    | error e =>
      rw [result] at declared
      cases declared

/-- A deactivation leaves no orphans where there were none. -/
theorem redeclares_deactivate {names : List String} (ordered : s.contents.data.Ordered)
    (clean : NoOrphans s.contents) (ran : (Action.deactivate names).run s ticket = .ok s') :
    (Action.deactivate names).Redeclares s.contents := by
  intro q v stood aside
  obtain ⟨name, roots, root, recorded, isRoot, under⟩ := clean.data q v stood
  refine ⟨name, roots, root, fun isName => ?_, recorded, isRoot, under⟩
  -- If its bundle is deactivated, the root that covers the leaf is replaced.
  obtain ⟨u, deactivated, -⟩ := bind_ok ran
  obtain ⟨lists, _, _, recordedAll, -⟩ := deactivateIn_ok (writes_openWrite s ticket).1 deactivated
  obtain ⟨_, -, found⟩ := exists_result_of_mem recordedAll isName
  obtain ⟨path, located, -⟩ := bind_ok found
  rw [aside root ⟨name, isName, recordedRoot_of_mem ordered located recorded isRoot⟩] at under
  cases under

/-! ## Runs -/

/-- An action that has been committed, with the contents before and after. -/
structure Step where
  action : Action
  before : Contents
  after : Contents

/-- The committed actions of a run from some contents on. A failed action commits nothing. -/
inductive Run : Contents → List Step → Prop
  | none (c : Contents) : Run c []
  | failed {c : Contents} {s : Store} {a : Action} {ticket : Nat} {e : BundleError}
      {steps : List Step} :
      s.contents = c → a.run s ticket = .error e → Run c steps → Run c steps
  | done {c : Contents} {s s' : Store} {a : Action} {ticket : Nat} {steps : List Step} :
      s.contents = c → a.run s ticket = .ok s' → Run s'.contents steps →
      Run c (⟨a, c, s'.contents⟩ :: steps)

variable {steps : List Step}

/-- An empty store has no orphans. -/
theorem noOrphans_empty : NoOrphans ⟨.empty, []⟩ where
  data := fun q _ found => absurd found.stands (no_leaf_in_empty found.leaf q.segments)
  policies := fun _ never => by cases never

theorem Run.noOrphans_iff (run : Run c steps) :
    (∀ step ∈ steps, NoOrphans step.after) ↔
      ∀ step ∈ steps, step.action.Considerate step.before step.after := by
  induction run with
  | none c => simp
  | failed _ _ _ ih => exact ih
  | done same ran _ ih =>
    subst same
    rw [List.forall_mem_cons, List.forall_mem_cons, ih, Bundle.noOrphans_iff ran]

/-- The same told from the trees before the actions, where these are regular. -/
theorem Run.noOrphans_iff_redeclares (run : Run c steps) (ordered : c.data.Ordered)
    (clean : NoOrphans c)
    (regular : ∀ step ∈ steps, step.action.Regular step.before ∧ step.action.Sorted) :
    (∀ step ∈ steps, NoOrphans step.after) ↔ ∀ step ∈ steps, step.action.Redeclares step.before := by
  induction run with
  | none c => simp
  | failed _ _ _ ih => exact ih ordered clean regular
  | done same ran _ ih =>
    subst same
    obtain ⟨⟨isRegular, sorted⟩, others⟩ := List.forall_mem_cons.1 regular
    have first := (Bundle.noOrphans_iff ran).trans
      (considerate_iff_redeclares isRegular sorted ordered clean ran)
    -- What follows is told from the tree after this action, which has to be without orphans.
    have rest (stillClean : NoOrphans _) := ih (ordered_run sorted ordered ran) stillClean others
    rw [List.forall_mem_cons, List.forall_mem_cons]
    constructor
    · rintro ⟨here, later⟩
      exact ⟨first.1 here, (rest here).1 later⟩
    · rintro ⟨here, later⟩
      have clean' := first.2 here
      exact ⟨clean', (rest clean').2 later⟩

/-- In a run from an empty store there are no orphans in any committed state exactly when all actions
are considerate: when the bundles are named once in each call and no roots overlap the records, exactly
when they redeclare. -/
theorem noOrphans_run_iff (run : Run ⟨.empty, []⟩ steps) :
    ((∀ step ∈ steps, NoOrphans step.after) ↔
      ∀ step ∈ steps, step.action.Considerate step.before step.after) ∧
    ((∀ step ∈ steps, step.action.Regular step.before ∧ step.action.Sorted) →
      ((∀ step ∈ steps, NoOrphans step.after) ↔
        ∀ step ∈ steps, step.action.Redeclares step.before)) :=
  ⟨run.noOrphans_iff,
    fun regular => run.noOrphans_iff_redeclares Value.ordered_empty noOrphans_empty regular⟩

/-! ### Samples -/

/-- A revision of a bundle with one root, a leaf there, and a policy. -/
def revision (root : String) (leaf : Int) : Bundle :=
  { name := "b", manifest := ⟨"1", some [root], []⟩
    data := [(root, .int leaf)], policies := [("p.rego", "package p")] }

/-- The store after an action, or as it was when the action failed. -/
def Action.next (s : Store) (a : Action) : Store :=
  match a.run s 1 with
  | .ok s' => s'
  | .error _ => s

theorem run_next (succeeds : (a.run s 1).isOk = true) : a.run s 1 = .ok (a.next s) := by
  unfold Action.next
  cases ran : a.run s 1 with
  | ok s' => rfl
  | error e =>
    rw [ran] at succeeds
    cases succeeds

/-- A store in which nothing but the first revision is active. -/
def firstActive : Store := (Action.activate [revision "x" 1]).next (.new 1 .empty)

/-- The first revision is activated, then another one. -/
def revisedTo (b : Bundle) : List Step :=
  [⟨.activate [revision "x" 1], ⟨.empty, []⟩, firstActive.contents⟩,
    ⟨.activate [b], firstActive.contents, ((Action.activate [b]).next firstActive).contents⟩]

theorem run_revisedTo {b : Bundle}
    (succeeds : ((Action.activate [b]).run firstActive 1).isOk = true) :
    Run ⟨.empty, []⟩ (revisedTo b) :=
  .done (s := .new 1 .empty) rfl (run_next rfl) (.done rfl (run_next succeeds) (.none _))

theorem declares_revision {leaf : Int} {root : Path} :
    (revision "x" leaf).Declares root ↔ root = ⟨["x"], by decide⟩ := by
  have declared : (revision "x" leaf).manifest.rootPaths (revision "x" leaf).name =
    .ok [⟨["x"], by decide⟩] := rfl
  rw [declares_iff declared, List.mem_singleton]

theorem touches_revision {leaf : Int} {root : Path} :
    (Action.activate [revision "x" leaf]).Touches c root ↔ root = ⟨["x"], by decide⟩ := by
  show (∃ b ∈ [revision "x" leaf], b.Declares root) ↔ _
  simp only [List.mem_singleton, exists_eq_left]
  exact declares_revision

theorem regular_revision (leaf : Int) (c : Contents) :
    (Action.activate [revision "x" leaf]).Regular c ∧
      (Action.activate [revision "x" leaf]).Sorted := by
  refine ⟨⟨List.nodup_singleton _, fun root touched => ?_⟩, fun b isBundle => ?_⟩
  · rw [touches_revision.1 touched]
    rfl
  · rw [List.mem_singleton.1 isBundle]
    refine ⟨⟨⟨List.pairwise_singleton .., trivial, trivial⟩, List.pairwise_singleton ..⟩, ?_⟩
    show (Value.object [("revision", .string "1"), ("roots", .array [.string "x"])]).Ordered
    refine ⟨?_, trivial, ⟨trivial, trivial⟩, trivial⟩
    exact List.pairwise_pair.2 (by decide)

/-- There are no orphans when a revision declares the root again. -/
theorem noOrphans_after_revision :
    Run ⟨.empty, []⟩ (revisedTo (revision "x" 2)) ∧
      ∀ step ∈ revisedTo (revision "x" 2), NoOrphans step.after := by
  have run := run_revisedTo (b := revision "x" 2) rfl
  refine ⟨run, ((noOrphans_run_iff run).2 ?_).2 ?_⟩
  · intro step isStep
    simp only [revisedTo, List.mem_cons, List.not_mem_nil, or_false] at isStep
    obtain rfl | rfl := isStep
    · exact regular_revision 1 _
    · exact regular_revision 2 _
  · intro step isStep q v stood aside
    simp only [revisedTo, List.mem_cons, List.not_mem_nil, or_false] at isStep
    obtain rfl | rfl := isStep
    · exact absurd stood.stands (no_leaf_in_empty stood.leaf q.segments)
    · -- What stands in the store was brought under the root that is declared again.
      have does : (Action.activate [revision "x" 1]).Does ⟨.empty, []⟩ firstActive.contents :=
        does_run (run_next (s := .new 1 .empty) rfl)
      obtain ⟨b, brings⟩ | ⟨earlier, -⟩ := (does.leaves q v).1 stood
      · obtain ⟨root, declared, under⟩ := brings.root
        rw [List.mem_singleton.1 brings.bundle, declares_revision] at declared
        rw [aside root (touches_revision.2 declared)] at under
        cases under
      · exact absurd earlier.stands (no_leaf_in_empty earlier.leaf q.segments)

/-- When the root is another one, what stood under the first is found no more. -/
theorem orphaned_after_move :
    ¬ ∀ steps, Run ⟨.empty, []⟩ steps → ∀ step ∈ steps, NoOrphans step.after := by
  intro always
  have clean :=
    always _ (run_revisedTo (b := revision "y" 2) rfl) _ (List.mem_cons_of_mem _ List.mem_cons_self)
  obtain ⟨name, roots, root, found, isRoot, under⟩ :=
    clean.data ⟨["x"], by decide⟩ (.int 1) ⟨rfl, rfl, rfl⟩
  have all : rootsIn ((Action.activate [revision "y" 2]).next firstActive).contents.data =
      [("b", [⟨["y"], by decide⟩])] := rfl
  rw [all] at found
  cases List.mem_singleton.1 found
  cases List.mem_singleton.1 isRoot
  cases under

end Bundle

end DocStore
