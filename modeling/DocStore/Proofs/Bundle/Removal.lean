import DocStore.Proofs.Bundle.Orphans
import DocStore.Proofs.Store.Changes
import DocStore.Proofs.System.Courses

/-!
# What a deactivation removes

A deactivation first looks up the manifests of all its names. Then it removes the roots that are
recorded there, and what is recorded about the names.

* The roots may overlap one another, or the records: bundles that are activated separately are not
  compared. So a removal may find nothing left where it looks, and is content with that. What is
  removed once is not brought back by a later removal.
* When a name has no manifest that can be read, nothing at all is removed.

Results:
  * `deactivation_removes`: what stands in the store after a deactivation, and that a name without a
    manifest makes the whole of it fail without a trace.
-/

namespace DocStore

/-! ## Removing edits -/

namespace Edit

/-- The edit removes what stands at a path, and is content with nothing there. -/
def Clears (path : Path) (e : Edit) : Prop := e = .clear path ∨ e = .discard path

end Edit

namespace Store

variable {s : Store} {c d : Contents} {e : Edit} {edits : List Edit} {path q : Path}

theorem amend_of_clears (clears : e.Clears path) (ok : s.amend c e = .ok d) :
    (c.get? path = none ∧ d = c) ∨ c.patch .remove path .null = .ok d := by
  rcases clears with rfl | rfl
  · exact (amend_clear_ok ok).imp_right fun written => (amendOwned_ok written).2
  · exact (amend_discard_ok ok).imp_right fun written => (amendOwned_ok written).2

/-- What a patch removes stood there. -/
theorem stands_of_patch_remove {value : Value} (ok : c.patch .remove path value = .ok d) :
    c.get? path ≠ none := by
  unfold Contents.patch at ok
  obtain ⟨data, applied, -⟩ := map_ok ok
  intro nothing
  have something := Tree.get?_of_apply (by decide) applied
  change (c.get? path).isSome = true at something
  rw [nothing] at something
  cases something

/-- What a removal leaves at another place, which is not above the removed one. -/
theorem get?_of_patch_remove {value : Value} (ok : c.patch .remove path value = .ok d)
    (misses : path.hasPrefix q = true → path = q) :
    d.get? q = if q.hasPrefix path then none else c.get? q := by
  rw [Contents.get?_patch ok misses, if_pos rfl]
  rfl

/-- A removal does not bring anything to a place where nothing stands. -/
theorem absent_of_patch_remove {value : Value} (ok : c.patch .remove path value = .ok d)
    (nothing : c.get? q = none) : d.get? q = none := by
  -- The removed place is not strictly below the other one, for something stood at it.
  have misses : path.hasPrefix q = true → path = q := fun below =>
    absurd (Tree.at?_eq_none_of_prefix (Path.hasPrefix_iff_leads.1 below) nothing)
      (stands_of_patch_remove ok)
  rw [get?_of_patch_remove ok misses, nothing, ite_self]

/-- Where nothing stands there is nothing to remove. -/
theorem amend_clears_nothing (clears : e.Clears path) (nothing : c.get? path = none)
    (ok : s.amend c e = .ok d) : d = c := by
  obtain ⟨-, same⟩ | removed := amend_of_clears clears ok
  · exact same
  · exact absurd nothing (stands_of_patch_remove removed)

/-- Nothing is left at the path of a removal. -/
theorem get?_of_clears (clears : e.Clears path) (ok : s.amend c e = .ok d) :
    d.get? path = none := by
  obtain ⟨nothing, rfl⟩ | removed := amend_of_clears clears ok
  · exact nothing
  · rw [get?_of_patch_remove removed fun _ => rfl, if_pos (Path.hasPrefix_self path)]

theorem absent_of_clears (clears : e.Clears path) (ok : s.amend c e = .ok d)
    (nothing : c.get? q = none) : d.get? q = none := by
  obtain ⟨-, rfl⟩ | removed := amend_of_clears clears ok
  · exact nothing
  · exact absent_of_patch_remove removed nothing

/-- A row of removals does not bring anything to a place where nothing stands. -/
theorem absent_amendAll (ok : s.amendAll c edits = (d, .ok ()))
    (removals : ∀ e ∈ edits, ∃ path, e.Clears path) (nothing : c.get? q = none) :
    d.get? q = none := by
  induction edits generalizing c with
  | nil =>
    cases ok
    exact nothing
  | cons e rest ih =>
    obtain ⟨between, first, others⟩ := amendAll_cons_ok ok
    obtain ⟨path, clears⟩ := removals e List.mem_cons_self
    exact ih others (fun later present => removals later (List.mem_cons_of_mem e present))
      (absent_of_clears clears first nothing)

/-- After a row of removals nothing is left at the path of any of them. -/
theorem get?_amendAll_clears (ok : s.amendAll c edits = (d, .ok ()))
    (removals : ∀ e ∈ edits, ∃ path, e.Clears path) (present : e ∈ edits)
    (clears : e.Clears path) : d.get? path = none := by
  induction edits generalizing c with
  | nil => cases present
  | cons first rest ih =>
    obtain ⟨between, amended, others⟩ := amendAll_cons_ok ok
    have onward : ∀ later ∈ rest, ∃ path, later.Clears path :=
      fun later isLater => removals later (List.mem_cons_of_mem first isLater)
    rcases List.mem_cons.1 present with rfl | later
    · exact absent_amendAll others onward (get?_of_clears clears amended)
    · exact ih others onward later

/-- A row of removals where nothing stands changes nothing. -/
theorem amendAll_clears_nothing (ok : s.amendAll c edits = (d, .ok ()))
    (removals : ∀ e ∈ edits, ∃ path, e.Clears path ∧ c.get? path = none) : d = c := by
  induction edits generalizing c with
  | nil =>
    cases ok
    rfl
  | cons e rest ih =>
    obtain ⟨between, first, others⟩ := amendAll_cons_ok ok
    obtain ⟨path, clears, nothing⟩ := removals e List.mem_cons_self
    cases amend_clears_nothing clears nothing first
    exact ih others fun later present => removals later (List.mem_cons_of_mem e present)

end Store

/-! ## The edits of a deactivation -/

namespace Tree

/-- An empty tree has nothing below its root. -/
theorem get?_empty {path : Path} (below : path ≠ .root) : get? .empty path = none := by
  unfold get?
  cases segments : path.segments with
  | nil => exact absurd (Path.ext segments) below
  | cons key rest => rfl

end Tree

/-- To replace places by nothing is to remove what stands there. -/
theorem Truncate.edits_nothing {bases : List Path} (parts : .root ∉ bases) :
    Truncate.edits bases [] = bases.map .clear := by
  have nothing : ∀ base ∈ bases, Truncate.baseEdits (Truncate.payload []) base = [.clear base] := by
    intro base isBase
    refine Truncate.baseEdits_none (Tree.get?_empty fun whole => parts ?_)
    exact whole ▸ isBase
  rw [Truncate.edits_parts parts, List.map_eq_flatMap]
  show bases.flatMap _ ++ [] = _
  rw [List.append_nil]
  exact List.flatMap_congr nothing

namespace Bundle

variable {s : Store} {t u : Transaction} {c d : Contents} {names : List String}
  {roots paths : List Path} {q : Path}

/-- The root is not the place of a record. -/
theorem recordPath_ne_root {name : String} {path : Path} (located : recordPath name = .ok path) :
    path ≠ .root := by
  rintro rfl
  exact absurd (segments_recordPath located) (List.cons_ne_nil _ _).symm

/-- The part of a deactivation that is about data, when the root is not among its roots. -/
theorem removals_of_parts (parts : .root ∉ roots)
    (ok : s.amendAll c (deactivationEdits names roots paths) = (d, .ok ())) :
    ∃ between, between.data = c.data ∧
      s.amendAll between (roots.map .clear ++ paths.map .discard) = (d, .ok ()) := by
  obtain ⟨between, drops, rest⟩ := Store.amendAll_append_ok ok
  refine ⟨between, data_dropEdits drops, ?_⟩
  rw [Truncate.edits_nothing parts] at rest
  exact rest

theorem clears_removals :
    ∀ e ∈ roots.map Edit.clear ++ paths.map Edit.discard, ∃ path, e.Clears path := by
  intro e present
  rcases List.mem_append.1 present with clear | discard
  · obtain ⟨root, -, rfl⟩ := List.mem_map.1 clear
    exact ⟨root, .inl rfl⟩
  · obtain ⟨path, -, rfl⟩ := List.mem_map.1 discard
    exact ⟨path, .inr rfl⟩

/-- With the root among the roots nothing at all is left. -/
theorem data_of_whole (located : names.mapM recordPath = .ok paths) (whole : .root ∈ roots)
    (ok : s.amendAll c (deactivationEdits names roots paths) = (d, .ok ())) : d.data = .empty := by
  obtain ⟨dropped, -, rest⟩ := Store.amendAll_append_ok ok
  obtain ⟨emptied, replacing, discards⟩ := Store.amendAll_append_ok rest
  have nothing : emptied.data = .empty := by
    rw [Truncate.edits_whole whole] at replacing
    obtain ⟨unclaimed, -, written⟩ := Store.amendAll_cons_ok replacing
    obtain ⟨_, patched, done⟩ := Store.amendAll_cons_ok written
    cases done
    change unclaimed.patch .add .root .empty = .ok emptied at patched
    unfold Contents.patch at patched
    obtain ⟨data, applied, rfl⟩ := map_ok patched
    exact (Tree.apply_root rfl applied).2.2
  have same : d = emptied := by
    refine Store.amendAll_clears_nothing discards fun e present => ?_
    obtain ⟨path, isPath, rfl⟩ := List.mem_map.1 present
    obtain ⟨name, -, found⟩ := exists_of_mem_results located isPath
    refine ⟨path, .inr rfl, ?_⟩
    unfold Contents.get?
    rw [nothing]
    exact Tree.get?_empty (recordPath_ne_root found)
  rw [same, nothing]

/-- Nothing is left at a root below the root of the tree. -/
theorem get?_of_root (located : names.mapM recordPath = .ok paths)
    (ok : s.amendAll c (deactivationEdits names roots paths) = (d, .ok ())) {root : Path}
    (isRoot : root ∈ roots) (below : root ≠ .root) : d.get? root = none := by
  by_cases whole : .root ∈ roots
  · unfold Contents.get?
    rw [data_of_whole located whole ok]
    exact Tree.get?_empty below
  · obtain ⟨between, -, row⟩ := removals_of_parts whole ok
    refine Store.get?_amendAll_clears row clears_removals (e := .clear root) ?_ (.inl rfl)
    exact List.mem_append_left _ (List.mem_map.2 ⟨root, isRoot, rfl⟩)

/-- Nothing is left of what was recorded about a bundle. -/
theorem get?_of_record (located : names.mapM recordPath = .ok paths)
    (ok : s.amendAll c (deactivationEdits names roots paths) = (d, .ok ())) {path : Path}
    (isPath : path ∈ paths) : d.get? path = none := by
  by_cases whole : .root ∈ roots
  · obtain ⟨name, -, found⟩ := exists_of_mem_results located isPath
    unfold Contents.get?
    rw [data_of_whole located whole ok]
    exact Tree.get?_empty (recordPath_ne_root found)
  · obtain ⟨between, -, row⟩ := removals_of_parts whole ok
    refine Store.get?_amendAll_clears row clears_removals (e := .discard path) ?_ (.inr rfl)
    exact List.mem_append_right _ (List.mem_map.2 ⟨path, isPath, rfl⟩)

/-- What overlaps neither a root nor a record stays. -/
theorem get?_elsewhere (ok : s.amendAll c (deactivationEdits names roots paths) = (d, .ok ()))
    (awayRoots : ∀ root ∈ roots, q.overlaps root = false)
    (awayRecords : ∀ path ∈ paths, q.overlaps path = false) : d.get? q = c.get? q := by
  have parts : .root ∉ roots := fun whole => by
    have inside := awayRoots .root whole
    unfold Path.overlaps at inside
    rw [Path.hasPrefix_root, Bool.true_or] at inside
    cases inside
  obtain ⟨between, same, row⟩ := removals_of_parts parts ok
  have apart {path : Path} (away : q.overlaps path = false) :
      path.hasPrefix q = false ∧ q.hasPrefix path = false :=
    not_above_of_overlaps away (Path.hasPrefix_self path)
  have misses : ∀ e ∈ roots.map Edit.clear ++ paths.map Edit.discard, e.Misses q := by
    intro e present
    rcases List.mem_append.1 present with clear | discard
    · obtain ⟨root, isRoot, rfl⟩ := List.mem_map.1 clear
      exact fun above => absurd above (Bool.eq_false_iff.1 (apart (awayRoots root isRoot)).1)
    · obtain ⟨path, isPath, rfl⟩ := List.mem_map.1 discard
      exact fun above => absurd above (Bool.eq_false_iff.1 (apart (awayRecords path isPath)).1)
  have outside : ∀ p ∈ (roots.map Edit.clear ++ paths.map Edit.discard).flatMap Edit.puts,
      q.hasPrefix p.path = false := by
    intro p isPlacement
    obtain ⟨e, present, isMine⟩ := List.mem_flatMap.1 isPlacement
    rcases List.mem_append.1 present with clear | discard
    · obtain ⟨root, isRoot, rfl⟩ := List.mem_map.1 clear
      rw [List.mem_singleton.1 isMine]
      exact (apart (awayRoots root isRoot)).2
    · obtain ⟨path, isPath, rfl⟩ := List.mem_map.1 discard
      rw [List.mem_singleton.1 isMine]
      exact (apart (awayRecords path isPath)).2
  rw [Store.get?_amendAll row misses, Placement.settle_elsewhere outside]
  unfold Contents.get?
  rw [same]

/-! ## Manifests -/

/-- A manifest that can be read is recorded under a name. -/
def Recorded (c : Contents) (name : String) : Prop :=
  ∃ path raw m roots, manifestPath name = .ok path ∧ c.get? path = some raw ∧
    Manifest.ofValue? raw = some m ∧ m.rootPaths name = .ok roots

theorem recorded_of_ok (write : s.Writes t) {name : String} {found : List Path}
    (ok : recordedRoots s t name = .ok found) : Recorded (s.view t) name := by
  unfold recordedRoots at ok
  obtain ⟨path, located, ok⟩ := bind_ok ok
  rw [Store.read_eq_lookup write] at ok
  unfold Store.lookup at ok
  cases stands : Tree.get? (s.view t).data path with
  | none =>
    rw [stands] at ok
    cases ok
  | some raw =>
    rw [stands] at ok
    dsimp only at ok
    cases read : Manifest.ofValue? raw with
    | none =>
      rw [read] at ok
      cases ok
    | some m =>
      rw [read] at ok
      exact ⟨path, raw, m, found, located, stands, read, ok⟩

/-- A deactivation that succeeds has found a manifest for each of its names. -/
theorem recorded_of_deactivation (write : s.Writes t) (ok : deactivateIn s t names = .ok u) :
    ∀ name ∈ names, Recorded (s.view t) name := by
  obtain ⟨lists, paths, d, recorded, -, -, -⟩ := deactivateIn_ok write ok
  intro name isName
  obtain ⟨found, -, read⟩ := exists_result_of_mem recorded isName
  exact recorded_of_ok write read

/-! ## Deactivation -/

/-- What stands in a store when the named bundles have been taken out of what was `before`. -/
structure Removed (names : List String) (before after : Contents) : Prop where
  /-- A manifest was recorded under each name. -/
  recorded : ∀ name ∈ names, Recorded before name
  /-- Nothing is found at a recorded root. -/
  roots : ∀ name ∈ names, ∀ root, RecordedRoot before name root → root ≠ .root →
    Store.lookup after.data root = .error (.notFound root)
  /-- When the root of the tree is recorded, the tree is empty. -/
  whole : ∀ name ∈ names, RecordedRoot before name .root → after.data = .empty
  /-- Nothing is recorded about the bundles any more. -/
  records : ∀ name ∈ names, ∃ path, recordPath name = .ok path ∧
    Store.lookup after.data path = .error (.notFound path)
  /-- There are no policies under the names. -/
  policies : ∀ name ∈ names, ∀ id, (policyStart name).toList.isPrefixOf id.toList = true →
    after.policies.find? id = none
  /-- What overlaps neither a recorded root nor the records of a bundle is as it was. -/
  elsewhere : ∀ q : Path,
    (∀ name ∈ names, ∀ root, RecordedRoot before name root → q.overlaps root = false) →
    (∀ name ∈ names, ∀ path, recordPath name = .ok path → q.overlaps path = false) →
    Store.lookup after.data q = Store.lookup before.data q
  /-- Policies under other names are as they were. -/
  otherPolicies : ∀ id,
    (∀ name ∈ names, (policyStart name).toList.isPrefixOf id.toList = false) →
    after.policies.find? id = before.policies.find? id

theorem lookup_of_absent (nothing : c.get? q = none) :
    Store.lookup c.data q = .error (.notFound q) := by
  unfold Store.lookup
  change Tree.get? c.data q = none at nothing
  rw [nothing]

theorem removed_of_ok (write : s.Writes t) (ok : deactivateIn s t names = .ok u) :
    Removed names (s.view t) (s.install u).contents := by
  have recorded := recorded_of_deactivation write ok
  obtain ⟨lists, paths, d, found, located, row, continues⟩ := deactivateIn_ok write ok
  rw [Store.contents_install, continues.view]
  have mem_roots (root : Path) :
      root ∈ lists.flatten ↔ ∃ name ∈ names, RecordedRoot (s.view t) name root := by
    rw [List.mem_flatten]
    constructor
    · rintro ⟨list, isList, isRoot⟩
      obtain ⟨name, isName, read⟩ := exists_of_mem_results found isList
      exact ⟨name, isName, (recordedRoot_iff write read).1 isRoot⟩
    · rintro ⟨name, isName, isRoot⟩
      obtain ⟨list, isList, read⟩ := exists_result_of_mem found isName
      exact ⟨list, isList, (recordedRoot_iff write read).2 isRoot⟩
  constructor
  case recorded => exact recorded
  case roots =>
    intro name isName root isRoot below
    exact lookup_of_absent
      (get?_of_root located row ((mem_roots root).2 ⟨name, isName, isRoot⟩) below)
  case whole =>
    intro name isName isRoot
    exact data_of_whole located ((mem_roots .root).2 ⟨name, isName, isRoot⟩) row
  case records =>
    intro name isName
    obtain ⟨path, isPath, placed⟩ := exists_result_of_mem located isName
    exact ⟨path, placed, lookup_of_absent (get?_of_record located row isPath)⟩
  case policies =>
    intro name isName id starts
    rw [find?_deactivationEdits row, if_pos (List.any_eq_true.2 ⟨name, isName, starts⟩)]
  case elsewhere =>
    intro q awayRoots awayRecords
    refine Store.lookup_eq_iff.2 (get?_elsewhere row (fun root isRoot => ?_) fun path isPath => ?_)
    · obtain ⟨name, isName, isRecorded⟩ := (mem_roots root).1 isRoot
      exact awayRoots name isName root isRecorded
    · obtain ⟨name, isName, placed⟩ := exists_of_mem_results located isPath
      exact awayRecords name isName path placed
  case otherPolicies =>
    intro id others
    have unnamed : ¬ names.any (fun name =>
        (policyStart name).toList.isPrefixOf id.toList) = true := fun named => by
      obtain ⟨name, isName, starts⟩ := List.any_eq_true.1 named
      rw [others name isName] at starts
      cases starts
    rw [find?_deactivationEdits row, if_neg unnamed]

end Bundle

namespace System

variable {sys : System} {place ticket : Nat} {names : List String}

/-- A deactivation that comes upon a name without a manifest has no effect. -/
theorem untraced_deactivate {name : String} (isName : name ∈ names)
    (unrecorded : ¬ Bundle.Recorded (sys.storeAt place).contents name) :
    ∃ refusal, (sys.performErrand ⟨place, ticket, .deactivate names, .opening⟩).2 =
        .finished (.error refusal) ∧
      Untraced sys (sys.performErrand ⟨place, ticket, .deactivate names, .opening⟩).1 := by
  have fails : ∃ refusal, (sys.performErrand ⟨place, ticket, .deactivate names, .opening⟩).2 =
      .finished (.error refusal) := by
    obtain ⟨writes, view⟩ := Bundle.writes_openWrite (sys.storeAt place) ticket
    cases done : Bundle.deactivateIn ((sys.storeAt place).openWrite ticket).1
        ((sys.storeAt place).openWrite ticket).2 names with
    | ok u =>
      have recorded := Bundle.recorded_of_deactivation writes done name isName
      rw [view] at recorded
      exact absurd recorded unrecorded
    | error e =>
      refine ⟨.bundle e, ?_⟩
      unfold performErrand
      simp only [Plan.isWrite, if_true, Plan.perform, done, Plan.bundled]
  obtain ⟨refusal, failed⟩ := fails
  refine ⟨refusal, failed, untraced_performErrand rfl fun outcome succeeded => ?_⟩
  rw [failed] at succeeded
  cases succeeded

end System

/-! ## The result -/

namespace Bundle

/-- A deactivation that succeeds removes what is recorded about its names, and nothing else. When a
name has no manifest, an admitted deactivation fails, and nothing that anybody can tell has
changed. -/
theorem deactivation_removes (names : List String) :
    (∀ (s : Store) (t u : Transaction), s.Writes t → deactivateIn s t names = .ok u →
      Removed names (s.view t) (s.install u).contents) ∧
    ∀ (sys : System) (place ticket : Nat), ∀ name ∈ names,
      ¬ Recorded (sys.storeAt place).contents name →
        ∃ refusal, (sys.performErrand ⟨place, ticket, .deactivate names, .opening⟩).2 =
            .finished (.error refusal) ∧
          System.Untraced sys
            (sys.performErrand ⟨place, ticket, .deactivate names, .opening⟩).1 :=
  ⟨fun _ _ _ write ok => removed_of_ok write ok,
    fun _ _ _ _ isName unrecorded => System.untraced_deactivate isName unrecorded⟩

/-- A manifest with the given roots, as it is recorded. -/
def manifestWith (roots : List String) : Value :=
  .object [("manifest", (Manifest.mk "1" (some roots) []).toValue)]

/-- A store with two bundles whose roots overlap: one root of `b` lies below that of `a`, and the
other one is where the manifest of `a` is recorded. -/
def entangledStore : Store :=
  { Store.new 1 .empty with contents :=
    { data := .object
        [("system", .object [("bundles", .object
          [("a", manifestWith ["x"]), ("b", manifestWith ["x/k", "system/bundles/a"])])]),
        ("x", .object [("k", .int 1)]), ("y", .int 2)]
      policies := [("a/p.rego", "package a"), ("c/p.rego", "package c")] } }

/-- A writer of that store. -/
def entangledWriter : Transaction := (entangledStore.openWrite 1).2

/-- A system with that store. -/
def entangled : System :=
  { System.new [] .absent .empty with stores := [entangledStore] }

/-- Both bundles are removed, though one of them is named twice; together with one that is not
there none is. -/
theorem entangled_removes :
    (∃ u, deactivateIn entangledStore entangledWriter ["a", "b", "a"] = .ok u ∧
      Removed ["a", "b", "a"] (entangledStore.view entangledWriter)
        (entangledStore.install u).contents) ∧
    ∃ refusal, (entangled.performErrand ⟨0, 1, .deactivate ["a", "c"], .opening⟩).2 =
        .finished (.error refusal) ∧
      System.Untraced entangled
        (entangled.performErrand ⟨0, 1, .deactivate ["a", "c"], .opening⟩).1 := by
  constructor
  · have succeeds :
        (deactivateIn entangledStore entangledWriter ["a", "b", "a"]).isOk = true := by
      decide +kernel
    cases done : deactivateIn entangledStore entangledWriter ["a", "b", "a"] with
    | error e =>
      rw [done] at succeeds
      cases succeeds
    | ok u => exact ⟨u, rfl, (deactivation_removes ["a", "b", "a"]).1 _ _ u ⟨rfl, rfl⟩ done⟩
  · refine (deactivation_removes ["a", "c"]).2 entangled 0 1 "c" (by decide) ?_
    rintro ⟨path, raw, _, _, located, stands, -⟩
    have place : manifestPath "c" = .ok ⟨["system", "bundles", "c", "manifest"], by decide⟩ := by
      rfl
    cases place.symm.trans located
    have nothing : (entangled.storeAt 0).contents.get?
        ⟨["system", "bundles", "c", "manifest"], by decide⟩ = none := by
      rfl
    rw [nothing] at stands
    cases stands

end Bundle

end DocStore
