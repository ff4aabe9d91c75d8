import DocStore.Proofs.Bundle.Installation
import DocStore.Proofs.Store.Leaves
import DocStore.Proofs.Tree.Order

/-!
# What is found of recorded bundles

The roots of bundles are found again from the manifests recorded below `/system/bundles`. A manifest
that is recorded is read as what it was, and it stands below objects, so it is found.

Results:
  * `Manifest.ofValue?_toValue`: a recorded manifest is read as what it was;
  * `mem_rootsIn_of_last`: the roots of an activated bundle are found, unless another bundle of its
    name follows it;
  * `mem_rootsIn_iff`: which roots are found in a tree whose entries are in order.
-/

namespace DocStore

/-! ## Manifests -/

namespace Manifest

theorem texts?_strings (texts : List String) : texts? (texts.map .string) = some texts := by
  unfold texts?
  induction texts with
  | nil => rfl
  | cons text rest ih =>
    rw [List.map_cons, List.mapM_cons, ih]
    rfl

theorem ofFields?_three (revision roots metadata : Option Value) :
    ofFields? [revision, roots, metadata] = (revision? revision).bind fun revision =>
      (roots? roots).bind fun roots => (metadata? metadata).bind fun metadata =>
        some ⟨revision, roots, metadata⟩ :=
  rfl

theorem ofValue?_toValue (m : Manifest) : ofValue? m.toValue = some m := by
  obtain ⟨revision, roots, metadata⟩ := m
  have named : ofValue? (toValue ⟨revision, roots, metadata⟩) =
      ofFields? [if revision.isEmpty then none else some (.string revision),
        roots.map fun texts => .array (texts.map .string),
        if metadata.isEmpty then none else some (.object metadata)] := by
    unfold ofValue? toValue fieldNames
    cases roots <;> cases revision.isEmpty <;> cases metadata.isEmpty <;>
      simp [Json.valueRecord?, Json.named, Json.written]
  have first : revision? (if revision.isEmpty then none else some (.string revision)) =
      some revision := by
    split
    · next empty =>
      rw [String.isEmpty_iff.1 empty]
      rfl
    · rfl
  have second : roots? (roots.map fun texts => .array (texts.map .string)) = some roots := by
    cases roots with
    | none => rfl
    | some texts =>
      show (texts? (texts.map .string)).map some = _
      rw [texts?_strings]
      rfl
  have third : metadata? (if metadata.isEmpty then none else some (.object metadata)) =
      some metadata := by
    split
    · next empty =>
      rw [List.isEmpty_iff.1 empty]
      rfl
    · rfl
  rw [named, ofFields?_three, first, second, third]
  rfl

end Manifest

namespace Bundle

/-! ## Finding roots -/

variable {data : Value} {name : String} {roots : List Path}

/-- The entry of a bundle among the records of a tree. -/
def record? (data : Value) (name : String) : Option Value := do
  let records ← Tree.get? data recordsPath
  records.field? name

theorem mem_rootsIn_of_entry {entry : Value} (found : record? data name = some entry)
    (read : entryRoots? name entry = some roots) : (name, roots) ∈ rootsIn data := by
  obtain ⟨records, stands, found⟩ := Option.bind_eq_some_iff.1 found
  unfold rootsIn
  rw [stands]
  cases records with
  | object entries =>
    refine List.mem_filterMap.2 ⟨(name, entry), Dict.mem_of_find? found, ?_⟩
    show (entryRoots? name entry).map _ = _
    rw [read]
    rfl
  | null | bool | int | float | string | array => cases found

/-- The roots that are found in a tree whose entries are in order. -/
theorem mem_rootsIn_iff (ordered : data.Ordered) :
    (name, roots) ∈ rootsIn data ↔ (record? data name).bind (entryRoots? name) = some roots := by
  constructor
  · intro present
    unfold rootsIn at present
    unfold record?
    cases stands : Tree.get? data recordsPath with
    | none =>
      rw [stands] at present
      cases present
    | some records =>
      rw [stands] at present
      have inside : records.Ordered := Tree.ordered_at? ordered stands
      cases records with
      | object entries =>
        obtain ⟨⟨key, entry⟩, isEntry, read⟩ := List.mem_filterMap.1 present
        obtain ⟨found, read, same⟩ := Option.map_eq_some_iff.1 read
        cases same
        show (Dict.find? entries name).bind (entryRoots? name) = some roots
        rw [Dict.Ordered.find?_of_mem inside.1 isEntry]
        exact read
      | null | bool | int | float | string | array => cases present
  · intro found
    obtain ⟨entry, found, read⟩ := Option.bind_eq_some_iff.1 found
    exact mem_rootsIn_of_entry found read

/-- The bundles stand in the order of their names. -/
theorem ordered_rootsIn (ordered : data.Ordered) : (rootsIn data).Ordered := by
  unfold rootsIn
  cases stands : Tree.get? data recordsPath with
  | none => exact .nil
  | some records =>
    have inside : records.Ordered := Tree.ordered_at? ordered stands
    cases records with
    | object entries =>
      refine Dict.Ordered.filterMap inside.1 fun entry shown isShown => ?_
      obtain ⟨roots, -, rfl⟩ := Option.map_eq_some_iff.1 isShown
      rfl
    | null | bool | int | float | string | array => exact .nil

/-- What stands in an object under a key. -/
theorem field?_of_at? {v child : Value} {key : String} (object : v.isObject = true)
    (found : Tree.at? [key] v = some child) : v.field? key = some child := by
  cases v with
  | object fields =>
    rw [Tree.at?_cons_object] at found
    obtain ⟨_, here, same⟩ := Option.bind_eq_some_iff.1 found
    rw [Tree.at?_nil] at same
    cases same
    exact here
  | null | bool | int | float | string | array => cases object

/-- An entry of an object stands in it under its key. -/
theorem at?_of_field? {v child : Value} {key : String} (found : v.field? key = some child) :
    Tree.at? [key] v = some child := by
  cases v with
  | object fields =>
    have here : Dict.find? fields key = some child := found
    rw [Tree.at?_cons_object, here]
    exact Tree.at?_nil child
  | null | bool | int | float | string | array => cases found

/-- What is recorded about a bundle stands in the tree. -/
theorem at?_of_entry {entry : Value} (found : record? data name = some entry) :
    Tree.at? (recordsPath.segments ++ [name]) data = some entry := by
  obtain ⟨records, isRecords, isEntry⟩ := Option.bind_eq_some_iff.1 found
  rw [Tree.at?_append, show Tree.at? recordsPath.segments data = some records from isRecords]
  exact at?_of_field? isEntry

/-- A manifest that stands below objects is found. -/
theorem entryRoots?_of_get? {m : Manifest} {path : Path} (located : manifestPath name = .ok path)
    (stands : Tree.get? data path = some m.toValue) (declared : m.rootPaths name = .ok roots)
    (objects : ∀ (q : Path) (v : Value), path.hasPrefix q = true → q ≠ path →
      Tree.get? data q = some v → v.isObject = true) :
    (record? data name).bind (entryRoots? name) = some roots := by
  have segments := segments_manifestPath located
  obtain ⟨place, placed⟩ := exists_recordPath (isSegment_of_manifestPath located)
  have below := segments_recordPath placed
  have parts : path.segments = recordsPath.segments ++ ([name] ++ ["manifest"]) := segments
  unfold Tree.get? at stands
  rw [parts, Tree.at?_append] at stands
  obtain ⟨records, isRecords, stands⟩ := Option.bind_eq_some_iff.1 stands
  rw [Tree.at?_append] at stands
  obtain ⟨entry, isEntry, stands⟩ := Option.bind_eq_some_iff.1 stands
  have entryStands : Tree.get? data place = some entry := by
    unfold Tree.get?
    rw [below, show ["system", "bundles", name] = recordsPath.segments ++ [name] from rfl,
      Tree.at?_append, isRecords]
    exact isEntry
  have recordsObject : records.isObject = true := by
    refine objects recordsPath records (manifestPath_below_records located) (fun same => ?_) isRecords
    have longer := congrArg (fun p : Path => p.segments.length) same
    simp only [segments] at longer
    cases longer
  have entryObject : entry.isObject = true := by
    refine objects place entry (manifestPath_below_record located placed) (fun same => ?_) entryStands
    have longer := congrArg (fun p : Path => p.segments.length) same
    simp only [segments, below] at longer
    cases longer
  have found : record? data name = some entry := by
    unfold record?
    show (Tree.get? data recordsPath).bind _ = _
    rw [show Tree.get? data recordsPath = some records from isRecords]
    exact field?_of_at? recordsObject isEntry
  have raw : entry.field? "manifest" = some m.toValue := field?_of_at? entryObject stands
  rw [found, Option.bind_some]
  unfold entryRoots?
  rw [raw]
  show ((Manifest.ofValue? m.toValue).bind _) = some roots
  rw [Manifest.ofValue?_toValue]
  simp only [Option.bind_some, declared]

/-! ## After an activation -/

variable {s : Store} {c d : Contents} {bundles : List Bundle} {records : List (Path × Value)}

/-- Nothing that is recorded stands at or above a place that is above a manifest. -/
theorem not_below_records {path q : Path} {recorded : List Bundle}
    (located : manifestPath name = .ok path) (above : path.hasPrefix q = true) (strict : q ≠ path)
    (all : recorded.mapM recordOf = .ok records) {p : Placement}
    (present : p ∈ records.map fun record => Placement.mk record.1 (some record.2)) :
    q.hasPrefix p.path = false := by
  obtain ⟨record, isRecord, rfl⟩ := List.mem_map.1 present
  obtain ⟨b, -, found⟩ := exists_of_mem_results all isRecord
  refine Bool.eq_false_iff.2 fun (below : q.hasPrefix record.1 = true) => strict ?_
  -- All manifests are recorded at places of one length.
  have same := eq_of_manifest_above located (recordOf_ok found).1 (Path.hasPrefix_trans above below)
  rw [← same] at below
  exact Path.eq_of_hasPrefix below above

/-- Above a recorded manifest there are objects. -/
theorem objects_above_records (recorded : bundles.mapM recordOf = .ok records)
    (ok : s.amendAll c (records.flatMap recordEdits) = (d, .ok ())) {b : Bundle}
    (present : b ∈ bundles) {path q : Path} (located : manifestPath b.name = .ok path)
    (above : path.hasPrefix q = true) (strict : q ≠ path) {v : Value} (found : d.get? q = some v) :
    v.isObject = true := by
  rw [mapM_ok_iff] at recorded
  induction recorded generalizing c with
  | nil => cases present
  | @cons head record bundles records first more ih =>
    rw [List.flatMap_cons] at ok
    obtain ⟨between, mine, others⟩ := Store.amendAll_append_ok ok
    rcases List.mem_cons.1 present with rfl | later
    · obtain ⟨mineLocated, -⟩ := recordOf_ok first
      rw [located] at mineLocated
      cases mineLocated
      by_contra notObject
      have leaf : v.isObject = false := Bool.eq_false_iff.2 notObject
      have outside {p : Placement} := @not_below_records b.name _ record.1 q _ located above strict
        (mapM_ok_iff.2 more) p
      -- A leaf there would have been there when the manifest was put in place.
      rw [Store.leaf_amendAll others leaf, puts_recordEdits,
        Placement.settle_elsewhere fun p isPlacement => outside isPlacement] at found
      unfold recordEdits at mine
      obtain ⟨made, -, written⟩ := Store.amendAll_append_ok mine
      obtain ⟨after, put, done⟩ := Store.amendAll_cons_ok written
      cases done
      have patched := (Store.amendOwned_ok put).2
      unfold Contents.patch at patched
      obtain ⟨data, applied, rfl⟩ := map_ok patched
      obtain ⟨-, fields, object⟩ := Tree.objects_above_apply applied
        (Path.hasPrefix_iff_leads.1 above) fun same => strict (Path.ext same)
      rw [show Tree.at? q.segments data = some v from found] at object
      cases object
      cases leaf
    · exact ih others later

/-- The roots of a bundle that no other one of its name follows are found. -/
theorem entryRoots?_of_last (recorded : bundles.mapM recordOf = .ok records)
    (ok : s.amendAll c (records.flatMap recordEdits) = (d, .ok ())) {b : Bundle}
    (last : LastOfName bundles b) (declared : b.manifest.rootPaths b.name = .ok roots) :
    (record? d.data b.name).bind (entryRoots? b.name) = some roots := by
  have present := last.mem
  obtain ⟨record, -, mine⟩ := exists_result_of_mem recorded present
  have located := (recordOf_ok mine).1
  refine entryRoots?_of_get? located (get?_records recorded ok last located) declared ?_
  intro q v above strict found
  exact objects_above_records recorded ok present located above strict found

theorem mem_rootsIn_of_last (recorded : bundles.mapM recordOf = .ok records)
    (ok : s.amendAll c (records.flatMap recordEdits) = (d, .ok ())) {b : Bundle}
    (last : LastOfName bundles b) (declared : b.manifest.rootPaths b.name = .ok roots) :
    (b.name, roots) ∈ rootsIn d.data := by
  obtain ⟨entry, found, read⟩ :=
    Option.bind_eq_some_iff.1 (entryRoots?_of_last recorded ok last declared)
  exact mem_rootsIn_of_entry found read

/-- Of the bundles with one name there is a last. -/
theorem exists_lastOfName {b : Bundle} (present : b ∈ bundles) :
    ∃ last, LastOfName bundles last ∧ last.name = b.name := by
  induction bundles generalizing b with
  | nil => cases present
  | cons first rest ih =>
    by_cases again : ∃ c ∈ rest, c.name = b.name
    · obtain ⟨c, later, same⟩ := again
      obtain ⟨last, isLast, named⟩ := ih later
      exact ⟨last, lastOfName_cons.2 (.inr isLast), named.trans same⟩
    · have alone : ∀ c ∈ rest, c.name ≠ b.name := fun c later same => again ⟨c, later, same⟩
      rcases List.mem_cons.1 present with rfl | later
      · exact ⟨b, lastOfName_cons.2 (.inl ⟨rfl, alone⟩), rfl⟩
      · exact absurd rfl (alone b later)

end Bundle

end DocStore
