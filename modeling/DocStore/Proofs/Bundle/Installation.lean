import DocStore.Proofs.Bundle.PolicyTexts
import DocStore.Proofs.Bundle.Scratch

/-!
# What an activation installs

An activation gives each root what its bundle has there, records the manifests, stores the policies
of the bundles in place of those under their names, and leaves everything else alone.

* A root may lie above, at or below the places where manifests are recorded. The manifests are
  recorded last, so they stand; the data there may give way to them.
* Manifests are recorded below `/system/bundles`, one place for each name.
-/

namespace DocStore.Bundle

/-! ## Places of records -/

theorem segments_manifestPath {name : String} {path : Path} (ok : manifestPath name = .ok path) :
    path.segments = ["system", "bundles", name, "manifest"] :=
  Path.ofSegments_eq_ok_iff.1 (mapError_ok (mapError_ok ok))

theorem segments_recordPath {name : String} {path : Path} (ok : recordPath name = .ok path) :
    path.segments = ["system", "bundles", name] :=
  Path.ofSegments_eq_ok_iff.1 (mapError_ok (mapError_ok ok))

/-- A name under which a manifest is recorded is a segment. -/
theorem isSegment_of_manifestPath {name : String} {path : Path} (ok : manifestPath name = .ok path) :
    IsSegment name := by
  refine path.valid name ?_
  rw [segments_manifestPath ok]
  simp

theorem exists_recordPath {name : String} (segment : IsSegment name) :
    ∃ path, recordPath name = .ok path := by
  have valid : ∀ s ∈ recordsPath.segments ++ [name], IsSegment s := by
    intro s present
    rcases List.mem_append.1 present with inside | last
    · exact recordsPath.valid s inside
    · rw [List.mem_singleton.1 last]
      exact segment
  refine ⟨⟨_, valid⟩, ?_⟩
  unfold recordPath Path.child Path.new
  rw [Path.ofSegments_eq_ok_iff.2 (rfl : Path.segments ⟨_, valid⟩ = recordsPath.segments ++ [name])]
  rfl

theorem recordOf_ok {b : Bundle} {record : Path × Value} (ok : recordOf b = .ok record) :
    manifestPath b.name = .ok record.1 ∧ record.2 = b.manifest.toValue := by
  unfold recordOf at ok
  obtain ⟨path, located, ok⟩ := bind_ok ok
  cases ok
  exact ⟨located, rfl⟩

/-- Manifests are recorded at places of one length, so no place is strictly above another. -/
theorem eq_of_manifest_above {name other : String} {path path' : Path}
    (located : manifestPath name = .ok path) (located' : manifestPath other = .ok path')
    (above : path.hasPrefix path' = true) : path = path' := by
  have inside := Path.hasPrefix_iff_leads.1 above
  refine (Path.ext (inside.eq_of_length ?_)).symm
  rw [segments_manifestPath located, segments_manifestPath located']
  rfl

/-! ## The manifests -/

variable {s : Store} {c d : Contents}

theorem get?_recordEdits {record : Path × Value}
    (ok : s.amendAll c (recordEdits record) = (d, .ok ())) : d.get? record.1 = some record.2 := by
  unfold recordEdits at ok
  obtain ⟨between, -, written⟩ := Store.amendAll_append_ok ok
  rw [Store.get?_amendAll written (q := record.1) fun e present => by
    rw [List.mem_singleton.1 present]
    exact fun _ => rfl]
  change Placement.leaves ⟨record.1, some record.2⟩ record.1 _ = _
  unfold Placement.leaves Path.length
  rw [if_pos (Path.hasPrefix_self _), List.drop_length]
  exact Tree.at?_nil _

/-- A bundle that no other one of its name follows. -/
def LastOfName (bundles : List Bundle) (b : Bundle) : Prop :=
  ∃ before after, bundles = before ++ b :: after ∧ ∀ c ∈ after, c.name ≠ b.name

theorem LastOfName.mem {bundles : List Bundle} {b : Bundle} (last : LastOfName bundles b) :
    b ∈ bundles := by
  obtain ⟨before, after, rfl, -⟩ := last
  exact List.mem_append_right before List.mem_cons_self

theorem lastOfName_cons {first b : Bundle} {rest : List Bundle} :
    LastOfName (first :: rest) b ↔
      (b = first ∧ ∀ c ∈ rest, c.name ≠ b.name) ∨ LastOfName rest b := by
  constructor
  · rintro ⟨before, after, same, last⟩
    cases before with
    | nil =>
      obtain ⟨rfl, rfl⟩ := List.cons.inj same
      exact .inl ⟨rfl, last⟩
    | cons head before =>
      obtain ⟨rfl, rfl⟩ := List.cons.inj same
      exact .inr ⟨before, after, rfl, last⟩
  · rintro (⟨rfl, last⟩ | ⟨before, after, rfl, last⟩)
    · exact ⟨[], rest, rfl, last⟩
    · exact ⟨first :: before, after, rfl, last⟩

theorem lastOfName_of_nodup {bundles : List Bundle} (distinct : (bundles.map (·.name)).Nodup)
    {b : Bundle} (present : b ∈ bundles) : LastOfName bundles b := by
  obtain ⟨before, after, rfl⟩ := List.append_of_mem present
  refine ⟨before, after, rfl, fun c later same => ?_⟩
  rw [List.map_append, List.map_cons] at distinct
  have once := (List.nodup_cons.1 (List.nodup_append.1 distinct).2.1).1
  exact once (List.mem_map.2 ⟨c, later, same⟩)

/-- Of the manifests under one name the last stays recorded. -/
theorem get?_records {bundles : List Bundle} {records : List (Path × Value)}
    (recorded : bundles.mapM recordOf = .ok records)
    (ok : s.amendAll c (records.flatMap recordEdits) = (d, .ok ())) {b : Bundle}
    (last : LastOfName bundles b) {path : Path} (located : manifestPath b.name = .ok path) :
    d.get? path = some b.manifest.toValue := by
  rw [mapM_ok_iff] at recorded
  induction recorded generalizing c with
  | nil =>
    obtain ⟨before, after, same, -⟩ := last
    simp at same
  | @cons head record bundles records first more ih =>
    rw [List.flatMap_cons] at ok
    obtain ⟨between, mine, others⟩ := Store.amendAll_append_ok ok
    rcases lastOfName_cons.1 last with ⟨rfl, alone⟩ | later
    · obtain ⟨mineLocated, value⟩ := recordOf_ok first
      rw [located] at mineLocated
      cases mineLocated
      have theirs : ∀ other ∈ records, ∃ c ∈ bundles, manifestPath c.name = .ok other.1 := by
        intro other isRecord
        obtain ⟨c, isBundle, found⟩ := exists_of_mem_results (mapM_ok_iff.2 more) isRecord
        exact ⟨c, isBundle, (recordOf_ok found).1⟩
      -- What is recorded afterwards is recorded elsewhere.
      have elsewhere : ∀ p ∈ records.map fun other => Placement.mk other.1 (some other.2),
          record.1.hasPrefix p.path = false := by
        intro p isPlacement
        obtain ⟨other, isRecord, rfl⟩ := List.mem_map.1 isPlacement
        obtain ⟨c, isBundle, locatedOther⟩ := theirs other isRecord
        refine Bool.eq_false_iff.2 fun above => alone c isBundle ?_
        have same := congrArg Path.segments (eq_of_manifest_above located locatedOther above)
        rw [segments_manifestPath located, segments_manifestPath locatedOther] at same
        have names : b.name = c.name := by simpa using same
        exact names.symm
      have misses : ∀ e ∈ records.flatMap recordEdits, e.Misses record.1 := by
        intro e isEdit
        obtain ⟨other, isRecord, isMine⟩ := List.mem_flatMap.1 isEdit
        obtain ⟨c, _, locatedOther⟩ := theirs other isRecord
        exact misses_recordEdits (eq_of_manifest_above locatedOther located) isMine
      rw [Store.get?_amendAll others misses, puts_recordEdits,
        Placement.settle_elsewhere elsewhere, get?_recordEdits mine, value]
    · exact ih others later

/-! ## The data -/

variable {bundles : List Bundle} {roots : List Path} {records : List (Path × Value)} {q : Path}

/-- What an activation leaves at a place that is not strictly above a root, away from the
records. -/
theorem get?_activationEdits (pairwise : roots.Pairwise Path.ApartFrom)
    (ok : s.amendAll c (activationEdits bundles roots records) = (d, .ok ()))
    (misses : ∀ root ∈ roots, root.hasPrefix q = true → root = q)
    (away : ∀ record ∈ records, record.1.hasPrefix q = false ∧ q.hasPrefix record.1 = false) :
    d.get? q = if roots.any q.hasPrefix
      then Tree.get? (Truncate.payload (bundles.flatMap updates)) q else c.get? q := by
  have all : ∀ e ∈ activationEdits bundles roots records, e.Misses q := by
    intro e present
    rcases List.mem_append.1 present with drop | present
    · exact misses_dropEdits drop q
    · rcases List.mem_append.1 present with replacement | record
      · exact Truncate.misses_edits misses replacement
      · obtain ⟨record, isRecord, mine⟩ := List.mem_flatMap.1 record
        refine misses_recordEdits (fun above => ?_) mine
        rw [(away record isRecord).1] at above
        cases above
  have outside : ∀ p ∈ records.map fun record => Placement.mk record.1 (some record.2),
      q.hasPrefix p.path = false := by
    intro p isPlacement
    obtain ⟨record, isRecord, rfl⟩ := List.mem_map.1 isPlacement
    exact (away record isRecord).2
  rw [Store.get?_amendAll ok all]
  unfold activationEdits
  rw [List.flatMap_append, puts_dropEdits, List.flatMap_append, puts_recordEdits,
    Truncate.puts_edits (Path.root_alone pairwise), List.nil_append, Placement.settle_append,
    Placement.settle_elsewhere outside, Placement.settle_parts]

theorem manifestPath_below_records {name : String} {path : Path}
    (located : manifestPath name = .ok path) : path.hasPrefix recordsPath = true := by
  rw [Path.hasPrefix_iff_leads, segments_manifestPath located]
  exact ⟨[name, "manifest"], rfl⟩

theorem manifestPath_below_record {name : String} {path place : Path}
    (located : manifestPath name = .ok path) (placed : recordPath name = .ok place) :
    path.hasPrefix place = true := by
  rw [Path.hasPrefix_iff_leads, segments_manifestPath located, segments_recordPath placed]
  exact ⟨["manifest"], rfl⟩

/-- A path that does not overlap another is apart from everything below that. -/
theorem not_above_of_overlaps {p q r : Path} (apart : q.overlaps p = false)
    (below : r.hasPrefix p = true) : r.hasPrefix q = false ∧ q.hasPrefix r = false := by
  refine ⟨Bool.eq_false_iff.2 fun above => ?_, Bool.eq_false_iff.2 fun above => ?_⟩
  · rw [Path.overlaps_of_above above below] at apart
    cases apart
  · unfold Path.overlaps at apart
    rw [Path.hasPrefix_trans above below] at apart
    cases apart

/-! ## Activation -/

/-- The maps of a bundle are in the order of their keys, as maps are. -/
def Sorted (b : Bundle) : Prop := (Value.object b.data).Ordered ∧ Dict.Ordered b.policies

/-- What stands in a store when bundles have been installed in place of what was `before`. -/
structure Installed (bundles : List Bundle) (before after : Contents) : Prop where
  /-- Below a root, out of the way of the records, there is what the bundle has there. -/
  data : ∀ b ∈ bundles, ∀ root q : Path, b.Declares root → q.hasPrefix root = true →
    q.overlaps recordsPath = false → Store.lookup after.data q = Store.lookup (.object b.data) q
  /-- Each manifest is recorded. -/
  manifest : ∀ b ∈ bundles, ∃ path, manifestPath b.name = .ok path ∧
    Store.lookup after.data path = .ok b.manifest.toValue
  /-- The policies under the name of a bundle are those of the bundle. -/
  policies : ∀ b ∈ bundles, ∀ id text, (policyStart b.name).toList.isPrefixOf id.toList = true →
    (after.policies.find? id = some text ↔
      ∃ file, id = b.policyId file ∧ b.policies.find? file = some text)
  /-- What overlaps neither a root nor the records of a bundle is as it was. -/
  elsewhere : ∀ q : Path,
    (∀ b ∈ bundles, ∀ root, b.Declares root → q.overlaps root = false) →
    (∀ b ∈ bundles, ∀ path, recordPath b.name = .ok path → q.overlaps path = false) →
    Store.lookup after.data q = Store.lookup before.data q
  /-- Policies under other names are as they were. -/
  otherPolicies : ∀ id,
    (∀ b ∈ bundles, (policyStart b.name).toList.isPrefixOf id.toList = false) →
    after.policies.find? id = before.policies.find? id

/-- An activation of valid bundles with different names installs them. -/
theorem activation_installs {s : Store} {t u : Transaction} {bundles : List Bundle}
    (write : s.Writes t) (valid : validateSet bundles = .ok ())
    (distinct : (bundles.map (·.name)).Nodup) (sorted : ∀ b ∈ bundles, b.Sorted)
    (ok : activateIn s t bundles = .ok u) :
    Installed bundles (s.view t) (s.install u).contents := by
  obtain ⟨roots, records, c, collected, recorded, row, continues⟩ := activateIn_ok write ok
  obtain ⟨-, -, all⟩ := validateSet_ok valid
  obtain ⟨pairwise, mem_roots⟩ := all roots collected
  rw [Store.contents_install, continues.view]
  have located : ∀ record ∈ records, ∃ b ∈ bundles, manifestPath b.name = .ok record.1 := by
    intro record isRecord
    obtain ⟨b, isBundle, found⟩ := exists_of_mem_results recorded isRecord
    exact ⟨b, isBundle, (recordOf_ok found).1⟩
  have places : ∀ b ∈ bundles, ∃ path, manifestPath b.name = .ok path := by
    intro b isBundle
    obtain ⟨record, -, found⟩ := exists_result_of_mem recorded isBundle
    exact ⟨record.1, (recordOf_ok found).1⟩
  have segments : ∀ b ∈ bundles, IsSegment b.name := by
    intro b isBundle
    obtain ⟨path, found⟩ := places b isBundle
    exact isSegment_of_manifestPath found
  constructor
  case data =>
    intro b isBundle root q declared under apart
    have notRoot : q.segments ≠ [] := by
      intro empty
      have isRoot : q = .root := Path.ext empty
      rw [isRoot] at apart
      cases apart
    have away : ∀ record ∈ records, record.1.hasPrefix q = false ∧ q.hasPrefix record.1 = false := by
      intro record isRecord
      obtain ⟨_, _, found⟩ := located record isRecord
      exact not_above_of_overlaps apart (manifestPath_below_records found)
    have misses : ∀ other ∈ roots, other.hasPrefix q = true → other = q := by
      intro other isRoot below
      by_cases same : other = root
      · rw [same] at below ⊢
        exact Path.eq_of_hasPrefix below under
      · have apartRoots := pairwise.forall isRoot ((mem_roots root).2 ⟨b, isBundle, declared⟩) same
        exact absurd (Path.hasPrefix_iff_leads.1 (Path.hasPrefix_trans below under)) apartRoots.2
    have inside : roots.any q.hasPrefix = true :=
      List.any_eq_true.2 ⟨root, (mem_roots root).2 ⟨b, isBundle, declared⟩, under⟩
    have found := get?_activationEdits pairwise row misses away
    rw [if_pos inside, get?_payload valid collected (fun b isBundle => (sorted b isBundle).1)
      isBundle declared under notRoot] at found
    exact Store.lookup_eq_iff.2 found
  case manifest =>
    intro b isBundle
    obtain ⟨path, found⟩ := places b isBundle
    obtain ⟨_, -, rest⟩ := Store.amendAll_append_ok row
    obtain ⟨_, -, recording⟩ := Store.amendAll_append_ok rest
    have stands : Tree.get? c.data path = some b.manifest.toValue :=
      get?_records recorded recording (lastOfName_of_nodup distinct isBundle) found
    refine ⟨path, found, ?_⟩
    unfold Store.lookup
    rw [stands]
  case policies =>
    intro b isBundle id text starts
    obtain ⟨file, rfl⟩ := starts_iff.1 starts
    rw [Store.find?_amendAll row,
      texts_activationEdits segments distinct isBundle (sorted b isBundle).2]
    constructor
    · exact fun found => ⟨file, rfl, found⟩
    · rintro ⟨other, same, found⟩
      rw [policyId_inj same]
      exact found
  case elsewhere =>
    intro q apartRoots apartRecords
    have awayRoots : ∀ root ∈ roots, root.hasPrefix q = false ∧ q.hasPrefix root = false := by
      intro root isRoot
      obtain ⟨b, isBundle, declared⟩ := (mem_roots root).1 isRoot
      exact not_above_of_overlaps (apartRoots b isBundle root declared) (Path.hasPrefix_self root)
    -- The record of a manifest lies below the place of its bundle, and nothing else is recorded.
    have away : ∀ record ∈ records, record.1.hasPrefix q = false ∧ q.hasPrefix record.1 = false := by
      intro record isRecord
      obtain ⟨b, isBundle, found⟩ := located record isRecord
      obtain ⟨place, placed⟩ := exists_recordPath (segments b isBundle)
      exact not_above_of_overlaps (apartRecords b isBundle place placed)
        (manifestPath_below_record found placed)
    have outside : roots.any q.hasPrefix = false :=
      List.any_eq_false.2 fun root isRoot => Bool.eq_false_iff.1 (awayRoots root isRoot).2
    have misses : ∀ root ∈ roots, root.hasPrefix q = true → root = q := by
      intro root isRoot above
      rw [(awayRoots root isRoot).1] at above
      cases above
    have found := get?_activationEdits pairwise row misses away
    rw [outside] at found
    exact Store.lookup_eq_iff.2 found
  case otherPolicies =>
    intro id others
    rw [Store.find?_amendAll row, texts_activationEdits_elsewhere others]

/-- A bundle with one root and one policy. -/
def sample : Bundle :=
  { name := "b", manifest := ⟨"1", some ["x"], []⟩
    data := [("x", .object [("k", .int 1)])], policies := [("p.rego", "package p")] }

/-- A store with something beside the root of the sample, and something at it. -/
def sampleStore : Store := .new 1 (.object [("a", .int 0), ("x", .int 0)])

/-- A writer of that store. -/
def sampleWriter : Transaction := (sampleStore.openWrite 1).2

/-- The sample is installed. -/
theorem sample_installs :
    ∃ u, activateIn sampleStore sampleWriter [sample] = .ok u ∧
      Installed [sample] (sampleStore.view sampleWriter) (sampleStore.install u).contents := by
  have sorted : ∀ b ∈ [sample], b.Sorted := by
    intro b present
    rw [List.mem_singleton.1 present]
    exact ⟨⟨List.pairwise_singleton .., ⟨List.pairwise_singleton .., trivial, trivial⟩, trivial⟩,
      List.pairwise_singleton ..⟩
  have valid : validateSet [sample] = .ok () := rfl
  have succeeds : (activateIn sampleStore sampleWriter [sample]).isOk = true := rfl
  cases done : activateIn sampleStore sampleWriter [sample] with
  | error e =>
    rw [done] at succeeds
    cases succeeds
  | ok u => exact ⟨u, rfl, activation_installs ⟨rfl, rfl⟩ valid (by decide) sorted done⟩

end DocStore.Bundle
