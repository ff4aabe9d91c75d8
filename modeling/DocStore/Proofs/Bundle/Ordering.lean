import DocStore.Proofs.Bundle.Revisions
import DocStore.Proofs.Store.Truncation

/-!
# Activations in another order, and again

An activation of bundles with different names does not depend on the order of the bundles: their roots
are apart from each other, and so are the places of their records. Neither the scratch tree nor what is
made above a place depends on what comes first.

Activated again, bundles find their own data and records. When no root lies strictly below the place of
all records, they can be put in place again, and everything stays as it is.

Results:
  * `payload_perm`: the scratch tree of bundles in another order;
  * `mayInstall_perm`, `installed_perm`: whether bundles can be put in place, and what that makes of a
    tree, in another order;
  * `mayInstall_again`, `installed_again`: the same a second time;
  * `activation_unordered`: activations in another order, and again.
-/

namespace DocStore

open DocStore.Tree DocStore.Placement

/-- The maps of contents are in the order of their keys, as maps are. -/
structure Contents.Ordered (c : Contents) : Prop where
  data : c.data.Ordered
  policies : Dict.Ordered c.policies

/-- Contents are known by the surface of the tree and the texts of the policies. -/
theorem Contents.Ordered.ext {c d : Contents} (ordered : c.Ordered) (ordered' : d.Ordered)
    (same : surface c.data = surface d.data)
    (texts : ∀ id, c.policies.find? id = d.policies.find? id) : c = d := by
  obtain ⟨data, policies⟩ := c
  obtain ⟨data', policies'⟩ := d
  congr 1
  · exact eq_of_surface data ordered.data ordered'.data same
  · exact ordered.policies.ext ordered'.policies texts

namespace Bundle

variable {s s' : Store} {c d : Contents} {bundles others : List Bundle} {roots roots' : List Path}
  {records records' : List (Path × Value)} {scratch : Value} {look : Surface}

/-! ## The scratch tree -/

/-- Valid bundles with roots apart say the same wherever both say something. -/
theorem agree_of_apart {b other : Bundle} (valid : b.validate = .ok ())
    (valid' : other.validate = .ok ()) (apart : RootsApart b other) :
    Agree (.object b.data) (.object other.data) := by
  intro p x y shown shown'
  obtain ⟨mine, declared, inside⟩ := covered valid
  obtain ⟨theirs, declared', inside'⟩ := covered valid'
  obtain ⟨v, found, rfl⟩ := Option.map_eq_some_iff.1 shown
  obtain ⟨w, found', rfl⟩ := Option.map_eq_some_iff.1 shown'
  have clash {root root' : Path} (isMine : root ∈ mine) (isTheirs : root' ∈ theirs) :
      Apart root.segments root'.segments :=
    apart root root' ((declares_iff declared).2 isMine) ((declares_iff declared').2 isTheirs)
  -- At or under a root of the one there is nothing of the other, so both have objects above roots.
  rcases inside p v found with ⟨root, isMine, above⟩ | ⟨⟨fields, rfl⟩, root, isMine, below⟩
  · rcases inside' p w found' with ⟨root', isTheirs, above'⟩ | ⟨-, root', isTheirs, below'⟩
    · exact absurd (List.prefix_or_prefix_of_prefix above above') (not_or.2 (clash isMine isTheirs))
    · exact absurd (above.trans below') (clash isMine isTheirs).1
  · rcases inside' p w found' with ⟨root', isTheirs, above'⟩ | ⟨⟨fields', rfl⟩, -⟩
    · exact absurd (above'.trans below) (clash isMine isTheirs).2
    · rfl

/-- A tree with bundles merged in says what it said, and what the bundles say. -/
theorem surface_mergeAll {tree : Value} (ordered : ∀ b ∈ bundles, (Value.object b.data).Ordered)
    (agree : bundles.Pairwise fun b other => Agree (.object b.data) (.object other.data))
    (start : ∀ b ∈ bundles, Agree tree (.object b.data)) (p : List String) (x : Value) :
    surface (mergeAll tree bundles) p = some x ↔
      surface tree p = some x ∨ ∃ b ∈ bundles, surface (.object b.data) p = some x := by
  induction bundles generalizing tree with
  | nil => simp [mergeAll]
  | cons b rest ih =>
    have first : b ∈ b :: rest := List.mem_cons_self
    rw [List.pairwise_cons] at agree
    have merged (q : List String) (y : Value) :=
      surface_merge_eq_some_iff (start b first) (ordered b first) (p := q) (x := y)
    have next : ∀ other ∈ rest, Agree (merge tree (.object b.data)) (.object other.data) := by
      intro other later q y z shown shown'
      rcases (merged q y).1 shown with before | new
      · exact start other (List.mem_cons_of_mem b later) q y z before shown'
      · exact agree.1 other later q y z new shown'
    show surface (mergeAll (merge tree (.object b.data)) rest) p = some x ↔ _
    rw [ih (fun other later => ordered other (List.mem_cons_of_mem b later)) agree.2 next, merged,
      List.exists_mem_cons_iff, or_assoc]

/-- The scratch tree of a valid set says what its bundles say. -/
theorem surface_payload (valid : validateSet bundles = .ok ()) (sorted : ∀ b ∈ bundles, b.Sorted)
    (p : List String) (x : Value) :
    surface (Truncate.payload (bundles.flatMap updates)) p = some x ↔
      surface .empty p = some x ∨ ∃ b ∈ bundles, surface (.object b.data) p = some x := by
  obtain ⟨each, apart, -⟩ := validateSet_ok valid
  rw [payload_updates]
  refine surface_mergeAll (fun b present => (sorted b present).1) ?_ (fun b present => ?_) p x
  · refine apart.imp_of_mem fun {b other} present present' apart => ?_
    exact agree_of_apart (each b present) (each other present') apart
  · -- At the top there is an object, and below it there is nothing.
    intro q y z shown shown'
    cases q with
    | nil =>
      rw [surface_nil] at shown shown'
      rw [← Option.some.inj shown, ← Option.some.inj shown']
      rfl
    | cons key rest => cases shown

theorem ordered_scratch (sorted : ∀ b ∈ bundles, b.Sorted) :
    (Truncate.payload (bundles.flatMap updates)).Ordered := by
  refine Truncate.ordered_payload fun update present => ?_
  obtain ⟨b, isBundle, mine⟩ := List.mem_flatMap.1 present
  exact sorted_updates (sorted b isBundle) mine

/-- The order of the bundles does not matter for the scratch tree. -/
theorem payload_perm (valid : validateSet bundles = .ok ()) (sorted : ∀ b ∈ bundles, b.Sorted)
    (perm : bundles.Perm others) :
    Truncate.payload (bundles.flatMap updates) = Truncate.payload (others.flatMap updates) := by
  have sorted' : ∀ b ∈ others, b.Sorted := fun b present => sorted b (perm.mem_iff.2 present)
  refine eq_of_surface _ (ordered_scratch sorted) (ordered_scratch sorted') ?_
  funext p
  refine Option.ext fun x => ?_
  rw [surface_payload valid sorted, surface_payload (validateSet_perm perm valid) sorted']
  simp only [perm.mem_iff]

/-! ## What is put in place -/

/-- A record, as a placement. -/
def recording (record : Path × Value) : Placement := ⟨record.1, some record.2⟩

/-- The roots of a valid set of bundles, and what is recorded about them. -/
structure Declared (bundles : List Bundle) (roots : List Path) (records : List (Path × Value)) :
    Prop where
  valid : validateSet bundles = .ok ()
  collected : allRoots bundles = .ok roots
  recorded : bundles.mapM recordOf = .ok records

/-- Roots and records can be put in place. -/
def MayInstall (s : Store) (roots : List Path) (records : List (Path × Value)) (scratch : Value)
    (look : Surface) : Prop :=
  s.MayReplace roots scratch look ∧
    s.AdmitsAll (records.map recording) (ontoAll (roots.map (part scratch)) look)

/-- What a surface is when roots and records have been put in place. -/
def installed (roots : List Path) (records : List (Path × Value)) (scratch : Value)
    (look : Surface) : Surface :=
  ontoAll (records.map recording) (ontoAll (roots.map (part scratch)) look)

theorem amendAll_recordEdits_iff {record : Path × Value} :
    s.amendAll c (recordEdits record) = (d, .ok ()) ↔ s.checkOwner record.1 = .ok () ∧
      s.amendAll c (Edit.above record.1 ++ [.writeUnchecked .add record.1 record.2]) =
        (d, .ok ()) := by
  unfold recordEdits
  constructor
  · intro ok
    obtain ⟨between, made, written⟩ := Store.amendAll_append_ok ok
    obtain ⟨unowned, patched⟩ := Store.amendOwned_ok (Store.amendAll_one.1 written)
    exact ⟨unowned, amendAll_append_of_ok made (Store.amendAll_one.2 patched)⟩
  · rintro ⟨unowned, ok⟩
    obtain ⟨between, made, patched⟩ := Store.amendAll_append_ok ok
    refine amendAll_append_of_ok made (Store.amendAll_one.2 ?_)
    simp only [Store.amend, Store.amendOwned, unowned]
    exact Store.amendAll_one.1 patched

theorem Declared.pairwise (declared : Declared bundles roots records) :
    roots.Pairwise Path.ApartFrom := by
  obtain ⟨-, -, all⟩ := validateSet_ok declared.valid
  exact (all roots declared.collected).1

theorem Declared.located (declared : Declared bundles roots records) {record : Path × Value}
    (present : record ∈ records) :
    ∃ name, manifestPath name = .ok record.1 := by
  obtain ⟨b, -, found⟩ := exists_of_mem_results declared.recorded present
  exact ⟨b.name, (recordOf_ok found).1⟩

theorem Declared.segments (declared : Declared bundles roots records) {b : Bundle}
    (present : b ∈ bundles) : IsSegment b.name := by
  obtain ⟨record, -, found⟩ := exists_result_of_mem declared.recorded present
  exact isSegment_of_manifestPath (recordOf_ok found).1

/-- Records under different names are apart. -/
theorem apart_of_names {b other : Bundle} {record record' : Path × Value}
    (found : recordOf b = .ok record) (found' : recordOf other = .ok record')
    (differ : b.name ≠ other.name) : (recording record).ApartFrom (recording record') := by
  have segments := segments_manifestPath (recordOf_ok found).1
  have segments' := segments_manifestPath (recordOf_ok found').1
  show Apart record.1.segments record'.1.segments
  rw [segments, segments']
  simp [differ]

theorem apart_records (distinct : (bundles.map (·.name)).Nodup)
    (recorded : bundles.mapM recordOf = .ok records) :
    (records.map recording).Pairwise ApartFrom := by
  rw [mapM_ok_iff] at recorded
  induction recorded with
  | nil => exact .nil
  | @cons b record bundles records found more ih =>
    rw [List.map_cons, List.nodup_cons] at distinct
    rw [List.map_cons, List.pairwise_cons]
    refine ⟨fun p present => ?_, ih distinct.2⟩
    obtain ⟨record', later, rfl⟩ := List.mem_map.1 present
    obtain ⟨other, isBundle, found'⟩ := exists_of_mem_results (mapM_ok_iff.2 more) later
    exact apart_of_names found found' fun same =>
      distinct.1 (List.mem_map.2 ⟨other, isBundle, same.symm⟩)

/-- Roots and records are put in place one after the other. -/
theorem Declared.shapes (declared : Declared bundles roots records)
    (distinct : (bundles.map (·.name)).Nodup) :
    s.Shapes (Truncate.edits roots (bundles.flatMap updates) ++ records.flatMap recordEdits)
      (MayInstall s roots records (Truncate.payload (bundles.flatMap updates)))
      (installed roots records (Truncate.payload (bundles.flatMap updates))) := by
  refine (Truncate.shapes_truncate declared.pairwise _).append ?_
  refine Store.shapes_row (fun record present => ?_) (apart_records distinct declared.recorded)
  refine Store.shapes_put (fun isRoot => ?_) record.2 fun c d => amendAll_recordEdits_iff
  obtain ⟨name, located⟩ := declared.located present
  have segments := segments_manifestPath located
  rw [isRoot] at segments
  cases segments

/-! ## Rows of edits -/

/-- Policies can be dropped whatever bundles they are of. -/
theorem exists_dropEdits (names : List String) (ordered : Dict.Ordered c.policies) :
    ∃ d, s.amendAll c (dropEdits names) = (d, .ok ()) := by
  induction names generalizing c with
  | nil => exact ⟨c, rfl⟩
  | cons name rest ih =>
    obtain ⟨between, dropped⟩ :
        ∃ between, s.amend c (.dropPolicies (policyStart name)) = .ok between := by
      refine Contents.exists_deletePolicies (ordered.keys_nodup.filter _) fun id present => ?_
      have isKey := (List.mem_filter.1 present).1
      refine Option.isSome_iff_ne_none.2 fun absent => ?_
      exact Dict.find?_eq_none_iff.1 absent isKey
    obtain ⟨d, others⟩ := ih (Store.ordered_policies_amend dropped ordered)
    refine ⟨d, ?_⟩
    show s.amendAll c (.dropPolicies (policyStart name) :: dropEdits rest) = _
    rw [Store.amendAll, dropped]
    exact others

/-- When the row of an activation succeeds. -/
theorem Declared.row_succeeds_iff (declared : Declared bundles roots records)
    (distinct : (bundles.map (·.name)).Nodup) (ordered : Dict.Ordered c.policies) :
    (∃ d, s.amendAll c (activationEdits bundles roots records) = (d, .ok ())) ↔
      MayInstall s roots records (Truncate.payload (bundles.flatMap updates)) (surface c.data) := by
  obtain ⟨dropped, drops⟩ : ∃ dropped,
      s.amendAll c (dropEdits (bundles.map (·.name))) = (dropped, .ok ()) := exists_dropEdits _ ordered
  rw [← data_dropEdits drops, ← (declared.shapes distinct).succeeds dropped]
  unfold activationEdits
  rw [Store.amendAll_append, drops]

/-- What the row of an activation makes of the surface. -/
theorem Declared.surface_row (declared : Declared bundles roots records)
    (distinct : (bundles.map (·.name)).Nodup)
    (row : s.amendAll c (activationEdits bundles roots records) = (d, .ok ())) :
    surface d.data =
      installed roots records (Truncate.payload (bundles.flatMap updates)) (surface c.data) := by
  obtain ⟨dropped, drops, rest⟩ := Store.amendAll_append_ok row
  rw [(declared.shapes distinct).shape dropped d rest, data_dropEdits drops]

/-! ## Another order -/

theorem Declared.perm (declared : Declared bundles roots records) (perm : bundles.Perm others) :
    ∃ roots' records', Declared others roots' records' ∧ roots.Perm roots' ∧
      records.Perm records' := by
  obtain ⟨lists, each, same⟩ := bind_ok declared.collected
  obtain ⟨lists', each', permLists⟩ := exists_mapM_of_perm perm each
  obtain ⟨records', recorded, permRecords⟩ := exists_mapM_of_perm perm declared.recorded
  refine ⟨lists'.flatten, records', ⟨validateSet_perm perm declared.valid, ?_, recorded⟩, ?_,
    permRecords⟩
  · unfold allRoots
    rw [each']
    rfl
  · rw [← Except.ok.inj same]
    exact permLists.flatten

theorem mayReplace_perm (perm : roots.Perm roots') :
    s.MayReplace roots scratch look ↔ s.MayReplace roots' scratch look := by
  unfold Store.MayReplace Store.AdmitsAll
  by_cases whole : .root ∈ roots
  · rw [if_pos whole, if_pos (perm.mem_iff.1 whole)]
  · rw [if_neg whole, if_neg fun isRoot => whole (perm.mem_iff.2 isRoot)]
    simp only [(perm.map (part scratch)).mem_iff]

/-- Whether roots and records can be put in place does not depend on their order. -/
theorem mayInstall_perm (pairwise : roots.Pairwise Path.ApartFrom) (permRoots : roots.Perm roots')
    (permRecords : records.Perm records') :
    MayInstall s roots records scratch look ↔ MayInstall s roots' records' scratch look := by
  have placements : (roots.map (part scratch)).Pairwise ApartFrom := List.pairwise_map.2 pairwise
  unfold MayInstall
  rw [mayReplace_perm permRoots, ontoAll_perm (permRoots.map (part scratch)) placements]
  unfold Store.AdmitsAll
  simp only [(permRecords.map recording).mem_iff]

/-- Nor does what that makes of a surface. -/
theorem installed_perm (pairwise : roots.Pairwise Path.ApartFrom)
    (apart : (records.map recording).Pairwise ApartFrom) (permRoots : roots.Perm roots')
    (permRecords : records.Perm records') :
    installed roots records scratch look = installed roots' records' scratch look := by
  have placements : (roots.map (part scratch)).Pairwise ApartFrom := List.pairwise_map.2 pairwise
  unfold installed
  rw [ontoAll_perm (permRoots.map (part scratch)) placements,
    ontoAll_perm (permRecords.map recording) apart]

/-- After an activation a policy is one of a bundle, or what it was before. -/
theorem Declared.texts_cases (declared : Declared bundles roots records)
    (distinct : (bundles.map (·.name)).Nodup) (sorted : ∀ b ∈ bundles, b.Sorted) (id : String) :
    (∃ b ∈ bundles, ∃ file, id = b.policyId file ∧ ∀ before,
      Edit.texts (activationEdits bundles roots records) id before = b.policies.find? file) ∨
    ((∀ b ∈ bundles, (policyStart b.name).toList.isPrefixOf id.toList = false) ∧ ∀ before,
      Edit.texts (activationEdits bundles roots records) id before = before) := by
  by_cases named : ∃ b ∈ bundles, (policyStart b.name).toList.isPrefixOf id.toList = true
  · obtain ⟨b, present, starts⟩ := named
    obtain ⟨file, rfl⟩ := starts_iff.1 starts
    refine .inl ⟨b, present, file, rfl, fun before => ?_⟩
    exact texts_activationEdits (fun b present => declared.segments present) distinct present
      (sorted b present).2 roots records file before
  · have elsewhere : ∀ b ∈ bundles, (policyStart b.name).toList.isPrefixOf id.toList = false :=
      fun b present => Bool.eq_false_iff.2 fun starts => named ⟨b, present, starts⟩
    exact .inr ⟨elsewhere, texts_activationEdits_elsewhere elsewhere roots records⟩

theorem texts_perm (declared : Declared bundles roots records)
    (declared' : Declared others roots' records') (distinct : (bundles.map (·.name)).Nodup)
    (sorted : ∀ b ∈ bundles, b.Sorted) (perm : bundles.Perm others) (id : String)
    (before : Option String) :
    Edit.texts (activationEdits bundles roots records) id before =
      Edit.texts (activationEdits others roots' records') id before := by
  obtain ⟨b, present, file, rfl, mine⟩ | ⟨elsewhere, kept⟩ :=
    declared.texts_cases distinct sorted id
  · rw [mine, texts_activationEdits (fun b present => declared'.segments present)
      ((perm.map _).nodup_iff.1 distinct) (perm.mem_iff.1 present) (sorted b present).2]
  · rw [kept, texts_activationEdits_elsewhere]
    exact fun b present => elsewhere b (perm.mem_iff.2 present)

/-! ## A second time -/

/-- Who may write at a place may write above it. -/
theorem checkOwner_above {p q : Path} (unowned : s.checkOwner p = .ok ())
    (above : q.segments <+: p.segments) : s.checkOwner q = .ok () := by
  unfold Store.checkOwner Store.ownerOf?
  rw [List.find?_eq_none.2 fun claim present below => ?_]
  have free := Store.checkOwner_ok unowned present
  rw [Path.hasPrefix_trans (Path.hasPrefix_iff_leads.2 above) below] at free
  cases free

/-- Put in place a second time, roots and records leave everything as it is. -/
theorem installed_again :
    installed roots records scratch (installed roots records scratch look) =
      installed roots records scratch look := by
  unfold installed
  funext q
  -- Each row either says what stands at a place, or leaves it as it is.
  obtain ⟨x, recordsSay⟩ | recordsLeave := ontoAll_either (records.map recording) q
  · rw [recordsSay, recordsSay]
  · rw [recordsLeave, recordsLeave]
    obtain ⟨x, rootsSay⟩ | rootsLeave := ontoAll_either (roots.map (part scratch)) q
    · rw [rootsSay, rootsSay]
    · rw [rootsLeave, recordsLeave]

/-- No root lies strictly below the place of all records. -/
def OutsideRecords (roots : List Path) : Prop :=
  ∀ root ∈ roots, root.hasPrefix recordsPath = true → root = recordsPath

/-- Then no record is at or above a root. -/
theorem Declared.not_above_root (declared : Declared bundles roots records)
    (outside : OutsideRecords roots) {record : Path × Value} (present : record ∈ records)
    {root : Path} (isRoot : root ∈ roots) : ¬ record.1.segments <+: root.segments := by
  intro above
  obtain ⟨name, located⟩ := declared.located present
  have inside : root.hasPrefix recordsPath = true :=
    Path.hasPrefix_trans (Path.hasPrefix_iff_leads.2 above) (manifestPath_below_records located)
  have short := above.length_le
  rw [segments_manifestPath located, outside root isRoot inside] at short
  simp [recordsPath] at short

/-- A root can be put in place again: what was put there before is in nobody's way. -/
theorem Declared.admits_again (declared : Declared bundles roots records)
    (outside : OutsideRecords roots) (admits : s.AdmitsAll (roots.map (part scratch)) look)
    (admits' : s.AdmitsAll (records.map recording) (ontoAll (roots.map (part scratch)) look))
    {root : Path} (isRoot : root ∈ roots) :
    s.Admits (installed roots records scratch look) (part scratch root) := by
  have mine : part scratch root ∈ roots.map (part scratch) := List.mem_map_of_mem isRoot
  have passRoots {q : List String} (above : q <+: root.segments) (strict : q ≠ root.segments) :
      Passable look q → Passable (ontoAll (roots.map (part scratch)) look) q := by
    refine passable_ontoAll (List.forall_mem_map.2 fun other isOther below => ?_)
    by_cases same : other = root
    · rw [same] at below
      exact strict (above.eq_of_length_le below.length_le)
    · have apart := declared.pairwise.forall isOther isRoot same
      exact apart.1 (below.trans above)
  have passRecords {q : List String} (above : q <+: root.segments) :
      Passable (ontoAll (roots.map (part scratch)) look) q →
        Passable (installed roots records scratch look) q := by
    refine passable_ontoAll (List.forall_mem_map.2 fun record present below => ?_)
    exact declared.not_above_root outside present isRoot (below.trans above)
  intro changes
  by_cases something : (part scratch root).value = none
  · -- The root has been cleared, so what stands there are objects above a record.
    have cleared : ontoAll (roots.map (part scratch)) look root.segments = none := by
      have placements : (roots.map (part scratch)).Pairwise ApartFrom :=
        List.pairwise_map.2 declared.pairwise
      obtain ⟨before, last⟩ := ontoAll_of_mem placements mine look
      have here := onto_below (part scratch root) before []
      rw [List.append_nil, something] at here
      rw [last]
      exact here
    obtain ⟨record, present, meets⟩ :
        ∃ record ∈ records, ¬ Apart record.1.segments root.segments := by
      by_contra away
      have stands := changes.resolve_left fun value => value something
      have elsewhere : ∀ p ∈ records.map recording, Apart p.path.segments root.segments :=
        List.forall_mem_map.2 fun record present =>
          Classical.not_not.1 fun meets => away ⟨record, present, meets⟩
      exact stands ((ontoAll_elsewhere elsewhere _).trans cleared)
    have notAbove := declared.not_above_root outside present isRoot
    have above : root.segments <+: record.1.segments :=
      Classical.not_not.1 fun aside => meets ⟨notAbove, aside⟩
    obtain ⟨unowned, isOpen⟩ :=
      admits' (recording record) (List.mem_map_of_mem present) (.inl (Option.some_ne_none _))
    refine ⟨checkOwner_above unowned above, fun q higher _ => passRecords higher ?_⟩
    exact isOpen q (higher.trans above) fun same => notAbove (same ▸ higher)
  · obtain ⟨unowned, isOpen⟩ := admits _ mine (.inl something)
    refine ⟨unowned, fun q above strict => passRecords above ?_⟩
    exact passRoots above strict (isOpen q above strict)

/-- Roots and records that have been put in place can be put in place again. -/
theorem Declared.mayInstall_again (declared : Declared bundles roots records)
    (outside : OutsideRecords roots) (may : MayInstall s roots records scratch look) :
    MayInstall s roots records scratch (installed roots records scratch look) := by
  obtain ⟨mayReplace, admits'⟩ := may
  constructor
  · unfold Store.MayReplace at mayReplace ⊢
    split at mayReplace
    · next whole =>
      rw [if_pos whole]
      exact mayReplace
    · next parts =>
      rw [if_neg parts]
      exact List.forall_mem_map.2 fun root isRoot =>
        declared.admits_again outside mayReplace admits' isRoot
  · refine List.forall_mem_map.2 fun record present _ => ?_
    obtain ⟨unowned, isOpen⟩ :=
      admits' (recording record) (List.mem_map_of_mem present) (.inl (Option.some_ne_none _))
    refine ⟨unowned, fun q above strict => ?_⟩
    -- Above a record the roots say the same again, or leave the objects made for the record.
    obtain ⟨x, rootsSay⟩ | rootsLeave := ontoAll_either (roots.map (part scratch)) q
    · have before := isOpen q above strict
      unfold Passable at before ⊢
      rw [rootsSay] at before ⊢
      exact before
    · unfold Passable
      rw [rootsLeave]
      refine passable_ontoAll (List.forall_mem_map.2 fun other isOther below => ?_)
        (isOpen q above strict)
      obtain ⟨name, located⟩ := declared.located present
      obtain ⟨name', located'⟩ := declared.located isOther
      have same : record.1 = other.1 :=
        eq_of_manifest_above located located' (Path.hasPrefix_iff_leads.2 (below.trans above))
      have long : record.1.segments.length ≤ q.length := same ▸ below.length_le
      exact strict (above.eq_of_length_le long)

/-! ## Activations -/

/-- What an action commits, if it succeeds. -/
def Action.committed (a : Action) (s : Store) (ticket : Nat) : Option Contents :=
  (a.run s ticket).toOption.map (·.contents)

theorem committed_eq_some_iff {a : Action} {ticket : Nat} :
    a.committed s ticket = some d ↔ ∃ s', a.run s ticket = .ok s' ∧ s'.contents = d := by
  unfold Action.committed
  cases a.run s ticket with
  | ok s' => simp [Except.toOption]
  | error e => simp [Except.toOption]

/-- An activation commits what a row of edits makes of the contents. -/
theorem committed_activate_iff {ticket : Nat} :
    (Action.activate bundles).committed s ticket = some d ↔
      ∃ roots records, Declared bundles roots records ∧
        s.amendAll s.contents (activationEdits bundles roots records) = (d, .ok ()) := by
  rw [committed_eq_some_iff]
  constructor
  · rintro ⟨s', ran, rfl⟩
    obtain ⟨roots, records, valid, collected, recorded, row⟩ := run_activate_ok ran
    have sameClaims : (s.openWrite ticket).1.claims = s.claims := rfl
    rw [Store.amendAll_congr sameClaims] at row
    exact ⟨roots, records, ⟨valid, collected, recorded⟩, row⟩
  · rintro ⟨roots, records, declared, row⟩
    exact run_activate_of_row declared.valid declared.collected declared.recorded row

/-- Activations keep the maps in order. -/
theorem ordered_committed {ticket : Nat} (sorted : (Action.activate bundles).Sorted)
    (ordered : s.contents.Ordered)
    (done : (Action.activate bundles).committed s ticket = some d) : d.Ordered := by
  obtain ⟨s', ran, rfl⟩ := committed_eq_some_iff.1 done
  obtain ⟨roots, records, -, -, -, row⟩ := run_activate_ok ran
  exact ⟨ordered_run sorted ordered.data ran, Store.ordered_policies_amendAll row ordered.policies⟩

/-- What bundles commit they commit in any order. -/
theorem committed_perm {ticket ticket' : Nat} (ordered : s.contents.Ordered)
    (sorted : (Action.activate bundles).Sorted) (distinct : (bundles.map (·.name)).Nodup)
    (perm : bundles.Perm others)
    (done : (Action.activate bundles).committed s ticket = some d) :
    (Action.activate others).committed s ticket' = some d := by
  obtain ⟨roots, records, declared, row⟩ := committed_activate_iff.1 done
  obtain ⟨roots', records', declared', permRoots, permRecords⟩ := declared.perm perm
  have sorted' : (Action.activate others).Sorted := fun b present => sorted b (perm.mem_iff.2 present)
  have distinct' : (others.map (·.name)).Nodup := (perm.map _).nodup_iff.1 distinct
  have maps : ∀ b ∈ bundles, b.Sorted := fun b present => (sorted b present).1
  have may := (declared.row_succeeds_iff distinct ordered.policies).1 ⟨d, row⟩
  rw [mayInstall_perm declared.pairwise permRoots permRecords,
    payload_perm declared.valid maps perm] at may
  obtain ⟨d', row'⟩ := (declared'.row_succeeds_iff distinct' ordered.policies).2 may
  have done' : (Action.activate others).committed s ticket' = some d' :=
    committed_activate_iff.2 ⟨roots', records', declared', row'⟩
  have same : d' = d := by
    refine (ordered_committed sorted' ordered done').ext (ordered_committed sorted ordered done) ?_
      fun id => ?_
    · rw [declared.surface_row distinct row, declared'.surface_row distinct' row',
        payload_perm declared.valid maps perm]
      exact (installed_perm declared.pairwise (apart_records distinct declared.recorded) permRoots
        permRecords).symm
    · rw [Store.find?_amendAll row, Store.find?_amendAll row',
        texts_perm declared declared' distinct maps perm]
  rw [done', same]

/-- What bundles have committed they commit again. -/
theorem committed_again {again : Store} {ticket ticket' : Nat} (ordered : s.contents.Ordered)
    (sorted : (Action.activate bundles).Sorted) (distinct : (bundles.map (·.name)).Nodup)
    (outside : ∀ b ∈ bundles, ∀ root, b.Declares root → root.hasPrefix recordsPath = true →
      root = recordsPath)
    (done : (Action.activate bundles).committed s ticket = some d)
    (claims : again.claims = s.claims) (contents : again.contents = d) :
    (Action.activate bundles).committed again ticket' = some d := by
  obtain ⟨roots, records, declared, row⟩ := committed_activate_iff.1 done
  have maps : ∀ b ∈ bundles, b.Sorted := fun b present => (sorted b present).1
  have kept : d.Ordered := ordered_committed sorted ordered done
  have aside : OutsideRecords roots := fun root isRoot below => by
    obtain ⟨-, -, all⟩ := validateSet_ok declared.valid
    obtain ⟨b, present, declares⟩ := ((all roots declared.collected).2 root).1 isRoot
    exact outside b present root declares below
  have look := declared.surface_row distinct row
  have may := (declared.row_succeeds_iff distinct ordered.policies).1 ⟨d, row⟩
  have may' := declared.mayInstall_again aside may
  rw [← look] at may'
  obtain ⟨d', row'⟩ := (declared.row_succeeds_iff distinct kept.policies).2 may'
  have done' : (Action.activate bundles).committed again ticket' = some d' := by
    refine committed_activate_iff.2 ⟨roots, records, declared, ?_⟩
    rw [Store.amendAll_congr claims, contents]
    exact row'
  have keptAgain : d'.Ordered := ordered_committed sorted (contents ▸ kept) done'
  have same : d' = d := by
    refine keptAgain.ext kept ?_ fun id => ?_
    · rw [declared.surface_row distinct row', look]
      exact installed_again
    · rw [Store.find?_amendAll row', Store.find?_amendAll row]
      obtain ⟨b, -, file, -, mine⟩ | ⟨-, leaves⟩ := declared.texts_cases distinct maps id
      · rw [mine, mine]
      · rw [leaves]
  rw [done', same]

/-- In which order bundles with different names are activated does not matter: the activation succeeds
in any order or in none, and commits the same. When no root lies strictly below the place of all
records, a second activation succeeds too and leaves everything as it is. -/
theorem activation_unordered (ordered : s.contents.Ordered)
    (sorted : (Action.activate bundles).Sorted) (distinct : (bundles.map (·.name)).Nodup) :
    (∀ others, bundles.Perm others → ∀ ticket ticket',
      (Action.activate bundles).committed s ticket = (Action.activate others).committed s ticket') ∧
    ((∀ b ∈ bundles, ∀ root, b.Declares root → root.hasPrefix recordsPath = true →
        root = recordsPath) →
      ∀ ticket d, (Action.activate bundles).committed s ticket = some d →
        ∀ again : Store, again.claims = s.claims → again.contents = d →
          ∀ ticket', (Action.activate bundles).committed again ticket' = some d) := by
  constructor
  · intro others perm ticket ticket'
    have sorted' : (Action.activate others).Sorted :=
      fun b present => sorted b (perm.mem_iff.2 present)
    have distinct' : (others.map (·.name)).Nodup := (perm.map _).nodup_iff.1 distinct
    refine Option.ext fun d => ⟨fun done => ?_, fun done => ?_⟩
    · exact committed_perm ordered sorted distinct perm done
    · exact committed_perm ordered sorted' distinct' perm.symm done
  · intro outside ticket d done again claims contents ticket'
    exact committed_again ordered sorted distinct outside done claims contents

/-- A bundle without data: its roots are cleared, also the one above the place of all records. -/
def clearing : Bundle :=
  { name := "c", manifest := ⟨"2", some ["system", "y"], []⟩, data := [], policies := [] }

/-- A store with something at the roots of both samples. -/
def pairStore : Store :=
  .new 1 (.object [("a", .int 0), ("system", .object [("log", .null)]), ("x", .int 0), ("y", .int 1)])

theorem pair_unordered :
    ∃ d, (Action.activate [sample, clearing]).committed pairStore 1 = some d ∧
      (Action.activate [clearing, sample]).committed pairStore 2 = some d ∧
      (Action.activate [sample, clearing]).committed { pairStore with contents := d } 3 = some d := by
  have succeeds : ((Action.activate [sample, clearing]).committed pairStore 1).isSome = true := by
    decide +kernel
  obtain ⟨d, done⟩ := Option.isSome_iff_exists.1 succeeds
  have ordered : pairStore.contents.Ordered := by
    refine ⟨⟨?_, trivial, ⟨List.pairwise_singleton .., trivial, trivial⟩, trivial, trivial, trivial⟩,
      .nil⟩
    unfold Dict.Ordered
    decide
  have sorted : (Action.activate [sample, clearing]).Sorted := by
    intro b present
    rcases List.mem_pair.1 present with rfl | rfl
    · refine ⟨⟨⟨List.pairwise_singleton .., ⟨List.pairwise_singleton .., trivial, trivial⟩, trivial⟩,
        List.pairwise_singleton ..⟩, ?_, trivial, ⟨trivial, trivial⟩, trivial⟩
      exact List.pairwise_pair.2 (by decide)
    · refine ⟨⟨⟨.nil, trivial⟩, .nil⟩, ?_, trivial, ⟨trivial, trivial, trivial⟩, trivial⟩
      exact List.pairwise_pair.2 (by decide)
  have outside : ∀ b ∈ [sample, clearing], ∀ root, b.Declares root →
      root.hasPrefix recordsPath = true → root = recordsPath := by
    have roots : sample.manifest.rootPaths sample.name = .ok [⟨["x"], by decide⟩] := rfl
    have roots' : clearing.manifest.rootPaths clearing.name =
      .ok [⟨["system"], by decide⟩, ⟨["y"], by decide⟩] := rfl
    intro b present root declares below
    rcases List.mem_pair.1 present with rfl | rfl
    · rw [declares_iff roots] at declares
      rw [List.mem_singleton.1 declares] at below
      cases below
    · rw [declares_iff roots'] at declares
      rcases List.mem_pair.1 declares with rfl | rfl <;> cases below
  obtain ⟨unordered, again⟩ := activation_unordered ordered sorted (by decide)
  have another := unordered [clearing, sample] (.swap clearing sample []) 1 2
  have once := again outside 1 d done { pairStore with contents := d } rfl rfl 3
  exact ⟨d, done, another.symm.trans done, once⟩

end Bundle

end DocStore
