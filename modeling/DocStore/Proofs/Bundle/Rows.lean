import DocStore.Bundle.Activation
import DocStore.Proofs.Store.Replacement

/-!
# Bundle work as rows of edits

Activation and deactivation are each one row of edits on what the transaction sees. The places that
the edits are about are known beforehand: from the manifests of the bundles, or from those that are
recorded.

Results:
  * `activateIn_ok`, `activateIn_of_row`: an activation is the row `activationEdits`;
  * `deactivateIn_ok`: a deactivation is the row `deactivationEdits`.
-/

namespace DocStore.Bundle

variable {s : Store} {t u : Transaction}

/-- A row of edits that succeeds does so on contents. -/
theorem applyEdits_ok (write : s.Writes t) {edits : List Edit}
    (ok : applyEdits s t edits = .ok u) :
    ∃ c, s.amendAll (s.view t) edits = (c, .ok ()) ∧ s.Continues t u c := by
  obtain ⟨continues, same⟩ := Store.editAll_eq_amendAll write edits
  unfold applyEdits at ok
  cases edited : s.editAll t edits with
  | mk changed result =>
    rw [edited] at ok continues same
    cases result with
    | error e => cases ok
    | ok _ =>
      cases ok
      exact ⟨_, Prod.ext rfl same.symm, continues⟩

/-- A row that succeeds on contents does so in a write transaction. -/
theorem applyEdits_of_row (write : s.Writes t) {edits : List Edit} {c : Contents}
    (row : s.amendAll (s.view t) edits = (c, .ok ())) :
    ∃ u, applyEdits s t edits = .ok u ∧ s.Continues t u c := by
  obtain ⟨continues, same⟩ := Store.editAll_eq_amendAll write edits
  rw [row] at continues same
  unfold applyEdits
  cases edited : s.editAll t edits with
  | mk changed result =>
    rw [edited] at continues same
    cases same
    exact ⟨changed, rfl, continues⟩

/-- One row after the other is a row. -/
theorem amendAll_append_of_ok {c d : Contents} {first second : List Edit}
    {result : Contents × Except StoreError Unit} (done : s.amendAll c first = (d, .ok ()))
    (next : s.amendAll d second = result) : s.amendAll c (first ++ second) = result := by
  rw [Store.amendAll_append, done]
  exact next

/-- What is recorded about a bundle, and where. -/
def recordOf (b : Bundle) : Except BundleError (Path × Value) := do
  let path ← manifestPath b.name
  pure (path, b.manifest.toValue)

/-- The edits that record a value. -/
def recordEdits (record : Path × Value) : List Edit :=
  Edit.above record.1 ++ [.write .add record.1 record.2]

theorem recordManifests_ok (write : s.Writes t) {bundles : List Bundle}
    (ok : recordManifests s t bundles = .ok u) :
    ∃ records c, bundles.mapM recordOf = .ok records ∧
      s.amendAll (s.view t) (records.flatMap recordEdits) = (c, .ok ()) ∧ s.Continues t u c := by
  induction bundles generalizing t with
  | nil =>
    cases ok
    exact ⟨[], _, rfl, rfl, .refl write⟩
  | cons b rest ih =>
    unfold recordManifests at ok
    obtain ⟨path, located, ok⟩ := bind_ok ok
    obtain ⟨between, first, ok⟩ := bind_ok ok
    obtain ⟨c, edited, continues⟩ := applyEdits_ok write first
    obtain ⟨records, d, recorded, others, onward⟩ := ih (continues.writes write) ok
    rw [continues.view] at others
    refine ⟨(path, b.manifest.toValue) :: records, d, ?_, ?_, continues.trans onward⟩
    · rw [mapM_ok_iff] at recorded ⊢
      refine .cons ?_ recorded
      unfold recordOf
      rw [located]
      rfl
    · rw [List.flatMap_cons]
      exact amendAll_append_of_ok edited others

theorem recordManifests_of_row (write : s.Writes t) {bundles : List Bundle}
    {records : List (Path × Value)} {c : Contents} (recorded : bundles.mapM recordOf = .ok records)
    (row : s.amendAll (s.view t) (records.flatMap recordEdits) = (c, .ok ())) :
    ∃ u, recordManifests s t bundles = .ok u ∧ s.Continues t u c := by
  rw [mapM_ok_iff] at recorded
  induction recorded generalizing t with
  | nil =>
    cases row
    exact ⟨t, rfl, .refl write⟩
  | @cons b record bundles records first more ih =>
    rw [List.flatMap_cons] at row
    obtain ⟨between, mine, others⟩ := Store.amendAll_append_ok row
    obtain ⟨path, located, same⟩ := bind_ok first
    cases same
    obtain ⟨u, done, continues⟩ := applyEdits_of_row write mine
    rw [← continues.view] at others
    obtain ⟨w, rest, onward⟩ := ih (continues.writes write) others
    refine ⟨w, ?_, continues.trans onward⟩
    rw [recordManifests, located]
    show (applyEdits s t (recordEdits (path, b.manifest.toValue)) >>= fun t =>
      recordManifests s t bundles) = .ok w
    rw [done]
    exact rest

/-- The edits that drop the policies of bundles. -/
def dropEdits (names : List String) : List Edit :=
  names.map fun name => .dropPolicies (policyStart name)

/-- The edits of an activation, with the roots of the bundles and what is recorded about them. -/
def activationEdits (bundles : List Bundle) (roots : List Path) (records : List (Path × Value)) :
    List Edit :=
  dropEdits (bundles.map (·.name)) ++
    (Truncate.edits roots (bundles.flatMap updates) ++ records.flatMap recordEdits)

/-- An activation is one row of edits. -/
theorem activateIn_ok (write : s.Writes t) {bundles : List Bundle}
    (ok : activateIn s t bundles = .ok u) :
    ∃ roots records c, allRoots bundles = .ok roots ∧ bundles.mapM recordOf = .ok records ∧
      s.amendAll (s.view t) (activationEdits bundles roots records) = (c, .ok ()) ∧
      s.Continues t u c := by
  unfold activateIn at ok
  obtain ⟨dropped, drops, ok⟩ := bind_ok ok
  obtain ⟨roots, declared, ok⟩ := bind_ok ok
  obtain ⟨replaced, replacing, recording⟩ := bind_ok ok
  obtain ⟨c, first, toDropped⟩ := applyEdits_ok write drops
  have writeDropped := toDropped.writes write
  obtain ⟨d, second, toReplaced⟩ := applyEdits_ok writeDropped replacing
  obtain ⟨records, e, recorded, third, toEnd⟩ :=
    recordManifests_ok (toReplaced.writes writeDropped) recording
  rw [toDropped.view] at second
  rw [toReplaced.view] at third
  refine ⟨roots, records, e, declared, recorded, ?_, (toDropped.trans toReplaced).trans toEnd⟩
  refine amendAll_append_of_ok ?_ (amendAll_append_of_ok second third)
  unfold dropEdits
  rw [List.map_map]
  exact first

/-- A row of edits that succeeds makes an activation. -/
theorem activateIn_of_row (write : s.Writes t) {bundles : List Bundle} {roots : List Path}
    {records : List (Path × Value)} {c : Contents} (collected : allRoots bundles = .ok roots)
    (recorded : bundles.mapM recordOf = .ok records)
    (row : s.amendAll (s.view t) (activationEdits bundles roots records) = (c, .ok ())) :
    ∃ u, activateIn s t bundles = .ok u ∧ s.Continues t u c := by
  obtain ⟨d, drops, row⟩ := Store.amendAll_append_ok row
  obtain ⟨e, replacing, recording⟩ := Store.amendAll_append_ok row
  unfold dropEdits at drops
  rw [List.map_map] at drops
  obtain ⟨dropped, first, toDropped⟩ := applyEdits_of_row write drops
  have writeDropped := toDropped.writes write
  rw [← toDropped.view] at replacing
  obtain ⟨replaced, second, toReplaced⟩ := applyEdits_of_row writeDropped replacing
  rw [← toReplaced.view] at recording
  obtain ⟨u, third, toEnd⟩ :=
    recordManifests_of_row (toReplaced.writes writeDropped) recorded recording
  refine ⟨u, ?_, (toDropped.trans toReplaced).trans toEnd⟩
  unfold activateIn
  show (applyEdits s t (bundles.map fun b => .dropPolicies (policyStart b.name)) >>= _) = _
  rw [show applyEdits s t (bundles.map fun b => .dropPolicies (policyStart b.name)) = .ok dropped
    from first]
  show (allRoots bundles >>= _) = _
  rw [collected]
  show (applyEdits s dropped (Truncate.edits roots (bundles.flatMap updates)) >>= _) = _
  rw [second]
  exact third

/-! ## Deactivation -/

/-- Recorded roots are found in the data that a transaction sees. -/
theorem recordedRoots_congr (write : s.Writes t) (write' : s.Writes u)
    (data : (s.view u).data = (s.view t).data) : recordedRoots s u = recordedRoots s t := by
  funext name
  unfold recordedRoots
  congr 1
  funext path
  rw [Store.read_eq_lookup write, Store.read_eq_lookup write', data]

/-- Dropping policies leaves the data alone. -/
theorem data_dropEdits {names : List String} {c d : Contents}
    (ok : s.amendAll c (dropEdits names) = (d, .ok ())) : d.data = c.data := by
  induction names generalizing c with
  | nil =>
    cases ok
    rfl
  | cons name rest ih =>
    obtain ⟨between, first, others⟩ := Store.amendAll_cons_ok ok
    exact (ih others).trans (Contents.deletePolicies_ok first).1

theorem dismantle_ok (write : s.Writes t) {before found : List Path} {names : List String}
    (ok : dismantle s t before names = .ok (u, found)) :
    ∃ roots c, names.mapM (recordedRoots s t) = .ok roots ∧ found = before ++ roots.flatten ∧
      s.amendAll (s.view t) (dropEdits names) = (c, .ok ()) ∧ s.Continues t u c := by
  induction names generalizing t before with
  | nil =>
    cases ok
    exact ⟨[], _, rfl, (List.append_nil _).symm, rfl, .refl write⟩
  | cons name rest ih =>
    unfold dismantle at ok
    obtain ⟨mine, recorded, ok⟩ := bind_ok ok
    obtain ⟨between, first, ok⟩ := bind_ok ok
    obtain ⟨c, dropped, continues⟩ := applyEdits_ok write first
    have writeBetween := continues.writes write
    obtain ⟨roots, d, more, rfl, others, onward⟩ := ih writeBetween ok
    have data : (s.view between).data = (s.view t).data := by
      rw [continues.view]
      have one : s.amendAll (s.view t) (dropEdits [name]) = (c, .ok ()) := dropped
      exact data_dropEdits one
    rw [recordedRoots_congr write writeBetween data] at more
    rw [continues.view] at others
    refine ⟨mine :: roots, d, ?_, ?_, amendAll_append_of_ok dropped others,
      continues.trans onward⟩
    · rw [mapM_ok_iff] at more ⊢
      exact .cons recorded more
    · rw [List.flatten_cons, List.append_assoc]

theorem dropRecords_ok (write : s.Writes t) {names : List String}
    (ok : dropRecords s t names = .ok u) :
    ∃ paths c, names.mapM recordPath = .ok paths ∧
      s.amendAll (s.view t) (paths.map .discard) = (c, .ok ()) ∧ s.Continues t u c := by
  induction names generalizing t with
  | nil =>
    cases ok
    exact ⟨[], _, rfl, rfl, .refl write⟩
  | cons name rest ih =>
    unfold dropRecords at ok
    obtain ⟨path, located, ok⟩ := bind_ok ok
    obtain ⟨between, first, ok⟩ := bind_ok ok
    obtain ⟨c, edited, continues⟩ := applyEdits_ok write first
    obtain ⟨paths, d, more, others, onward⟩ := ih (continues.writes write) ok
    rw [continues.view] at others
    refine ⟨path :: paths, d, ?_, amendAll_append_of_ok edited others, continues.trans onward⟩
    rw [mapM_ok_iff] at more ⊢
    exact .cons located more

/-- The edits of a deactivation, with the recorded roots and the places of the records. -/
def deactivationEdits (names : List String) (roots paths : List Path) : List Edit :=
  dropEdits names ++ (Truncate.edits roots [] ++ paths.map .discard)

/-- A deactivation is one row of edits. -/
theorem deactivateIn_ok (write : s.Writes t) {names : List String}
    (ok : deactivateIn s t names = .ok u) :
    ∃ roots paths c, names.mapM (recordedRoots s t) = .ok roots ∧
      names.mapM recordPath = .ok paths ∧
      s.amendAll (s.view t) (deactivationEdits names roots.flatten paths) = (c, .ok ()) ∧
      s.Continues t u c := by
  unfold deactivateIn at ok
  obtain ⟨⟨dismantled, found⟩, first, ok⟩ := bind_ok ok
  obtain ⟨replaced, replacing, dropping⟩ := bind_ok ok
  obtain ⟨roots, c, recorded, rfl, drops, toDismantled⟩ := dismantle_ok write first
  have writeDismantled := toDismantled.writes write
  obtain ⟨d, second, toReplaced⟩ := applyEdits_ok writeDismantled replacing
  obtain ⟨paths, e, located, third, toEnd⟩ :=
    dropRecords_ok (toReplaced.writes writeDismantled) dropping
  rw [toDismantled.view] at second
  rw [toReplaced.view] at third
  exact ⟨roots, paths, e, recorded, located,
    amendAll_append_of_ok drops (amendAll_append_of_ok second third),
    (toDismantled.trans toReplaced).trans toEnd⟩

/-! ## What the rows put in place -/

theorem puts_recordEdits (records : List (Path × Value)) :
    (records.flatMap recordEdits).flatMap Edit.puts =
      records.map fun record => ⟨record.1, some record.2⟩ := by
  rw [List.flatMap_assoc, List.map_eq_flatMap]
  congr 1
  funext record
  unfold recordEdits
  rw [List.flatMap_append, Edit.puts_above]
  rfl

theorem puts_discards (paths : List Path) :
    (paths.map Edit.discard).flatMap Edit.puts = paths.map fun path => ⟨path, none⟩ := by
  rw [List.flatMap_map, List.map_eq_flatMap]
  rfl

theorem puts_dropEdits (names : List String) : (dropEdits names).flatMap Edit.puts = [] := by
  unfold dropEdits
  rw [List.flatMap_map]
  exact List.flatMap_eq_nil_iff.2 fun _ _ => rfl

theorem misses_recordEdits {record : Path × Value} {q : Path}
    (misses : record.1.hasPrefix q = true → record.1 = q) {e : Edit}
    (present : e ∈ recordEdits record) : e.Misses q := by
  rcases List.mem_append.1 present with above | write
  · exact Edit.misses_above misses above
  · rw [List.mem_singleton.1 write]
    exact misses

theorem misses_dropEdits {names : List String} {e : Edit} (present : e ∈ dropEdits names)
    (q : Path) : e.Misses q := by
  obtain ⟨name, -, rfl⟩ := List.mem_map.1 present
  trivial

end DocStore.Bundle
