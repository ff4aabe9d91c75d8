import DocStore.Proofs.Bundle.Removal
import DocStore.Proofs.Bundle.Revisions
import DocStore.System.Commit

/-!
# Manifests are read back as they were written

A manifest leaves out what says nothing, so that no roots at all, which mean the whole tree, and an
empty list of roots, which means no place, are told apart by whether there is a list. Whoever looks at
a commit finds the roots of bundles in what is recorded then.

Results:
  * `find?_rootsIn`: what is found for one name depends on its own record only;
  * `records_read_back`: a recorded manifest is read as what it was; after an activation the roots of its
    bundles are found, and those of others are as before.
-/

namespace DocStore.Bundle

variable {s : Store} {t u : Transaction} {bundles : List Bundle} {name : String}

/-- In a tree with entries in order the roots found for a name are those of its record. -/
theorem find?_rootsIn {data : Value} (ordered : data.Ordered) (name : String) :
    (rootsIn data).find? name = (record? data name).bind (entryRoots? name) := by
  refine Option.ext fun roots => ?_
  rw [← mem_rootsIn_iff ordered]
  exact ⟨Dict.mem_of_find?, (ordered_rootsIn ordered).find?_of_mem⟩

/-- What everyone is told about a commit is what was put in place. -/
theorem contents_of_delivery {place : Nat} {told : Delivery}
    (isTold : told ∈ System.deliveriesOf place s t) : told.contents = s.contents := by
  obtain ⟨trigger, -, rfl⟩ := List.mem_map.1 isTold
  rfl

/-- What is found of the records after an activation, compared with what was found before. -/
structure ReadsBack (bundles : List Bundle) (before after : Value) : Prop where
  /-- For each of the bundles there are the roots that its manifest declares. -/
  activated : ∀ b ∈ bundles, ∃ roots, b.manifest.rootPaths b.name = .ok roots ∧
    (rootsIn after).find? b.name = some roots
  /-- For another name there is what there was, when no root overlaps the place of its record. -/
  others : ∀ name, name ∉ bundles.map (·.name) →
    (∀ b ∈ bundles, ∀ root, b.Declares root →
      Apart root.segments (recordsPath.segments ++ [name])) →
    (rootsIn after).find? name = (rootsIn before).find? name

/-- An activation of bundles with different names is read back. -/
theorem readsBack_of_activateIn (write : s.Writes t) (ordered : (s.view t).data.Ordered)
    (sorted : (Action.activate bundles).Sorted) (distinct : (bundles.map (·.name)).Nodup)
    (ok : activateIn s t bundles = .ok u) :
    ReadsBack bundles (s.view t).data (s.install u).contents.data := by
  obtain ⟨roots, records, c, collected, recorded, row, continues⟩ := activateIn_ok write ok
  obtain ⟨lists, each, gathered⟩ := bind_ok collected
  rw [Store.contents_install, continues.view]
  have ordered' : c.data.Ordered :=
    ordered_amendAll row ordered fun e => sorted_activationEdits sorted recorded
  constructor
  case activated =>
    intro b isBundle
    obtain ⟨declared, -, isDeclared⟩ := exists_result_of_mem each isBundle
    obtain ⟨_, -, rest⟩ := Store.amendAll_append_ok row
    obtain ⟨_, -, recording⟩ := Store.amendAll_append_ok rest
    refine ⟨declared, isDeclared, ?_⟩
    rw [find?_rootsIn ordered']
    exact entryRoots?_of_last recorded recording (lastOfName_of_nodup distinct isBundle) isDeclared
  case others =>
    intro name other apart
    have aside : ∀ root ∈ roots, Apart root.segments (recordsPath.segments ++ [name]) := by
      intro root isRoot
      cases gathered
      obtain ⟨list, isList, inside⟩ := List.mem_flatten.1 isRoot
      obtain ⟨b, isBundle, declared⟩ := exists_of_mem_results each isList
      exact apart b isBundle root ⟨list, declared, inside⟩
    rw [find?_rootsIn ordered', find?_rootsIn ordered,
      record?_activationEdits aside recorded row other]

/-- A manifest is read as what was recorded. After an activation the roots that are found, in what is
committed and in what everyone is told about it, are those of its bundles, and for other names those
from before. -/
theorem records_read_back :
    (∀ m : Manifest, Manifest.ofValue? m.toValue = some m) ∧
    ∀ (s : Store) (t u : Transaction) (bundles : List Bundle), s.Writes t →
      (s.view t).data.Ordered → (Action.activate bundles).Sorted → (bundles.map (·.name)).Nodup →
      activateIn s t bundles = .ok u →
        ReadsBack bundles (s.view t).data (s.install u).contents.data ∧
        ∀ place, ∀ told ∈ System.deliveriesOf place (s.install u) u,
          ReadsBack bundles (s.view t).data told.contents.data := by
  refine ⟨Manifest.ofValue?_toValue, fun s t u bundles write ordered sorted distinct ok => ?_⟩
  have back := readsBack_of_activateIn write ordered sorted distinct ok
  refine ⟨back, fun place told isTold => ?_⟩
  rw [contents_of_delivery isTold]
  exact back

/-- A store with two bundles, and a trigger. -/
def filedStore : Store :=
  { Store.new 1 (.object [("system", .object [("bundles", .object
      [("a", manifestWith ["p"]), ("c", manifestWith ["q"])])])]) with
    triggers := [(1, .overlapWatch 0)] }

/-- A writer of that store. -/
def filedWriter : Transaction := (filedStore.openWrite 1).2

/-- Two bundles: one has a root where `c` is recorded, and one has no data. -/
def filed : List Bundle :=
  [{ name := "b", manifest := ⟨"1", some ["x", "system/bundles/c"], []⟩
     data := [("x", .int 1)], policies := [] },
   { name := "d", manifest := ⟨"", some ["y"], [("k", .int 1)]⟩, data := [], policies := [] }]

/-- The bundles are found with their roots, and `a` with those it had; everyone is told so. -/
theorem records_read_back_filed :
    Manifest.ofValue? (Manifest.mk "" none []).toValue = some ⟨"", none, []⟩ ∧
    ∃ u, activateIn filedStore filedWriter filed = .ok u ∧
      ∃ told ∈ System.deliveriesOf 0 (filedStore.install u) u,
        ReadsBack filed (filedStore.view filedWriter).data told.contents.data := by
  refine ⟨records_read_back.1 _, ?_⟩
  have succeeds : (activateIn filedStore filedWriter filed).isOk = true := by
    decide +kernel
  cases done : activateIn filedStore filedWriter filed with
  | error e =>
    rw [done] at succeeds
    cases succeeds
  | ok u =>
    have manifest (root : String) : (manifestWith [root]).Ordered := by
      show (Value.object [("manifest",
        .object [("revision", .string "1"), ("roots", .array [.string root])])]).Ordered
      have names : "revision" < "roots" := by decide
      exact ⟨List.pairwise_singleton .., ⟨List.pairwise_pair.2 names, trivial,
        ⟨trivial, trivial⟩, trivial⟩, trivial⟩
    have ordered : (filedStore.view filedWriter).data.Ordered :=
      ⟨List.pairwise_singleton .., ⟨List.pairwise_singleton .., ⟨List.pairwise_pair.2 (by decide),
        manifest "p", manifest "q", trivial⟩, trivial⟩, trivial⟩
    have sorted : (Action.activate filed).Sorted := by
      intro b isBundle
      rcases List.mem_pair.1 isBundle with rfl | rfl
      · refine ⟨⟨⟨List.pairwise_singleton .., trivial, trivial⟩, .nil⟩, ?_, trivial,
          ⟨trivial, trivial, trivial⟩, trivial⟩
        exact List.pairwise_pair.2 (by decide)
      · refine ⟨⟨⟨.nil, trivial⟩, .nil⟩, ?_, ⟨List.pairwise_singleton .., trivial, trivial⟩,
          ⟨trivial, trivial⟩, trivial⟩
        exact List.pairwise_pair.2 (by decide)
    have told : ⟨0, .overlapWatch 0, (filedStore.install u).contents, ⟨u.id, u.changes⟩⟩ ∈
        System.deliveriesOf 0 (filedStore.install u) u := by
      unfold System.deliveriesOf
      rw [Store.triggers_install]
      exact List.mem_cons_self
    have back := records_read_back.2 filedStore filedWriter u filed ⟨rfl, rfl⟩ ordered sorted
      (by decide) done
    exact ⟨u, rfl, _, told, back.2 0 _ told⟩

end DocStore.Bundle
