import DocStore.Proofs.Store.Effect
import DocStore.Store.Truncate

/-!
# What a bulk replacement leaves at a place

A bulk replacement puts the parts of the scratch tree in place, one for each base path. Where a part
is put in place, the objects above it are made first.

Results:
  * `puts_edits`: what a bulk replacement puts in place;
  * `misses_edits`: which places are out of its way.
-/

namespace DocStore

namespace Path

theorem hasPrefix_trans {p q r : Path} (h : p.hasPrefix q = true) (h' : q.hasPrefix r = true) :
    p.hasPrefix r = true :=
  hasPrefix_iff_leads.2 ((hasPrefix_iff_leads.1 h').trans (hasPrefix_iff_leads.1 h))

theorem eq_of_hasPrefix {p q : Path} (h : p.hasPrefix q = true) (h' : q.hasPrefix p = true) :
    p = q := by
  have shorter := hasPrefix_iff_leads.1 h
  have longer := hasPrefix_iff_leads.1 h'
  exact Path.ext (longer.eq_of_length (Nat.le_antisymm longer.length_le shorter.length_le))

/-- The parent of a path is strictly above it. -/
theorem parent?_above {p parent : Path} (h : p.parent? = some parent) :
    p.hasPrefix parent = true ∧ parent.hasPrefix p = false := by
  unfold parent? at h
  split at h
  · cases h
  · next notRoot =>
    cases h
    refine ⟨hasPrefix_iff_leads.2 (List.take_prefix _ _), hasPrefix_eq_false_iff.2 fun below => ?_⟩
    have short := below.length_le
    have long : p.segments.length ≠ 0 := by
      unfold isRoot at notRoot
      rw [List.isEmpty_iff] at notRoot
      exact fun none => notRoot (List.length_eq_zero_iff.1 none)
    unfold take length at short
    rw [List.length_take] at short
    omega

theorem isRoot_iff {p : Path} : p.isRoot = true ↔ p = root := by
  unfold isRoot
  rw [List.isEmpty_iff]
  exact ⟨fun h => Path.ext h, fun h => by rw [h]; rfl⟩

end Path

namespace Edit

/-- The edits that make the objects above a path. -/
def above (path : Path) : List Edit :=
  match path.parent? with
  | some parent => [.makeDir parent]
  | none => []

theorem mem_above {path : Path} {e : Edit} (present : e ∈ above path) :
    ∃ parent, path.parent? = some parent ∧ e = .makeDir parent := by
  unfold above at present
  cases found : path.parent? with
  | none =>
    rw [found] at present
    cases present
  | some parent =>
    rw [found] at present
    exact ⟨parent, rfl, List.mem_singleton.1 present⟩

theorem puts_above (path : Path) : (above path).flatMap puts = [] := by
  unfold above
  cases path.parent? <;> rfl

/-- The objects above a path are made out of the way of what is not strictly above it. -/
theorem misses_above {path q : Path} (misses : path.hasPrefix q = true → path = q) {e : Edit}
    (present : e ∈ above path) : e.Misses q := by
  obtain ⟨parent, found, rfl⟩ := mem_above present
  obtain ⟨above, notBelow⟩ := Path.parent?_above found
  rw [Misses, Bool.eq_false_iff]
  intro inWay
  rw [misses (Path.hasPrefix_trans above inWay), inWay] at notBelow
  cases notBelow

end Edit

namespace Truncate

open Placement

theorem baseEdits_none {scratch : Value} {base : Path} (nothing : Tree.get? scratch base = none) :
    baseEdits scratch base = [.clear base] := by
  unfold baseEdits
  rw [nothing]

theorem baseEdits_some {scratch value : Value} {base : Path}
    (found : Tree.get? scratch base = some value) :
    baseEdits scratch base =
      .requireOwnerless base :: Edit.above base ++ [.writeUnchecked .add base value] := by
  unfold baseEdits
  rw [found]
  rfl

theorem edits_whole {bases : List Path} (whole : .root ∈ bases) (updates : List Update) :
    edits bases updates =
      [.requireNoClaims, .writeUnchecked .add .root (payload updates)] ++ policyEdits updates := by
  have root : bases.any Path.isRoot = true := List.any_eq_true.2 ⟨_, whole, rfl⟩
  unfold edits
  rw [root]
  rfl

theorem edits_parts {bases : List Path} (parts : .root ∉ bases) (updates : List Update) :
    edits bases updates = bases.flatMap (baseEdits (payload updates)) ++ policyEdits updates := by
  have noRoot : bases.any Path.isRoot = false := by
    rw [List.any_eq_false]
    exact fun base present isRoot => parts (Path.isRoot_iff.1 isRoot ▸ present)
  unfold edits
  rw [noRoot]
  rfl

theorem puts_baseEdits (scratch : Value) (base : Path) :
    (baseEdits scratch base).flatMap Edit.puts = [part scratch base] := by
  unfold part
  cases found : Tree.get? scratch base with
  | none =>
    rw [baseEdits_none found]
    rfl
  | some value =>
    rw [baseEdits_some found, List.flatMap_append, List.flatMap_cons, Edit.puts_above]
    rfl

theorem puts_policyEdits (updates : List Update) : (policyEdits updates).flatMap Edit.puts = [] := by
  refine List.flatMap_eq_nil_iff.2 fun e present => ?_
  obtain ⟨update, -, found⟩ := List.mem_filterMap.1 present
  cases update <;> cases found
  rfl

/-- A bulk replacement puts the parts of the scratch tree at the base paths in place. The root
comes alone. -/
theorem puts_edits {bases : List Path} (alone : .root ∈ bases → bases = [.root])
    (updates : List Update) :
    (edits bases updates).flatMap Edit.puts = bases.map (part (payload updates)) := by
  by_cases whole : .root ∈ bases
  · rw [edits_whole whole, List.flatMap_append, puts_policyEdits, alone whole]
    change [_] = [part _ _]
    unfold part Tree.get?
    rw [show Path.root.segments = [] from rfl, Tree.at?_nil]
    rfl
  · rw [edits_parts whole, List.flatMap_append, puts_policyEdits, List.append_nil,
      List.flatMap_assoc, List.map_eq_flatMap]
    congr 1
    funext base
    exact puts_baseEdits _ base

theorem misses_policyEdits {updates : List Update} {e : Edit} (present : e ∈ policyEdits updates)
    (q : Path) : e.Misses q := by
  obtain ⟨update, -, found⟩ := List.mem_filterMap.1 present
  cases update <;> cases found
  trivial

theorem misses_baseEdits {scratch : Value} {base q : Path}
    (misses : base.hasPrefix q = true → base = q) {e : Edit}
    (present : e ∈ baseEdits scratch base) : e.Misses q := by
  cases found : Tree.get? scratch base with
  | none =>
    rw [baseEdits_none found, List.mem_singleton] at present
    rw [present]
    exact misses
  | some value =>
    rw [baseEdits_some found] at present
    rcases List.mem_append.1 present with before | write
    · rcases List.mem_cons.1 before with rfl | above
      · trivial
      · exact Edit.misses_above misses above
    · rw [List.mem_singleton.1 write]
      exact misses

/-- A bulk replacement is out of the way of a place that is not strictly above a base path. -/
theorem misses_edits {bases : List Path} {updates : List Update} {q : Path}
    (misses : ∀ base ∈ bases, base.hasPrefix q = true → base = q) {e : Edit}
    (present : e ∈ edits bases updates) : e.Misses q := by
  by_cases whole : .root ∈ bases
  · rw [edits_whole whole] at present
    rcases List.mem_append.1 present with data | policy
    · rcases List.mem_cons.1 data with rfl | write
      · trivial
      · rw [List.mem_singleton.1 write]
        exact misses _ whole
    · exact misses_policyEdits policy q
  · rw [edits_parts whole] at present
    rcases List.mem_append.1 present with data | policy
    · obtain ⟨base, isBase, mine⟩ := List.mem_flatMap.1 data
      exact misses_baseEdits (misses base isBase) mine
    · exact misses_policyEdits policy q

/-- The parts that a bulk replacement puts in place have no effect on policies. -/
theorem text_baseEdits {scratch : Value} {base : Path} {e : Edit}
    (present : e ∈ baseEdits scratch base) (id : String) (before : Option String) :
    e.text id before = before := by
  cases found : Tree.get? scratch base with
  | none =>
    rw [baseEdits_none found, List.mem_singleton] at present
    rw [present]
    rfl
  | some value =>
    rw [baseEdits_some found] at present
    rcases List.mem_append.1 present with asked | write
    · rcases List.mem_cons.1 asked with rfl | above
      · rfl
      · obtain ⟨parent, -, rfl⟩ := Edit.mem_above above
        rfl
    · rw [List.mem_singleton.1 write]
      rfl

/-- Of a bulk replacement only the policy updates are about policies. -/
theorem texts_edits (bases : List Path) (updates : List Update) (id : String)
    (before : Option String) :
    Edit.texts (edits bases updates) id before = Edit.texts (policyEdits updates) id before := by
  by_cases whole : .root ∈ bases
  · rw [edits_whole whole, Edit.texts_append]
    rfl
  · rw [edits_parts whole, Edit.texts_append]
    congr 1
    refine Edit.texts_elsewhere (fun e present before => ?_) before
    obtain ⟨base, -, mine⟩ := List.mem_flatMap.1 present
    exact text_baseEdits mine id before

end Truncate

end DocStore
