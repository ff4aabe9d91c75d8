import DocStore.Proofs.Store.Shaping

/-!
# What a bulk replacement makes of a store

A bulk replacement is about base paths that do not overlap. Each of them gets what the scratch tree has
there. Objects are made above a place where something is put, and nothing else changes.

* Base paths do not disturb each other: what is made above one of them is an object, and above another
  one there has to be an object anyway.
* A base path that the scratch tree has nothing for is cleared. Nobody is asked when nothing stands there.

Results:
  * `payload_eq`: the scratch tree is a row of merges;
  * `shapes_truncate`, `truncate_succeeds_iff`: when a bulk replacement succeeds;
  * `truncate_replaces`: what a store holds after it.
-/

namespace DocStore

open DocStore.Tree

/-- The text that an update gives to a policy. -/
def Update.text? (id : String) : Update → Option String
  | .policy other text => if other = id then some text else none
  | .data _ _ => none

/-- The place and the value of a data update. -/
def Update.data? : Update → Option (Path × Value)
  | .data path value => some (path, value)
  | .policy _ _ => none

/-- A bulk replacement can be made: nothing is claimed when it replaces the whole tree, and else each
part of the scratch tree can be put in place. -/
def Store.MayReplace (s : Store) (bases : List Path) (scratch : Value) (look : Surface) : Prop :=
  if .root ∈ bases then s.claims = [] ∧ scratch.isObject = true
  else s.AdmitsAll (bases.map (Placement.part scratch)) look

namespace Truncate

open Placement

variable {s : Store} {t u : Transaction} {c d : Contents} {bases : List Path} {base : Path}
  {updates : List Update} {scratch : Value}

/-! ## The tree -/

/-- The scratch tree is an empty object into which the data updates have been merged, one after the
other. -/
theorem payload_eq (updates : List Update) : payload updates =
    (updates.filterMap Update.data?).foldl (fun tree update => mergeInsert tree update.1 update.2)
      .empty := by
  rw [List.foldl_filterMap]
  unfold payload
  congr 1
  funext tree update
  cases update <;> rfl

/-- What is put at a base path is put there after its owner has been asked for. -/
theorem amendAll_baseEdits_iff {value : Value} (found : get? scratch base = some value) :
    s.amendAll c (baseEdits scratch base) = (d, .ok ()) ↔ s.checkOwner base = .ok () ∧
      s.amendAll c (Edit.above base ++ [.writeUnchecked .add base value]) = (d, .ok ()) := by
  rw [baseEdits_some found, List.cons_append, Store.amendAll]
  simp only [Store.amend]
  cases s.checkOwner base with
  | ok _ => exact (and_iff_right rfl).symm
  | error e => simp [bind, Except.bind]

theorem shapes_baseEdits (below : base ≠ .root) :
    s.Shapes (baseEdits scratch base) (s.Admits · (part scratch base)) (part scratch base).onto := by
  unfold part
  cases found : get? scratch base with
  | none =>
    rw [baseEdits_none found]
    exact Store.shapes_clear below
  | some value => exact Store.shapes_put below value fun c d => amendAll_baseEdits_iff found

/-- The whole tree is replaced. -/
theorem shapes_whole (scratch : Value) :
    s.Shapes [.requireNoClaims, .writeUnchecked .add .root scratch]
      (fun _ => s.claims = [] ∧ scratch.isObject = true) (part scratch .root).onto := by
  have row (c d : Contents) :
      s.amendAll c [.requireNoClaims, .writeUnchecked .add .root scratch] = (d, .ok ()) ↔
        s.claims = [] ∧ c.patch .add .root scratch = .ok d := by
    rw [Store.amendAll]
    simp only [Store.amend, Store.checkUnclaimed]
    cases s.claims with
    | nil => exact Store.amendAll_one.trans (and_iff_right rfl).symm
    | cons claim rest => simp [bind, Except.bind]
  constructor
  case succeeds =>
    intro c
    simp only [row, exists_and_left]
    refine and_congr_right fun _ => ?_
    unfold Contents.patch apply
    simp only [Path.root, applyRoot]
    cases scratch.isObject <;> simp [Except.map]
  case shape =>
    intro c d ok
    rw [Store.surface_patch ((row c d).1 ok).2]
    unfold part get?
    rw [show Path.root.segments = [] from rfl, at?_nil]
    rfl

/-- Policies are always stored, and the tree stays. -/
theorem shapes_policyEdits (updates : List Update) :
    s.Shapes (policyEdits updates) (fun _ => True) fun look => look := by
  induction updates with
  | nil => exact .nil s
  | cons update rest ih =>
    cases update with
    | data path value => exact ih
    | policy id text =>
      have one : s.Shapes [.upsertPolicy id text] (fun _ => True) fun look => look :=
        Store.shapes_one (fun c => iff_true_intro ⟨_, rfl⟩) fun c d ok => by
          cases ok
          rfl
      exact (one.append ih).congr (fun look => (and_self_iff).symm) fun look _ => rfl

/-- When a bulk replacement of base paths that do not overlap succeeds, and what it makes of the
surface. -/
theorem shapes_truncate (apart : bases.Pairwise Path.ApartFrom) (updates : List Update) :
    s.Shapes (edits bases updates) (s.MayReplace bases (payload updates))
      (ontoAll (bases.map (part (payload updates)))) := by
  have policies : s.Shapes (policyEdits updates) (fun _ => True) fun look => look :=
    shapes_policyEdits updates
  by_cases whole : .root ∈ bases
  · rw [edits_whole whole, Path.root_alone apart whole]
    refine ((shapes_whole (payload updates)).append policies).congr (fun look => ?_) fun look _ => rfl
    unfold Store.MayReplace
    rw [if_pos List.mem_cons_self]
    exact (and_iff_left trivial).symm
  · rw [edits_parts whole]
    have row : s.Shapes (bases.flatMap (baseEdits (payload updates)))
        (s.AdmitsAll (bases.map (part (payload updates))))
        (ontoAll (bases.map (part (payload updates)))) := by
      refine Store.shapes_row (fun base present => shapes_baseEdits fun isRoot => ?_)
        (List.pairwise_map.2 apart)
      exact whole (isRoot ▸ present)
    refine (row.append policies).congr (fun look => ?_) fun look _ => rfl
    unfold Store.MayReplace
    rw [if_neg whole]
    exact (and_iff_left trivial).symm

/-- When a bulk replacement succeeds in a write transaction. -/
theorem truncate_succeeds_iff (write : s.Writes t) (apart : bases.Pairwise Path.ApartFrom)
    (updates : List Update) :
    (∃ u, s.editAll t (edits bases updates) = (u, .ok ())) ↔
      s.MayReplace bases (payload updates) (surface (s.view t).data) := by
  obtain ⟨-, same⟩ := Store.editAll_eq_amendAll write (edits bases updates)
  rw [← (shapes_truncate apart updates).succeeds (s.view t)]
  constructor
  · rintro ⟨u, ok⟩
    rw [ok] at same
    exact ⟨_, Prod.ext rfl same.symm⟩
  · rintro ⟨d, ok⟩
    rw [ok] at same
    exact ⟨_, Prod.ext rfl same⟩

/-! ## The policies -/

/-- The text that the last update of a policy gives to it. -/
def lastText (updates : List Update) (id : String) : Option String :=
  updates.reverse.findSome? (Update.text? id)

theorem texts_policyEdits (updates : List Update) (id : String) (before : Option String) :
    Edit.texts (policyEdits updates) id before = (lastText updates id).or before := by
  induction updates using List.reverseRecOn with
  | nil => rfl
  | append_singleton updates update ih =>
    unfold lastText at ih ⊢
    rw [List.reverse_append, List.reverse_singleton, List.singleton_append, List.findSome?_cons]
    unfold policyEdits at ih ⊢
    rw [List.filterMap_append, Edit.texts_append, ih]
    cases update with
    | data path value => rfl
    | policy other text =>
      by_cases same : other = id
      · simp [Edit.texts, Edit.text, Update.text?, same]
      · simp [Edit.texts, Edit.text, Update.text?, same]

/-! ## The store after a bulk replacement -/

/-- What stands in a store when base paths have been replaced in place of what was `before`. -/
structure Replaces (s : Store) (bases : List Path) (updates : List Update)
    (before after : Contents) : Prop where
  /-- The scratch tree is what merging the data updates makes of an empty object. -/
  scratch : payload updates =
    (updates.filterMap Update.data?).foldl (fun tree update => mergeInsert tree update.1 update.2)
      .empty
  /-- The root among the base paths stands for the whole tree. -/
  whole : .root ∈ bases → after.data = payload updates
  /-- A base path has what the scratch tree has there, and nothing where that has nothing. -/
  parts : ∀ base ∈ bases, after.get? base = get? (payload updates) base
  /-- Objects lead to a base path that has got a value. -/
  above : ∀ base ∈ bases, get? (payload updates) base ≠ none → ∀ q : Path,
    base.hasPrefix q = true → q ≠ base → ∃ fields, after.get? q = some (.object fields)
  /-- What overlaps no base path is as it was. -/
  elsewhere : ∀ q : Path, (∀ base ∈ bases, q.overlaps base = false) → after.get? q = before.get? q
  /-- Policies have the text of their last update, and else the text that they had. -/
  policies : ∀ id, after.policies.find? id = (lastText updates id).or (before.policies.find? id)
  /-- The whole tree is replaced only where nothing is claimed. -/
  noClaims : .root ∈ bases → s.claims = []
  /-- No base path that gets a value, or loses one, lies at or under a claimed path. -/
  unclaimed : ∀ base ∈ bases, get? (payload updates) base ≠ none ∨ before.get? base ≠ none →
    ∀ claim ∈ s.claims, base.hasPrefix claim.2 = false

/-- What stands after a bulk replacement at a place that is not strictly above a base path. -/
theorem get?_edits (pairwise : bases.Pairwise Path.ApartFrom)
    (row : s.amendAll c (edits bases updates) = (d, .ok ())) {q : Path}
    (misses : ∀ base ∈ bases, base.hasPrefix q = true → base = q) :
    d.get? q = if bases.any q.hasPrefix then get? (payload updates) q else c.get? q := by
  rw [Store.get?_amendAll row fun e present => misses_edits misses present,
    puts_edits (Path.root_alone pairwise), settle_parts]

/-- A base path has what the scratch tree has there, since no other base path is above it. -/
theorem get?_base (pairwise : bases.Pairwise Path.ApartFrom)
    (row : s.amendAll c (edits bases updates) = (d, .ok ())) (present : base ∈ bases) :
    d.get? base = get? (payload updates) base := by
  rw [get?_edits pairwise row fun other isBase below => ?_, if_pos]
  · exact List.any_eq_true.2 ⟨base, present, Path.hasPrefix_self base⟩
  · by_contra differ
    have apart := pairwise.forall isBase present differ
    exact apart.2 (Path.hasPrefix_iff_leads.1 below)

/-- Objects lead to a base path that has got a value. -/
theorem objects_above_base (pairwise : bases.Pairwise Path.ApartFrom)
    (row : s.amendAll c (edits bases updates) = (d, .ok ())) (present : base ∈ bases)
    (something : get? (payload updates) base ≠ none) {q : Path} (above : base.hasPrefix q = true)
    (strict : q ≠ base) : ∃ fields, d.get? q = some (.object fields) := by
  have placements : (bases.map (part (payload updates))).Pairwise Placement.ApartFrom :=
    List.pairwise_map.2 pairwise
  -- The base path can come last, and what comes last has objects above it.
  obtain ⟨others, last⟩ :=
    ontoAll_of_mem placements (List.mem_map_of_mem present) (surface c.data)
  have objects := congrFun ((shapes_truncate pairwise updates).shape c d row) q.segments
  rw [last, onto_above (Path.hasPrefix_iff_leads.1 above) (fun same => strict (Path.ext same))
    (Option.isSome_iff_ne_none.2 something)] at objects
  exact surface_eq_empty_iff.1 objects

/-- A bulk replacement of base paths that do not overlap replaces them, and nothing else. -/
theorem truncate_replaces (apart : bases.Pairwise fun p q => p.overlaps q = false)
    (ok : s.editAll t (edits bases updates) = (u, .ok ())) :
    Replaces s bases updates (s.view t) (s.view u) := by
  have pairwise : bases.Pairwise Path.ApartFrom := apart.imp Path.overlaps_eq_false_iff.1
  have row := Store.amendAll_of_editAll ok
  have may : s.MayReplace bases (payload updates) (surface (s.view t).data) :=
    ((shapes_truncate pairwise updates).succeeds _).1 ⟨_, row⟩
  constructor
  case scratch => exact payload_eq updates
  case parts => exact fun base present => get?_base pairwise row present
  case whole =>
    intro isBase
    have root := get?_base pairwise row isBase
    unfold Contents.get? get? at root
    rw [show Path.root.segments = [] from rfl, at?_nil, at?_nil] at root
    exact Option.some.inj root
  case above =>
    intro base present something q above strict
    exact objects_above_base pairwise row present something above strict
  case elsewhere =>
    intro q apart
    have away (base : Path) (isBase : base ∈ bases) :
        q.hasPrefix base = false ∧ base.hasPrefix q = false :=
      Bool.or_eq_false_iff.1 (apart base isBase)
    rw [get?_edits pairwise row fun base isBase below => ?_, if_neg]
    · intro under
      obtain ⟨base, isBase, inside⟩ := List.any_eq_true.1 under
      exact Bool.eq_false_iff.1 (away base isBase).1 inside
    · exact absurd below (Bool.eq_false_iff.1 (away base isBase).2)
  case policies =>
    intro id
    rw [Store.find?_amendAll row, texts_edits, texts_policyEdits]
  case noClaims =>
    intro isBase
    unfold Store.MayReplace at may
    rw [if_pos isBase] at may
    exact may.1
  case unclaimed =>
    intro base present something claim claimed
    unfold Store.MayReplace at may
    split at may
    · rw [may.1] at claimed
      cases claimed
    · have admits := may _ (List.mem_map_of_mem present)
      have asked := admits (something.imp_right fun standing nothing =>
        standing (surface_eq_none_iff.1 nothing))
      exact Store.checkOwner_ok asked.1 claimed

/-- A store with a claim. -/
def claimedStore : Store :=
  { Store.new 1 (.object [("a", .object [("x", .int 1), ("y", .int 2)]), ("c", .null)]) with
    claims := [("p", ⟨["c"], by decide⟩)] }

/-- A writer of that store. -/
def claimedWriter : Transaction := (claimedStore.openWrite 1).2

/-- One path is cleared, and another one gets a value below objects that have to be made. -/
def replaced : List Path := [⟨["a", "x"], by decide⟩, ⟨["d", "e"], by decide⟩]

/-- Data that are merged, and two texts of one policy. -/
def revision : List Update :=
  [.data .root (.object [("d", .object [("e", .object [("k", .int 1)])])]), .policy "p" "old",
    .data ⟨["d", "e"], by decide⟩ (.object [("l", .int 2)]), .policy "p" "new"]

theorem revision_replaces :
    (replaced.Pairwise fun p q => p.overlaps q = false) ∧
      ∃ u, claimedStore.editAll claimedWriter (edits replaced revision) = (u, .ok ()) ∧
        Replaces claimedStore replaced revision (claimedStore.view claimedWriter)
          (claimedStore.view u) :=
  ⟨by decide, _, rfl, truncate_replaces (by decide) rfl⟩

end Truncate

end DocStore
