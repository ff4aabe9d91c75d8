import DocStore.Proofs.Bundle.Coverage
import DocStore.Store.Truncate

/-!
# The scratch tree of a set of bundles

The data of all bundles are merged into one scratch tree. As the roots are apart, bundles do not
disturb each other there: below a root the scratch tree is what its bundle has there.

Results:
  * `payload_updates`: the scratch tree is a row of merges;
  * `get?_payload`: what it has at and under a root.
-/

namespace DocStore.Bundle

open DocStore.Tree

/-- A tree with the data of bundles merged in, one after the other. -/
def mergeAll (tree : Value) (bundles : List Bundle) : Value :=
  bundles.foldl (fun tree b => merge tree (.object b.data)) tree

/-- Policies leave the scratch tree alone. -/
theorem foldl_policies (b : Bundle) (files : Dict String) (tree : Value) :
    (files.map fun (file, text) => Update.policy (b.policyId file) text).foldl
      (fun tree update =>
        match update with
        | .data path value => mergeInsert tree path value
        | .policy _ _ => tree) tree = tree := by
  induction files with
  | nil => rfl
  | cons file rest ih => exact ih

theorem payload_updates (bundles : List Bundle) :
    Truncate.payload (bundles.flatMap updates) = mergeAll .empty bundles := by
  unfold Truncate.payload mergeAll
  generalize Value.empty = tree
  induction bundles generalizing tree with
  | nil => rfl
  | cons b rest ih =>
    rw [List.flatMap_cons, List.foldl_append, List.foldl_cons, ← ih]
    congr 1
    exact foldl_policies b b.policies _

/-- Bundles that have nothing at a place, and only objects on the way to it, leave it alone. -/
theorem at?_mergeAll_elsewhere {bundles : List Bundle} {p : List String} {tree : Value}
    (ordered : ∀ b ∈ bundles, (Value.object b.data).Ordered)
    (along : ∀ b ∈ bundles, ObjectsAlong p (.object b.data))
    (nothing : ∀ b ∈ bundles, at? p (.object b.data) = none) (start : ObjectsAlong p tree) :
    ObjectsAlong p (mergeAll tree bundles) ∧ at? p (mergeAll tree bundles) = at? p tree := by
  induction bundles generalizing tree with
  | nil => exact ⟨start, rfl⟩
  | cons b rest ih =>
    have head : b ∈ b :: rest := List.mem_cons_self
    have first := at?_merge_of_left start (along b head) (ordered b head) (nothing b head)
    obtain ⟨objects, same⟩ := ih (fun c later => ordered c (List.mem_cons_of_mem b later))
      (fun c later => along c (List.mem_cons_of_mem b later))
      (fun c later => nothing c (List.mem_cons_of_mem b later))
      (objectsAlong_merge start (along b head) (ordered b head))
    exact ⟨objects, same.trans first⟩

/-- When of all bundles only one has something at a place, the scratch tree has the same there. -/
theorem at?_mergeAll_of_one {before after : List Bundle} {b : Bundle} {p : List String}
    (below : p ≠ []) (ordered : ∀ c ∈ before ++ b :: after, (Value.object c.data).Ordered)
    (along : ∀ c ∈ before ++ b :: after, ObjectsAlong p (.object c.data))
    (nothing : ∀ c ∈ before ++ after, at? p (.object c.data) = none) :
    at? p (mergeAll .empty (before ++ b :: after)) = at? p (.object b.data) := by
  obtain ⟨key, rest, rfl⟩ := List.exists_cons_of_ne_nil below
  have mine : b ∈ before ++ b :: after := List.mem_append_right _ List.mem_cons_self
  have start : ObjectsAlong (key :: rest) .empty := fun _ found => by cases found
  obtain ⟨objects, none⟩ := at?_mergeAll_elsewhere
    (fun c early => ordered c (List.mem_append_left _ early))
    (fun c early => along c (List.mem_append_left _ early))
    (fun c early => nothing c (List.mem_append_left _ early)) start
  -- Bundles before leave nothing at the place, and bundles after leave there what they find.
  have merged := at?_merge_of_right objects (along b mine) (ordered b mine) none
  have later := at?_mergeAll_elsewhere
    (fun c late => ordered c (List.mem_append_right _ (List.mem_cons_of_mem b late)))
    (fun c late => along c (List.mem_append_right _ (List.mem_cons_of_mem b late)))
    (fun c late => nothing c (List.mem_append_right _ late))
    (objectsAlong_merge objects (along b mine) (ordered b mine))
  calc at? (key :: rest) (mergeAll .empty (before ++ b :: after))
      = at? (key :: rest)
          (mergeAll (merge (mergeAll .empty before) (.object b.data)) after) := by
        unfold mergeAll
        rw [List.foldl_append, List.foldl_cons]
    _ = at? (key :: rest) (merge (mergeAll .empty before) (.object b.data)) := later.2
    _ = at? (key :: rest) (.object b.data) := merged

/-- The roots of a bundle of a valid set are apart from those of the others. -/
theorem apart_of_split {before after : List Bundle} {b : Bundle}
    (apart : (before ++ b :: after).Pairwise RootsApart) {c : Bundle} (other : c ∈ before ++ after)
    {root theirs : Path} (mine : b.Declares root) (declared : c.Declares theirs) :
    theirs.ApartFrom root := by
  rw [List.pairwise_append, List.pairwise_cons] at apart
  obtain ⟨-, ⟨late, -⟩, early⟩ := apart
  rcases List.mem_append.1 other with other | other
  · exact early c other b List.mem_cons_self theirs root declared mine
  · exact Std.Symm.symm _ _ (late c other root theirs mine declared)

/-- At and under a root, the root of the tree apart, the scratch tree is what its bundle has
there. -/
theorem get?_payload {bundles : List Bundle} (valid : validateSet bundles = .ok ())
    {roots : List Path} (collected : allRoots bundles = .ok roots)
    (ordered : ∀ b ∈ bundles, (Value.object b.data).Ordered) {b : Bundle} (present : b ∈ bundles)
    {root q : Path} (declared : b.Declares root) (under : q.hasPrefix root = true)
    (notRoot : q.segments ≠ []) :
    get? (Truncate.payload (bundles.flatMap updates)) q = get? (.object b.data) q := by
  obtain ⟨valid, apart, all⟩ := validateSet_ok valid
  obtain ⟨pairwise, mem_roots⟩ := all roots collected
  obtain ⟨before, after, rfl⟩ := List.append_of_mem present
  have others : ∀ c ∈ before ++ after, ∀ theirs, c.Declares theirs → theirs.ApartFrom root :=
    fun c other theirs => apart_of_split apart other declared
  have mem : ∀ c ∈ before ++ b :: after, c = b ∨ c ∈ before ++ after := by
    intro c isBundle
    simp only [List.mem_append, List.mem_cons] at isBundle ⊢
    rcases isBundle with early | rfl | late
    · exact Or.inr (Or.inl early)
    · exact Or.inl rfl
    · exact Or.inr (Or.inr late)
  have valid' : ∀ c ∈ before ++ after, c.validate = .ok () := by
    intro c other
    refine valid c ?_
    simp only [List.mem_append, List.mem_cons] at other ⊢
    exact other.imp_right Or.inr
  have at_or_under : ∀ p, p ≠ [] → root.segments <+: p → ObjectsAlong p (.object b.data) →
      at? p (mergeAll .empty (before ++ b :: after)) = at? p (.object b.data) := by
    intro p below rooted along
    refine at?_mergeAll_of_one below ordered (fun c isBundle => ?_) fun c other => ?_
    · rcases mem c isBundle with rfl | other
      · exact along
      · exact objectsAlong (valid' c other) fun theirs isTheirs above =>
          absurd above (Apart.below (others c other theirs isTheirs) rooted).1
    · exact at?_of_apart (valid' c other) fun theirs isTheirs =>
        Apart.below (others c other theirs isTheirs) rooted
  have rooted := Path.hasPrefix_iff_leads.1 under
  unfold get?
  rw [payload_updates]
  cases segments : root.segments with
  | nil =>
    -- The whole tree is the bundle's, and the first segment leads to one of its fields.
    obtain ⟨key, rest, q_segments⟩ := List.exists_cons_of_ne_nil notRoot
    have first := at_or_under [key] (List.cons_ne_nil _ _) (segments ▸ List.nil_prefix)
      fun _ _ => trivial
    rw [q_segments, at?_cons, first, ← at?_cons]
  | cons key rest =>
    have along : ObjectsAlong root.segments (.object b.data) := by
      refine objectsAlong (valid b present) fun mine isMine above => ?_
      by_cases same : mine = root
      · rw [same]
      · have mineApart := pairwise.forall ((mem_roots mine).2 ⟨b, present, isMine⟩)
          ((mem_roots root).2 ⟨b, present, declared⟩) same
        exact absurd above mineApart.1
    have first := at_or_under root.segments (segments ▸ List.cons_ne_nil _ _) List.prefix_rfl along
    obtain ⟨rest, q_segments⟩ := rooted
    rw [← q_segments, at?_append, first, ← at?_append]

end DocStore.Bundle
