import DocStore.Proofs.Bundle.Rows

/-!
# The policies of bundles

The policies of a bundle are stored under ids that start with its name and a slash. Names hold no
slash, so the ids of two bundles never meet.

Results:
  * `policyId_ne`: bundles with different names have different ids;
  * `texts_activationEdits`: the policies of the bundles after an activation;
  * `texts_activationEdits_elsewhere`: all other policies stay.
-/

namespace DocStore.Bundle

/-! ## Ids -/

theorem toList_policyId (b : Bundle) (file : String) :
    (b.policyId file).toList = b.name.toList ++ '/' :: file.toList := by
  simp [policyId]

theorem toList_policyStart (name : String) : (policyStart name).toList = name.toList ++ ['/'] := by
  simp [policyStart]

theorem policyId_inj {b : Bundle} {file other : String} (same : b.policyId file = b.policyId other) :
    file = other := by
  have lists := congrArg String.toList same
  rw [toList_policyId, toList_policyId] at lists
  exact String.toList_inj.1 (List.cons.inj (List.append_cancel_left lists)).2

/-- The first slash ends a name. -/
theorem eq_of_append_slash {xs ys : List Char} (plain : '/' ∉ xs) (plain' : '/' ∉ ys)
    {as bs : List Char} (same : xs ++ '/' :: as = ys ++ '/' :: bs) : xs = ys := by
  induction xs generalizing ys with
  | nil =>
    cases ys with
    | nil => rfl
    | cons y ys =>
      rw [List.nil_append, List.cons_append] at same
      exact absurd (List.cons.inj same).1 fun slash => plain' (slash ▸ List.mem_cons_self)
  | cons x xs ih =>
    cases ys with
    | nil =>
      rw [List.nil_append, List.cons_append] at same
      exact absurd (List.cons.inj same).1 fun slash => plain (slash ▸ List.mem_cons_self)
    | cons y ys =>
      rw [List.cons_append, List.cons_append] at same
      obtain ⟨rfl, same'⟩ := List.cons.inj same
      rw [ih (fun inside => plain (List.mem_cons_of_mem _ inside))
        (fun inside => plain' (List.mem_cons_of_mem _ inside)) same']

/-- Bundles with different names have different ids. -/
theorem policyId_ne {b c : Bundle} (segment : IsSegment b.name) (segment' : IsSegment c.name)
    (ne : c.name ≠ b.name) (file other : String) : c.policyId other ≠ b.policyId file := by
  intro same
  have lists := congrArg String.toList same
  rw [toList_policyId, toList_policyId] at lists
  exact ne (String.toList_inj.1 (eq_of_append_slash segment'.2 segment.2 lists))

/-- An id starts with the name of a bundle and a slash when it is one of the bundle's. -/
theorem starts_iff {b : Bundle} {id : String} :
    (policyStart b.name).toList.isPrefixOf id.toList = true ↔ ∃ file, id = b.policyId file := by
  rw [List.isPrefixOf_iff_prefix, toList_policyStart]
  constructor
  · rintro ⟨rest, same⟩
    refine ⟨String.ofList rest, String.toList_inj.1 ?_⟩
    rw [toList_policyId, String.toList_ofList, ← same, List.append_assoc]
    rfl
  · rintro ⟨file, rfl⟩
    rw [toList_policyId]
    exact ⟨file.toList, by rw [List.append_assoc]; rfl⟩

/-! ## Rows of edits -/

theorem texts_dropEdits (names : List String) (id : String) (before : Option String) :
    Edit.texts (dropEdits names) id before =
      if names.any fun name => (policyStart name).toList.isPrefixOf id.toList then none
      else before := by
  induction names generalizing before with
  | nil => rfl
  | cons name rest ih =>
    change Edit.texts (dropEdits rest) id (Edit.text id before (.dropPolicies (policyStart name))) = _
    rw [ih, List.any_cons, Edit.text]
    cases (policyStart name).toList.isPrefixOf id.toList with
    | true =>
      rw [Bool.true_or, if_pos rfl]
      exact ite_self none
    | false => rfl

/-- The edits that store the policies of a bundle. -/
def upserts (b : Bundle) : List Edit :=
  b.policies.map fun (file, text) => .upsertPolicy (b.policyId file) text

theorem policyEdits_updates (bundles : List Bundle) :
    Truncate.policyEdits (bundles.flatMap updates) = bundles.flatMap upserts := by
  unfold Truncate.policyEdits
  rw [List.filterMap_flatMap]
  congr 1
  funext b
  unfold updates upserts
  change (b.policies.map _).filterMap _ = _
  rw [List.filterMap_map, ← List.filterMap_eq_map]
  rfl

/-- A bundle stores each of its policies. -/
theorem texts_upserts {b : Bundle} (ordered : Dict.Ordered b.policies) (file : String)
    (before : Option String) :
    Edit.texts b.upserts (b.policyId file) before = (b.policies.find? file).or before := by
  have files : ∀ {policies : Dict String}, Dict.Ordered policies → ∀ before,
      Edit.texts (policies.map fun (file, text) => .upsertPolicy (b.policyId file) text)
        (b.policyId file) before = (policies.find? file).or before := by
    intro policies ordered
    induction policies with
    | nil => exact fun _ => rfl
    | cons head rest ih =>
      obtain ⟨first, text⟩ := head
      intro before
      have others := ih ordered.tail
      by_cases same : first = file
      · subst same
        have once : Dict.find? rest first = none := Dict.find?_eq_none_iff.2 ordered.head_not_mem
        rw [Dict.find?_cons, if_pos rfl, List.map_cons]
        change Edit.texts _ _ (Edit.text _ before (.upsertPolicy _ text)) = _
        rw [others, once, Edit.text, if_pos rfl]
        rfl
      · rw [Dict.find?_cons, if_neg same, List.map_cons]
        change Edit.texts _ _ (Edit.text _ before (.upsertPolicy _ text)) = _
        rw [others, Edit.text, if_neg fun ids => same (policyId_inj ids)]
  exact files ordered before

theorem text_recordEdits {record : Path × Value} {e : Edit} (present : e ∈ recordEdits record)
    (id : String) (before : Option String) : e.text id before = before := by
  rcases List.mem_append.1 present with above | write
  · obtain ⟨parent, -, rfl⟩ := Edit.mem_above above
    rfl
  · rw [List.mem_singleton.1 write]
    rfl

theorem texts_activation (bundles : List Bundle) (roots : List Path)
    (records : List (Path × Value)) (id : String) (before : Option String) :
    Edit.texts (activationEdits bundles roots records) id before =
      Edit.texts (bundles.flatMap upserts) id
        (Edit.texts (dropEdits (bundles.map (·.name))) id before) := by
  unfold activationEdits
  rw [Edit.texts_append, Edit.texts_append, Truncate.texts_edits, policyEdits_updates]
  refine Edit.texts_elsewhere (fun e present before => ?_) _
  obtain ⟨record, -, mine⟩ := List.mem_flatMap.1 present
  exact text_recordEdits mine id before

/-- After an activation the policies under the name of a bundle are those of the bundle. -/
theorem texts_activationEdits {bundles : List Bundle} (segments : ∀ b ∈ bundles, IsSegment b.name)
    (distinct : (bundles.map (·.name)).Nodup) {b : Bundle} (present : b ∈ bundles)
    (ordered : Dict.Ordered b.policies) (roots : List Path) (records : List (Path × Value))
    (file : String) (before : Option String) :
    Edit.texts (activationEdits bundles roots records) (b.policyId file) before =
      b.policies.find? file := by
  have dropped : (bundles.map (·.name)).any (fun name =>
      (policyStart name).toList.isPrefixOf (b.policyId file).toList) = true :=
    List.any_eq_true.2 ⟨b.name, List.mem_map.2 ⟨b, present, rfl⟩, starts_iff.2 ⟨file, rfl⟩⟩
  rw [texts_activation, texts_dropEdits, if_pos dropped]
  obtain ⟨early, late, rfl⟩ := List.append_of_mem present
  rw [List.map_append, List.map_cons, List.nodup_append, List.nodup_cons] at distinct
  obtain ⟨-, ⟨notLate, -⟩, apart⟩ := distinct
  have others : ∀ c ∈ early ++ late, ∀ other, c.policyId other ≠ b.policyId file := by
    intro c other
    refine policyId_ne (segments b present) (segments c ?_) ?_ file
    · simp only [List.mem_append, List.mem_cons] at other ⊢
      exact other.imp_right Or.inr
    · rcases List.mem_append.1 other with isEarly | isLate
      · exact apart _ (List.mem_map.2 ⟨c, isEarly, rfl⟩) _ List.mem_cons_self
      · exact fun same => notLate (same ▸ List.mem_map.2 ⟨c, isLate, rfl⟩)
  have elsewhere : ∀ row : List Bundle, (∀ c ∈ row, c ∈ early ++ late) → ∀ before,
      Edit.texts (row.flatMap upserts) (b.policyId file) before = before := by
    intro row within before
    refine Edit.texts_elsewhere (fun e isEdit before => ?_) before
    obtain ⟨c, inRow, mine⟩ := List.mem_flatMap.1 isEdit
    obtain ⟨⟨other, text⟩, -, rfl⟩ := List.mem_map.1 mine
    exact if_neg (others c (within c inRow) other)
  rw [List.flatMap_append, List.flatMap_cons, Edit.texts_append, Edit.texts_append,
    elsewhere early fun c isEarly => List.mem_append_left _ isEarly, texts_upserts ordered,
    elsewhere late fun c isLate => List.mem_append_right _ isLate]
  exact Option.or_none

/-- An activation leaves all other policies alone. -/
theorem texts_activationEdits_elsewhere {bundles : List Bundle} {id : String}
    (elsewhere : ∀ b ∈ bundles, (policyStart b.name).toList.isPrefixOf id.toList = false)
    (roots : List Path) (records : List (Path × Value)) (before : Option String) :
    Edit.texts (activationEdits bundles roots records) id before = before := by
  have kept : (bundles.map (·.name)).any (fun name =>
      (policyStart name).toList.isPrefixOf id.toList) = false := by
    rw [List.any_map, List.any_eq_false]
    exact fun b present => Bool.eq_false_iff.1 (elsewhere b present)
  rw [texts_activation, texts_dropEdits, kept]
  refine Edit.texts_elsewhere (fun e present before => ?_) before
  obtain ⟨b, isBundle, mine⟩ := List.mem_flatMap.1 present
  obtain ⟨⟨file, text⟩, -, rfl⟩ := List.mem_map.1 mine
  refine if_neg fun same => ?_
  have starts := starts_iff.2 ⟨file, same.symm⟩
  rw [elsewhere b isBundle] at starts
  cases starts

end DocStore.Bundle
