import DocStore.Proofs.Bundle.Acceptance
import DocStore.Proofs.Tree.Overlay

/-!
# Merges of trees that do not get in each other's way

A tree with fields in order is known by its tips, once it is an object: between the root and the tips
there is nothing to choose. A merge brings in no tips but those of the two trees. It loses none of them
when no tip of one tree stands above a tip of the other one or at the same place, and then it does not
matter which tree is merged into which.

Results:
  * `eq_of_tips`: objects with the same tips are the same;
  * `tipAt_or_of_merge`: where the tips of a merge come from;
  * `tipAt_merge_iff`: the tips of a merge of trees that are apart;
  * `tipAt_merges_iff`: the same for a row of merges;
  * `merges_perm`: their order does not matter.
-/

namespace DocStore.Tree

variable {t u v w x : Value} {p q s : List String} {us vs : List Value}

/-- A tip of a tree, at its place: no object, or an empty one that is not the whole tree. -/
def TipAt (v : Value) (place : List String) (w : Value) : Prop :=
  reach? place v = some w ∧ (w.isObject = false ∨ w = .empty ∧ place ≠ [])

theorem isTip_iff : v.isTip = true ↔ v.isObject = false ∨ v = .empty := by
  cases v with
  | object fields =>
    cases fields with
    | nil => exact iff_of_true rfl (.inr rfl)
    | cons entry rest => exact iff_of_false (fun never => by cases never) (by rintro (h | h) <;> cases h)
  | null | bool | int | float | string | array => exact iff_of_true rfl (.inl rfl)

theorem TipAt.ne_nil (object : v.isObject = true) (tip : TipAt v p w) : p ≠ [] := by
  rintro rfl
  obtain ⟨leads, leaf | ⟨-, never⟩⟩ := tip
  · cases leads
    rw [object] at leaf
    cases leaf
  · exact never rfl

/-! ## Tips below a place -/

/-- Keys lead where fields lead. -/
theorem reach?_of_leads (ordered : v.Ordered) (leads : Leads v p w) : reach? p v = some w := by
  induction leads with
  | here v => rfl
  | @field fields key child v place present later ih =>
    have found := Dict.Ordered.find?_of_mem ordered.1 present
    rw [reach?_cons_object, found]
    exact ih (ordered_child ordered found)

/-- Below a place, or there, stands a tip of the tree. -/
theorem exists_tip_below (ordered : v.Ordered) (strict : p ≠ []) (leads : reach? p v = some x) :
    ∃ s w, TipAt v (p ++ s) w := by
  obtain ⟨s, w, further, isTip⟩ := exists_tip x
  refine ⟨s, w, ?_, (isTip_iff.1 isTip).imp_right fun empty => ⟨empty, ?_⟩⟩
  · rw [reach?_append, leads]
    exact reach?_of_leads (ordered_reach? ordered leads) further
  · exact fun none => strict (List.append_eq_nil_iff.1 none).1

/-- The tips of a nested value are its own. It is one itself when it is empty and nested in anything. -/
theorem tipAt_nest_iff : TipAt (nest p v) q w ↔
    ∃ s, q = p ++ s ∧ reach? s v = some w ∧ (w.isObject = false ∨ w = .empty ∧ q ≠ []) := by
  constructor
  · rintro ⟨leads, isTip⟩
    by_cases below : p <+: q
    · obtain ⟨s, rfl⟩ := below
      rw [reach?_nest] at leads
      exact ⟨s, rfl, leads, isTip⟩
    exfalso
    by_cases above : q <+: p
    · -- Around the value there are objects with one field each.
      obtain ⟨rest, rfl⟩ := above
      have around := reach?_nest q [] (nest rest v)
      rw [← nest_append, List.append_nil, leads] at around
      cases rest with
      | nil =>
        rw [List.append_nil] at below
        exact below List.prefix_rfl
      | cons key rest =>
        cases around
        obtain leaf | ⟨never, -⟩ := isTip
        · cases leaf
        · cases never
    · rw [(nest_of_apart ⟨above, below⟩ v).1] at leads
      cases leads
  · rintro ⟨s, rfl, leads, isTip⟩
    exact ⟨(reach?_nest p s v).trans leads, isTip⟩

/-! ## What a tree is known by -/

/-- An object stands at a place below the root when a tip stands further down, or an empty object
there. -/
theorem object_iff_of_tips (ordered : v.Ordered) (object : v.isObject = true) :
    (∃ fields, reach? p v = some (.object fields)) ↔
      p = [] ∨ TipAt v p .empty ∨ ∃ q w, TipAt v q w ∧ p <+: q ∧ p ≠ q := by
  constructor
  · rintro ⟨fields, leads⟩
    by_cases root : p = []
    · exact .inl root
    · obtain ⟨s, w, tip⟩ := exists_tip_below ordered root leads
      by_cases here : s = []
      · rw [here, List.append_nil] at tip
        cases leads.symm.trans tip.1
        obtain leaf | ⟨same, -⟩ := tip.2
        · cases leaf
        · rw [same] at tip
          exact .inr (.inl tip)
      · refine .inr (.inr ⟨p ++ s, w, tip, List.prefix_append p s, fun same => here ?_⟩)
        exact List.append_cancel_left (same.symm.trans (List.append_nil p).symm)
  · rintro (rfl | tip | ⟨q, w, tip, above, strict⟩)
    · rcases v.leaf_or_object with leaf | ⟨fields, rfl⟩
      · rw [leaf] at object
        cases object
      · exact ⟨fields, rfl⟩
    · exact ⟨[], tip.1⟩
    · exact object_above above strict tip.1

/-- Objects with fields in order that have the same tips are the same. -/
theorem eq_of_tips (ordered : t.Ordered) (ordered' : u.Ordered) (object : t.isObject = true)
    (object' : u.isObject = true) (same : ∀ p w, TipAt t p w ↔ TipAt u p w) : t = u := by
  refine eq_of_reach? ordered ordered' fun p => ?_
  have objects : (∃ fields, reach? p t = some (.object fields)) ↔
      ∃ fields, reach? p u = some (.object fields) := by
    rw [object_iff_of_tips ordered object, object_iff_of_tips ordered' object']
    simp only [same]
  have leaf_of {t u w : Value} (same : ∀ p w, TipAt t p w → TipAt u p w) (leads : reach? p t = some w)
      (leaf : w.isObject = false) : reach? p u = some w :=
    (same p w ⟨leads, .inl leaf⟩).1
  cases mine : reach? p t with
  | some w =>
    rcases w.leaf_or_object with leaf | ⟨fields, rfl⟩
    · rw [leaf_of (fun p w => (same p w).1) mine leaf]
    · obtain ⟨others, theirs⟩ := objects.1 ⟨fields, mine⟩
      rw [theirs]
      rfl
  | none =>
    cases theirs : reach? p u with
    | none => rfl
    | some w =>
      exfalso
      rcases w.leaf_or_object with leaf | ⟨fields, rfl⟩
      · cases mine.symm.trans (leaf_of (fun p w => (same p w).2) theirs leaf)
      · obtain ⟨others, found⟩ := objects.2 ⟨fields, theirs⟩
        cases mine.symm.trans found

/-! ## Merges -/

/-- No tip of one tree stands above a tip of the other one, or at the same place. -/
def TipsApart (t u : Value) : Prop := ∀ p w q x, TipAt t p w → TipAt u q x → Apart p q

theorem TipsApart.symm (apart : TipsApart t u) : TipsApart u t :=
  fun p w q x tip tip' => (apart q x p w tip' tip).symm

/-- A tip of a merge comes from one of the two trees. -/
theorem tipAt_or_of_merge (ordered' : u.Ordered) (tip : TipAt (merge t u) p w) :
    TipAt t p w ∨ TipAt u p w := by
  obtain ⟨leads, isTip⟩ := tip
  cases theirs : reach? p u with
  | none =>
    obtain ⟨r, y, deepest⟩ := Deepest.exists_deepest u p
    rw [reach?_merge_of_none ordered' theirs deepest] at leads
    split at leads
    · exact .inl ⟨leads, isTip⟩
    · cases leads
  | some x =>
    right
    rw [reach?_merge_of_some ordered' theirs, Option.some.injEq] at leads
    rcases x.leaf_or_object with leaf | ⟨incoming, rfl⟩
    · rw [mergedField_of_leaf leaf] at leads
      rw [← leads]
      exact ⟨theirs, .inl leaf⟩
    · -- An object that is merged in has its fields afterwards, so it had none.
      obtain ⟨fields, object, keys⟩ :=
        mergedField_object (reach? p t) (ordered_reach? ordered' theirs).1
      rw [object] at leads
      subst leads
      obtain leaf | ⟨empty, strict⟩ := isTip
      · cases leaf
      · cases empty
        cases incoming with
        | nil => exact ⟨theirs, .inr ⟨rfl, strict⟩⟩
        | cons entry rest => exact absurd ((keys entry.1).2 (.inl List.mem_cons_self)) List.not_mem_nil

/-- A tip of the tree that is merged in stands afterwards, unless it is in the way of one that was there
before. -/
theorem tipAt_merge_right (ordered : t.Ordered) (ordered' : u.Ordered) (tip : TipAt u p w)
    (apart : ∀ q x, TipAt t q x → Apart p q) : TipAt (merge t u) p w := by
  obtain ⟨leads, leaf | ⟨rfl, strict⟩⟩ := tip
  · rw [TipAt, reach?_merge_of_some ordered' leads, mergedField_of_leaf leaf]
    exact ⟨rfl, .inl leaf⟩
  · rw [TipAt, reach?_merge_of_some ordered' leads]
    -- An object that was there before has tips.
    obtain ⟨fields, object, keys⟩ :=
      mergedField_object (reach? p t) (ordered_reach? ordered' leads).1
    cases fields with
    | nil =>
      rw [Value.empty, object]
      exact ⟨rfl, .inr ⟨rfl, strict⟩⟩
    | cons entry rest =>
      obtain present | ⟨existing, stood, -⟩ := (keys entry.1).1 List.mem_cons_self
      · cases present
      · obtain ⟨s, x, below⟩ := exists_tip_below ordered strict stood
        exact absurd (List.prefix_append p s) (apart _ x below).1

/-- A tip of the tree that something is merged into stays, unless the other tree has one in its way. -/
theorem tipAt_merge_left (ordered' : u.Ordered) (object : t.isObject = true) (tip : TipAt t p w)
    (apart : ∀ q x, TipAt u q x → Apart p q) : TipAt (merge t u) p w := by
  refine ⟨?_, tip.2⟩
  cases theirs : reach? p u with
  | some x =>
    obtain ⟨s, y, below⟩ := exists_tip_below ordered' (tip.ne_nil object) theirs
    exact absurd (List.prefix_append p s) (apart _ y below).1
  | none =>
    obtain ⟨r, y, deepest⟩ := Deepest.exists_deepest u p
    rw [reach?_merge_of_none ordered' theirs deepest]
    cases isObject : y.isObject with
    | true => rw [if_pos rfl, tip.1]
    | false => exact absurd deepest.above (apart r y ⟨deepest.leads, .inl isObject⟩).2

/-- The merge of two trees that are apart has the tips of both. -/
theorem tipAt_merge_iff (ordered : t.Ordered) (ordered' : u.Ordered) (object : t.isObject = true)
    (apart : TipsApart t u) : TipAt (merge t u) p w ↔ TipAt t p w ∨ TipAt u p w := by
  refine ⟨tipAt_or_of_merge ordered', ?_⟩
  rintro (tip | tip)
  · exact tipAt_merge_left ordered' object tip fun q x => apart p w q x tip
  · exact tipAt_merge_right ordered ordered' tip fun q x other => (apart q x p w other tip).symm

theorem isObject_merge (object : u.isObject = true) (t : Value) : (merge t u).isObject = true := by
  rcases u.leaf_or_object with leaf | ⟨incoming, rfl⟩
  · rw [leaf] at object
    cases object
  · rcases t.leaf_or_object with leaf | ⟨existing, rfl⟩
    · rw [merge_object_of_leaf leaf]
      rfl
    · rw [merge]
      rfl

/-! ## A row of merges -/

/-- Trees merged into one, one after the other. -/
def merges (t : Value) (us : List Value) : Value := us.foldl merge t

/-- Objects with fields in order. -/
def Sound (v : Value) : Prop := v.Ordered ∧ v.isObject = true

/-- A value that is nested in anything is an object. -/
theorem sound_nest (ordered : v.Ordered) (root : p = [] → v.isObject = true) : Sound (nest p v) := by
  refine ⟨ordered_nest ordered p, ?_⟩
  cases p with
  | nil => exact root rfl
  | cons key rest => rfl

theorem sound_merges (sound : Sound t) (each : ∀ u ∈ us, Sound u) : Sound (merges t us) := by
  induction us generalizing t with
  | nil => exact sound
  | cons u rest ih =>
    have first := each u List.mem_cons_self
    exact ih ⟨ordered_merge t sound.1 u first.1, isObject_merge first.2 t⟩
      fun v later => each v (List.mem_cons_of_mem _ later)

/-- A tip of a row of merges comes from one of the trees. -/
theorem tipAt_or_of_merges (each : ∀ u ∈ us, u.Ordered) (tip : TipAt (merges t us) p w) :
    TipAt t p w ∨ ∃ u ∈ us, TipAt u p w := by
  induction us generalizing t with
  | nil => exact .inl tip
  | cons u rest ih =>
    rcases ih (fun v later => each v (List.mem_cons_of_mem _ later)) tip with first | ⟨v, later, other⟩
    · exact (tipAt_or_of_merge (each u List.mem_cons_self) first).imp_right
        fun tip => ⟨u, List.mem_cons_self, tip⟩
    · exact .inr ⟨v, List.mem_cons_of_mem _ later, other⟩

/-- Merges of trees that are apart have the tips of all of them. -/
theorem tipAt_merges_iff (sound : Sound t) (each : ∀ u ∈ us, Sound u) (apart : us.Pairwise TipsApart)
    (before : ∀ u ∈ us, TipsApart t u) :
    TipAt (merges t us) p w ↔ TipAt t p w ∨ ∃ u ∈ us, TipAt u p w := by
  induction us generalizing t with
  | nil => simp [merges]
  | cons u rest ih =>
    have first := each u List.mem_cons_self
    obtain ⟨apartFirst, apartRest⟩ := List.pairwise_cons.1 apart
    have both {p : List String} {w : Value} :=
      tipAt_merge_iff (p := p) (w := w) sound.1 first.1 sound.2 (before u List.mem_cons_self)
    -- What is apart from both trees is apart from their merge.
    have next : ∀ v ∈ rest, TipsApart (merge t u) v := by
      intro v later p w q x tip
      rcases both.1 tip with tip | tip
      · exact before v (List.mem_cons_of_mem _ later) p w q x tip
      · exact apartFirst v later p w q x tip
    have done := ih ⟨ordered_merge t sound.1 u first.1, isObject_merge first.2 t⟩
      (fun v later => each v (List.mem_cons_of_mem _ later)) apartRest next
    rw [merges, List.foldl_cons, ← merges, done, both, or_assoc, List.exists_mem_cons_iff]

theorem not_tipAt_empty : ¬ TipAt .empty p w := by
  intro tip
  have strict := tip.ne_nil rfl
  cases p with
  | nil => exact strict rfl
  | cons key rest => cases tip.1

/-- In which order trees that are apart are merged does not matter. -/
theorem merges_perm (each : ∀ u ∈ us, Sound u) (apart : us.Pairwise TipsApart) (perm : us.Perm vs) :
    merges .empty vs = merges .empty us := by
  have each' : ∀ v ∈ vs, Sound v := fun v inside => each v (perm.mem_iff.2 inside)
  have apart' : vs.Pairwise TipsApart := perm.pairwise apart TipsApart.symm
  have empty : Sound .empty := ⟨Value.ordered_empty, rfl⟩
  have mine := sound_merges empty each
  have theirs := sound_merges empty each'
  have tips {us : List Value} (each : ∀ u ∈ us, Sound u) (apart : us.Pairwise TipsApart)
      (p : List String) (w : Value) : TipAt (merges .empty us) p w ↔ ∃ u ∈ us, TipAt u p w := by
    rw [tipAt_merges_iff empty each apart fun u _ p w q x never => absurd never not_tipAt_empty]
    exact or_iff_right not_tipAt_empty
  refine eq_of_tips theirs.1 mine.1 theirs.2 mine.2 fun p w => ?_
  rw [tips each' apart', tips each apart]
  simp only [perm.mem_iff]

end DocStore.Tree
