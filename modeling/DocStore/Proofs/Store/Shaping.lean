import DocStore.Proofs.Store.Leaves
import DocStore.Proofs.Store.Replacement
import DocStore.Proofs.Tree.Surface
import Mathlib.Data.List.Pairwise
import Mathlib.Data.List.Perm.Basic

/-!
# What rows of edits make of a surface

A placement gives a surface what it puts at and below its place, and makes objects above it. Placements
that are apart do not disturb each other, so their order does not matter, and each can be made exactly
when it could be made at the beginning.

Results:
  * `onto_comm`, `ontoAll_perm`: placements that are apart, in any order;
  * `ontoAll_either`: a row of placements says what stands at a place, or leaves it as it is;
  * `shapes_put`, `shapes_clear`: when an edit can be made, and what it makes of a surface;
  * `shapes_row`: the same for rows of edits at places that are apart.
-/

namespace DocStore

open DocStore.Tree

/-! ## Placements -/

namespace Placement

/-- What a placement makes of a surface. -/
def onto (p : Placement) (look : Surface) : Surface := fun q =>
  if p.path.segments <+: q then p.value.bind fun v => surface v (q.drop p.path.length)
  else if q <+: p.path.segments ∧ p.value.isSome then some .empty
  else look q

/-- What placements make of a surface, one after the other. -/
def ontoAll (placements : List Placement) (look : Surface) : Surface :=
  placements.foldl (fun look p => p.onto look) look

/-- The places do not overlap. -/
def ApartFrom (p r : Placement) : Prop := p.path.ApartFrom r.path

instance : Std.Symm ApartFrom := ⟨fun _ _ apart => Apart.symm apart⟩

variable {p r : Placement} {look : Surface} {q : List String}

theorem onto_below (p : Placement) (look : Surface) (rest : List String) :
    p.onto look (p.path.segments ++ rest) = p.value.bind fun v => surface v rest := by
  unfold onto Path.length
  rw [if_pos (List.prefix_append _ _), List.drop_left]

theorem onto_above (above : q <+: p.path.segments) (strict : q ≠ p.path.segments)
    (made : p.value.isSome) : p.onto look q = some .empty := by
  have notBelow : ¬ p.path.segments <+: q := fun below =>
    strict (above.eq_of_length_le below.length_le)
  unfold onto
  rw [if_neg notBelow, if_pos ⟨above, made⟩]

theorem onto_elsewhere (apart : Apart p.path.segments q) : p.onto look q = look q := by
  unfold onto
  rw [if_neg apart.1, if_neg fun above => apart.2 above.1]

theorem onto_congr {before after : Surface} (same : after q = before q) :
    p.onto after q = p.onto before q := by
  unfold onto
  rw [same]

/-- Nothing is made above a place that is cleared. -/
theorem onto_of_clear (notBelow : ¬ p.path.segments <+: q) (cleared : p.value = none) :
    p.onto look q = look q := by
  unfold onto
  rw [if_neg notBelow, if_neg]
  rw [cleared]
  exact fun made => by cases made.2

/-- A placement says what stands at a place, or leaves it as it is. -/
theorem onto_either (p : Placement) (q : List String) :
    (∃ x, ∀ look, p.onto look q = x) ∨ ∀ look, p.onto look q = look q := by
  unfold onto
  split
  · exact .inl ⟨_, fun look => rfl⟩
  · split
    · exact .inl ⟨_, fun look => rfl⟩
    · exact .inr fun look => rfl

/-- At and below a place, another placement that is apart leaves everything as it is. -/
theorem onto_of_apart (apart : p.ApartFrom r) (below : p.path.segments <+: q) :
    r.onto look q = look q :=
  onto_elsewhere (Apart.below (Apart.symm apart) below)

/-- Placements that are apart can be made in any order. -/
theorem onto_comm (apart : p.ApartFrom r) (look : Surface) :
    p.onto (r.onto look) = r.onto (p.onto look) := by
  funext q
  by_cases belowP : p.path.segments <+: q
  · rw [onto_of_apart apart belowP]
    unfold onto
    rw [if_pos belowP, if_pos belowP]
  · by_cases belowR : r.path.segments <+: q
    · rw [onto_of_apart (Apart.symm apart) belowR]
      unfold onto
      rw [if_pos belowR, if_pos belowR]
    · -- Above both places there are objects, if anything is made.
      unfold onto
      rw [if_neg belowP, if_neg belowR, if_neg belowP, if_neg belowR]
      split
      · split <;> rfl
      · rfl

theorem ontoAll_cons (p : Placement) (rest : List Placement) (look : Surface) :
    ontoAll (p :: rest) look = ontoAll rest (p.onto look) := rfl

theorem ontoAll_concat (rest : List Placement) (p : Placement) (look : Surface) :
    ontoAll (rest ++ [p]) look = p.onto (ontoAll rest look) :=
  List.foldl_append ..

theorem ontoAll_perm {placements others : List Placement} (perm : placements.Perm others)
    (apart : placements.Pairwise ApartFrom) (look : Surface) :
    ontoAll placements look = ontoAll others look := by
  refine perm.foldl_eq' (fun p memP r memR look => ?_) look
  by_cases same : p = r
  · rw [same]
  · exact onto_comm (Apart.symm (apart.forall memP memR same)) look

/-- Any one of the placements can come last. -/
theorem ontoAll_of_mem {placements : List Placement} (apart : placements.Pairwise ApartFrom)
    (present : p ∈ placements) (look : Surface) :
    ∃ others, ontoAll placements look = p.onto others := by
  obtain ⟨before, after, rfl⟩ := List.append_of_mem present
  have last : (before ++ p :: after).Perm (before ++ after ++ [p]) := by
    rw [List.append_assoc]
    exact (List.perm_append_singleton p after).symm.append_left before
  rw [ontoAll_perm last apart, ontoAll_concat]
  exact ⟨_, rfl⟩

theorem ontoAll_elsewhere {placements : List Placement}
    (apart : ∀ p ∈ placements, Apart p.path.segments q) (look : Surface) :
    ontoAll placements look q = look q := by
  induction placements generalizing look with
  | nil => rfl
  | cons p rest ih =>
    rw [ontoAll_cons, ih fun other later => apart other (List.mem_cons_of_mem p later)]
    exact onto_elsewhere (apart p List.mem_cons_self)

/-- A row of placements says what stands at a place, or leaves it as it is. -/
theorem ontoAll_either (placements : List Placement) (q : List String) :
    (∃ x, ∀ look, ontoAll placements look q = x) ∨ ∀ look, ontoAll placements look q = look q := by
  induction placements with
  | nil => exact .inr fun look => rfl
  | cons p rest ih =>
    rcases ih with ⟨x, all⟩ | leaves
    · exact .inl ⟨x, fun look => all _⟩
    · refine (onto_either p q).imp ?_ fun same look => (leaves _).trans (same look)
      exact fun ⟨x, all⟩ => ⟨x, fun look => (leaves _).trans (all look)⟩

/-- Placements that are not at or above a place leave nothing but objects there. -/
theorem passable_ontoAll {placements : List Placement}
    (notBelow : ∀ p ∈ placements, ¬ p.path.segments <+: q) (passable : Passable look q) :
    Passable (ontoAll placements look) q := by
  induction placements generalizing look with
  | nil => exact passable
  | cons p rest ih =>
    refine ih (fun other later => notBelow other (List.mem_cons_of_mem p later)) fun w found => ?_
    change p.onto look q = some w at found
    unfold onto at found
    rw [if_neg (notBelow p List.mem_cons_self)] at found
    split at found
    · exact (Option.some.inj found).symm
    · exact passable w found

end Placement

/-! ## When edits can be made -/

/-- Nothing but objects stands above a place. -/
def Open (look : Surface) (place : List String) : Prop :=
  ∀ q, q <+: place → q ≠ place → Passable look q

/-- A placement can be made: when it changes anything, then nobody has claimed its place and objects
lead there. -/
def Store.Admits (s : Store) (look : Surface) (p : Placement) : Prop :=
  p.value ≠ none ∨ look p.path.segments ≠ none →
    s.checkOwner p.path = .ok () ∧ Open look p.path.segments

/-- Each of the placements can be made. -/
def Store.AdmitsAll (s : Store) (placements : List Placement) (look : Surface) : Prop :=
  ∀ p ∈ placements, s.Admits look p

/-- When a row of edits succeeds, and what it makes of the surface. -/
structure Store.Shapes (s : Store) (edits : List Edit) (may : Surface → Prop)
    (shape : Surface → Surface) : Prop where
  succeeds : ∀ c, (∃ d, s.amendAll c edits = (d, .ok ())) ↔ may (surface c.data)
  shape : ∀ c d, s.amendAll c edits = (d, .ok ()) → surface d.data = shape (surface c.data)

namespace Store

variable {s : Store} {c d : Contents} {path : Path} {first second : List Edit}
  {may may' : Surface → Prop} {shape shape' : Surface → Surface}

theorem Shapes.nil (s : Store) : s.Shapes [] (fun _ => True) fun look => look where
  succeeds := fun c => ⟨fun _ => trivial, fun _ => ⟨c, rfl⟩⟩
  shape := fun c d ok => by
    cases ok
    rfl

/-- Rows one after the other. -/
theorem Shapes.append (h : s.Shapes first may shape) (h' : s.Shapes second may' shape') :
    s.Shapes (first ++ second) (fun look => may look ∧ may' (shape look))
      fun look => shape' (shape look) where
  succeeds := by
    intro c
    constructor
    · rintro ⟨d, ok⟩
      obtain ⟨between, done, next⟩ := amendAll_append_ok ok
      refine ⟨(h.succeeds c).1 ⟨between, done⟩, ?_⟩
      rw [← h.shape c between done]
      exact (h'.succeeds between).1 ⟨d, next⟩
    · rintro ⟨early, late⟩
      obtain ⟨between, done⟩ := (h.succeeds c).2 early
      rw [← h.shape c between done] at late
      obtain ⟨d, next⟩ := (h'.succeeds between).2 late
      refine ⟨d, ?_⟩
      rw [amendAll_append, done]
      exact next
  shape := by
    intro c d ok
    obtain ⟨between, done, next⟩ := amendAll_append_ok ok
    rw [h'.shape between d next, h.shape c between done]

theorem Shapes.congr (h : s.Shapes first may shape) (same : ∀ look, may' look ↔ may look)
    (alike : ∀ look, may look → shape' look = shape look) : s.Shapes first may' shape' where
  succeeds := fun c => (h.succeeds c).trans (same _).symm
  shape := fun c d ok => (h.shape c d ok).trans (alike _ ((h.succeeds c).1 ⟨d, ok⟩)).symm

theorem amendAll_one {e : Edit} : s.amendAll c [e] = (d, .ok ()) ↔ s.amend c e = .ok d := by
  rw [amendAll]
  cases s.amend c e with
  | ok changed => simp [amendAll]
  | error err => simp

/-- One edit. -/
theorem shapes_one {e : Edit} (succeeds : ∀ c, (∃ d, s.amend c e = .ok d) ↔ may (surface c.data))
    (alike : ∀ c d, s.amend c e = .ok d → surface d.data = shape (surface c.data)) :
    s.Shapes [e] may shape := by
  refine ⟨fun c => ?_, fun c d ok => alike c d (amendAll_one.1 ok)⟩
  simp only [amendAll_one]
  exact succeeds c

/-! ## Edits -/

theorem strictly_above_iff {parent : Path} {last : String} {place q : List String}
    (split : place = parent.segments ++ [last]) :
    q <+: place ∧ q ≠ place ↔ q <+: parent.segments := by
  rw [split, List.prefix_concat_iff]
  constructor
  · rintro ⟨same | above, strict⟩
    · exact absurd same strict
    · exact above
  · intro above
    refine ⟨.inr above, fun same => ?_⟩
    have short := above.length_le
    rw [same, List.length_append, List.length_singleton] at short
    omega

/-- Objects can be made along a path where nothing else stands on it. -/
theorem exists_makeDir_iff : (∃ d, c.makeDir path = .ok d) ↔
    ∀ q, q <+: path.segments → Passable (surface c.data) q := by
  unfold Contents.makeDir
  constructor
  · rintro ⟨d, ok⟩ q above
    obtain ⟨⟨data, made⟩, done, _⟩ := map_ok ok
    exact passable_iff.2 (objects_along_makeDir done above).1
  · intro passable
    obtain ⟨data, made, done⟩ :
        ∃ data made, makeBelow 0 path.segments c.data = .ok (data, made) := exists_makeBelow passable
    rw [makeDir_of_below done]
    exact ⟨_, rfl⟩

theorem surface_makeDir (ok : c.makeDir path = .ok d) (q : List String) :
    surface d.data q = if q <+: path.segments then some .empty else surface c.data q := by
  unfold Contents.makeDir at ok
  obtain ⟨⟨data, made⟩, done, rfl⟩ := map_ok ok
  by_cases above : q <+: path.segments
  · rw [if_pos above]
    exact surface_eq_empty_iff.2 (objects_along_makeDir done above).2
  · rw [if_neg above]
    have same := at?_makeDir_of_not_prefix done above
    exact surface_congr same

/-- A patch below the root can be made where objects lead to its place, and something to be replaced or
removed stands there. -/
theorem exists_patch {op : PatchOp} {value : Value} (below : path ≠ .root)
    (objects : ∀ q, q <+: path.segments → q ≠ path.segments → surface c.data q = some .empty)
    (stands : op = .add ∨ surface c.data path.segments ≠ none) :
    ∃ d, c.patch op path value = .ok d := by
  obtain ⟨key, rest, segments⟩ : ∃ key rest, path.segments = key :: rest :=
    List.exists_cons_of_ne_nil fun empty => below (Path.ext empty)
  rw [segments] at objects stands
  obtain ⟨data, done⟩ : ∃ data, patchBelow op value 0 key rest c.data = .ok data :=
    exists_patchBelow objects stands
  unfold Contents.patch
  rw [apply_of_below segments done]
  exact ⟨_, rfl⟩

/-- What a patch makes of the surface. -/
theorem surface_patch {op : PatchOp} {value : Value} (ok : c.patch op path value = .ok d) :
    surface d.data =
      (Placement.mk path (if op = .remove then none else some value)).onto (surface c.data) := by
  obtain ⟨data, applied, rfl⟩ := map_ok ok
  funext q
  by_cases below : path.segments <+: q
  · obtain ⟨rest, rfl⟩ := below
    rw [Placement.onto_below]
    unfold surface
    rw [at?_apply_below applied]
    split <;> rfl
  · by_cases above : q <+: path.segments
    · have strict : q ≠ path.segments := fun same => below (same ▸ List.prefix_rfl)
      obtain ⟨before, after⟩ := objects_above_apply applied above strict
      rw [surface_eq_empty_iff.2 after]
      split
      · rw [Placement.onto_of_clear below rfl, surface_eq_empty_iff.2 before]
      · rw [Placement.onto_above above strict rfl]
    · rw [Placement.onto_elsewhere ⟨below, above⟩]
      exact surface_congr (at?_apply_of_apart applied ⟨below, above⟩)

/-- Objects lead to a patched place. -/
theorem open_of_patch {op : PatchOp} {value : Value} (ok : c.patch op path value = .ok d) :
    Open (surface c.data) path.segments := by
  obtain ⟨data, applied, rfl⟩ := map_ok ok
  intro q above strict
  obtain ⟨⟨fields, stands⟩, -⟩ := objects_above_apply applied above strict
  exact passable_iff.2 fun w found => by
    rw [stands] at found
    cases found
    rfl

/-- A value is put at a place below the root after the objects above it have been made. -/
theorem shapes_add (below : path ≠ .root) (value : Value) :
    s.Shapes (Edit.above path ++ [.writeUnchecked .add path value])
      (fun look => Open look path.segments) (Placement.mk path (some value)).onto := by
  obtain ⟨parent, isParent⟩ : ∃ parent, path.parent? = some parent := by
    unfold Path.parent?
    rw [if_neg fun isRoot => below (Path.isRoot_iff.1 isRoot)]
    exact ⟨_, rfl⟩
  obtain ⟨last, split⟩ := segments_of_parent? isParent
  have above : Edit.above path = [.makeDir parent] := by
    unfold Edit.above
    rw [isParent]
  have strictly {q : List String} : q <+: path.segments ∧ q ≠ path.segments ↔ q <+: parent.segments :=
    strictly_above_iff split
  have make (c : Contents) (between : Contents) :
      s.amendAll c (Edit.above path) = (between, .ok ()) ↔ c.makeDir parent = .ok between := by
    rw [above]
    exact amendAll_one
  constructor
  case succeeds =>
    intro c
    constructor
    · rintro ⟨d, ok⟩ q higher strict
      obtain ⟨between, made, -⟩ := amendAll_append_ok ok
      exact exists_makeDir_iff.1 ⟨between, (make c between).1 made⟩ q (strictly.1 ⟨higher, strict⟩)
    · intro isOpen
      obtain ⟨between, made⟩ := exists_makeDir_iff.2 fun q higher =>
        isOpen q (strictly.2 higher).1 (strictly.2 higher).2
      obtain ⟨d, put⟩ : ∃ d, between.patch .add path value = .ok d := by
        refine exists_patch below (fun q higher strict => ?_) (.inl rfl)
        rw [surface_makeDir made, if_pos (strictly.1 ⟨higher, strict⟩)]
      refine ⟨d, ?_⟩
      rw [amendAll_append, (make c between).2 made]
      exact amendAll_one.2 put
  case shape =>
    intro c d ok
    obtain ⟨between, made, put⟩ := amendAll_append_ok ok
    rw [surface_patch (amendAll_one.1 put)]
    -- The objects that were made stand where the placement has objects anyway.
    funext q
    by_cases higher : q <+: path.segments ∧ q ≠ path.segments
    · rw [Placement.onto_above higher.1 higher.2 rfl, Placement.onto_above higher.1 higher.2 rfl]
    · have same := surface_makeDir ((make c between).1 made) q
      rw [if_neg fun inside => higher (strictly.2 inside)] at same
      exact Placement.onto_congr same

/-- A value is put at a place below the root, unless somebody has claimed it. -/
theorem shapes_put (below : path ≠ .root) (value : Value) {edits : List Edit}
    (row : ∀ c d, s.amendAll c edits = (d, .ok ()) ↔ s.checkOwner path = .ok () ∧
      s.amendAll c (Edit.above path ++ [.writeUnchecked .add path value]) = (d, .ok ())) :
    s.Shapes edits (s.Admits · ⟨path, some value⟩) (Placement.mk path (some value)).onto where
  succeeds := by
    intro c
    simp only [row, exists_and_left, (shapes_add below value).succeeds c]
    constructor
    · exact fun may _ => may
    · exact fun may => may (.inl fun never => by cases never)
  shape := fun c d ok => (shapes_add below value).shape c d ((row c d).1 ok).2

/-- A place below the root is cleared. -/
theorem shapes_clear (below : path ≠ .root) :
    s.Shapes [.clear path] (s.Admits · ⟨path, none⟩) (Placement.mk path none).onto := by
  refine shapes_one (fun c => ?_) fun c d ok => ?_
  · constructor
    · rintro ⟨d, ok⟩ changes
      obtain ⟨nothing, -⟩ | written := amend_clear_ok ok
      · rcases changes with never | stands
        · exact absurd rfl never
        · exact absurd (surface_eq_none_iff.2 nothing) stands
      · obtain ⟨free, patched⟩ := amendOwned_ok written
        exact ⟨free, open_of_patch patched⟩
    · intro admits
      simp only [amend]
      cases found : get? c.data path with
      | none => exact ⟨c, rfl⟩
      | some v =>
        have stands : surface c.data path.segments ≠ none := fun nothing => by
          have absent : get? c.data path = none := surface_eq_none_iff.1 nothing
          rw [found] at absent
          cases absent
        obtain ⟨free, isOpen⟩ := admits (.inr stands)
        obtain ⟨d, done⟩ : ∃ d, c.patch .remove path .null = .ok d := by
          refine exists_patch below (fun q higher strict => ?_) (.inr stands)
          obtain ⟨w, seen⟩ : ∃ w, surface c.data q = some w := by
            refine Option.ne_none_iff_exists'.1 fun nothing => stands (surface_eq_none_iff.2 ?_)
            exact at?_eq_none_of_prefix higher (surface_eq_none_iff.1 nothing)
          rw [seen, isOpen q higher strict w seen]
        refine ⟨d, ?_⟩
        unfold amendOwned
        rw [free]
        exact done
  · obtain ⟨nothing, rfl⟩ | written := amend_clear_ok ok
    · funext q
      by_cases inside : path.segments <+: q
      · obtain ⟨rest, rfl⟩ := inside
        rw [Placement.onto_below]
        refine surface_eq_none_iff.2 ?_
        exact at?_eq_none_of_prefix (List.prefix_append _ _) nothing
      · rw [Placement.onto_of_clear inside rfl]
    · exact surface_patch (amendOwned_ok written).2

/-! ## Rows of edits at places that are apart -/

/-- A placement that can be made does not change whether one that is apart can be made. -/
theorem admits_onto {p r : Placement} {look : Surface} (apart : p.ApartFrom r)
    (admits : s.Admits look p) : s.Admits (p.onto look) r ↔ s.Admits look r := by
  have place : p.onto look r.path.segments = look r.path.segments := Placement.onto_elsewhere apart
  have opened : Open (p.onto look) r.path.segments ↔ Open look r.path.segments := by
    refine forall_congr' fun q => forall_congr' fun above => forall_congr' fun _ => ?_
    have notBelow : ¬ p.path.segments <+: q := fun below => apart.1 (below.trans above)
    unfold Passable
    by_cases made : q <+: p.path.segments ∧ p.value.isSome
    · -- There are objects afterwards, and nothing else before.
      have strict : q ≠ p.path.segments := fun same => notBelow (same ▸ List.prefix_rfl)
      have isOpen := (admits (.inl (Option.isSome_iff_ne_none.1 made.2))).2
      rw [Placement.onto_above made.1 strict made.2]
      exact ⟨fun _ => isOpen q made.1 strict, fun _ w found => (Option.some.inj found).symm⟩
    · unfold Placement.onto
      rw [if_neg notBelow, if_neg made]
  unfold Admits
  rw [place, opened]

/-- Rows of edits, each about one place, at places that are apart. -/
theorem shapes_row {α : Type} {edits : α → List Edit} {place : α → Placement} {xs : List α}
    (each : ∀ x ∈ xs, s.Shapes (edits x) (s.Admits · (place x)) (place x).onto)
    (apart : (xs.map place).Pairwise Placement.ApartFrom) :
    s.Shapes (xs.flatMap edits) (s.AdmitsAll (xs.map place)) (Placement.ontoAll (xs.map place)) := by
  induction xs with
  | nil =>
    refine (Shapes.nil s).congr (fun look => iff_true_intro ?_) fun look _ => rfl
    exact fun p never => absurd never List.not_mem_nil
  | cons x rest ih =>
    rw [List.map_cons, List.pairwise_cons] at apart
    have others := ih (fun y later => each y (List.mem_cons_of_mem x later)) apart.2
    rw [List.flatMap_cons]
    refine ((each x List.mem_cons_self).append others).congr (fun look => ?_) fun look _ => rfl
    unfold AdmitsAll
    rw [List.map_cons, List.forall_mem_cons]
    refine and_congr_right fun first => forall_congr' fun p => forall_congr' fun later => ?_
    exact (admits_onto (apart.1 p later) first).symm

end Store

end DocStore
