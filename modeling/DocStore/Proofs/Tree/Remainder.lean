import DocStore.Proofs.Tree.Surface

/-!
# What remains of a tree when paths are given up

With a path that is given up goes every object above it in which nothing is left, as long as there was
something to take out of it, or the path stands directly in it. Which places go is said here without a
word about the order in which the paths are given up, and giving up paths one after the other comes to
the same.

Results:
  * `Goes.reaches`: with a place go the objects between it and what went first;
  * `Remainder.unique`: what remains depends only on which paths are given up;
  * `Remainder.cons`: one path after the other.
-/

namespace DocStore.Tree

/-- The places that go when paths are given up: the paths, and every object below the root in which
nothing stays. It goes with something that stood in it, or with a path directly in it. -/
inductive Goes (look : Surface) (paths : List Path) : List String → Prop
  | given {path : Path} : path ∈ paths → Goes look paths path.segments
  | emptied {place : List String} {key : String} {path : Path} :
      place ≠ [] → path ∈ paths → place ++ [key] <+: path.segments →
      (place ++ [key] = path.segments ∨ look (place ++ [key]) ≠ none) →
      look place = some .empty →
      (∀ other, look (place ++ [other]) ≠ none → Goes look paths (place ++ [other])) →
      Goes look paths place

/-- A place is lost when it goes or something above it goes. -/
def Lost (look : Surface) (paths : List Path) (place : List String) : Prop :=
  ∃ top, top <+: place ∧ Goes look paths top

/-- What remains of a surface when paths are given up. -/
structure Remainder (look : Surface) (paths : List Path) (after : Surface) : Prop where
  lost : ∀ place, Lost look paths place → after place = none
  kept : ∀ place, ¬ Lost look paths place → after place = look place

variable {look mid after after' : Surface} {paths others : List Path} {path : Path}
  {place lower : List String}

/-! ## Places that go -/

theorem Goes.mono (within : paths ⊆ others) (goes : Goes look paths place) : Goes look others place := by
  induction goes with
  | given listed => exact .given (within listed)
  | emptied notRoot listed above reason object _ ih =>
    exact .emptied notRoot (within listed) above reason object ih

/-- What goes is a path that is given up, or lies above one. -/
theorem Goes.above (goes : Goes look paths place) : ∃ path ∈ paths, place <+: path.segments := by
  cases goes with
  | given listed => exact ⟨_, listed, List.prefix_rfl⟩
  | emptied _ listed above _ _ _ => exact ⟨_, listed, (List.prefix_append _ _).trans above⟩

/-- What goes with one path leads to it. -/
theorem Goes.leads (goes : Goes look [path] place) : place <+: path.segments := by
  obtain ⟨_, listed, above⟩ := goes.above
  rwa [List.mem_singleton.1 listed] at above

/-- What goes is the path, or something stood there. -/
theorem Goes.stood (goes : Goes look [path] place) : place = path.segments ∨ look place ≠ none := by
  cases goes with
  | given listed => exact .inl (by rw [List.mem_singleton.1 listed])
  | emptied _ _ _ _ object _ => exact .inr (by simp [object])

/-- The root goes only when it is given up. -/
theorem Goes.ne_nil (below : ∀ path ∈ paths, path.segments ≠ []) (goes : Goes look paths place) :
    place ≠ [] := by
  cases goes with
  | given listed => exact below _ listed
  | emptied notRoot => exact notRoot

/-- Everything between a place that goes and the path goes as well. -/
theorem Goes.reaches (goes : Goes look [path] place) (between : place <+: lower)
    (above : lower <+: path.segments) : Goes look [path] lower := by
  induction goes with
  | given listed =>
    obtain rfl := List.mem_singleton.1 listed
    rw [above.eq_of_length (Nat.le_antisymm above.length_le between.length_le)]
    exact .given listed
  | @emptied place key given notRoot listed step reason object all ih =>
    obtain rfl := List.mem_singleton.1 listed
    by_cases same : lower = place
    · subst same
      exact .emptied notRoot listed step reason object all
    · -- The next segment is the same, whether the way leads on to the path or to the lower place.
      have next : place ++ [key] <+: lower := by
        rcases List.prefix_or_prefix_of_prefix step above with on | back
        · exact on
        · rcases List.prefix_concat_iff.1 back with whole | higher
          · exact whole ▸ List.prefix_rfl
          · exact absurd (higher.eq_of_length
              (Nat.le_antisymm higher.length_le between.length_le)) same
      rcases reason with last | stood
      · rw [last] at next
        rw [above.eq_of_length (Nat.le_antisymm above.length_le next.length_le)]
        exact .given listed
      · exact ih key stood next

/-! ## Up from a place that goes -/

/-- What is left when a place is cleared. -/
def cleared (top : List String) (look : Surface) : Surface := fun place =>
  if top <+: place then none else look place

/-- An empty object stands at a place. -/
def Vacant (look : Surface) (place : List String) : Prop :=
  look place = some .empty ∧ ∀ key, look (place ++ [key]) = none

theorem mem_keys_iff {v : Value} {fields : Dict Value} {key : String}
    (found : at? place v = some (.object fields)) :
    key ∈ Dict.keys fields ↔ surface v (place ++ [key]) ≠ none := by
  rw [← not_iff_not, ← Dict.find?_eq_none_iff, not_not, surface_eq_none_iff, at?_append, found,
    Option.bind_some, at?_cons_object]
  cases Dict.find? fields key <;> simp

theorem vacant_iff {v : Value} : Vacant (surface v) place ↔ at? place v = some .empty := by
  constructor
  · rintro ⟨object, noField⟩
    obtain ⟨fields, found⟩ := surface_eq_empty_iff.1 object
    have noKey : Dict.keys fields = [] := List.eq_nil_iff_forall_not_mem.2 fun key present =>
      (mem_keys_iff found).1 present (noField key)
    rw [found, List.map_eq_nil_iff.1 noKey]
    rfl
  · intro empty
    refine ⟨surface_eq_empty_iff.2 ⟨[], empty⟩, fun key => ?_⟩
    exact not_not.1 fun stands => List.not_mem_nil ((mem_keys_iff empty).2 stands)

theorem cleared_under (under : place <+: lower) : cleared place look lower = none := if_pos under

theorem cleared_of_not_under (aside : ¬ place <+: lower) : cleared place look lower = look lower :=
  if_neg aside

/-- Clearing an object clears what stood in it. -/
theorem cleared_cleared (above : place <+: lower) :
    cleared place (cleared lower look) = cleared place look := by
  funext other
  unfold cleared
  split
  · rfl
  · next aside => rw [if_neg fun under => aside (above.trans under)]

/-- Where nothing stands there is nothing to clear. -/
theorem cleared_of_nothing {v : Value} (nothing : at? place v = none) :
    cleared place (surface v) = surface v := by
  funext other
  unfold cleared
  split
  · next under =>
    have below := at?_eq_none_of_prefix under nothing
    exact (surface_eq_none_iff.2 below).symm
  · rfl

/-- The object above a place that goes goes as well when it is left empty. -/
theorem goes_above_iff {key : String} (goes : Goes look [path] (place ++ [key])) :
    Goes look [path] place ↔ place ≠ [] ∧ Vacant (cleared (place ++ [key]) look) place := by
  have leads := goes.leads
  have short : ¬ place ++ [key] <+: place := fun longer => absurd longer.length_le (by simp)
  have aside {other : String} (differs : other ≠ key) : ¬ place ++ [key] <+: place ++ [other] := by
    simpa [List.prefix_append_right_inj] using differs.symm
  constructor
  · intro above
    cases above with
    | given listed =>
      rw [List.mem_singleton.1 listed] at short leads
      exact absurd leads short
    | emptied notRoot _ _ _ object all =>
      refine ⟨notRoot, (cleared_of_not_under short).trans object, fun other => ?_⟩
      by_cases same : other = key
      · exact cleared_under (same ▸ List.prefix_rfl)
      · rw [cleared_of_not_under (aside same)]
        by_contra stood
        -- Only one field of the object lies on the way to the path.
        rcases List.prefix_or_prefix_of_prefix leads (all other stood).leads with first | second
        · exact aside same first
        · exact aside same (second.eq_of_length (by simp) ▸ List.prefix_rfl)
  · rintro ⟨notRoot, object, noField⟩
    rw [cleared_of_not_under short] at object
    refine .emptied notRoot (List.mem_singleton_self _) leads goes.stood object fun other stood => ?_
    by_cases same : other = key
    · exact same ▸ goes
    · have nothing := noField other
      rw [cleared_of_not_under (aside same)] at nothing
      exact absurd nothing stood

/-! ## Lost places -/

theorem Lost.mono (within : paths ⊆ others) (lost : Lost look paths place) : Lost look others place := by
  obtain ⟨top, above, goes⟩ := lost
  exact ⟨top, above, goes.mono within⟩

theorem Lost.under (lost : Lost look paths place) (under : place <+: lower) : Lost look paths lower := by
  obtain ⟨top, above, goes⟩ := lost
  exact ⟨top, above.trans under, goes⟩

theorem Goes.lost (goes : Goes look paths place) : Lost look paths place :=
  ⟨place, List.prefix_rfl, goes⟩

/-- A field of an object that stays is lost only when it goes itself. -/
theorem Lost.goes {key : String} (stays : ¬ Lost look paths place)
    (lost : Lost look paths (place ++ [key])) : Goes look paths (place ++ [key]) := by
  obtain ⟨top, above, goes⟩ := lost
  rcases List.prefix_concat_iff.1 above with rfl | higher
  · exact goes
  · exact absurd ⟨top, higher, goes⟩ stays

/-- A way down goes on with some next segment. -/
theorem exists_next (leads : place <+: lower) (strict : place ≠ lower) :
    ∃ key, place ++ [key] <+: lower := by
  obtain ⟨rest, rfl⟩ := leads
  cases rest with
  | nil => exact absurd (List.append_nil place).symm strict
  | cons key rest =>
    exact ⟨key, (List.prefix_append_right_inj _).2 (List.cons_prefix_cons.2 ⟨rfl, List.nil_prefix⟩)⟩

/-- Where something stood that is lost, it goes itself, or it stood at or below a path that is given
up. -/
theorem Lost.cases {v : Value} (lost : Lost (surface v) paths place) (stood : surface v place ≠ none) :
    (∃ path ∈ paths, path.segments <+: place) ∨ Goes (surface v) paths place := by
  obtain ⟨top, above, goes⟩ := lost
  induction goes with
  | given listed => exact .inl ⟨_, listed, above⟩
  | @emptied top key path notRoot listed step reason object all ih =>
    by_cases same : top = place
    · subst same
      exact .inr (.emptied notRoot listed step reason object all)
    · obtain ⟨other, next⟩ := exists_next above same
      refine ih other (fun nothing => stood ?_) next
      have below := at?_eq_none_of_prefix next (surface_eq_none_iff.1 nothing)
      exact surface_eq_none_iff.2 below

/-- What is lost was an object, or stood at or below a path that is given up. -/
theorem Lost.object {v : Value} (lost : Lost (surface v) paths place)
    (stood : surface v place ≠ none) :
    (∃ path ∈ paths, path.segments <+: place) ∨ surface v place = some .empty := by
  rcases lost.cases stood with under | goes
  · exact .inl under
  · cases goes with
    | given listed => exact .inl ⟨_, listed, List.prefix_rfl⟩
    | emptied _ _ _ _ object _ => exact .inr object

/-- When an object that stands apart from the paths or above them is lost, every field goes with it, and
one of them leads to a path. -/
theorem Lost.emptied {v : Value} (lost : Lost (surface v) paths place)
    (aside : ∀ path ∈ paths, ¬ path.segments <+: place) (stood : surface v place ≠ none) :
    place ≠ [] ∧ (∀ key, surface v (place ++ [key]) ≠ none → Goes (surface v) paths (place ++ [key])) ∧
      ∃ path ∈ paths, ∃ key, place ++ [key] = path.segments ∨ surface v (place ++ [key]) ≠ none := by
  rcases lost.cases stood with ⟨path, listed, under⟩ | goes
  · exact absurd under (aside path listed)
  · cases goes with
    | given listed => exact absurd List.prefix_rfl (aside _ listed)
    | @emptied _ key path notRoot listed _ reason _ all => exact ⟨notRoot, all, path, listed, key, reason⟩

/-! ## What remains -/

namespace Remainder

theorem nil (look : Surface) : Remainder look [] look where
  lost := by
    rintro place ⟨top, -, goes⟩
    obtain ⟨path, never, -⟩ := goes.above
    cases never
  kept := fun _ _ => rfl

/-- What remains depends only on which paths are given up. -/
theorem unique (h : Remainder look paths after) (h' : Remainder look others after')
    (same : ∀ path, path ∈ paths ↔ path ∈ others) : after = after' := by
  funext place
  by_cases lost : Lost look paths place
  · rw [h.lost place lost, h'.lost place (lost.mono fun path => (same path).1)]
  · have kept : ¬ Lost look others place := fun other =>
      lost (other.mono fun path => (same path).2)
    rw [h.kept place lost, h'.kept place kept]

/-- Where the object above a place that goes stays, all but that place remains. -/
theorem of_stop {key : String} (goes : Goes look [path] (place ++ [key]))
    (stops : ¬ Goes look [path] place) :
    Remainder look [path] (cleared (place ++ [key]) look) where
  lost := by
    rintro other ⟨top, above, gone⟩
    refine cleared_under (List.IsPrefix.trans ?_ above)
    rcases List.prefix_or_prefix_of_prefix goes.leads gone.leads with under | higher
    · exact under
    · rcases List.prefix_concat_iff.1 higher with same | strictly
      · exact same ▸ List.prefix_rfl
      · exact absurd (gone.reaches strictly ((List.prefix_append _ _).trans goes.leads)) stops
  kept := fun other stays => cleared_of_not_under fun under => stays ⟨place ++ [key], under, goes⟩

/-- What stands afterwards has not been lost. -/
theorem stays (h : Remainder look paths after) (stands : after place ≠ none) :
    ¬ Lost look paths place ∧ after place = look place := by
  have stays : ¬ Lost look paths place := fun lost => stands (h.lost place lost)
  exact ⟨stays, h.kept place stays⟩

/-- A field of an object that stays is there no more when it goes, and only then. -/
theorem gone_iff {key : String} (h : Remainder look paths after) (stays : ¬ Lost look paths place)
    (stood : look (place ++ [key]) ≠ none) :
    after (place ++ [key]) = none ↔ Goes look paths (place ++ [key]) := by
  constructor
  · intro nothing
    by_contra left
    exact stood ((h.kept _ fun lost => left (lost.goes stays)).symm.trans nothing)
  · intro goes
    exact h.lost _ goes.lost

/-- What goes later goes when all paths are given up together. -/
theorem goes_of_goes (first : Remainder look [path] mid) (goes : Goes mid paths place) :
    Goes look (path :: paths) place := by
  induction goes with
  | given listed => exact .given (List.mem_cons_of_mem _ listed)
  | @emptied place key given notRoot listed step reason object all ih =>
    have stands : mid place ≠ none := by simp [object]
    obtain ⟨stays, same⟩ := first.stays stands
    refine .emptied notRoot (List.mem_cons_of_mem _ listed) step (reason.imp_right fun stood => ?_)
      (same.symm.trans object) fun other stood => ?_
    · rw [← (first.stays stood).2]
      exact stood
    · by_cases gone : Lost look [path] (place ++ [other])
      · exact (gone.goes stays).mono (List.cons_subset_cons _ (List.nil_subset _))
      · exact ih other (by rwa [first.kept _ gone])

/-- What goes when all paths are given up together is lost with the first one or later. -/
theorem lost_of_goes (first : Remainder look [path] mid) (goes : Goes look (path :: paths) place) :
    Lost look [path] place ∨ Lost mid paths place := by
  induction goes with
  | given listed =>
    rcases List.mem_cons.1 listed with rfl | later
    · exact .inl (Goes.given (List.mem_singleton_self _)).lost
    · exact .inr (Goes.given later).lost
  | @emptied place key given notRoot listed step reason object all ih =>
    by_contra neither
    obtain ⟨stays, stays'⟩ := not_or.1 neither
    have here : mid place = some .empty := (first.kept place stays).trans object
    -- A field that is left goes later, and one that is not left has gone with the first path.
    have later (other : String) (stands : mid (place ++ [other]) ≠ none) :
        Goes mid paths (place ++ [other]) := by
      obtain ⟨left, same⟩ := first.stays stands
      exact ((ih other (by rwa [← same])).resolve_left left).goes stays'
    by_cases left : ∃ other, mid (place ++ [other]) ≠ none
    · obtain ⟨other, stands⟩ := left
      obtain ⟨under, isLater, higher⟩ := (later other stands).above
      exact stays' (Goes.emptied notRoot isLater higher (.inr stands) here later).lost
    · have gone (other : String) (stood : look (place ++ [other]) ≠ none) :
          Goes look [path] (place ++ [other]) :=
        (first.gone_iff stays stood).1 (not_not.1 fun stands => left ⟨other, stands⟩)
      rcases reason with last | stood
      · rcases List.mem_cons.1 listed with rfl | isLater
        · have first : given ∈ [given] := List.mem_cons_self
          exact stays (Goes.emptied notRoot first step (.inl last) object gone).lost
        · exact stays' (Goes.emptied notRoot isLater step (.inl last) here later).lost
      · obtain ⟨under, isFirst, higher⟩ := (gone key stood).above
        exact stays (Goes.emptied notRoot isFirst higher (.inr stood) object gone).lost

/-- Paths are given up one after the other. -/
theorem cons (first : Remainder look [path] mid) (rest : Remainder mid paths after) :
    Remainder look (path :: paths) after where
  lost := by
    rintro place ⟨top, above, goes⟩
    by_cases late : Lost mid paths place
    · exact rest.lost place late
    · have early := (first.lost_of_goes goes).resolve_right fun later => late (later.under above)
      rw [rest.kept place late]
      exact first.lost place (early.under above)
  kept := by
    intro place stays
    have kept : ¬ Lost look [path] place := fun early =>
      stays (early.mono (List.cons_subset_cons _ (List.nil_subset _)))
    rw [rest.kept place, first.kept place kept]
    rintro ⟨top, above, goes⟩
    exact stays ⟨top, above, first.goes_of_goes goes⟩

end Remainder

end DocStore.Tree
