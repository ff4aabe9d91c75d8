import DocStore.Bundle.Activation
import DocStore.Proofs.Fallible
import DocStore.Proofs.Tree.Merge
import Mathlib.Data.List.Pairwise

/-!
# What the roots of valid bundles cover

The data of a valid bundle lies at and under its roots; above them there are only objects. The roots
of all bundles of a valid set are apart from each other.

Results:
  * `covered`: where the data of a valid bundle lies;
  * `validateSet_ok`: the bundles of a valid set are valid, and their roots do not overlap;
  * `validateSet_perm`: a set is valid in any order.
-/

namespace DocStore

namespace Bundle

/-! ## One bundle -/

/-- A path is one of the roots that a bundle declares. -/
def Declares (b : Bundle) (root : Path) : Prop :=
  ∃ roots, b.manifest.rootPaths b.name = .ok roots ∧ root ∈ roots

theorem segments_child {here below : Path} {key : String} (ok : here.child key = .ok below) :
    below.segments = here.segments ++ [key] :=
  Path.ofSegments_eq_ok_iff.1 (mapError_ok ok)

/-- Fields are in order when each of them stands at a path and nothing in it lies outside the roots. -/
theorem checkFields_eq_ok_iff {name : String} {roots : List Path} {here : Path}
    {fields : List (String × Value)} : checkFields name roots here fields = .ok () ↔
      ∀ key v, (key, v) ∈ fields →
        ∃ below, here.child key = .ok below ∧ checkUnder name roots below v = .ok () := by
  induction fields with
  | nil => simp [checkFields]
  | cons head rest ih =>
    obtain ⟨k, w⟩ := head
    have split : (∀ key v, (key, v) ∈ (k, w) :: rest →
          ∃ below, here.child key = .ok below ∧ checkUnder name roots below v = .ok ()) ↔
        (∃ below, here.child k = .ok below ∧ checkUnder name roots below w = .ok ()) ∧
          checkFields name roots here rest = .ok () := by
      simp only [List.mem_cons, Prod.mk.injEq, ih]
      constructor
      · intro each
        exact ⟨each k w (.inl ⟨rfl, rfl⟩), fun key v later => each key v (.inr later)⟩
      · rintro ⟨first, others⟩ key v (⟨rfl, rfl⟩ | later)
        · exact first
        · exact others key v later
    rw [split, checkFields]
    cases child : here.child k with
    | error e => simp
    | ok below => cases checked : checkUnder name roots below w <;> simp [checked]

/-- What lies under the roots: everything at or under one of them, and objects above one. -/
def Under (roots : List Path) (place : List String) (v : Value) : Prop :=
  (∃ root ∈ roots, root.segments <+: place) ∨
    ((∃ fields, v = .object fields) ∧ ∃ root ∈ roots, place <+: root.segments)

theorem under_of_checkUnder {name : String} {roots : List Path} {p : List String} {here : Path}
    {v w : Value} (ok : checkUnder name roots here v = .ok ()) (found : Tree.at? p v = some w) :
    Under roots (here.segments ++ p) w := by
  induction p generalizing here v with
  | nil =>
    rw [Tree.at?_nil] at found
    cases found
    rw [List.append_nil]
    by_cases atRoot : roots.any here.hasPrefix = true
    · obtain ⟨root, declared, above⟩ := List.any_eq_true.1 atRoot
      exact Or.inl ⟨root, declared, Path.hasPrefix_iff_leads.1 above⟩
    · cases w with
      | object fields =>
        rw [checkUnder, if_neg atRoot] at ok
        split at ok
        · next deeper =>
          obtain ⟨root, declared, below⟩ := List.any_eq_true.1 deeper
          exact Or.inr ⟨⟨fields, rfl⟩, root, declared, Path.hasPrefix_iff_leads.1 below⟩
        · cases ok
      | null | bool | int | float | string | array =>
        simp only [checkUnder, if_neg atRoot] at ok
        cases ok
  | cons key rest ih =>
    by_cases atRoot : roots.any here.hasPrefix = true
    · obtain ⟨root, declared, above⟩ := List.any_eq_true.1 atRoot
      exact Or.inl ⟨root, declared,
        (Path.hasPrefix_iff_leads.1 above).trans (List.prefix_append _ _)⟩
    · cases v with
      | object fields =>
        rw [checkUnder, if_neg atRoot] at ok
        split at ok
        · rw [Tree.at?_cons_object] at found
          obtain ⟨child, isField, found⟩ := Option.bind_eq_some_iff.1 found
          obtain ⟨below, located, checked⟩ :=
            checkFields_eq_ok_iff.1 ok key child (Dict.mem_of_find? isField)
          have inside := ih checked found
          rw [segments_child located, List.append_assoc] at inside
          exact inside
        · cases ok
      | null | bool | int | float | string | array =>
        simp only [checkUnder, if_neg atRoot] at ok
        cases ok

/-- Where the data of a valid bundle lies. -/
theorem covered {b : Bundle} (valid : b.validate = .ok ()) :
    ∃ roots, b.manifest.rootPaths b.name = .ok roots ∧
      ∀ p w, Tree.at? p (.object b.data) = some w → Under roots p w := by
  unfold validate at valid
  obtain ⟨_, _, valid⟩ := bind_ok valid
  obtain ⟨roots, declared, checked⟩ := bind_ok valid
  exact ⟨roots, declared, fun p w found => under_of_checkUnder checked found⟩

theorem declares_iff {b : Bundle} {roots : List Path}
    (declared : b.manifest.rootPaths b.name = .ok roots) {root : Path} :
    b.Declares root ↔ root ∈ roots := by
  unfold Declares
  rw [declared]
  constructor
  · rintro ⟨others, same, present⟩
    cases same
    exact present
  · exact fun present => ⟨roots, rfl, present⟩

/-- A valid bundle has nothing at a place that is apart from its roots. -/
theorem at?_of_apart {b : Bundle} (valid : b.validate = .ok ()) {p : List String}
    (apart : ∀ root, b.Declares root → Apart root.segments p) :
    Tree.at? p (.object b.data) = none := by
  obtain ⟨roots, declared, inside⟩ := covered valid
  cases found : Tree.at? p (.object b.data) with
  | none => rfl
  | some w =>
    rcases inside p w found with ⟨root, present, above⟩ | ⟨_, root, present, below⟩
    · exact absurd above (apart root ((declares_iff declared).2 present)).1
    · exact absurd below (apart root ((declares_iff declared).2 present)).2

/-- The data of a valid bundle has only objects on the way to a place that no root is strictly
above. -/
theorem objectsAlong {b : Bundle} (valid : b.validate = .ok ()) {p : List String}
    (lowest : ∀ root, b.Declares root → root.segments <+: p → root.segments = p) :
    Tree.ObjectsAlong p (.object b.data) := by
  obtain ⟨roots, declared, inside⟩ := covered valid
  refine Tree.objectsAlong_of fun q w above strict found => ?_
  rcases inside q w found with ⟨root, present, higher⟩ | ⟨object, _⟩
  · have same := lowest root ((declares_iff declared).2 present) (higher.trans above)
    rw [same] at higher
    exact absurd (above.eq_of_length (Nat.le_antisymm above.length_le higher.length_le)) strict
  · exact object

/-! ## Sets of bundles -/

/-- No root of the one bundle overlaps one of the other. -/
def RootsApart (b c : Bundle) : Prop :=
  ∀ root other, b.Declares root → c.Declares other → root.ApartFrom other

theorem addRoots_ok {name : String} {seen seen' : List (String × Path)} {roots : List Path}
    (ok : addRoots name seen roots = .ok seen') :
    seen' = seen ++ roots.map (fun root => (name, root)) ∧
      (∀ entry ∈ seen, ∀ root ∈ roots, entry.2.ApartFrom root) ∧
      roots.Pairwise Path.ApartFrom := by
  induction roots generalizing seen with
  | nil =>
    cases ok
    exact ⟨(List.append_nil _).symm, fun _ _ _ none => (List.not_mem_nil none).elim, .nil⟩
  | cons root rest ih =>
    rw [addRoots] at ok
    cases clash : seen.find? fun entry => entry.2.overlaps root with
    | some entry =>
      rw [clash] at ok
      cases ok
    | none =>
      rw [clash] at ok
      obtain ⟨rfl, apart, pairwise⟩ := ih ok
      have first : ∀ entry ∈ seen, entry.2.ApartFrom root := fun entry present =>
        Path.overlaps_eq_false_iff.1
          (Bool.eq_false_iff.2 (List.find?_eq_none.1 clash entry present))
      refine ⟨?_, fun entry present other declared => ?_, List.pairwise_cons.2 ⟨?_, pairwise⟩⟩
      · rw [List.append_assoc]
        rfl
      · rcases List.mem_cons.1 declared with rfl | later
        · exact first entry present
        · exact apart entry (List.mem_append_left _ present) other later
      · exact fun other later =>
          apart (name, root) (List.mem_append_right _ (List.mem_singleton.2 rfl)) other later

theorem validateFrom_ok {bundles : List Bundle} {seen : List (String × Path)}
    (ok : validateFrom seen bundles = .ok ()) :
    (∀ b ∈ bundles, b.validate = .ok ()) ∧
      (∀ b ∈ bundles, ∀ roots, b.manifest.rootPaths b.name = .ok roots →
        roots.Pairwise Path.ApartFrom) ∧
      bundles.Pairwise RootsApart ∧
      ∀ entry ∈ seen, ∀ b ∈ bundles, ∀ root, b.Declares root → entry.2.ApartFrom root := by
  induction bundles generalizing seen with
  | nil =>
    exact ⟨fun _ none => (List.not_mem_nil none).elim, fun _ none => (List.not_mem_nil none).elim,
      .nil, fun _ _ _ none => (List.not_mem_nil none).elim⟩
  | cons b rest ih =>
    rw [validateFrom] at ok
    obtain ⟨_, valid, ok⟩ := bind_ok ok
    obtain ⟨roots, declared, ok⟩ := bind_ok ok
    obtain ⟨seen', added, ok⟩ := bind_ok ok
    obtain ⟨rfl, fresh, pairwise⟩ := addRoots_ok added
    obtain ⟨others, within, apart, later⟩ := ih ok
    refine ⟨fun c present => ?_, fun c present theirs found => ?_,
      List.pairwise_cons.2 ⟨fun c present root other isRoot isOther => ?_, apart⟩,
      fun entry before c present root isRoot => ?_⟩
    · rcases List.mem_cons.1 present with rfl | present
      · exact valid
      · exact others c present
    · rcases List.mem_cons.1 present with rfl | present
      · rw [declared] at found
        cases found
        exact pairwise
      · exact within c present theirs found
    · rw [declares_iff declared] at isRoot
      refine later (b.name, root) (List.mem_append_right _ ?_) c present other isOther
      exact List.mem_map.2 ⟨root, isRoot, rfl⟩
    · rcases List.mem_cons.1 present with rfl | present
      · rw [declares_iff declared] at isRoot
        exact fresh entry before root isRoot
      · exact later entry (List.mem_append_left _ before) c present root isRoot

/-- The bundles of a valid set are valid, and no two of their roots overlap. -/
theorem validateSet_ok {bundles : List Bundle} (ok : validateSet bundles = .ok ()) :
    (∀ b ∈ bundles, b.validate = .ok ()) ∧ bundles.Pairwise RootsApart ∧
      ∀ roots, allRoots bundles = .ok roots →
        roots.Pairwise Path.ApartFrom ∧
          ∀ root, root ∈ roots ↔ ∃ b ∈ bundles, b.Declares root := by
  obtain ⟨valid, within, apart, -⟩ := validateFrom_ok ok
  refine ⟨valid, apart, fun roots collected => ?_⟩
  unfold allRoots at collected
  obtain ⟨lists, each, collected⟩ := bind_ok collected
  cases collected
  rw [mapM_ok_iff] at each
  clear ok valid collected
  induction each with
  | nil =>
    refine ⟨.nil, fun root => ⟨fun none => (List.not_mem_nil none).elim, ?_⟩⟩
    rintro ⟨_, none, _⟩
    exact (List.not_mem_nil none).elim
  | @cons b roots bundles lists first more ih =>
    rw [List.pairwise_cons] at apart
    obtain ⟨pairwise, mem⟩ := ih (fun c later => within c (List.mem_cons_of_mem b later)) apart.2
    rw [List.flatten_cons]
    refine ⟨List.pairwise_append.2 ⟨within b List.mem_cons_self roots first, pairwise, ?_⟩,
      fun root => ?_⟩
    · intro root mine other theirs
      obtain ⟨c, later, declared⟩ := (mem other).1 theirs
      exact apart.1 c later root other ((declares_iff first).2 mine) declared
    · rw [List.mem_append, mem, ← declares_iff first]
      constructor
      · rintro (mine | ⟨c, later, declared⟩)
        · exact ⟨b, List.mem_cons_self, mine⟩
        · exact ⟨c, List.mem_cons_of_mem b later, declared⟩
      · rintro ⟨c, present, declared⟩
        rcases List.mem_cons.1 present with rfl | later
        · exact Or.inl declared
        · exact Or.inr ⟨c, later, declared⟩

/-! ## Sets in any order -/

theorem RootsApart.symm {b c : Bundle} (apart : RootsApart b c) : RootsApart c b :=
  fun root other mine theirs => Apart.symm (apart other root theirs mine)

/-- Roots that are apart from each other and from those seen before can be added. -/
theorem addRoots_of_apart {name : String} {seen : List (String × Path)} {roots : List Path}
    (fresh : ∀ entry ∈ seen, ∀ root ∈ roots, entry.2.ApartFrom root)
    (pairwise : roots.Pairwise Path.ApartFrom) :
    addRoots name seen roots = .ok (seen ++ roots.map fun root => (name, root)) := by
  induction roots generalizing seen with
  | nil =>
    rw [List.map_nil, List.append_nil]
    rfl
  | cons root rest ih =>
    have clash : (seen.find? fun entry => entry.2.overlaps root) = none := by
      refine List.find?_eq_none.2 fun entry before => Bool.eq_false_iff.1 ?_
      exact Path.overlaps_eq_false_iff.2 (fresh entry before root List.mem_cons_self)
    rw [List.pairwise_cons] at pairwise
    have later : ∀ entry ∈ seen ++ [(name, root)], ∀ other ∈ rest, entry.2.ApartFrom other := by
      intro entry present other isRoot
      rcases List.mem_append.1 present with before | new
      · exact fresh entry before other (List.mem_cons_of_mem root isRoot)
      · rw [List.mem_singleton.1 new]
        exact pairwise.1 other isRoot
    rw [addRoots, clash]
    simp only [ih later pairwise.2, List.append_assoc]
    rfl

theorem validateFrom_of_apart {bundles : List Bundle} {seen : List (String × Path)}
    (valid : ∀ b ∈ bundles, b.validate = .ok ())
    (within : ∀ b ∈ bundles, ∀ roots, b.manifest.rootPaths b.name = .ok roots →
      roots.Pairwise Path.ApartFrom)
    (apart : bundles.Pairwise RootsApart)
    (fresh : ∀ entry ∈ seen, ∀ b ∈ bundles, ∀ root, b.Declares root → entry.2.ApartFrom root) :
    validateFrom seen bundles = .ok () := by
  induction bundles generalizing seen with
  | nil => rfl
  | cons b rest ih =>
    have first : b ∈ b :: rest := List.mem_cons_self
    obtain ⟨roots, declared, -⟩ := covered (valid b first)
    rw [List.pairwise_cons] at apart
    have added : addRoots b.name seen roots = .ok (seen ++ roots.map fun root => (b.name, root)) := by
      refine addRoots_of_apart (fun entry before root isRoot => ?_) (within b first roots declared)
      exact fresh entry before b first root ((declares_iff declared).2 isRoot)
    rw [validateFrom, valid b first, declared]
    show (addRoots b.name seen roots >>= fun seen => validateFrom seen rest) = .ok ()
    rw [added]
    refine ih (fun c later => valid c (List.mem_cons_of_mem b later))
      (fun c later => within c (List.mem_cons_of_mem b later)) apart.2 fun entry present c later => ?_
    intro root isRoot
    rcases List.mem_append.1 present with before | new
    · exact fresh entry before c (List.mem_cons_of_mem b later) root isRoot
    · obtain ⟨mine, isMine, rfl⟩ := List.mem_map.1 new
      exact apart.1 c later mine root ((declares_iff declared).2 isMine) isRoot

/-- A set is valid in any order. -/
theorem validateSet_perm {bundles others : List Bundle} (perm : bundles.Perm others)
    (ok : validateSet bundles = .ok ()) : validateSet others = .ok () := by
  obtain ⟨valid, within, apart, -⟩ := validateFrom_ok ok
  refine validateFrom_of_apart (fun b present => valid b (perm.mem_iff.2 present))
    (fun b present => within b (perm.mem_iff.2 present)) (apart.perm perm RootsApart.symm) ?_
  exact fun entry never => by cases never

end Bundle

end DocStore
