import DocStore.Proofs.Bundle.Coverage

/-!
# Which bundles are valid

A tree ends in tips, values without fields: all values but the objects that have some. A bundle is valid
when each tip of its data lies at or under a root, or is an empty object above one.

The check begins at the root of the tree, before it knows whether anything stands below, and asks for a
declared root that is related to it. Every path is. So this tells nothing about a bundle that declares a
root, but a bundle that declares none is refused even when it has no data that could lie outside.

Results:
  * `checkUnder_eq_ok_iff`: what the check of a value comes to;
  * `validate_eq_ok_iff`: which bundles are valid;
  * `refused_without_roots`: the tips alone do not decide.
-/

namespace DocStore

/-- A value without fields: it is no object, or it is the empty one. -/
def Value.isTip : Value → Bool
  | .object (_ :: _) => false
  | _ => true

/-- The keys lead from one value to another, through objects. -/
inductive Tree.Leads : Value → List String → Value → Prop
  | here (v : Value) : Leads v [] v
  | field {fields : Dict Value} {key : String} {child v : Value} {place : List String} :
      (key, child) ∈ fields → Leads child place v → Leads (.object fields) (key :: place) v

/-- Every value has a tip. -/
theorem Tree.exists_tip : (v : Value) → ∃ place tip, Leads v place tip ∧ tip.isTip = true
  | .object [] => ⟨[], _, .here _, rfl⟩
  | .object ((key, child) :: _) => by
    obtain ⟨place, tip, leads, isTip⟩ := exists_tip child
    exact ⟨key :: place, tip, .field List.mem_cons_self leads, isTip⟩
  | .null | .bool _ | .int _ | .float _ | .string _ | .array _ => ⟨[], _, .here _, rfl⟩

/-- The tips of an object are those of its fields, and the object itself when it has none. -/
theorem Tree.forall_tips_object {fields : Dict Value} {P : List String → Value → Prop} :
    (∀ place tip, Leads (.object fields) place tip → tip.isTip = true → P place tip) ↔
      (fields = [] → P [] .empty) ∧ ∀ key child, (key, child) ∈ fields →
        ∀ place tip, Leads child place tip → tip.isTip = true → P (key :: place) tip := by
  constructor
  · intro all
    refine ⟨?_, fun key child present place tip leads => all _ tip (.field present leads)⟩
    rintro rfl
    exact all [] .empty (.here _) rfl
  · rintro ⟨empty, each⟩ place tip leads isTip
    cases leads with
    | here =>
      cases fields with
      | nil => exact empty rfl
      | cons => cases isTip
    | field present leads => exact each _ _ present _ tip leads isTip

namespace Bundle

open DocStore.Tree

variable {name : String} {roots : List Path} {here : Path} {place : List String} {key : String}
  {v : Value}

/-- A tip may stand at a place: at or under a root, or, if it is an empty object, above one. -/
def Covers (roots : List Path) (place : List String) (tip : Value) : Prop :=
  (∃ root ∈ roots, root.segments <+: place) ∨
    (tip = .empty ∧ ∃ root ∈ roots, place <+: root.segments ∧ place ≠ root.segments)

/-- A root that is related to a place below this one is related to this one. -/
theorem Covers.related (covers : Covers roots (here.segments ++ place) v) :
    (∃ root ∈ roots, root.segments <+: here.segments) ∨
      ∃ root ∈ roots, here.segments <+: root.segments := by
  rcases covers with ⟨root, declared, above⟩ | ⟨-, root, declared, below, -⟩
  · rcases List.prefix_or_prefix_of_prefix above (List.prefix_append _ _) with higher | lower
    · exact .inl ⟨root, declared, higher⟩
    · exact .inr ⟨root, declared, lower⟩
  · exact .inr ⟨root, declared, (List.prefix_append _ _).trans below⟩

/-- A place under a key can only be covered by roots that have that key there, which is a segment. -/
theorem Covers.isSegment (covers : Covers roots (here.segments ++ key :: place) v)
    (outside : ∀ root ∈ roots, ¬ root.segments <+: here.segments) : IsSegment key := by
  obtain ⟨root, through⟩ : ∃ root : Path, here.segments ++ [key] <+: root.segments := by
    rcases covers with ⟨root, declared, above⟩ | ⟨-, root, declared, below, -⟩
    · have step : here.segments ++ [key] <+: here.segments ++ key :: place :=
        (List.prefix_append_right_inj _).2 (List.cons_prefix_cons.2 ⟨rfl, List.nil_prefix⟩)
      rcases List.prefix_or_prefix_of_prefix above step with higher | lower
      · rcases List.prefix_concat_iff.1 higher with same | within
        · exact ⟨root, same ▸ List.prefix_rfl⟩
        · exact absurd within (outside root declared)
      · exact ⟨root, lower⟩
    · refine ⟨root, List.IsPrefix.trans ?_ below⟩
      exact (List.prefix_append_right_inj _).2 (List.cons_prefix_cons.2 ⟨rfl, List.nil_prefix⟩)
  exact root.valid key (through.subset (by simp))

theorem exists_child (segment : IsSegment key) : ∃ below, here.child key = .ok below := by
  have valid : ∀ s ∈ here.segments ++ [key], IsSegment s := by
    intro s mem
    rcases List.mem_append.1 mem with inside | last
    · exact here.valid s inside
    · rw [List.mem_singleton.1 last]
      exact segment
  have found : Path.ofSegments (here.segments ++ [key]) = .ok ⟨_, valid⟩ :=
    Path.ofSegments_eq_ok_iff.2 rfl
  refine ⟨⟨_, valid⟩, ?_⟩
  unfold Path.child Path.new
  rw [found]
  rfl

/-- At or under a root there is nothing to check. -/
theorem checkUnder_of_inside (inside : roots.any here.hasPrefix = true) :
    checkUnder name roots here v = .ok () := by
  cases v <;> simp only [checkUnder, if_pos inside]

/-- The empty object is covered wherever a root is declared that is related to its place. -/
theorem covers_empty_iff : Covers roots here.segments .empty ↔
    (∃ root ∈ roots, root.segments <+: here.segments) ∨
      ∃ root ∈ roots, here.segments <+: root.segments := by
  constructor
  · intro covers
    rw [← List.append_nil here.segments] at covers
    exact covers.related
  · rintro (⟨root, declared, above⟩ | ⟨root, declared, below⟩)
    · exact .inl ⟨root, declared, above⟩
    · by_cases same : here.segments = root.segments
      · exact .inl ⟨root, declared, same ▸ List.prefix_rfl⟩
      · exact .inr ⟨rfl, root, declared, below, same⟩

/-- All tips of a value that stands at a place are covered. -/
def CoversTips (roots : List Path) (place : List String) (v : Value) : Prop :=
  ∀ rest tip, Leads v rest tip → tip.isTip = true → Covers roots (place ++ rest) tip

/-- A value that is no object is covered at or under a root only. -/
theorem not_coversTips_of_leaf (leaf : v.isObject = false)
    (outside : ∀ root ∈ roots, ¬ root.segments <+: place) : ¬ CoversTips roots place v := by
  intro all
  have isTip : v.isTip = true := by
    cases v with
    | object fields => cases leaf
    | null | bool | int | float | string | array => rfl
  have covers := all [] v (.here v) isTip
  rw [List.append_nil] at covers
  rcases covers with ⟨root, declared, above⟩ | ⟨rfl, -⟩
  · exact outside root declared above
  · cases leaf

/-- No value is covered where no root is related to its place. -/
theorem not_coversTips_of_apart (outside : ∀ root ∈ roots, ¬ root.segments <+: here.segments)
    (aside : ∀ root ∈ roots, ¬ here.segments <+: root.segments) :
    ¬ CoversTips roots here.segments v := by
  intro all
  obtain ⟨rest, tip, leads, isTip⟩ := exists_tip v
  rcases (all rest tip leads isTip).related with ⟨root, declared, above⟩ | ⟨root, declared, below⟩
  · exact outside root declared above
  · exact aside root declared below

/-- Outside the roots, the check of a field comes to its tips when that of its value does. -/
theorem checkChild_iff {child : Value} (outside : ∀ root ∈ roots, ¬ root.segments <+: here.segments)
    (within : ∀ next : Path,
      checkUnder name roots next child = .ok () ↔ CoversTips roots next.segments child) :
    (∃ next, here.child key = .ok next ∧ checkUnder name roots next child = .ok ()) ↔
      ∀ rest tip, Leads child rest tip → tip.isTip = true →
        Covers roots (here.segments ++ key :: rest) tip := by
  have step {next : Path} (located : here.child key = .ok next) (rest : List String) :
      here.segments ++ key :: rest = next.segments ++ rest := by
    rw [segments_child located, List.append_assoc]
    rfl
  constructor
  · rintro ⟨next, located, checked⟩ rest tip leads isTip
    rw [step located]
    exact (within next).1 checked rest tip leads isTip
  · intro all
    obtain ⟨rest, tip, leads, isTip⟩ := exists_tip child
    obtain ⟨next, located⟩ : ∃ next, here.child key = .ok next :=
      exists_child ((all rest tip leads isTip).isSegment outside)
    refine ⟨next, located, (within next).2 fun rest tip leads isTip => ?_⟩
    rw [← step located]
    exact all rest tip leads isTip

/-- Nothing in a value lies outside the roots when all its tips are covered. -/
theorem checkUnder_eq_ok_iff : (v : Value) → (here : Path) →
    (checkUnder name roots here v = .ok () ↔ CoversTips roots here.segments v)
  | v, here => by
    by_cases inside : roots.any here.hasPrefix = true
    · -- At or under a root: the check is over, and every tip is covered.
      obtain ⟨root, declared, above⟩ := List.any_eq_true.1 inside
      have leads := Path.hasPrefix_iff_leads.1 above
      refine iff_of_true (checkUnder_of_inside inside) fun rest tip _ _ => ?_
      exact .inl ⟨root, declared, leads.trans (List.prefix_append _ _)⟩
    have outside : ∀ root ∈ roots, ¬ root.segments <+: here.segments := fun root declared above =>
      inside (List.any_eq_true.2 ⟨root, declared, Path.hasPrefix_iff_leads.2 above⟩)
    cases v with
    | object fields =>
      by_cases deeper : roots.any (·.hasPrefix here) = true
      · -- Above a root: the object itself is covered, and its fields are checked.
        obtain ⟨root, declared, below⟩ := List.any_eq_true.1 deeper
        have covered : Covers roots (here.segments ++ []) .empty := by
          rw [List.append_nil, covers_empty_iff]
          exact .inr ⟨root, declared, Path.hasPrefix_iff_leads.1 below⟩
        unfold CoversTips
        rw [checkUnder, if_neg inside, if_pos deeper, checkFields_eq_ok_iff, forall_tips_object,
          and_iff_right fun _ => covered]
        refine forall_congr' fun key => forall_congr' fun child => forall_congr' fun present => ?_
        exact checkChild_iff outside fun next => checkUnder_eq_ok_iff child next
      · rw [checkUnder, if_neg inside, if_neg deeper]
        refine iff_of_false (fun never => by cases never) (not_coversTips_of_apart outside ?_)
        exact fun root declared below =>
          deeper (List.any_eq_true.2 ⟨root, declared, Path.hasPrefix_iff_leads.2 below⟩)
    | null | bool | int | float | string | array =>
      simp only [checkUnder, if_neg inside]
      exact iff_of_false (fun never => by cases never) (not_coversTips_of_leaf rfl outside)
termination_by v => sizeOf v
decreasing_by
  have smaller := List.sizeOf_lt_of_mem present
  simp only [Prod.mk.sizeOf_spec, Value.object.sizeOf_spec] at smaller ⊢
  omega

theorem firstOverlap?_of_apart (apart : roots.Pairwise fun p q => p.overlaps q = false) :
    Manifest.firstOverlap? roots = none := by
  induction roots with
  | nil => rfl
  | cons root rest ih =>
    rw [List.pairwise_cons] at apart
    have clear : rest.find? root.overlaps = none :=
      List.find?_eq_none.2 fun other later => by simp [apart.1 other later]
    rw [Manifest.firstOverlap?, clear]
    exact ih apart.2

variable {b : Bundle}

/-- A bundle whose roots are paths that do not overlap is valid exactly when every tip of its data lies
at or under a root or is an empty object above one, except that without data it needs a root. -/
theorem validate_eq_ok_iff (declared : b.manifest.rootPaths b.name = .ok roots)
    (apart : roots.Pairwise fun p q => p.overlaps q = false) :
    b.validate = .ok () ↔ (b.data = [] → roots ≠ []) ∧
      ∀ place tip, place ≠ [] → Leads (.object b.data) place tip → tip.isTip = true →
        Covers roots place tip := by
  have reduced : b.validate = checkUnder b.name roots .root (.object b.data) := by
    unfold validate Manifest.validate
    rw [declared]
    simp only [bind, Except.bind, firstOverlap?_of_apart apart]
    rfl
  have top : Covers roots [] .empty ↔ roots ≠ [] := by
    show Covers roots Path.root.segments .empty ↔ _
    rw [covers_empty_iff]
    constructor
    · rintro (⟨root, isRoot, -⟩ | ⟨root, isRoot, -⟩) <;> exact List.ne_nil_of_mem isRoot
    · intro some
      obtain ⟨root, isRoot⟩ := List.exists_mem_of_ne_nil roots some
      exact .inr ⟨root, isRoot, List.nil_prefix⟩
  rw [reduced, checkUnder_eq_ok_iff]
  show (∀ place tip, Leads (.object b.data) place tip → tip.isTip = true → Covers roots place tip) ↔ _
  rw [forall_tips_object, top]
  refine and_congr_right fun _ => ?_
  constructor
  · intro each place tip below leads isTip
    cases leads with
    | here => exact absurd rfl below
    | field present leads => exact each _ _ present _ tip leads isTip
  · intro all key child present place tip leads isTip
    exact all _ tip (List.cons_ne_nil key place) (.field present leads) isTip

/-- A bundle with two roots that share an object above them: an empty object above one of them, a value
under the other one. -/
def branching : Bundle :=
  { name := "b", manifest := ⟨"1", some ["m/x", "m/y/z"], []⟩, policies := []
    data := [("m", .object [("x", .object [("k", .int 1)]), ("y", .empty)])] }

/-- The roots of that bundle. -/
def branches : List Path := [⟨["m", "x"], by decide⟩, ⟨["m", "y", "z"], by decide⟩]

theorem branching_is_valid :
    branching.manifest.rootPaths branching.name = .ok branches ∧
      (branches.Pairwise fun p q => p.overlaps q = false) ∧
      branching.validate = .ok () ∧
      ∀ place tip, place ≠ [] → Leads (.object branching.data) place tip → tip.isTip = true →
        Covers branches place tip := by
  have declared : branching.manifest.rootPaths branching.name = .ok branches := rfl
  have apart : branches.Pairwise fun p q => p.overlaps q = false := by decide
  have valid : branching.validate = .ok () := by decide +kernel
  exact ⟨declared, apart, valid, ((validate_eq_ok_iff declared apart).1 valid).2⟩

/-- A bundle that declares no roots and has no data. -/
def rootless : Bundle :=
  { name := "b", manifest := ⟨"", some [], []⟩, data := [], policies := [] }

/-- That all tips are covered is not enough: without data there are none, but when no roots are declared
the bundle is refused. -/
theorem refused_without_roots :
    ¬ ∀ (b : Bundle) (roots : List Path), b.manifest.rootPaths b.name = .ok roots →
      (roots.Pairwise fun p q => p.overlaps q = false) →
        (b.validate = .ok () ↔ ∀ place tip, place ≠ [] → Leads (.object b.data) place tip →
          tip.isTip = true → Covers roots place tip) := by
  intro always
  have valid : rootless.validate = .ok () := by
    refine (always rootless [] rfl .nil).2 fun place tip below leads _ => ?_
    cases leads with
    | here => exact absurd rfl below
    | field never _ => cases never
  have refused : rootless.validate = .error (.outsideRoots "b" .root) := rfl
  cases refused.symm.trans valid

end Bundle

end DocStore
