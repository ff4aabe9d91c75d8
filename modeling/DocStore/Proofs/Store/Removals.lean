import DocStore.Proofs.Store.Pruning

/-!
# What removals leave

Giving up paths that do not overlap takes away what stands there, and with it the objects above that it
leaves empty. Everything else stays as it was, and it makes no difference which path comes first.

Not every empty object above a path is taken away. Pruning goes up from the path object by object and
stops where nothing stands, so one that was empty before and is not the next one above any path is left.

Results:
  * `object_remains`, `vacant_remains_iff`: what becomes of an object above the paths;
  * `removal_exact`: what a removal takes, in any order;
  * `empty_above_iff`: which empty objects are left, as one can be (`empty_left_above_missing`).
-/

namespace DocStore

namespace Tree

variable {paths : List Path} {path q : Path} {place : List String} {v w : Value} {fields : Dict Value}

/-- A place has gone with the paths: it is one of them or leads to one, and nothing stands there
afterwards. -/
def Taken (paths : List Path) (after : Value) (place : List String) : Prop :=
  (∃ path ∈ paths, place <+: path.segments) ∧ at? place after = none

/-- Of paths that do not overlap, none leads to a place above another one. -/
theorem aside_of_above (apart : paths.Pairwise Path.ApartFrom) (listed : path ∈ paths)
    (above : path.hasPrefix q = true) (strict : q ≠ path) :
    ∀ other ∈ paths, ¬ other.segments <+: q.segments := by
  intro other listed' under
  have leads := Path.hasPrefix_iff_leads.1 above
  by_cases same : other = path
  · subst same
    exact strict (Path.ext (leads.eq_of_length_le under.length_le))
  · exact (apart.forall listed' listed same).1 (under.trans leads)

/-- What goes has been taken. -/
theorem Goes.taken (goes : Goes (surface v) paths place)
    (remains : Remainder (surface v) paths (surface w)) : Taken paths w place :=
  ⟨goes.above, surface_eq_none_iff.1 (remains.lost place goes.lost)⟩

/-- An object above the paths either stays and loses the fields that are taken, or goes with all of its
fields. -/
theorem object_remains (remains : Remainder (surface v) paths (surface w))
    (aside : ∀ path ∈ paths, ¬ path.segments <+: place) (object : at? place v = some (.object fields)) :
    (∃ left, at? place w = some (.object left) ∧
        ∀ key, key ∈ Dict.keys left ↔ key ∈ Dict.keys fields ∧ ¬ Taken paths w (place ++ [key])) ∨
      (place ≠ [] ∧ at? place w = none ∧ ∀ key ∈ Dict.keys fields, Taken paths w (place ++ [key])) := by
  have shown : surface v place = some .empty := surface_eq_empty_iff.2 ⟨fields, object⟩
  by_cases lost : Lost (surface v) paths place
  · obtain ⟨notRoot, all, -⟩ := lost.emptied aside (by simp [shown])
    refine .inr ⟨notRoot, surface_eq_none_iff.1 (remains.lost place lost), fun key present => ?_⟩
    exact (all key ((mem_keys_iff object).1 present)).taken remains
  · obtain ⟨left, stays⟩ := surface_eq_empty_iff.1 ((remains.kept place lost).trans shown)
    refine .inl ⟨left, stays, fun key => ?_⟩
    rw [mem_keys_iff stays, mem_keys_iff object]
    constructor
    · intro stands
      have same := (remains.stays stands).2
      refine ⟨same ▸ stands, fun taken => stands (surface_eq_none_iff.2 taken.2)⟩
    · rintro ⟨stood, notTaken⟩ nothing
      exact notTaken (((remains.gone_iff lost stood).1 nothing).taken remains)

/-- Above the paths an empty object is left exactly where one stood before, in which none of the paths
stands. -/
theorem vacant_remains_iff (remains : Remainder (surface v) paths (surface w))
    (aside : ∀ path ∈ paths, ¬ path.segments <+: place) (below : place ≠ []) :
    Vacant (surface w) place ↔
      Vacant (surface v) place ∧ ∀ path ∈ paths, ∀ key, path.segments ≠ place ++ [key] := by
  constructor
  · rintro ⟨object, noField⟩
    have stands : surface w place ≠ none := by simp [object]
    obtain ⟨stays, same⟩ := remains.stays stands
    have shown := same.symm.trans object
    have gone (key : String) (stood : surface v (place ++ [key]) ≠ none) :
        Goes (surface v) paths (place ++ [key]) :=
      (remains.gone_iff stays stood).1 (noField key)
    refine ⟨⟨shown, fun key => ?_⟩, fun path listed key arrives => ?_⟩
    · by_contra stood
      obtain ⟨path, listed, leads⟩ := (gone key stood).above
      exact stays (Goes.emptied below listed leads (.inr stood) shown gone).lost
    · have leads : place ++ [key] <+: path.segments := arrives ▸ List.prefix_rfl
      exact stays (Goes.emptied below listed leads (.inl arrives.symm) shown gone).lost
  · rintro ⟨⟨object, noField⟩, noPath⟩
    have stays : ¬ Lost (surface v) paths place := by
      intro lost
      obtain ⟨-, -, path, listed, key, arrives | stood⟩ := lost.emptied aside (by simp [object])
      · exact noPath path listed key arrives.symm
      · exact stood (noField key)
    refine ⟨(remains.kept place stays).trans object, fun key => ?_⟩
    by_contra stands
    exact stands ((remains.stays stands).2.trans (noField key))

/-- The root stays when only paths below it are given up. -/
theorem root_remains (remains : Remainder (surface v) paths (surface w))
    (below : ∀ path ∈ paths, path ≠ .root) (object : v.isObject = true) : w.isObject = true := by
  have stays : ¬ Lost (surface v) paths [] := by
    rintro ⟨top, above, goes⟩
    exact goes.ne_nil (fun path listed => Path.segments_ne_nil (below path listed))
      (List.prefix_nil.1 above)
  have same := remains.kept [] stays
  rw [surface_nil, surface_nil, Value.shell_of_object object] at same
  exact Value.isObject_of_shell (Option.some.inj same)

end Tree

/-- What a removal of some paths makes of contents. -/
structure Removes (paths : List Path) (before after : Contents) : Prop where
  /-- Nothing is left at the paths. -/
  gone : ∀ path ∈ paths, Store.lookup after.data path = .error (.notFound path)
  /-- Every path that overlaps none of them reads as before. -/
  elsewhere : ∀ q, (∀ path ∈ paths, q.overlaps path = false) →
    Store.lookup after.data q = Store.lookup before.data q
  /-- What stood above one of them was an object. It has kept all keys but those that are taken, or it
  is gone, and all of its keys are taken. -/
  above : ∀ path ∈ paths, ∀ q, path.hasPrefix q = true → q ≠ path → ∀ v, before.get? q = some v →
    ∃ fields, v = .object fields ∧
      ((∃ left, after.get? q = some (.object left) ∧ ∀ key, key ∈ Dict.keys left ↔
          key ∈ Dict.keys fields ∧ ¬ Tree.Taken paths after.data (q.segments ++ [key])) ∨
        (q ≠ .root ∧ after.get? q = none ∧
          ∀ key ∈ Dict.keys fields, Tree.Taken paths after.data (q.segments ++ [key])))
  /-- Nothing comes where nothing stood. -/
  absent : ∀ q, before.get? q = none → after.get? q = none
  /-- The root stays an object. -/
  root : after.data.isObject = true
  /-- No policy changes. -/
  policies : after.policies = before.policies

namespace Store

open DocStore.Tree

variable {s : Store} {t u : Transaction} {paths others : List Path} {path q : Path}

/-- What a removal of some paths would put in place, unless it fails. -/
def without? (s : Store) (t : Transaction) (paths : List Path) : Option Contents :=
  match s.removeAll t paths with
  | .ok u => some (s.install u).contents
  | .error _ => none

theorem pairwise_apartFrom (apart : paths.Pairwise fun p q => p.overlaps q = false) :
    paths.Pairwise Path.ApartFrom :=
  apart.imp fun differ => Path.overlaps_eq_false_iff.1 differ

theorem removes_of_ok (write : s.Writes t) (object : (s.view t).data.isObject = true)
    (apart : paths.Pairwise Path.ApartFrom) (ok : s.removeAll t paths = .ok u) :
    Removes paths (s.view t) (s.install u).contents := by
  obtain ⟨trims, remains⟩ := remainder_removeAll write ok
  obtain ⟨sheds, gone⟩ := clears_removeAll write ok
  have each := (exists_removeAll_iff write apart).1 ⟨u, ok⟩
  rw [contents_install]
  constructor
  case gone => exact fun path listed => Bundle.lookup_of_absent (gone path listed)
  case elsewhere => exact fun q aside => lookup_eq_iff.2 (sheds.apart q aside)
  case above =>
    intro path listed q above strict v stood
    have leads := Path.hasPrefix_iff_leads.1 above
    have passable := (each path listed).2 q.segments leads fun same => strict (Path.ext same)
    have isObject := passable_iff.1 passable v stood
    cases v with
    | object fields =>
      refine ⟨fields, rfl, ?_⟩
      have aside := aside_of_above apart listed above strict
      refine (object_remains remains aside stood).imp_right ?_
      rintro ⟨below, nothing, taken⟩
      exact ⟨fun isRoot => below (congrArg Path.segments isRoot), nothing, taken⟩
    | null | bool | int | float | string | array => cases isObject
  case absent => exact sheds.absent
  case root => exact root_remains remains (fun path listed => (each path listed).1) object
  case policies => exact trims.policies

/-- Paths that are apart can be given up in any order. -/
theorem without?_perm (write : s.Writes t) (ordered : (s.view t).data.Ordered)
    (apart : paths.Pairwise Path.ApartFrom) (perm : paths.Perm others) :
    s.without? t others = s.without? t paths := by
  have succeeds : (∃ u, s.removeAll t others = .ok u) ↔ ∃ u, s.removeAll t paths = .ok u := by
    rw [exists_removeAll_iff write apart, exists_removeAll_iff write (perm.pairwise apart Apart.symm)]
    exact forall_congr' fun path => imp_congr_left perm.mem_iff.symm
  unfold without?
  cases first : s.removeAll t paths with
  | error e =>
    cases second : s.removeAll t others with
    | error e' => rfl
    | ok w =>
      obtain ⟨u, ok⟩ := succeeds.1 ⟨w, second⟩
      cases first.symm.trans ok
  | ok u =>
    obtain ⟨w, second⟩ := succeeds.2 ⟨u, first⟩
    obtain ⟨trims, remains⟩ := remainder_removeAll write first
    obtain ⟨trims', remains'⟩ := remainder_removeAll write second
    have data : (s.view w).data = (s.view u).data :=
      eq_of_surface _ (trims'.ordered ordered) (trims.ordered ordered)
        (remains'.unique remains fun path => perm.mem_iff.symm)
    have policies := trims'.policies.trans trims.policies.symm
    have same : s.view w = s.view u := by
      show Contents.mk (s.view w).data (s.view w).policies = _
      rw [data, policies]
    rw [second]
    simp only [contents_install, same]

/-- Removing paths that do not overlap removes nothing else but what is left empty above them, and the
order in which they are listed makes no difference. -/
theorem removal_exact (write : s.Writes t) (object : (s.view t).data.isObject = true)
    (ordered : (s.view t).data.Ordered) (apart : paths.Pairwise fun p q => p.overlaps q = false) :
    (∀ u, s.removeAll t paths = .ok u → Removes paths (s.view t) (s.install u).contents) ∧
      ∀ others, paths.Perm others → s.without? t others = s.without? t paths :=
  ⟨fun _ ok => removes_of_ok write object (pairwise_apartFrom apart) ok,
    fun _ perm => without?_perm write ordered (pairwise_apartFrom apart) perm⟩

/-- A store in which an object holds an object and an empty one, beside another object. -/
def branched : Store :=
  { Store.new 1 .empty with contents :=
    { data := .object
        [("a", .object [("b", .object [("c", .int 1)]), ("d", .empty)]),
        ("k", .object [("x", .int 1), ("y", .int 2)])]
      policies := [] } }

/-- A writer of that store. -/
def branchedWriter : Transaction := (branched.openWrite 1).2

/-- Everything below one object, one of two fields of the other one, and a path that is not there. -/
def branchedPaths : List Path :=
  [⟨["a", "b", "c"], by decide⟩, ⟨["a", "d"], by decide⟩, ⟨["k", "x"], by decide⟩,
    ⟨["a", "e", "f"], by decide⟩]

theorem branched_succeeds : ∃ u, branched.removeAll branchedWriter branchedPaths = .ok u := by
  have succeeds : (branched.removeAll branchedWriter branchedPaths).isOk = true := by decide +kernel
  cases done : branched.removeAll branchedWriter branchedPaths with
  | ok u => exact ⟨u, rfl⟩
  | error e =>
    rw [done] at succeeds
    cases succeeds

theorem branched_removal :
    ∃ u, branched.removeAll branchedWriter branchedPaths = .ok u ∧
      Removes branchedPaths (branched.view branchedWriter) (branched.install u).contents ∧
      ∀ others, branchedPaths.Perm others →
        branched.without? branchedWriter others =
          some ⟨.object [("k", .object [("y", .int 2)])], []⟩ := by
  have ordered : (branched.view branchedWriter).data.Ordered := by
    simp only [branched, branchedWriter, openWrite, view, Value.Ordered, Value.empty,
      Value.OrderedFields, Dict.Ordered]
    decide
  have apart : branchedPaths.Pairwise fun p q => p.overlaps q = false := by decide
  obtain ⟨removes, unordered⟩ := removal_exact ⟨rfl, rfl⟩ rfl ordered apart
  obtain ⟨u, ok⟩ := branched_succeeds
  exact ⟨u, ok, removes u ok, fun others perm => (unordered others perm).trans (by decide +kernel)⟩

/-! ## Empty objects -/

theorem parent?_eq_some_iff :
    path.parent? = some q ↔ ∃ key, path.segments = q.segments ++ [key] := by
  constructor
  · exact segments_of_parent?
  · rintro ⟨key, split⟩
    unfold Path.parent? Path.isRoot Path.length
    rw [if_neg (by simp [split])]
    refine congrArg some (Path.ext ?_)
    show path.segments.take (path.segments.length - 1) = q.segments
    rw [split, List.length_append, List.length_singleton, Nat.add_sub_cancel, List.take_left]

/-- An empty object is left above one of the paths exactly when it was empty before and none of the
paths stands directly in it. -/
theorem empty_above_iff (write : s.Writes t) (ok : s.removeAll t paths = .ok u)
    (apart : paths.Pairwise fun p q => p.overlaps q = false) (listed : path ∈ paths)
    (above : path.hasPrefix q = true) (strict : q ≠ path) (below : q ≠ .root) :
    (s.install u).contents.get? q = some .empty ↔
      (s.view t).get? q = some .empty ∧ ∀ other ∈ paths, other.parent? ≠ some q := by
  have aside := aside_of_above (pairwise_apartFrom apart) listed above strict
  rw [contents_install]
  unfold Contents.get? Tree.get?
  rw [← vacant_iff, ← vacant_iff,
    vacant_remains_iff (remainder_removeAll write ok).2 aside (Path.segments_ne_nil below)]
  refine and_congr_right fun _ => forall_congr' fun other => forall_congr' fun _ => ?_
  rw [Ne, parent?_eq_some_iff, not_exists]

theorem branched_emptied :
    ∃ u, branched.removeAll branchedWriter branchedPaths = .ok u ∧
      (branched.install u).contents.get? ⟨["a"], by decide⟩ ≠ some .empty := by
  obtain ⟨u, ok⟩ := branched_succeeds
  have apart : branchedPaths.Pairwise fun p q => p.overlaps q = false := by decide
  have listed : ⟨["a", "d"], by decide⟩ ∈ branchedPaths := by decide
  refine ⟨u, ok, fun left => ?_⟩
  have before :=
    ((empty_above_iff ⟨rfl, rfl⟩ ok apart listed (by decide) (by decide) (by decide)).1 left).1
  exact absurd before (by decide)

/-- A store with one empty object. -/
def hollow : Store := .new 1 (.object [("a", .empty)])

/-- A writer of that store. -/
def hollowWriter : Transaction := (hollow.openWrite 1).2

/-- Pruning is not complete: where the object next above a path is missing already, an empty one further
up is left. -/
theorem empty_left_above_missing :
    ¬ ∀ (s : Store) (t u : Transaction) (paths : List Path), s.Writes t →
      (s.view t).data.isObject = true → .root ∉ paths →
      (paths.Pairwise fun p q => p.overlaps q = false) → s.removeAll t paths = .ok u →
        ∀ path ∈ paths, ∀ q, path.hasPrefix q = true → q ≠ path → q ≠ .root →
          (s.install u).contents.get? q ≠ some .empty := by
  intro always
  have ok : hollow.removeAll hollowWriter [⟨["a", "b", "c"], by decide⟩] = .ok hollowWriter := rfl
  exact always hollow hollowWriter hollowWriter _ ⟨rfl, rfl⟩ rfl (by decide) (by decide) ok _
    (List.mem_singleton_self _) ⟨["a"], by decide⟩ (by decide) (by decide) (by decide) rfl

end Store

end DocStore
