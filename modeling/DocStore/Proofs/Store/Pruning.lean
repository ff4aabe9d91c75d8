import DocStore.Proofs.Store.Clearance
import DocStore.Proofs.Store.Patching
import DocStore.Proofs.Store.Shaping
import DocStore.Proofs.Tree.Remainder

/-!
# Giving up places and pruning above them

A path that is given up has its place cleared, whether something stands there or nothing does. From there
the objects above are looked at one after the other, and each that has been left empty is removed, up to
the first that has not. What this makes of a tree is what remains when the path is given up, and a row of
paths makes what remains when all of them are. So nothing has to be known about the order of the paths.

Results:
  * `remainder_prune`: the loop goes as far up as something goes;
  * `remainder_removeAll`: what remains of a tree;
  * `exists_removeAll_iff`: when paths that are apart can be given up.
-/

namespace DocStore

open DocStore.Tree

/-- A placement without a value clears its place. -/
theorem Placement.onto_clear (path : Path) (look : Surface) :
    (Placement.mk path none).onto look = cleared path.segments look := by
  funext place
  by_cases under : path.segments <+: place
  · rw [cleared_under under]
    exact if_pos under
  · rw [cleared_of_not_under under]
    exact Placement.onto_of_clear under rfl

namespace Store

variable {s : Store} {t u v : Transaction} {path q : Path} {paths others : List Path} {depth : Nat}
  {look : Surface}

/-- Parts of the tree are taken out, and nothing else is done. -/
structure Trims (s : Store) (t u : Transaction) : Prop where
  writes : s.Writes u
  policies : (s.view u).policies = (s.view t).policies
  ordered : (s.view t).data.Ordered → (s.view u).data.Ordered

theorem Trims.refl (write : s.Writes t) : s.Trims t t := ⟨write, rfl, fun ordered => ordered⟩

theorem Trims.trans (first : s.Trims t u) (next : s.Trims u v) : s.Trims t v :=
  ⟨next.writes, next.policies.trans first.policies, fun ordered => next.ordered (first.ordered ordered)⟩

theorem trims_remove (write : s.Writes t) (ok : s.writeUnchecked t .remove path .null = .ok u) :
    s.Trims t u := by
  obtain ⟨writes, patched⟩ := patch_of_writeUnchecked write ok
  obtain ⟨data, applied, same⟩ := map_ok patched
  refine ⟨writes, ?_, fun ordered => ?_⟩
  · rw [← same]
  · rw [← same]
    exact ordered_apply applied ordered Value.ordered_null

theorem surface_remove (write : s.Writes t) (ok : s.writeUnchecked t .remove path .null = .ok u) :
    surface (s.view u).data = cleared path.segments (surface (s.view t).data) := by
  rw [surface_patch (patch_of_writeUnchecked write ok).2, if_pos rfl, Placement.onto_clear]

theorem trims_prune (write : s.Writes t) (ok : s.prune t path depth = .ok u) : s.Trims t u := by
  induction depth generalizing t with
  | zero =>
    cases ok
    exact .refl write
  | succ depth ih =>
    unfold prune at ok
    dsimp only at ok
    split at ok
    · obtain ⟨between, removed, rest⟩ := bind_ok ok
      have first := trims_remove write removed
      exact first.trans (ih first.writes rest)
    · cases ok
      exact .refl write

/-- From a place that goes the objects above it are pruned as far as they go. -/
theorem remainder_prune (within : depth < path.length) (write : s.Writes t)
    (view : surface (s.view t).data = cleared (path.take (depth + 1)).segments look)
    (goes : Goes look [path] (path.take (depth + 1)).segments) (ok : s.prune t path depth = .ok u) :
    Remainder look [path] (surface (s.view u).data) := by
  induction depth generalizing t with
  | zero =>
    cases ok
    rw [view]
    have split : (path.take 1).segments = (path.take 0).segments ++ [path.segments[0]] :=
      List.take_succ_eq_append_getElem within
    rw [split] at goes ⊢
    exact .of_stop goes fun above => ((goes_above_iff goes).1 above).1 rfl
  | succ depth ih =>
    have split : (path.take (depth + 2)).segments =
        (path.take (depth + 1)).segments ++ [path.segments[depth + 1]] :=
      List.take_succ_eq_append_getElem within
    rw [split] at view goes
    have above : Goes look [path] (path.take (depth + 1)).segments ↔
        s.read t (path.take (depth + 1)) = .ok (.object []) := by
      rw [goes_above_iff goes, ← view, vacant_iff, read_eq_ok_iff write]
      refine and_iff_right_iff_imp.2 fun _ isRoot => ?_
      have short : path.length = 0 :=
        congrArg List.length ((List.take_eq_nil_iff.1 isRoot).resolve_left (Nat.succ_ne_zero _))
      omega
    unfold prune at ok
    dsimp only at ok
    split at ok
    · next empty =>
      obtain ⟨between, removed, rest⟩ := bind_ok ok
      refine ih (by omega) (trims_remove write removed).writes ?_ (above.2 empty) rest
      rw [surface_remove write removed, view, cleared_cleared (List.prefix_append _ _)]
    · next other =>
      cases ok
      rw [view]
      exact .of_stop goes fun gone => other (above.1 gone)

/-! ## One path -/

/-- A removal that fails has found nothing exactly when nothing but objects stands above its place. -/
theorem notFound_iff_open {data : Value} {e : StoreError} (below : path ≠ .root)
    (failed : apply data .remove path .null = .error e) :
    e.isNotFound = true ↔ Open (surface data) path.segments := by
  obtain ⟨r, obstructs, objects⟩ := (apply_eq_error_iff below).1 failed
  cases obstructs with
  | missing leads nothing _ =>
    refine iff_of_true rfl fun place above _ => passable_iff.2 fun w found => ?_
    by_cases same : place = r.segments
    · cases nothing.symm.trans (same ▸ found)
    · rcases List.prefix_or_prefix_of_prefix above (Path.hasPrefix_iff_leads.1 leads) with higher | under
      · obtain ⟨fields, object⟩ := objects place higher same
        cases found.symm.trans object
        rfl
      · have below := at?_eq_none_of_prefix under nothing
        cases below.symm.trans found
  | blocked leads strict found leaf =>
    refine iff_of_false (by rintro ⟨⟩) fun isOpen => ?_
    have above := Path.hasPrefix_iff_leads.1 leads
    have passable := isOpen r.segments above fun same => strict (Path.ext same)
    rw [passable_iff.1 passable _ found] at leaf
    cases leaf

/-- The root is never removed. -/
theorem removePruned_root (write : s.Writes t) : ∃ e, s.removePruned t .root = .error e := by
  have fails : ∃ e, s.writeUnchecked t .remove .root .null = .error e ∧ e.isNotFound = false := by
    cases removed : s.writeUnchecked t .remove .root .null with
    | ok changed =>
      obtain ⟨data, applied, -⟩ := map_ok (patch_of_writeUnchecked write removed).2
      exact absurd rfl (apply_root rfl applied).1
    | error e =>
      obtain ⟨-, rfl⟩ | ⟨never, -⟩ := apply_root_eq_error_iff.1 (apply_of_refused write removed)
      · exact ⟨_, rfl, rfl⟩
      · exact absurd rfl never
  obtain ⟨e, failed, other⟩ := fails
  refine ⟨e, ?_⟩
  unfold removePruned
  simp only [failed, other]
  rfl

/-- Whether or not something stands at a path that is given up, its place is cleared first. -/
theorem removePruned_ok (write : s.Writes t) (ok : s.removePruned t path = .ok u) :
    path ≠ .root ∧ Open (surface (s.view t).data) path.segments ∧
      ∃ between, s.Trims t between ∧
        surface (s.view between).data = cleared path.segments (surface (s.view t).data) ∧
        s.prune between path (path.length - 1) = .ok u := by
  have below : path ≠ .root := by
    rintro rfl
    obtain ⟨e, failed⟩ := removePruned_root write
    cases ok.symm.trans failed
  refine ⟨below, ?_⟩
  unfold removePruned at ok
  dsimp only at ok
  split at ok
  · next changed removed =>
    refine ⟨open_of_patch (patch_of_writeUnchecked write removed).2, changed, ?_⟩
    exact ⟨trims_remove write removed, surface_remove write removed, ok⟩
  · next e failed =>
    split at ok
    · next missing =>
      refine ⟨(notFound_iff_open below (apply_of_refused write failed)).1 missing, t, ?_⟩
      exact ⟨.refl write, (cleared_of_nothing (absent_of_notFound write failed missing)).symm, ok⟩
    · cases ok

/-- What remains when one path is given up. -/
theorem remainder_removePruned (write : s.Writes t) (ok : s.removePruned t path = .ok u) :
    s.Trims t u ∧ Remainder (surface (s.view t).data) [path] (surface (s.view u).data) := by
  obtain ⟨below, -, between, trims, view, rest⟩ := removePruned_ok write ok
  have long : 0 < path.length := List.length_pos_of_ne_nil (Path.segments_ne_nil below)
  have whole : path.take (path.length - 1 + 1) = path := by
    rw [Nat.sub_add_cancel long]
    exact Path.ext List.take_length
  refine ⟨trims.trans (trims_prune trims.writes rest), ?_⟩
  refine remainder_prune (by omega) trims.writes ?_ ?_ rest
  · rw [whole, view]
  · rw [whole]
    exact .given (List.mem_singleton_self _)

/-! ## Success -/

theorem open_above {lower place : List String} (isOpen : Open look lower) (above : place <+: lower) :
    Open look place := by
  intro r higher strict
  refine isOpen r (higher.trans above) fun same => strict ?_
  exact higher.eq_of_length_le (same ▸ above.length_le)

theorem open_cleared {top place : List String} (isOpen : Open look place) :
    Open (cleared top look) place := by
  intro r above strict w found
  unfold cleared at found
  split at found
  · cases found
  · exact isOpen r above strict w found

/-- A removal below the root goes through objects, and either succeeds or finds nothing. -/
theorem removes_of_open (write : s.Writes t) (below : path ≠ .root)
    (isOpen : Open (surface (s.view t).data) path.segments) :
    (∃ u, s.writeUnchecked t .remove path .null = .ok u) ∨
      (s.view t).get? path = none ∧
        ∃ e, s.writeUnchecked t .remove path .null = .error e ∧ e.isNotFound = true := by
  cases removed : s.writeUnchecked t .remove path .null with
  | ok u => exact .inl ⟨u, rfl⟩
  | error e =>
    have missing := (notFound_iff_open below (apply_of_refused write removed)).2 isOpen
    exact .inr ⟨absent_of_notFound write removed missing, e, rfl, missing⟩

theorem exists_prune (write : s.Writes t) (below : path ≠ .root)
    (isOpen : Open (surface (s.view t).data) path.segments) : ∃ u, s.prune t path depth = .ok u := by
  induction depth generalizing t with
  | zero => exact ⟨t, rfl⟩
  | succ depth ih =>
    unfold prune
    dsimp only
    split
    · next empty =>
      have stands := (read_eq_ok_iff write).1 empty
      have notRoot : path.take (depth + 1) ≠ .root := fun isRoot =>
        Path.segments_ne_nil below ((List.take_eq_nil_iff.1 (congrArg Path.segments isRoot)).resolve_left
          (Nat.succ_ne_zero _))
      have above : (path.take (depth + 1)).segments <+: path.segments := List.take_prefix _ _
      obtain ⟨between, removed⟩ :=
        (removes_of_open write notRoot (open_above isOpen above)).resolve_right fun absent => by
          cases absent.1.symm.trans stands
      rw [removed]
      refine ih (trims_remove write removed).writes ?_
      rw [surface_remove write removed]
      exact open_cleared isOpen
    · exact ⟨t, rfl⟩

/-- A path can be given up when it is not the root and nothing but objects stands above it. -/
theorem exists_removePruned_iff (write : s.Writes t) : (∃ u, s.removePruned t path = .ok u) ↔
    path ≠ .root ∧ Open (surface (s.view t).data) path.segments := by
  constructor
  · rintro ⟨u, ok⟩
    obtain ⟨below, isOpen, -⟩ := removePruned_ok write ok
    exact ⟨below, isOpen⟩
  · rintro ⟨below, isOpen⟩
    unfold removePruned
    obtain ⟨between, removed⟩ | ⟨-, e, failed, missing⟩ := removes_of_open write below isOpen
    · simp only [removed]
      refine exists_prune (trims_remove write removed).writes below ?_
      rw [surface_remove write removed]
      exact open_cleared isOpen
    · simp only [failed, missing]
      exact exists_prune write below isOpen

/-- Giving up a path leaves open what is apart from it, and opens nothing. -/
theorem open_iff_of_remainder {data : Value} {after : Surface} {place : List String}
    (remains : Remainder (surface data) [path] after) (apart : Apart path.segments place) :
    Open after place ↔ Open (surface data) place := by
  refine forall_congr' fun r => forall_congr' fun above => forall_congr' fun _ => ?_
  by_cases lost : Lost (surface data) [path] r
  · have nothing := remains.lost r lost
    refine iff_of_true (fun w found => by cases nothing.symm.trans found) fun w found => ?_
    rcases lost.object (by simp [found]) with ⟨_, listed, under⟩ | object
    · rw [List.mem_singleton.1 listed] at under
      exact absurd (under.trans above) apart.1
    · exact Option.some.inj (found.symm.trans object)
  · unfold Passable
    rw [remains.kept r lost]

/-! ## Rows of paths -/

theorem removeAll_cons_ok : s.removeAll t (path :: paths) = .ok u ↔
    ∃ between, s.removePruned t path = .ok between ∧ s.removeAll between paths = .ok u := by
  unfold removeAll
  rw [List.foldlM_cons]
  refine ⟨bind_ok, ?_⟩
  rintro ⟨between, first, rest⟩
  rw [first]
  exact rest

/-- What remains when paths are given up. -/
theorem remainder_removeAll (write : s.Writes t) (ok : s.removeAll t paths = .ok u) :
    s.Trims t u ∧ Remainder (surface (s.view t).data) paths (surface (s.view u).data) := by
  induction paths generalizing t with
  | nil =>
    cases ok
    exact ⟨.refl write, .nil _⟩
  | cons path rest ih =>
    obtain ⟨between, first, others⟩ := removeAll_cons_ok.1 ok
    obtain ⟨trims, remains⟩ := remainder_removePruned write first
    obtain ⟨trims', remains'⟩ := ih trims.writes others
    exact ⟨trims.trans trims', remains.cons remains'⟩

/-- Paths that are apart can be given up when each of them could be given up alone. -/
theorem exists_removeAll_iff (write : s.Writes t) (apart : paths.Pairwise Path.ApartFrom) :
    (∃ u, s.removeAll t paths = .ok u) ↔
      ∀ path ∈ paths, path ≠ .root ∧ Open (surface (s.view t).data) path.segments := by
  induction paths generalizing t with
  | nil => exact iff_of_true ⟨t, rfl⟩ fun _ never => absurd never List.not_mem_nil
  | cons path rest ih =>
    rw [List.pairwise_cons] at apart
    have later {between : Transaction} (first : s.removePruned t path = .ok between) :
        (∃ u, s.removeAll between rest = .ok u) ↔
          ∀ other ∈ rest, other ≠ .root ∧ Open (surface (s.view t).data) other.segments := by
      obtain ⟨trims, remains⟩ := remainder_removePruned write first
      rw [ih trims.writes apart.2]
      refine forall_congr' fun other => forall_congr' fun listed => and_congr_right fun _ => ?_
      exact open_iff_of_remainder remains (apart.1 other listed)
    rw [List.forall_mem_cons, ← exists_removePruned_iff write]
    constructor
    · rintro ⟨u, ok⟩
      obtain ⟨between, first, others⟩ := removeAll_cons_ok.1 ok
      exact ⟨⟨between, first⟩, (later first).1 ⟨u, others⟩⟩
    · rintro ⟨⟨between, first⟩, each⟩
      obtain ⟨u, others⟩ := (later first).2 each
      exact ⟨u, removeAll_cons_ok.2 ⟨between, first, others⟩⟩

end Store

end DocStore
