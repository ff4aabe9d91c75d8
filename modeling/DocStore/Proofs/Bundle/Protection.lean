import DocStore.Proofs.Bundle.Rows

/-!
# What claims protect

An operation that heeds claims is refused where it would put something at or below a claimed path.
It may still put something above one, and that replaces what the claim is about.

* A write is about one path, a bulk replacement about its base paths.
* An activation is about the declared roots and the places where the manifests are recorded, a
  deactivation about the recorded roots and the places of the records.

Results:
  * `get?_perform`: what such an operation leaves at and below a claimed path;
  * `protected_iff`: claimed data stays exactly when nothing else is put in its place from above.
-/

namespace DocStore

/-! ## Edits that heed claims -/

/-- The edit does not work at or below a claimed path without asking. -/
def Edit.Heeds (claimed : Path) : Edit → Prop
  | .writeUnchecked _ path _ | .makeDir path => path.hasPrefix claimed = false
  | _ => True

/-- An edit succeeds on some contents. -/
def Store.Succeeds (s : Store) (e : Edit) : Prop := ∃ c d, s.amend c e = .ok d

namespace Protection

variable {s : Store} {c d : Contents} {claim : String × Path}

/-- A place out of whose way everything is that is not at or below a claimed path above it. -/
theorem misses_of_unclaimed {path q : Path} (below : q.hasPrefix claim.2 = true)
    (unclaimed : path.hasPrefix claim.2 = false) : path.hasPrefix q = false := by
  rw [Bool.eq_false_iff] at unclaimed ⊢
  exact fun inWay => unclaimed (Path.hasPrefix_trans inWay below)

theorem get?_amendOwned (claimed : claim ∈ s.claims) {op : PatchOp} {path : Path} {value : Value}
    (ok : s.amendOwned c op path value = .ok d) {q : Path} (below : q.hasPrefix claim.2 = true) :
    d.get? q = (Placement.mk path (if op = .remove then none else some value)).leaves q (c.get? q) := by
  obtain ⟨unowned, patched⟩ := Store.amendOwned_ok ok
  have misses := misses_of_unclaimed below (Store.checkOwner_ok unowned claimed)
  refine Contents.get?_patch patched fun inWay => ?_
  rw [misses] at inWay
  cases inWay

/-- What stands at or below a claimed path after an edit that heeds the claim. -/
theorem get?_amend (claimed : claim ∈ s.claims) {e : Edit} (ok : s.amend c e = .ok d)
    (heeds : e.Heeds claim.2) {q : Path} (below : q.hasPrefix claim.2 = true) :
    d.get? q = Placement.settle e.puts q (c.get? q) := by
  cases e with
  | write op path value => exact get?_amendOwned claimed ok below
  | clear path =>
    obtain ⟨nothing, rfl⟩ | written := Store.amend_clear_ok ok
    · exact (Store.leaves_nothing nothing).symm
    · exact get?_amendOwned claimed written below
  | discard path =>
    obtain ⟨nothing, rfl⟩ | written := Store.amend_discard_ok ok
    · exact (Store.leaves_nothing nothing).symm
    · exact get?_amendOwned claimed written below
  | writeUnchecked op path value =>
    have misses := misses_of_unclaimed below heeds
    refine Store.get?_amend ok fun inWay => ?_
    rw [misses] at inWay
    cases inWay
  | makeDir path => exact Store.get?_amend ok (misses_of_unclaimed below heeds)
  | requireOwnerless | requireNoClaims | upsertPolicy | deletePolicy | dropPolicies =>
    exact Store.get?_amend ok trivial

/-- The same for a row of edits. -/
theorem get?_amendAll (claimed : claim ∈ s.claims) {edits : List Edit}
    (ok : s.amendAll c edits = (d, .ok ())) (heeds : ∀ e ∈ edits, e.Heeds claim.2) {q : Path}
    (below : q.hasPrefix claim.2 = true) :
    d.get? q = Placement.settle (edits.flatMap Edit.puts) q (c.get? q) := by
  induction edits generalizing c with
  | nil =>
    cases ok
    rfl
  | cons e rest ih =>
    obtain ⟨between, first, others⟩ := Store.amendAll_cons_ok ok
    rw [ih others fun other present => heeds other (List.mem_cons_of_mem e present),
      get?_amend claimed first (heeds e List.mem_cons_self) below, List.flatMap_cons,
      Placement.settle_append]

/-! ## Rows that heed claims -/

theorem succeeds_of_mem {edits : List Edit} (ok : s.amendAll c edits = (d, .ok ())) {e : Edit}
    (present : e ∈ edits) : s.Succeeds e :=
  Store.amend_of_mem ok present

theorem heeds_above {path : Path} (unclaimed : path.hasPrefix claim.2 = false) {e : Edit}
    (present : e ∈ Edit.above path) : e.Heeds claim.2 := by
  obtain ⟨parent, found, rfl⟩ := Edit.mem_above present
  obtain ⟨above, -⟩ := Path.parent?_above found
  rw [Edit.Heeds]
  rw [Bool.eq_false_iff] at unclaimed ⊢
  exact fun inWay => unclaimed (Path.hasPrefix_trans above inWay)

theorem unclaimed_of_require (claimed : claim ∈ s.claims) {path : Path}
    (ok : s.Succeeds (.requireOwnerless path)) : path.hasPrefix claim.2 = false := by
  obtain ⟨_, _, amended⟩ := ok
  obtain ⟨_, unowned, _⟩ := bind_ok amended
  exact Store.checkOwner_ok unowned claimed

/-- Nothing is claimed when the whole tree may be replaced. -/
theorem no_claims (claimed : claim ∈ s.claims) : ¬ s.Succeeds .requireNoClaims := by
  rintro ⟨_, _, amended⟩
  obtain ⟨_, unclaimed, _⟩ := bind_ok amended
  unfold Store.checkUnclaimed at unclaimed
  split at unclaimed
  · next none =>
    rw [none] at claimed
    cases claimed
  · cases unclaimed

theorem heeds_baseEdits (claimed : claim ∈ s.claims) {scratch : Value} {base : Path}
    (ok : ∀ e ∈ Truncate.baseEdits scratch base, s.Succeeds e) {e : Edit}
    (present : e ∈ Truncate.baseEdits scratch base) : e.Heeds claim.2 := by
  cases found : Tree.get? scratch base with
  | none =>
    rw [Truncate.baseEdits_none found, List.mem_singleton] at present
    rw [present]
    trivial
  | some value =>
    rw [Truncate.baseEdits_some found] at ok present
    have unclaimed := unclaimed_of_require claimed (ok _ List.mem_cons_self)
    rcases List.mem_append.1 present with before | write
    · rcases List.mem_cons.1 before with rfl | above
      · trivial
      · exact heeds_above unclaimed above
    · rw [List.mem_singleton.1 write]
      exact unclaimed

/-- A bulk replacement that succeeds beside a claim spares the root and asks for every base path
that it writes to. -/
theorem heeds_truncate (claimed : claim ∈ s.claims) {bases : List Path} {updates : List Update}
    (ok : ∀ e ∈ Truncate.edits bases updates, s.Succeeds e) :
    .root ∉ bases ∧ ∀ e ∈ Truncate.edits bases updates, e.Heeds claim.2 := by
  have parts : .root ∉ bases := by
    -- The root is replaced only while nothing is claimed.
    intro whole
    rw [Truncate.edits_whole whole] at ok
    exact no_claims claimed (ok _ (List.mem_append_left _ List.mem_cons_self))
  refine ⟨parts, fun e present => ?_⟩
  rw [Truncate.edits_parts parts] at ok present
  rcases List.mem_append.1 present with data | policy
  · obtain ⟨base, isBase, mine⟩ := List.mem_flatMap.1 data
    refine heeds_baseEdits claimed (fun e present => ok e ?_) mine
    exact List.mem_append_left _ (List.mem_flatMap.2 ⟨base, isBase, present⟩)
  · obtain ⟨update, -, found⟩ := List.mem_filterMap.1 policy
    cases update <;> cases found
    trivial

theorem heeds_record (claimed : claim ∈ s.claims) {record : Path × Value}
    (ok : ∀ e ∈ Bundle.recordEdits record, s.Succeeds e) {e : Edit}
    (present : e ∈ Bundle.recordEdits record) : e.Heeds claim.2 := by
  obtain ⟨_, _, written⟩ := ok _ (List.mem_append_right _ List.mem_cons_self)
  have unclaimed := Store.checkOwner_ok (Store.amendOwned_ok written).1 claimed
  rcases List.mem_append.1 present with above | write
  · exact heeds_above unclaimed above
  · rw [List.mem_singleton.1 write]
    trivial

theorem heeds_drop {names : List String} {e : Edit} (present : e ∈ Bundle.dropEdits names) :
    e.Heeds claim.2 := by
  obtain ⟨name, -, rfl⟩ := List.mem_map.1 present
  trivial

end Protection

/-! ## Operations that heed claims -/

/-- An operation that is refused at and below claimed paths. -/
inductive Checked
  | write (op : PatchOp) (path : Path) (value : Value)
  | truncate (bases : List Path) (updates : List Update)
  | activate (bundles : List Bundle)
  | deactivate (names : List String)

namespace Checked

/-- Do it inside a write transaction. -/
def perform (s : Store) (t : Transaction) : Checked → Except BundleError Transaction
  | .write op path value => (s.write t op path value).mapError .store
  | .truncate bases updates => Bundle.applyEdits s t (Truncate.edits bases updates)
  | .activate bundles => Bundle.activate bundles (Bundle.activateIn s t)
  | .deactivate names => Bundle.deactivateIn s t names

/-- The places that it is about, and what it puts there. -/
def placements (s : Store) (t : Transaction) : Checked → Except BundleError (List Placement)
  | .write op path value => .ok [⟨path, if op = .remove then none else some value⟩]
  | .truncate bases updates => .ok (bases.map (Placement.part (Truncate.payload updates)))
  | .activate bundles => do
    let roots ← Bundle.allRoots bundles
    let records ← bundles.mapM Bundle.recordOf
    pure (roots.map (Placement.part (Truncate.payload (bundles.flatMap Bundle.updates)))
      ++ records.map fun record => ⟨record.1, some record.2⟩)
  | .deactivate names => do
    let roots ← names.mapM (Bundle.recordedRoots s t)
    let paths ← names.mapM Bundle.recordPath
    pure (roots.flatten.map (Placement.part .empty) ++ paths.map fun path => ⟨path, none⟩)

/-- What is read at and below claimed paths is the same in the transaction before and, once it is
committed, after it. -/
def Protected (s : Store) (before after : Transaction) : Prop :=
  ∀ claim ∈ s.claims, ∀ q : Path, q.hasPrefix claim.2 = true →
    Store.lookup (s.install after).contents.data q = Store.lookup (s.view before).data q

end Checked

namespace Protection

variable {s : Store} {t u : Transaction} {op : Checked}

/-- What stands at a place at or below a claimed path after an operation that heeds claims. -/
theorem get?_perform (write : s.Writes t) (ok : op.perform s t = .ok u) :
    ∃ placements, op.placements s t = .ok placements ∧
      ∀ claim ∈ s.claims, ∀ q : Path, q.hasPrefix claim.2 = true →
        (s.view u).get? q = Placement.settle placements q ((s.view t).get? q) := by
  cases op with
  | write op path value =>
    refine ⟨_, rfl, fun claim claimed q below => ?_⟩
    have follows := Store.follows_amendOwned write op path value
    cases amended : s.amendOwned (s.view t) op path value with
    | error e =>
      rw [amended] at follows
      rw [Checked.perform, show s.write t op path value = .error e from follows] at ok
      cases ok
    | ok c =>
      rw [amended] at follows
      obtain ⟨later, done, continues⟩ := follows
      rw [Checked.perform, done] at ok
      cases ok
      rw [continues.view]
      exact get?_amendOwned claimed amended below
  | truncate bases updates =>
    refine ⟨_, rfl, fun claim claimed q below => ?_⟩
    obtain ⟨c, edited, continues⟩ := Bundle.applyEdits_ok write ok
    obtain ⟨parts, heeds⟩ := heeds_truncate claimed fun e => succeeds_of_mem edited
    rw [continues.view, get?_amendAll claimed edited heeds below,
      Truncate.puts_edits fun root => absurd root parts]
  | activate bundles =>
    obtain ⟨-, activated⟩ := Bundle.activate_eq_ok_iff.1 ok
    obtain ⟨roots, records, c, declared, recorded, edited, continues⟩ :=
      Bundle.activateIn_ok write activated
    have placed : Checked.placements s t (.activate bundles) =
        .ok (roots.map (Placement.part (Truncate.payload (bundles.flatMap Bundle.updates)))
          ++ records.map fun record => ⟨record.1, some record.2⟩) := by
      rw [Checked.placements, declared]
      change (bundles.mapM Bundle.recordOf >>= _) = _
      rw [recorded]
      rfl
    refine ⟨_, placed, fun claim claimed q below => ?_⟩
    have each : ∀ e ∈ Bundle.activationEdits bundles roots records, s.Succeeds e :=
      fun e => succeeds_of_mem edited
    have replacing : ∀ e ∈ Truncate.edits roots (bundles.flatMap Bundle.updates), s.Succeeds e :=
      fun e present => each e (List.mem_append_right _ (List.mem_append_left _ present))
    obtain ⟨parts, heeds⟩ := heeds_truncate claimed replacing
    have all : ∀ e ∈ Bundle.activationEdits bundles roots records, e.Heeds claim.2 := by
      intro e present
      rcases List.mem_append.1 present with drop | present
      · exact heeds_drop drop
      · rcases List.mem_append.1 present with replacement | record
        · exact heeds e replacement
        · obtain ⟨record, isRecord, mine⟩ := List.mem_flatMap.1 record
          refine heeds_record claimed (fun e present => each e ?_) mine
          exact List.mem_append_right _ (List.mem_append_right _
            (List.mem_flatMap.2 ⟨record, isRecord, present⟩))
    rw [continues.view, get?_amendAll claimed edited all below]
    unfold Bundle.activationEdits
    rw [List.flatMap_append, Bundle.puts_dropEdits, List.flatMap_append, Bundle.puts_recordEdits,
      Truncate.puts_edits fun root => absurd root parts]
    rfl
  | deactivate names =>
    obtain ⟨roots, paths, c, recorded, located, edited, continues⟩ :=
      Bundle.deactivateIn_ok write ok
    have placed : Checked.placements s t (.deactivate names) =
        .ok (roots.flatten.map (Placement.part .empty) ++ paths.map fun path => ⟨path, none⟩) := by
      rw [Checked.placements, recorded]
      change (names.mapM Bundle.recordPath >>= _) = _
      rw [located]
      rfl
    refine ⟨_, placed, fun claim claimed q below => ?_⟩
    have each : ∀ e ∈ Bundle.deactivationEdits names roots.flatten paths, s.Succeeds e :=
      fun e => succeeds_of_mem edited
    have replacing : ∀ e ∈ Truncate.edits roots.flatten [], s.Succeeds e :=
      fun e present => each e (List.mem_append_right _ (List.mem_append_left _ present))
    obtain ⟨parts, heeds⟩ := heeds_truncate claimed replacing
    have all : ∀ e ∈ Bundle.deactivationEdits names roots.flatten paths, e.Heeds claim.2 := by
      intro e present
      rcases List.mem_append.1 present with drop | present
      · exact heeds_drop drop
      · rcases List.mem_append.1 present with replacement | discard
        · exact heeds e replacement
        · obtain ⟨path, -, rfl⟩ := List.mem_map.1 discard
          trivial
    rw [continues.view, get?_amendAll claimed edited all below]
    unfold Bundle.deactivationEdits
    rw [List.flatMap_append, Bundle.puts_dropEdits, List.flatMap_append, Bundle.puts_discards,
      Truncate.puts_edits fun root => absurd root parts]
    rfl

/-- A value that stays at a path stays at every path below. -/
theorem get?_below {c d : Contents} {path q : Path} (same : d.get? path = c.get? path)
    (below : q.hasPrefix path = true) : d.get? q = c.get? q := by
  obtain ⟨rest, segments⟩ := Path.hasPrefix_iff.1 below
  unfold Contents.get? Tree.get? at same ⊢
  rw [segments, Tree.at?_append, Tree.at?_append, same]

end Protection

namespace Checked

/-- Claimed data stays exactly when what the operation puts in place above a claimed path holds
there what stood there before. So it stays whenever nothing is put in place above a claimed path. -/
theorem protected_iff {s : Store} {t u : Transaction} {op : Checked} (write : s.Writes t)
    (ok : op.perform s t = .ok u) :
    ∃ placements, op.placements s t = .ok placements ∧
      (Protected s t u ↔ ∀ claim ∈ s.claims,
        Placement.settle placements claim.2 ((s.view t).get? claim.2) =
          (s.view t).get? claim.2) ∧
      ((∀ claim ∈ s.claims, ∀ p ∈ placements, claim.2.hasPrefix p.path = false) →
        Protected s t u) := by
  obtain ⟨placements, placed, settled⟩ := Protection.get?_perform write ok
  have exactly : Protected s t u ↔ ∀ claim ∈ s.claims,
      Placement.settle placements claim.2 ((s.view t).get? claim.2) = (s.view t).get? claim.2 := by
    unfold Protected
    rw [Store.contents_install]
    constructor
    · intro kept claim claimed
      have same : (s.view u).get? claim.2 = (s.view t).get? claim.2 :=
        Store.lookup_eq_iff.1 (kept claim claimed claim.2 (Path.hasPrefix_self _))
      rw [settled claim claimed claim.2 (Path.hasPrefix_self _)] at same
      exact same
    · intro kept claim claimed q below
      have same := settled claim claimed claim.2 (Path.hasPrefix_self _)
      rw [kept claim claimed] at same
      exact Store.lookup_eq_iff.2 (Protection.get?_below same below)
  refine ⟨placements, placed, exactly, fun nothingAbove => ?_⟩
  exact exactly.2 fun claim claimed => Placement.settle_elsewhere (nothingAbove claim claimed) _

/-- A store in which `/a/b` is claimed. -/
def claimedStore : Store :=
  { Store.new 1 (.object [("a", .object [("b", .int 1)]), ("c", .int 0)]) with
    claims := [("p", ⟨["a", "b"], by decide⟩)] }

/-- A writer of that store. -/
def writer : Transaction := (claimedStore.openWrite 1).2

/-- A removal beside the claim leaves the claimed value alone. -/
theorem protected_beside_claim :
    ∃ u, perform claimedStore writer (.write .remove ⟨["c"], by decide⟩ .null) = .ok u ∧
      Protected claimedStore writer u := by
  have write : claimedStore.Writes writer := ⟨rfl, rfl⟩
  have ok : perform claimedStore writer (.write .remove ⟨["c"], by decide⟩ .null) =
      .ok (Store.withDraft writer ⟨.object [("a", .object [("b", .int 1)])], []⟩
        ⟨[⟨⟨["c"], by decide⟩, .remove, .null⟩], []⟩) := rfl
  obtain ⟨placements, placed, -, spared⟩ := protected_iff write ok
  cases placed
  exact ⟨_, ok, spared (by decide)⟩

/-- A removal above the claim takes the claimed value with it. -/
theorem unprotected_below_removal :
    ¬ ∀ (s : Store) (t u : Transaction) (op : Checked), s.Writes t → op.perform s t = .ok u →
      Protected s t u := by
  intro all
  have ok : perform claimedStore writer (.write .remove ⟨["a"], by decide⟩ .null) =
      .ok (Store.withDraft writer ⟨.object [("c", .int 0)], []⟩
        ⟨[⟨⟨["a"], by decide⟩, .remove, .null⟩], []⟩) := rfl
  have kept := all claimedStore writer _ _ ⟨rfl, rfl⟩ ok ("p", ⟨["a", "b"], by decide⟩)
    List.mem_cons_self ⟨["a", "b"], by decide⟩ (Path.hasPrefix_self _)
  cases kept

end Checked

end DocStore
