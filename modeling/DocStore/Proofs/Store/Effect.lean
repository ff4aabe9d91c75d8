import DocStore.Proofs.Dict
import DocStore.Proofs.Fallible
import DocStore.Proofs.Store.Contents
import DocStore.Proofs.Tree.Directory

/-!
# What edits leave at a place

An edit puts something at a place, or clears it. `settle` says what a row of such placements leaves
at another place: the last of them that is at or above it counts. Places above a placement are left
out, since they change in part only.

Results:
  * `get?_amendAll`: what stands at a place after a row of edits;
  * `find?_amendAll`: the text of a policy after a row of edits;
  * `settle_parts`: rows that put the parts of one tree in place.
-/

namespace DocStore

/-! ## Placements -/

/-- A place, and what is put there; nothing when it is cleared. -/
structure Placement where
  path : Path
  value : Option Value
deriving DecidableEq, Repr

namespace Placement

/-- What a placement leaves at a place. -/
def leaves (p : Placement) (q : Path) (before : Option Value) : Option Value :=
  if q.hasPrefix p.path then p.value.bind (Tree.at? (q.segments.drop p.path.length)) else before

/-- What placements leave at a place, one after the other. -/
def settle (placements : List Placement) (q : Path) (before : Option Value) : Option Value :=
  placements.foldl (fun found p => p.leaves q found) before

theorem settle_append (first second : List Placement) (q : Path) (before : Option Value) :
    settle (first ++ second) q before = settle second q (settle first q before) :=
  List.foldl_append ..

/-- Placements that are not at or above a place leave it as it is. -/
theorem settle_elsewhere {placements : List Placement} {q : Path}
    (elsewhere : ∀ p ∈ placements, q.hasPrefix p.path = false) (before : Option Value) :
    settle placements q before = before := by
  induction placements generalizing before with
  | nil => rfl
  | cons p rest ih =>
    have first : p.leaves q before = before := by
      unfold leaves
      rw [elsewhere p List.mem_cons_self]
      rfl
    change settle rest q (p.leaves q before) = before
    rw [first]
    exact ih (fun other present => elsewhere other (List.mem_cons_of_mem p present)) before

/-- The part of a tree at a path, as a placement. -/
def part (tree : Value) (path : Path) : Placement := ⟨path, Tree.get? tree path⟩

theorem leaves_part {tree : Value} {path q : Path} (below : q.hasPrefix path = true)
    (before : Option Value) : (part tree path).leaves q before = Tree.get? tree q := by
  obtain ⟨rest, segments⟩ := Path.hasPrefix_iff.1 below
  unfold leaves part Path.length Tree.get?
  rw [if_pos below, segments, List.drop_left, Tree.at?_append]

/-- When parts of one tree are put in place, at and below them stands what the tree has there. -/
theorem settle_parts (tree : Value) (paths : List Path) (q : Path) (before : Option Value) :
    settle (paths.map (part tree)) q before =
      if paths.any q.hasPrefix then Tree.get? tree q else before := by
  induction paths generalizing before with
  | nil => rfl
  | cons path rest ih =>
    change settle (rest.map (part tree)) q ((part tree path).leaves q before) = _
    rw [ih, List.any_cons]
    cases below : q.hasPrefix path with
    | true =>
      -- Later parts put the same there, since they are cut out of the same tree.
      rw [leaves_part below, Bool.true_or, if_pos rfl, ite_self]
    | false =>
      have first : (part tree path).leaves q before = before := by
        change (if q.hasPrefix path then _ else _) = _
        rw [below]
        rfl
      rw [first, Bool.false_or]

end Placement

/-! ## Edits of the data -/

namespace Edit

/-- What an edit puts in place. Making objects along a path puts nothing in place. -/
def puts : Edit → List Placement
  | .write op path value | .writeUnchecked op path value =>
    [⟨path, if op = .remove then none else some value⟩]
  | .clear path | .discard path => [⟨path, none⟩]
  | _ => []

/-- An edit is not strictly below a place, nor makes objects at or below it. -/
def Misses (q : Path) : Edit → Prop
  | .write _ path _ | .writeUnchecked _ path _ | .clear path | .discard path =>
    path.hasPrefix q = true → path = q
  | .makeDir path => path.hasPrefix q = false
  | _ => True

/-- What an edit makes of the text of a policy. -/
def text (id : String) (before : Option String) : Edit → Option String
  | .upsertPolicy other text => if other = id then some text else before
  | .deletePolicy other => if other = id then none else before
  | .dropPolicies start => if start.toList.isPrefixOf id.toList then none else before
  | _ => before

/-- What a row of edits makes of the text of a policy. -/
def texts (edits : List Edit) (id : String) (before : Option String) : Option String :=
  edits.foldl (fun before e => e.text id before) before

theorem texts_append (first second : List Edit) (id : String) (before : Option String) :
    texts (first ++ second) id before = texts second id (texts first id before) :=
  List.foldl_append ..

/-- Edits that are not about a policy leave it alone. -/
theorem texts_elsewhere {edits : List Edit} {id : String}
    (elsewhere : ∀ e ∈ edits, ∀ before, e.text id before = before) (before : Option String) :
    texts edits id before = before := by
  induction edits generalizing before with
  | nil => rfl
  | cons e rest ih =>
    change texts rest id (e.text id before) = before
    rw [elsewhere e List.mem_cons_self]
    exact ih (fun other present => elsewhere other (List.mem_cons_of_mem e present)) before

end Edit

namespace Contents

/-- The value at a path. -/
def get? (c : Contents) (path : Path) : Option Value := Tree.get? c.data path

theorem get?_patch {c d : Contents} {op : PatchOp} {path : Path} {value : Value}
    (ok : c.patch op path value = .ok d) {q : Path} (misses : path.hasPrefix q = true → path = q) :
    d.get? q = (Placement.mk path (if op = .remove then none else some value)).leaves q (c.get? q) := by
  unfold patch at ok
  obtain ⟨data, applied, rfl⟩ := map_ok ok
  unfold Placement.leaves Contents.get? Tree.get?
  by_cases below : q.hasPrefix path = true
  · obtain ⟨rest, segments⟩ := Path.hasPrefix_iff.1 below
    rw [if_pos below, segments, Path.length, List.drop_left, Tree.at?_apply_below applied]
    split <;> rfl
  · rw [if_neg below]
    refine Tree.at?_apply_of_apart applied ⟨fun above => below ?_, fun above => below ?_⟩
    · exact Path.hasPrefix_iff_leads.2 above
    · rw [misses (Path.hasPrefix_iff_leads.2 above)]
      exact Path.hasPrefix_self q

theorem get?_makeDir {c d : Contents} {path : Path} (ok : c.makeDir path = .ok d) {q : Path}
    (outside : path.hasPrefix q = false) : d.get? q = c.get? q := by
  unfold makeDir at ok
  obtain ⟨⟨data, made⟩, done, rfl⟩ := map_ok ok
  exact Tree.at?_makeDir_of_not_prefix done (Path.hasPrefix_eq_false_iff.1 outside)

theorem policies_patch {c d : Contents} {op : PatchOp} {path : Path} {value : Value}
    (ok : c.patch op path value = .ok d) : d.policies = c.policies := by
  unfold patch at ok
  obtain ⟨_, _, rfl⟩ := map_ok ok
  rfl

theorem policies_makeDir {c d : Contents} {path : Path} (ok : c.makeDir path = .ok d) :
    d.policies = c.policies := by
  unfold makeDir at ok
  obtain ⟨_, _, rfl⟩ := map_ok ok
  rfl

theorem deletePolicy_ok {c d : Contents} {id : String} (ok : c.deletePolicy id = .ok d) :
    d = { c with policies := c.policies.erase id } := by
  unfold deletePolicy at ok
  split at ok
  · exact (Except.ok.inj ok).symm
  · cases ok

theorem find?_of_not_mem_idsFrom {c : Contents} {start id : String}
    (outside : id ∉ c.idsFrom start) (starts : start.toList.isPrefixOf id.toList = true) :
    c.policies.find? id = none := by
  have absent : id ∉ c.policies.keys := fun present =>
    outside (List.mem_filter.2 ⟨present, starts⟩)
  exact Dict.find?_eq_none_iff.2 absent

/-- Deleting policies one after the other leaves the data and the other policies alone. -/
theorem deletePolicies_ok {ids : List String} {c d : Contents}
    (ok : ids.foldlM Contents.deletePolicy c = .ok d) :
    d.data = c.data ∧
      ∀ id, d.policies.find? id = if id ∈ ids then none else c.policies.find? id := by
  induction ids generalizing c with
  | nil =>
    rw [← Except.ok.inj ok]
    exact ⟨rfl, fun id => rfl⟩
  | cons first rest ih =>
    rw [List.foldlM_cons] at ok
    obtain ⟨between, deleted, ok⟩ := bind_ok ok
    obtain ⟨data, texts⟩ := ih ok
    rw [deletePolicy_ok deleted] at data texts
    refine ⟨data, fun id => ?_⟩
    rw [texts id]
    by_cases same : id = first
    · subst same
      rw [Dict.find?_erase_self, ite_self, if_pos List.mem_cons_self]
    · rw [Dict.find?_erase_ne _ same]
      simp only [List.mem_cons, same, false_or]

/-- Policies that are there can be deleted one after the other. -/
theorem exists_deletePolicies {ids : List String} {c : Contents} (distinct : ids.Nodup)
    (present : ∀ id ∈ ids, c.policies.contains id = true) :
    ∃ d, ids.foldlM Contents.deletePolicy c = .ok d := by
  induction ids generalizing c with
  | nil => exact ⟨c, rfl⟩
  | cons id rest ih =>
    rw [List.nodup_cons] at distinct
    have first : c.deletePolicy id = .ok { c with policies := c.policies.erase id } :=
      if_pos (present id List.mem_cons_self)
    rw [List.foldlM_cons, first]
    refine ih distinct.2 fun other later => ?_
    have differ : other ≠ id := fun same => distinct.1 (same ▸ later)
    unfold Dict.contains
    rw [Dict.find?_erase_ne _ differ]
    exact present other (List.mem_cons_of_mem id later)

theorem ordered_deletePolicies {ids : List String} {c d : Contents}
    (ok : ids.foldlM Contents.deletePolicy c = .ok d) (ordered : Dict.Ordered c.policies) :
    Dict.Ordered d.policies := by
  induction ids generalizing c with
  | nil =>
    cases ok
    exact ordered
  | cons id rest ih =>
    rw [List.foldlM_cons] at ok
    obtain ⟨between, deleted, ok⟩ := bind_ok ok
    refine ih ok ?_
    rw [deletePolicy_ok deleted]
    exact ordered.erase id

end Contents

namespace Store

variable {s : Store} {c d : Contents}

theorem amendOwned_ok {op : PatchOp} {path : Path} {value : Value}
    (ok : s.amendOwned c op path value = .ok d) :
    s.checkOwner path = .ok () ∧ c.patch op path value = .ok d := by
  unfold amendOwned at ok
  obtain ⟨_, unowned, ok⟩ := bind_ok ok
  exact ⟨unowned, ok⟩

/-- Nobody has claimed a place above the path, or the path itself. -/
theorem checkOwner_ok {path : Path} (ok : s.checkOwner path = .ok ()) {claim : String × Path}
    (present : claim ∈ s.claims) : path.hasPrefix claim.2 = false := by
  unfold checkOwner ownerOf? at ok
  cases found : List.find? (fun claim => path.hasPrefix claim.2) s.claims with
  | some owner =>
    rw [found] at ok
    cases ok
  | none => exact Bool.eq_false_iff.2 (List.find?_eq_none.1 found claim present)

theorem amend_clear_ok {path : Path} (ok : s.amend c (.clear path) = .ok d) :
    (c.get? path = none ∧ d = c) ∨ s.amendOwned c .remove path .null = .ok d := by
  simp only [amend] at ok
  unfold Contents.get?
  cases found : Tree.get? c.data path with
  | none =>
    rw [found] at ok
    exact Or.inl ⟨rfl, (Except.ok.inj ok).symm⟩
  | some v =>
    rw [found] at ok
    exact Or.inr ok

/-- A removal is refused as not found only where nothing stands. -/
theorem get?_of_amendOwned_notFound {path : Path} {e : StoreError}
    (refused : s.amendOwned c .remove path .null = .error e) (missing : e.isNotFound = true) :
    c.get? path = none := by
  unfold amendOwned at refused
  cases owner : s.checkOwner path with
  | error owned =>
    -- A claim refuses it for another reason.
    rw [owner] at refused
    cases refused
    unfold checkOwner at owner
    split at owner <;> cases owner
    cases missing
  | ok _ =>
    rw [owner] at refused
    change c.patch .remove path .null = .error e at refused
    unfold Contents.patch at refused
    cases applied : Tree.apply c.data .remove path .null with
    | ok data =>
      rw [applied] at refused
      cases refused
    | error failure =>
      rw [applied] at refused
      cases refused
      exact Tree.get?_of_apply_notFound applied missing

theorem amend_discard_ok {path : Path} (ok : s.amend c (.discard path) = .ok d) :
    (c.get? path = none ∧ d = c) ∨ s.amendOwned c .remove path .null = .ok d := by
  simp only [amend] at ok
  cases written : s.amendOwned c .remove path .null with
  | ok changed =>
    rw [written] at ok
    exact Or.inr ok
  | error e =>
    rw [written] at ok
    by_cases missing : e.isNotFound = true
    · simp only [if_pos missing] at ok
      exact Or.inl ⟨get?_of_amendOwned_notFound written missing, (Except.ok.inj ok).symm⟩
    · simp only [if_neg missing] at ok
      cases ok

/-- Clearing a place where nothing stands leaves nothing there. -/
theorem leaves_nothing {path q : Path} (nothing : c.get? path = none) :
    (Placement.mk path none).leaves q (c.get? q) = c.get? q := by
  unfold Placement.leaves
  split
  · next below =>
    exact (Tree.at?_eq_none_of_prefix (Path.hasPrefix_iff_leads.1 below) nothing).symm
  · rfl

/-- What stands at a place after an edit that misses it. -/
theorem get?_amend {e : Edit} (ok : s.amend c e = .ok d) {q : Path} (misses : e.Misses q) :
    d.get? q = Placement.settle e.puts q (c.get? q) := by
  cases e with
  | write op path value => exact Contents.get?_patch (amendOwned_ok ok).2 misses
  | writeUnchecked op path value => exact Contents.get?_patch ok misses
  | makeDir path => exact Contents.get?_makeDir ok misses
  | clear path =>
    obtain ⟨nothing, rfl⟩ | written := amend_clear_ok ok
    · exact (leaves_nothing nothing).symm
    · exact Contents.get?_patch (amendOwned_ok written).2 misses
  | discard path =>
    obtain ⟨nothing, rfl⟩ | written := amend_discard_ok ok
    · exact (leaves_nothing nothing).symm
    · exact Contents.get?_patch (amendOwned_ok written).2 misses
  | requireOwnerless path =>
    obtain ⟨_, _, done⟩ := bind_ok ok
    rw [← Except.ok.inj done]
    rfl
  | requireNoClaims =>
    obtain ⟨_, _, done⟩ := bind_ok ok
    rw [← Except.ok.inj done]
    rfl
  | upsertPolicy id text =>
    rw [← Except.ok.inj ok]
    rfl
  | deletePolicy id =>
    rw [Contents.deletePolicy_ok ok]
    rfl
  | dropPolicies start =>
    unfold Contents.get?
    rw [(Contents.deletePolicies_ok ok).1]
    rfl

/-- What an edit makes of the text of a policy. -/
theorem find?_amend {e : Edit} (ok : s.amend c e = .ok d) (id : String) :
    d.policies.find? id = e.text id (c.policies.find? id) := by
  cases e with
  | write op path value =>
    rw [Contents.policies_patch (amendOwned_ok ok).2]
    rfl
  | writeUnchecked op path value =>
    rw [Contents.policies_patch ok]
    rfl
  | makeDir path =>
    rw [Contents.policies_makeDir ok]
    rfl
  | clear path =>
    obtain ⟨-, rfl⟩ | written := amend_clear_ok ok
    · rfl
    · rw [Contents.policies_patch (amendOwned_ok written).2]
      rfl
  | discard path =>
    obtain ⟨-, rfl⟩ | written := amend_discard_ok ok
    · rfl
    · rw [Contents.policies_patch (amendOwned_ok written).2]
      rfl
  | requireOwnerless path =>
    obtain ⟨_, _, done⟩ := bind_ok ok
    rw [← Except.ok.inj done]
    rfl
  | requireNoClaims =>
    obtain ⟨_, _, done⟩ := bind_ok ok
    rw [← Except.ok.inj done]
    rfl
  | upsertPolicy other text =>
    rw [← Except.ok.inj ok]
    by_cases same : other = id
    · rw [same, Edit.text, if_pos rfl, Dict.find?_insert_self]
    · rw [Edit.text, if_neg same, Dict.find?_insert_ne _ _ (Ne.symm same)]
  | deletePolicy other =>
    rw [Contents.deletePolicy_ok ok]
    by_cases same : other = id
    · rw [same, Edit.text, if_pos rfl, Dict.find?_erase_self]
    · rw [Edit.text, if_neg same, Dict.find?_erase_ne _ (Ne.symm same)]
  | dropPolicies start =>
    rw [(Contents.deletePolicies_ok ok).2 id, Edit.text]
    by_cases starts : start.toList.isPrefixOf id.toList = true
    · rw [if_pos starts]
      split
      · rfl
      · next outside => exact Contents.find?_of_not_mem_idsFrom outside starts
    · have outside : id ∉ c.idsFrom start := fun present => starts (List.mem_filter.1 present).2
      rw [if_neg starts, if_neg outside]

/-- The policies stay in the order of their ids. -/
theorem ordered_policies_amend {e : Edit} (ok : s.amend c e = .ok d)
    (ordered : Dict.Ordered c.policies) : Dict.Ordered d.policies := by
  have patched {op : PatchOp} {path : Path} {value : Value}
      (done : c.patch op path value = .ok d) : Dict.Ordered d.policies := by
    rw [Contents.policies_patch done]
    exact ordered
  cases e with
  | write => exact patched (amendOwned_ok ok).2
  | writeUnchecked => exact patched ok
  | makeDir path =>
    rw [Contents.policies_makeDir ok]
    exact ordered
  | clear path =>
    obtain ⟨-, rfl⟩ | written := amend_clear_ok ok
    · exact ordered
    · exact patched (amendOwned_ok written).2
  | discard path =>
    obtain ⟨-, rfl⟩ | written := amend_discard_ok ok
    · exact ordered
    · exact patched (amendOwned_ok written).2
  | requireOwnerless | requireNoClaims =>
    obtain ⟨_, _, done⟩ := bind_ok ok
    rw [← Except.ok.inj done]
    exact ordered
  | upsertPolicy id text =>
    rw [← Except.ok.inj ok]
    exact ordered.insert id text
  | deletePolicy id =>
    rw [Contents.deletePolicy_ok ok]
    exact ordered.erase id
  | dropPolicies start => exact Contents.ordered_deletePolicies ok ordered

/-! ## Rows of edits -/

/-- What stands at a place after a row of edits that miss it. -/
theorem get?_amendAll {edits : List Edit} (ok : s.amendAll c edits = (d, .ok ())) {q : Path}
    (misses : ∀ e ∈ edits, e.Misses q) :
    d.get? q = Placement.settle (edits.flatMap Edit.puts) q (c.get? q) := by
  induction edits generalizing c with
  | nil =>
    cases ok
    rfl
  | cons e rest ih =>
    obtain ⟨between, first, others⟩ := amendAll_cons_ok ok
    rw [ih others fun other present => misses other (List.mem_cons_of_mem e present),
      get?_amend first (misses e List.mem_cons_self), List.flatMap_cons, Placement.settle_append]

/-- The text of a policy after a row of edits. -/
theorem find?_amendAll {edits : List Edit} (ok : s.amendAll c edits = (d, .ok ())) (id : String) :
    d.policies.find? id = Edit.texts edits id (c.policies.find? id) := by
  induction edits generalizing c with
  | nil =>
    cases ok
    rfl
  | cons e rest ih =>
    obtain ⟨between, first, others⟩ := amendAll_cons_ok ok
    rw [ih others, find?_amend first]
    rfl

theorem ordered_policies_amendAll {edits : List Edit} (ok : s.amendAll c edits = (d, .ok ()))
    (ordered : Dict.Ordered c.policies) : Dict.Ordered d.policies := by
  induction edits generalizing c with
  | nil =>
    cases ok
    exact ordered
  | cons e rest ih =>
    obtain ⟨between, first, others⟩ := amendAll_cons_ok ok
    exact ih others (ordered_policies_amend first ordered)

/-- Each edit of a row that succeeds has succeeded. -/
theorem amend_of_mem {edits : List Edit} (ok : s.amendAll c edits = (d, .ok ())) {e : Edit}
    (present : e ∈ edits) : ∃ before after, s.amend before e = .ok after := by
  induction edits generalizing c with
  | nil => cases present
  | cons first rest ih =>
    obtain ⟨between, amended, others⟩ := amendAll_cons_ok ok
    rcases List.mem_cons.1 present with rfl | later
    · exact ⟨c, between, amended⟩
    · exact ih others later

end Store

end DocStore
