import DocStore.Proofs.Store.Effect
import DocStore.Proofs.Store.Schedule

/-!
# What edits record

An edit that succeeds adds to the list of changes of its transaction, and one that fails adds
nothing. What it adds depends on nothing but the contents that it finds: a patch is one change, making
objects along a path is one change if anything was made, and a removal that is content with nothing
there is a change only when something stood there.

Results:
  * `edit_changes`: what one edit adds to the list;
  * `editAll_changes`: what a row of edits adds, up to the first that fails;
  * `editAll_changes_row`: the same for a row of a schedule.
-/

namespace DocStore

namespace Changes

instance : Append Changes := ⟨fun c d => ⟨c.data ++ d.data, c.policy ++ d.policy⟩⟩

@[simp] theorem data_append (c d : Changes) : (c ++ d).data = c.data ++ d.data := rfl

@[simp] theorem policy_append (c d : Changes) : (c ++ d).policy = c.policy ++ d.policy := rfl

@[simp] theorem append_none (c : Changes) : c ++ none = c := by
  show (⟨c.data ++ [], c.policy ++ []⟩ : Changes) = c
  simp

@[simp] theorem none_append (c : Changes) : none ++ c = c := rfl

theorem append_assoc (a b c : Changes) : a ++ b ++ c = a ++ (b ++ c) := by
  show (⟨a.data ++ b.data ++ c.data, a.policy ++ b.policy ++ c.policy⟩ : Changes)
    = ⟨a.data ++ (b.data ++ c.data), a.policy ++ (b.policy ++ c.policy)⟩
  simp

/-- One change of the tree. -/
def ofData (change : DataChange) : Changes := ⟨[change], []⟩

/-- One change of a policy. -/
def ofPolicy (change : PolicyChange) : Changes := ⟨[], [change]⟩

theorem addData_eq (c : Changes) (change : DataChange) : c.addData change = c ++ ofData change := by
  show (⟨c.data ++ [change], c.policy⟩ : Changes) = ⟨c.data ++ [change], c.policy ++ []⟩
  simp

theorem addPolicy_eq (c : Changes) (change : PolicyChange) :
    c.addPolicy change = c ++ ofPolicy change := by
  show (⟨c.data, c.policy ++ [change]⟩ : Changes) = ⟨c.data ++ [], c.policy ++ [change]⟩
  simp

end Changes

/-! ## What is to be recorded -/

namespace Contents

/-- The change that a patch is. -/
def patched (op : PatchOp) (path : Path) (value : Value) : Changes :=
  .ofData ⟨path, op, if op = .remove then .null else value⟩

/-- The change that a removal is, if there is something to remove. -/
def removed (c : Contents) (path : Path) : Changes :=
  if (Tree.get? c.data path).isSome then patched .remove path .null else .none

end Contents

/-- What an edit that succeeds records, by the contents that it finds. -/
def Edit.notes (c : Contents) : Edit → Changes
  | .write op path value | .writeUnchecked op path value => Contents.patched op path value
  | .makeDir path =>
    match Tree.makeDir c.data path with
    | .ok (_, true) => .ofData ⟨path, .add, .empty⟩
    | _ => .none
  | .clear path | .discard path => c.removed path
  | .requireOwnerless _ | .requireNoClaims => .none
  | .upsertPolicy id _ => .ofPolicy ⟨id, false⟩
  | .deletePolicy id => .ofPolicy ⟨id, true⟩
  | .dropPolicies start => ⟨[], (c.idsFrom start).map fun id => ⟨id, true⟩⟩

/-- What a row of edits records under the claims of a store, up to the first that fails. -/
def Store.notesAll (s : Store) (c : Contents) : List Edit → Changes
  | [] => .none
  | e :: rest =>
    match s.amend c e with
    | .ok changed => e.notes c ++ s.notesAll changed rest
    | .error _ => .none

/-- What a row of a schedule records. -/
def Row.notes (row : Row) (c : Contents) : Changes :=
  ((Store.new 0 .empty).claimedAs row.claims).notesAll c row.edits

namespace Store

variable {s : Store} {t later : Transaction}

/-! ## Each edit -/

theorem changes_of_draftOf {misuse : Misuse} {draft : Draft}
    (drafted : s.draftOf t misuse = .ok draft) : draft.changes = t.changes := by
  obtain ⟨-, -, drafted⟩ := bind_ok drafted
  unfold Transaction.changes
  cases mode : t.mode with
  | read =>
    rw [mode] at drafted
    cases drafted
  | write d =>
    rw [mode] at drafted
    cases drafted
    rfl

theorem writeUnchecked_changes {op : PatchOp} {path : Path} {value : Value}
    (ok : s.writeUnchecked t op path value = .ok later) :
    later.changes = t.changes ++ Contents.patched op path value := by
  unfold writeUnchecked at ok
  obtain ⟨draft, drafted, ok⟩ := bind_ok ok
  obtain ⟨data, -, ok⟩ := bind_ok ok
  cases ok
  rw [← changes_of_draftOf drafted]
  exact Changes.addData_eq draft.changes _

theorem write_changes {op : PatchOp} {path : Path} {value : Value}
    (ok : s.write t op path value = .ok later) :
    later.changes = t.changes ++ Contents.patched op path value := by
  unfold Store.write at ok
  obtain ⟨-, -, ok⟩ := bind_ok ok
  exact writeUnchecked_changes ok

theorem makeDir_changes {path : Path} (ok : s.makeDir t path = .ok later) :
    later.changes = t.changes ++ (Edit.makeDir path).notes (s.view t) := by
  unfold Store.makeDir at ok
  obtain ⟨draft, drafted, ok⟩ := bind_ok ok
  obtain ⟨⟨data, made⟩, done, ok⟩ := bind_ok ok
  cases ok
  have same := changes_of_draftOf drafted
  simp only [Edit.notes, done]
  cases made with
  | true =>
    rw [← same]
    exact Changes.addData_eq draft.changes _
  | false =>
    simp only [Changes.append_none, ← same]
    rfl

/-- A removal that is done had something to remove. -/
theorem removed_of_write {path : Path} (ok : s.write t .remove path .null = .ok later) :
    (s.view t).removed path = Contents.patched .remove path .null := by
  unfold Store.write writeUnchecked at ok
  obtain ⟨-, -, ok⟩ := bind_ok ok
  obtain ⟨draft, -, ok⟩ := bind_ok ok
  obtain ⟨data, applied, -⟩ := bind_ok ok
  unfold Contents.removed
  rw [if_pos (Tree.get?_of_apply (by decide) applied)]

theorem removed_of_nothing {c : Contents} {path : Path} (nothing : Tree.get? c.data path = none) :
    c.removed path = .none := by
  unfold Contents.removed
  simp [nothing]

theorem clear_changes (write : s.Writes t) {path : Path} (ok : s.clear t path = .ok later) :
    later.changes = t.changes ++ (s.view t).removed path := by
  simp only [clear, read_eq_lookup write, lookup] at ok
  cases stands : Tree.get? (s.view t).data path with
  | some v =>
    simp only [stands] at ok
    rw [removed_of_write ok]
    exact write_changes ok
  | none =>
    simp only [stands, StoreError.isNotFound] at ok
    cases ok
    simp [removed_of_nothing stands]

theorem discard_changes (write : s.Writes t) {path : Path} (ok : s.discard t path = .ok later) :
    later.changes = t.changes ++ (s.view t).removed path := by
  unfold Store.discard at ok
  cases written : s.write t .remove path .null with
  | ok changed =>
    rw [written] at ok
    cases ok
    rw [removed_of_write written]
    exact write_changes written
  | error e =>
    rw [written] at ok
    dsimp only at ok
    split at ok
    · next missing =>
      have refused : s.amendOwned (s.view t) .remove path .null = .error e := by
        have follows := follows_amendOwned write .remove path .null
        rw [written] at follows
        cases amended : s.amendOwned (s.view t) .remove path .null with
        | ok c =>
          rw [amended] at follows
          obtain ⟨_, never, -⟩ := follows
          cases never
        | error e' =>
          rw [amended] at follows
          cases follows
          rfl
      have nothing := get?_of_amendOwned_notFound refused missing
      cases ok
      simp [removed_of_nothing nothing]
    · cases ok

theorem deletePolicy_changes {id : String} (ok : s.deletePolicy t id = .ok later) :
    later.changes = t.changes ++ .ofPolicy ⟨id, true⟩ := by
  unfold Store.deletePolicy at ok
  obtain ⟨draft, drafted, ok⟩ := bind_ok ok
  dsimp only at ok
  split at ok
  · cases ok
    rw [← changes_of_draftOf drafted]
    exact Changes.addPolicy_eq draft.changes _
  · cases ok

theorem deletePolicies_changes {ids : List String}
    (ok : ids.foldlM (s.deletePolicy ·) t = .ok later) :
    later.changes = t.changes ++ ⟨[], ids.map fun id => ⟨id, true⟩⟩ := by
  induction ids generalizing t with
  | nil =>
    cases ok
    exact (Changes.append_none _).symm
  | cons id rest ih =>
    rw [List.foldlM_cons] at ok
    obtain ⟨between, deleted, ok⟩ := bind_ok ok
    rw [ih ok, deletePolicy_changes deleted, Changes.append_assoc]
    rfl

/-- An edit that succeeds adds what it is to record. -/
theorem edit_changes (write : s.Writes t) {e : Edit} (ok : s.edit t e = .ok later) :
    later.changes = t.changes ++ e.notes (s.view t) := by
  cases e with
  | write op path value => exact write_changes ok
  | writeUnchecked op path value => exact writeUnchecked_changes ok
  | makeDir path => exact makeDir_changes ok
  | clear path => exact clear_changes write ok
  | discard path => exact discard_changes write ok
  | requireOwnerless path =>
    obtain ⟨-, -, same⟩ := bind_ok ok
    cases same
    exact (Changes.append_none _).symm
  | requireNoClaims =>
    obtain ⟨-, -, same⟩ := bind_ok ok
    cases same
    exact (Changes.append_none _).symm
  | upsertPolicy id text =>
    unfold Store.edit Store.upsertPolicy at ok
    obtain ⟨draft, drafted, ok⟩ := bind_ok ok
    cases ok
    rw [← changes_of_draftOf drafted]
    exact Changes.addPolicy_eq draft.changes _
  | deletePolicy id => exact deletePolicy_changes ok
  | dropPolicies start =>
    unfold Store.edit Store.dropPolicies at ok
    obtain ⟨ids, listed, ok⟩ := bind_ok ok
    have all : ids = (s.view t).policies.keys := by
      obtain ⟨-, -, listed⟩ := bind_ok listed
      exact (Except.ok.inj listed).symm
    subst all
    exact deletePolicies_changes ok

/-! ## Rows of edits -/

/-- A row of edits adds what its edits are to record, up to the first that fails. -/
theorem editAll_changes (write : s.Writes t) (edits : List Edit) :
    (s.editAll t edits).1.changes = t.changes ++ s.notesAll (s.view t) edits := by
  induction edits generalizing t with
  | nil => exact (Changes.append_none _).symm
  | cons e rest ih =>
    have follows := edit_eq_amend write e
    unfold editAll notesAll
    cases amended : s.amend (s.view t) e with
    | error err =>
      rw [amended] at follows
      rw [show s.edit t e = .error err from follows]
      exact (Changes.append_none _).symm
    | ok c =>
      rw [amended] at follows
      obtain ⟨later, done, continues⟩ := follows
      rw [done]
      have rest := ih (continues.writes write)
      rw [continues.view, edit_changes write done, Changes.append_assoc] at rest
      exact rest

theorem notesAll_congr {s other : Store} (same : other.claims = s.claims) (c : Contents)
    (edits : List Edit) : other.notesAll c edits = s.notesAll c edits := by
  induction edits generalizing c with
  | nil => rfl
  | cons e rest ih =>
    rw [notesAll, notesAll, amend_congr same]
    cases s.amend c e with
    | ok changed => simp only [ih]
    | error err => rfl

/-- A transaction that edits under the present claims adds what the row is to record. -/
theorem editAll_changes_row (write : s.Writes t) (edits : List Edit) :
    (s.editAll t edits).1.changes = t.changes ++ Row.notes ⟨s.claims, edits⟩ (s.view t) := by
  have same : s.claims = ((Store.new 0 .empty).claimedAs s.claims).claims := rfl
  rw [editAll_changes write, notesAll_congr same]
  rfl

end Store

end DocStore
