import DocStore.Proofs.Fallible
import DocStore.Store.Edit

/-!
# What edits do to contents

An edit of a write transaction reads and writes nothing but what the transaction sees. So it is a
function on contents, `Store.amend`, in which neither the staged copy nor the list of changes occurs.
The store counts only for its claims.

Results:
  * `edit_eq_amend`: an edit fails like its counterpart, and else makes the transaction see what
    that gives;
  * `editAll_eq_amendAll`: the same for a row of edits;
  * `amendAll_of_editAll`: a row that succeeds does so on contents, whatever the transaction;
  * `amendAll_append`: rows one after the other.
-/

namespace DocStore

namespace Contents

/-- Apply a patch to the data. -/
def patch (c : Contents) (op : PatchOp) (path : Path) (value : Value) :
    Except StoreError Contents :=
  (Tree.apply c.data op path value).map fun data => { c with data }

/-- Make every prefix of a path an object. -/
def makeDir (c : Contents) (path : Path) : Except StoreError Contents :=
  (Tree.makeDir c.data path).map fun (data, _) => { c with data }

/-- Delete a policy. -/
def deletePolicy (c : Contents) (id : String) : Except StoreError Contents :=
  if c.policies.contains id then .ok { c with policies := c.policies.erase id }
  else .error (.policyNotFound id)

/-- The ids of the policies that start with a text. -/
def idsFrom (c : Contents) (start : String) : List String :=
  c.policies.keys.filter fun id => start.toList.isPrefixOf id.toList

end Contents

namespace Store

/-- Apply a patch to contents, unless the path is claimed. -/
def amendOwned (s : Store) (c : Contents) (op : PatchOp) (path : Path) (value : Value) :
    Except StoreError Contents := do
  s.checkOwner path
  c.patch op path value

/-- What an edit makes of contents under the claims of a store. -/
def amend (s : Store) (c : Contents) : Edit → Except StoreError Contents
  | .write op path value => s.amendOwned c op path value
  | .writeUnchecked op path value => c.patch op path value
  | .makeDir path => c.makeDir path
  | .clear path =>
    match Tree.get? c.data path with
    | some _ => s.amendOwned c .remove path .null
    | none => .ok c
  | .discard path =>
    match s.amendOwned c .remove path .null with
    | .ok changed => .ok changed
    | .error e => if e.isNotFound then .ok c else .error e
  | .requireOwnerless path => do
    s.checkOwner path
    pure c
  | .requireNoClaims => do
    s.checkUnclaimed
    pure c
  | .upsertPolicy id text => .ok { c with policies := c.policies.insert id text }
  | .deletePolicy id => c.deletePolicy id
  | .dropPolicies start => (c.idsFrom start).foldlM Contents.deletePolicy c

/-- What edits make of contents, up to the first that fails. -/
def amendAll (s : Store) (c : Contents) : List Edit → Contents × Except StoreError Unit
  | [] => (c, .ok ())
  | e :: rest =>
    match s.amend c e with
    | .ok changed => s.amendAll changed rest
    | .error err => (c, .error err)

/-! ## Write transactions -/

/-- A write transaction of the store. -/
structure Writes (s : Store) (t : Transaction) : Prop where
  home : t.store = s.id
  write : t.isWrite = true

/-- The same transaction later on: it still writes, and now sees `c`. -/
structure Continues (s : Store) (t later : Transaction) (c : Contents) : Prop where
  id : later.id = t.id
  store : later.store = t.store
  ticket : later.ticket = t.ticket
  write : later.isWrite = true
  view : s.view later = c

namespace Continues

variable {s : Store} {t u w : Transaction} {c d : Contents}

theorem writes (h : s.Continues t u c) (write : s.Writes t) : s.Writes u :=
  ⟨h.store.trans write.home, h.write⟩

theorem refl (write : s.Writes t) : s.Continues t t (s.view t) :=
  ⟨rfl, rfl, rfl, write.write, rfl⟩

theorem trans (h : s.Continues t u c) (h' : s.Continues u w d) : s.Continues t w d :=
  ⟨h'.id.trans h.id, h'.store.trans h.store, h'.ticket.trans h.ticket, h'.write, h'.view⟩

end Continues

/-- How an edit of a transaction answers to its counterpart on contents. -/
def Follows (s : Store) (t : Transaction) (result : Except StoreError Transaction) :
    Except StoreError Contents → Prop
  | .ok c => ∃ later, result = .ok later ∧ s.Continues t later c
  | .error e => result = .error e

variable {s : Store} {t : Transaction}

/-- What a transaction sees is what it puts in place. -/
theorem contents_install (s : Store) (t : Transaction) : (s.install t).contents = s.view t := by
  unfold install view
  split <;> rfl

theorem triggers_install (s : Store) (t : Transaction) : (s.install t).triggers = s.triggers := by
  unfold install
  split <;> rfl

theorem continues_withDraft (s : Store) (t : Transaction) (c : Contents) (changes : Changes) :
    s.Continues t (withDraft t c changes) c :=
  ⟨rfl, rfl, rfl, rfl, rfl⟩

theorem Writes.check (write : s.Writes t) : s.check t = .ok () :=
  if_pos write.home

/-- A write transaction has a draft, whatever it is asked for. -/
theorem Writes.draft (write : s.Writes t) (misuse : Misuse) :
    ∃ draft, s.draftOf t misuse = .ok draft := by
  unfold draftOf
  rw [write.check]
  have isWrite := write.write
  unfold Transaction.isWrite at isWrite
  cases mode : t.mode with
  | read =>
    rw [mode] at isWrite
    cases isWrite
  | write draft => exact ⟨draft, rfl⟩

theorem read_eq_lookup (write : s.Writes t) (path : Path) :
    s.read t path = lookup (s.view t).data path := by
  unfold read
  rw [write.check]
  rfl

/-- A path is answered alike exactly when the same stands there. -/
theorem lookup_eq_iff {data other : Value} {path : Path} :
    lookup data path = lookup other path ↔ Tree.get? data path = Tree.get? other path := by
  unfold lookup
  cases Tree.get? data path <;> cases Tree.get? other path <;> simp

/-! ## Each edit -/

theorem follows_patch (write : s.Writes t) (op : PatchOp) (path : Path) (value : Value) :
    s.Follows t (s.writeUnchecked t op path value) ((s.view t).patch op path value) := by
  obtain ⟨draft, drafted⟩ := write.draft .readOnly
  unfold Contents.patch
  cases applied : Tree.apply (s.view t).data op path value with
  | ok data =>
    refine ⟨_, ?_, continues_withDraft s t _ 
      (draft.changes.addData ⟨path, op, if op = .remove then .null else value⟩)⟩
    simp only [writeUnchecked, drafted, applied, bind, Except.bind, pure, Except.pure]
  | error e =>
    change s.writeUnchecked t op path value = .error e
    simp only [writeUnchecked, drafted, applied, bind, Except.bind]

theorem follows_amendOwned (write : s.Writes t) (op : PatchOp) (path : Path) (value : Value) :
    s.Follows t (s.write t op path value) (s.amendOwned (s.view t) op path value) := by
  unfold Store.write amendOwned
  cases s.checkOwner path with
  | ok _ => exact follows_patch write op path value
  | error e => rfl

theorem follows_makeDir (write : s.Writes t) (path : Path) :
    s.Follows t (s.makeDir t path) ((s.view t).makeDir path) := by
  obtain ⟨draft, drafted⟩ := write.draft .readOnly
  unfold Contents.makeDir
  cases made : Tree.makeDir (s.view t).data path with
  | ok result =>
    refine ⟨_, ?_, continues_withDraft s t _
      (if result.2 then draft.changes.addData ⟨path, .add, .empty⟩ else draft.changes)⟩
    simp only [Store.makeDir, drafted, made, bind, Except.bind, pure, Except.pure]
  | error e =>
    change s.makeDir t path = .error e
    simp only [Store.makeDir, drafted, made, bind, Except.bind]

theorem follows_clear (write : s.Writes t) (path : Path) :
    s.Follows t (s.clear t path) (s.amend (s.view t) (.clear path)) := by
  simp only [clear, amend, read_eq_lookup write, lookup]
  cases Tree.get? (s.view t).data path with
  | some v => exact follows_amendOwned write .remove path .null
  | none => exact ⟨t, rfl, .refl write⟩

theorem follows_discard (write : s.Writes t) (path : Path) :
    s.Follows t (s.discard t path) (s.amend (s.view t) (.discard path)) := by
  have owned := follows_amendOwned write .remove path .null
  simp only [discard, amend]
  cases amended : s.amendOwned (s.view t) .remove path .null with
  | ok c =>
    rw [amended] at owned
    obtain ⟨later, done, continues⟩ := owned
    rw [done]
    exact ⟨later, rfl, continues⟩
  | error e =>
    rw [amended] at owned
    rw [show s.write t .remove path .null = .error e from owned]
    by_cases missing : e.isNotFound = true
    · simp only [if_pos missing]
      exact ⟨t, rfl, .refl write⟩
    · simp only [if_neg missing]
      rfl

theorem follows_deletePolicy (write : s.Writes t) (id : String) :
    s.Follows t (s.deletePolicy t id) ((s.view t).deletePolicy id) := by
  obtain ⟨draft, drafted⟩ := write.draft .readOnly
  unfold Contents.deletePolicy
  by_cases present : (s.view t).policies.contains id = true
  · rw [if_pos present]
    refine ⟨_, ?_, continues_withDraft s t _ (draft.changes.addPolicy ⟨id, true⟩)⟩
    simp only [Store.deletePolicy, drafted, bind, Except.bind, if_pos present, pure, Except.pure]
  · rw [if_neg present]
    change s.deletePolicy t id = .error (.policyNotFound id)
    simp only [Store.deletePolicy, drafted, bind, Except.bind, if_neg present]
    rfl

/-- The deletions of a row of policies, one after the other. -/
theorem follows_deletePolicies (write : s.Writes t) (ids : List String) :
    s.Follows t (ids.foldlM (s.deletePolicy ·) t)
      (ids.foldlM Contents.deletePolicy (s.view t)) := by
  induction ids generalizing t with
  | nil => exact ⟨t, rfl, .refl write⟩
  | cons id rest ih =>
    have first := follows_deletePolicy write id
    rw [List.foldlM_cons, List.foldlM_cons]
    cases deleted : (s.view t).deletePolicy id with
    | error e =>
      rw [deleted] at first
      rw [show s.deletePolicy t id = .error e from first]
      rfl
    | ok c =>
      rw [deleted] at first
      obtain ⟨later, done, continues⟩ := first
      have others := ih (continues.writes write)
      rw [done]
      rw [continues.view] at others
      change s.Follows t (rest.foldlM (s.deletePolicy ·) later) (rest.foldlM Contents.deletePolicy c)
      cases deletions : rest.foldlM Contents.deletePolicy c with
      | error e =>
        rw [deletions] at others
        exact others
      | ok d =>
        rw [deletions] at others
        obtain ⟨last, finished, onward⟩ := others
        exact ⟨last, finished, continues.trans onward⟩

theorem follows_dropPolicies (write : s.Writes t) (start : String) :
    s.Follows t (s.dropPolicies t start) (s.amend (s.view t) (.dropPolicies start)) := by
  have ids : s.listPolicies t = .ok (s.view t).policies.keys := by
    unfold listPolicies
    rw [write.check]
    rfl
  unfold dropPolicies
  rw [ids]
  exact follows_deletePolicies write _

/-- An edit fails like its counterpart on contents, and else makes the transaction see what that
gives. -/
theorem edit_eq_amend (write : s.Writes t) (e : Edit) :
    s.Follows t (s.edit t e) (s.amend (s.view t) e) := by
  cases e with
  | write op path value => exact follows_amendOwned write op path value
  | writeUnchecked op path value => exact follows_patch write op path value
  | makeDir path => exact follows_makeDir write path
  | clear path => exact follows_clear write path
  | discard path => exact follows_discard write path
  | requireOwnerless path =>
    simp only [edit, amend]
    cases s.checkOwner path with
    | ok _ => exact ⟨t, rfl, .refl write⟩
    | error e => rfl
  | requireNoClaims =>
    simp only [edit, amend]
    cases s.checkUnclaimed with
    | ok _ => exact ⟨t, rfl, .refl write⟩
    | error e => rfl
  | upsertPolicy id text =>
    obtain ⟨draft, drafted⟩ := write.draft .readOnly
    refine ⟨_, ?_, continues_withDraft s t _ (draft.changes.addPolicy ⟨id, false⟩)⟩
    simp only [edit, Store.upsertPolicy, drafted, bind, Except.bind, pure, Except.pure]
  | deletePolicy id => exact follows_deletePolicy write id
  | dropPolicies start => exact follows_dropPolicies write start

/-! ## Rows of edits -/

/-- Edits end like their counterparts on contents, and make the transaction see what those give. -/
theorem editAll_eq_amendAll (write : s.Writes t) (edits : List Edit) :
    s.Continues t (s.editAll t edits).1 (s.amendAll (s.view t) edits).1 ∧
      (s.editAll t edits).2 = (s.amendAll (s.view t) edits).2 := by
  induction edits generalizing t with
  | nil => exact ⟨.refl write, rfl⟩
  | cons e rest ih =>
    have first := edit_eq_amend write e
    unfold editAll amendAll
    cases amended : s.amend (s.view t) e with
    | error err =>
      rw [amended] at first
      rw [show s.edit t e = .error err from first]
      exact ⟨.refl write, rfl⟩
    | ok c =>
      rw [amended] at first
      obtain ⟨later, done, continues⟩ := first
      obtain ⟨onward, same⟩ := ih (continues.writes write)
      rw [done]
      rw [continues.view] at onward same
      exact ⟨continues.trans onward, same⟩

/-- Rows one after the other. -/
theorem amendAll_append (s : Store) (c : Contents) (first second : List Edit) :
    s.amendAll c (first ++ second) =
      match s.amendAll c first with
      | (changed, .ok ()) => s.amendAll changed second
      | (changed, .error e) => (changed, .error e) := by
  induction first generalizing c with
  | nil => rfl
  | cons e rest ih =>
    rw [List.cons_append, amendAll, amendAll]
    cases s.amend c e with
    | ok changed => exact ih changed
    | error err => rfl

/-- A row that succeeds does so in each of its parts. -/
theorem amendAll_append_ok {s : Store} {c d : Contents} {first second : List Edit}
    (ok : s.amendAll c (first ++ second) = (d, .ok ())) :
    ∃ between, s.amendAll c first = (between, .ok ()) ∧
      s.amendAll between second = (d, .ok ()) := by
  rw [amendAll_append] at ok
  cases done : s.amendAll c first with
  | mk between result =>
    rw [done] at ok
    cases result with
    | ok _ => exact ⟨between, rfl, ok⟩
    | error e => cases ok

theorem amendAll_cons_ok {s : Store} {c d : Contents} {e : Edit} {rest : List Edit}
    (ok : s.amendAll c (e :: rest) = (d, .ok ())) :
    ∃ between, s.amend c e = .ok between ∧ s.amendAll between rest = (d, .ok ()) := by
  rw [amendAll] at ok
  cases amended : s.amend c e with
  | ok between =>
    rw [amended] at ok
    exact ⟨between, rfl, ok⟩
  | error err =>
    rw [amended] at ok
    cases ok

/-- Of the store only the claims count. -/
theorem amend_congr {s other : Store} (same : other.claims = s.claims) (c : Contents) (e : Edit) :
    other.amend c e = s.amend c e := by
  have owner : other.checkOwner = s.checkOwner := by
    funext path
    unfold checkOwner ownerOf?
    rw [same]
  have unclaimed : other.checkUnclaimed = s.checkUnclaimed := by
    unfold checkUnclaimed
    rw [same]
  cases e <;> simp only [amend, amendOwned, owner, unclaimed]

theorem amendAll_congr {s other : Store} (same : other.claims = s.claims) (c : Contents)
    (edits : List Edit) : other.amendAll c edits = s.amendAll c edits := by
  induction edits generalizing c with
  | nil => rfl
  | cons e rest ih =>
    rw [amendAll, amendAll, amend_congr same]
    cases s.amend c e with
    | ok changed => exact ih changed
    | error err => rfl

/-! ## Other transactions -/

/-- Nothing is written but in a write transaction, and the refusal is not that something is missing. -/
theorem draft_refused (idle : ¬ s.Writes t) :
    ∃ e, s.draftOf t .readOnly = .error e ∧ e.isNotFound = false := by
  unfold draftOf check
  by_cases home : t.store = s.id
  · rw [if_pos home]
    cases mode : t.mode with
    | read => exact ⟨_, rfl, rfl⟩
    | write draft =>
      refine absurd ⟨home, ?_⟩ idle
      unfold Transaction.isWrite
      rw [mode]
  · rw [if_neg home]
    exact ⟨_, rfl, rfl⟩

theorem write_refused (idle : ¬ s.Writes t) (op : PatchOp) (path : Path) (value : Value) :
    ∃ e, s.write t op path value = .error e ∧ e.isNotFound = false := by
  obtain ⟨e, refused, other⟩ := draft_refused idle
  unfold Store.write checkOwner
  cases s.ownerOf? path with
  | some owner => exact ⟨_, rfl, rfl⟩
  | none =>
    refine ⟨e, ?_, other⟩
    unfold Store.writeUnchecked
    rw [refused]
    rfl

/-- An edit that succeeds outside a write transaction changes nothing. -/
theorem amend_of_idle (idle : ¬ s.Writes t) {u : Transaction} {e : Edit} (ok : s.edit t e = .ok u) :
    u = t ∧ s.amend (s.view t) e = .ok (s.view t) := by
  obtain ⟨refusal, refused, -⟩ := draft_refused idle
  have drafts {β : Type} {f : Draft → Except StoreError β} {b : β} :
      (s.draftOf t .readOnly >>= f) ≠ .ok b := by
    intro done
    rw [refused] at done
    cases done
  cases e with
  | writeUnchecked | makeDir | upsertPolicy | deletePolicy => exact absurd ok drafts
  | write op path value =>
    obtain ⟨failure, failed, -⟩ := write_refused idle op path value
    rw [edit, failed] at ok
    cases ok
  | discard path =>
    obtain ⟨failure, failed, other⟩ := write_refused idle .remove path .null
    simp [edit, discard, failed, other] at ok
  | clear path =>
    obtain ⟨failure, failed, -⟩ := write_refused idle .remove path .null
    simp only [edit, clear, read] at ok
    obtain home | ⟨stray, foreign, other⟩ :
        s.check t = .ok () ∨ ∃ e, s.check t = .error e ∧ e.isNotFound = false := by
      unfold check
      split
      · exact .inl rfl
      · exact .inr ⟨_, rfl, rfl⟩
    · simp only [home, bind, Except.bind, lookup] at ok
      simp only [amend]
      cases found : Tree.get? (s.view t).data path with
      | some v =>
        rw [found] at ok
        exact absurd (failed.symm.trans ok) fun same => by cases same
      | none =>
        rw [found] at ok
        exact ⟨(Except.ok.inj ok).symm, rfl⟩
    · simp [foreign, other, bind, Except.bind] at ok
  | requireOwnerless path =>
    obtain ⟨_, unowned, done⟩ := bind_ok ok
    simp only [amend, unowned]
    exact ⟨(Except.ok.inj done).symm, rfl⟩
  | requireNoClaims =>
    obtain ⟨_, unclaimed, done⟩ := bind_ok ok
    simp only [amend, unclaimed]
    exact ⟨(Except.ok.inj done).symm, rfl⟩
  | dropPolicies start =>
    obtain ⟨ids, listed, deleted⟩ := bind_ok ok
    obtain ⟨_, _, keys⟩ := bind_ok listed
    rw [← Except.ok.inj keys] at deleted
    simp only [amend, Contents.idsFrom]
    generalize (s.view t).policies.keys.filter (fun id => start.toList.isPrefixOf id.toList) = named
      at deleted ⊢
    cases named with
    | nil => exact ⟨(Except.ok.inj deleted).symm, rfl⟩
    | cons id rest =>
      rw [List.foldlM_cons] at deleted
      obtain ⟨_, first, -⟩ := bind_ok deleted
      exact absurd first drafts

/-- No edit changes a transaction that does not write in the store. -/
theorem editAll_of_idle (idle : ¬ s.Writes t) (edits : List Edit) : (s.editAll t edits).1 = t := by
  induction edits with
  | nil => rfl
  | cons e rest ih =>
    unfold editAll
    cases edited : s.edit t e with
    | error err => rfl
    | ok changed =>
      obtain ⟨rfl, -⟩ := amend_of_idle idle edited
      exact ih

/-- Edits that succeed do so on what the transaction sees, whatever the transaction. -/
theorem amendAll_of_editAll {u : Transaction} {edits : List Edit}
    (ok : s.editAll t edits = (u, .ok ())) : s.amendAll (s.view t) edits = (s.view u, .ok ()) := by
  by_cases write : s.Writes t
  · obtain ⟨continues, same⟩ := editAll_eq_amendAll write edits
    rw [ok] at continues same
    exact Prod.ext continues.view.symm same.symm
  · induction edits with
    | nil =>
      cases ok
      rfl
    | cons e rest ih =>
      unfold editAll at ok
      cases edited : s.edit t e with
      | error err =>
        rw [edited] at ok
        cases ok
      | ok changed =>
        rw [edited] at ok
        obtain ⟨rfl, amended⟩ := amend_of_idle write edited
        rw [amendAll, amended]
        exact ih ok

end Store

end DocStore
