import DocStore.Proofs.Store.Changes
import DocStore.Proofs.Store.Isolation
import DocStore.Proofs.Store.Replacement
import DocStore.Proofs.Tree.Order
import Mathlib.Data.Finset.Basic
import Mathlib.Data.Finset.Dedup
import Mathlib.Data.List.Induction

/-!
# Changes made again

The list of changes of a transaction is enough to make its data again from those that it was admitted
to, without its edits and without what failed on the way. An addition that is made again first makes
the objects above its place, since one entry may stand for a whole chain of new objects.

The values in a store are trees whose fields ascend, and so are the values in the edits. In such a
tree an addition finds the objects above its place and leaves them as they are.

Results:
  * `accounts_amend`, `accounts_notesAll`, `accounts_changesBy`: what is recorded accounts for what an
    edit, a row of edits and the work of a writer make of contents;
  * `Truncate.sorted_edits`: a bulk replacement is a row of edits like that;
  * `Reachable.noted`: in every schedule a writer has recorded what its work is to record;
  * `changes_complete`: made again, the changes of a writer give what it sees.
-/

namespace DocStore

/-! ## Making changes again -/

/-- Make a recorded change again. An addition first makes the objects above its place. -/
def DataChange.redo (data : Value) (change : DataChange) : Except StoreError Value := do
  let data ← match change.op, change.path.parent? with
    | .add, some parent => (Tree.makeDir data parent).map (·.1)
    | _, _ => pure data
  Tree.apply data change.op change.path change.value

/-- Make a recorded change of a policy again, on the set of ids. -/
def PolicyChange.redo (ids : Finset String) (change : PolicyChange) : Finset String :=
  if change.removed then ids.erase change.id else insert change.id ids

namespace Changes

/-- The data after the recorded changes. -/
def redoData (n : Changes) (data : Value) : Except StoreError Value :=
  n.data.foldlM DataChange.redo data

/-- The ids of the policies after the recorded changes. -/
def redoIds (n : Changes) (ids : Finset String) : Finset String := n.policy.foldl PolicyChange.redo ids

end Changes

/-- The ids of the policies. -/
def Contents.ids (c : Contents) : Finset String := c.policies.keys.toFinset

/-- The changes account for all that is different in later contents. -/
structure Changes.Accounts (n : Changes) (c later : Contents) : Prop where
  data : n.redoData c.data = .ok later.data
  ids : n.redoIds c.ids = later.ids
  texts : ∀ id, later.policies.find? id ≠ c.policies.find? id → ∃ change ∈ n.policy, change.id = id
  policies : n.policy = [] → later.policies = c.policies

namespace Changes

variable {n m : Changes} {c d e : Contents}

theorem redoData_append (n m : Changes) (data : Value) :
    (n ++ m).redoData data = n.redoData data >>= m.redoData :=
  List.foldlM_append

theorem redoIds_append (n m : Changes) (ids : Finset String) :
    (n ++ m).redoIds ids = m.redoIds (n.redoIds ids) :=
  List.foldl_append

namespace Accounts

theorem refl (c : Contents) : none.Accounts c c where
  data := rfl
  ids := rfl
  texts := fun _ differs => absurd rfl differs
  policies := fun _ => rfl

theorem trans (first : n.Accounts c d) (second : m.Accounts d e) : (n ++ m).Accounts c e where
  data := by
    rw [redoData_append, first.data]
    exact second.data
  ids := by rw [redoIds_append, first.ids, second.ids]
  texts := by
    intro id differs
    by_cases same : d.policies.find? id = c.policies.find? id
    · obtain ⟨change, present, names⟩ := second.texts id fun same' => differs (same'.trans same)
      exact ⟨change, List.mem_append_right _ present, names⟩
    · obtain ⟨change, present, names⟩ := first.texts id same
      exact ⟨change, List.mem_append_left _ present, names⟩
  policies := by
    intro nothing
    obtain ⟨nothing, nothing'⟩ := List.append_eq_nil_iff.1 nothing
    exact (second.policies nothing').trans (first.policies nothing)

/-- Where only the data are different. -/
theorem of_data {change : DataChange} {data : Value} (redone : change.redo c.data = .ok data) :
    (ofData change).Accounts c { c with data } where
  data := by
    show [change].foldlM DataChange.redo c.data = .ok data
    simp only [List.foldlM_cons, redone]
    rfl
  ids := rfl
  texts := fun _ differs => absurd rfl differs
  policies := fun _ => rfl

/-- Where only one policy is different. -/
theorem of_policy {change : PolicyChange} {policies : Dict String}
    (ids : change.redo c.ids = Contents.ids { c with policies })
    (others : ∀ id, id ≠ change.id → policies.find? id = c.policies.find? id) :
    (ofPolicy change).Accounts c { c with policies } where
  data := rfl
  ids := ids
  texts := by
    intro id differs
    refine ⟨change, List.mem_singleton_self _, ?_⟩
    by_contra other
    exact differs (others id (Ne.symm other))
  policies := fun nothing => absurd nothing (List.cons_ne_nil _ _)

end Accounts

end Changes

/-! ## Edits -/

namespace Edit

/-- The fields of the value that comes with an edit ascend. -/
def Sorted : Edit → Prop
  | .write _ _ value | .writeUnchecked _ _ value => value.Ordered
  | _ => True

end Edit

/-- The fields of the values that come with a row of edits ascend. -/
def Row.Sorted (row : Row) : Prop := ∀ e ∈ row.edits, e.Sorted

/-- The fields of the value that comes with an update ascend. -/
def Update.Sorted : Update → Prop
  | .data _ value => value.Ordered
  | .policy _ _ => True

namespace Truncate

theorem ordered_payload {updates : List Update} (sorted : ∀ update ∈ updates, update.Sorted) :
    (payload updates).Ordered := by
  induction updates using List.reverseRecOn with
  | nil => exact Value.ordered_empty
  | append_singleton updates update ih =>
    have before := ih fun other earlier => sorted other (List.mem_append_left _ earlier)
    have last := sorted update (by simp)
    unfold payload at before ⊢
    rw [List.foldl_append]
    cases update with
    | data path value => exact Tree.ordered_mergeInsert before last path
    | policy id text => exact before

/-- A bulk replacement by values with fields in order is a row of such edits. -/
theorem sorted_edits {bases : List Path} {updates : List Update} (claims : Dict Path)
    (sorted : ∀ update ∈ updates, update.Sorted) : Row.Sorted ⟨claims, edits bases updates⟩ := by
  have ordered := ordered_payload sorted
  intro e present
  rcases List.mem_append.1 present with data | policies
  · split at data
    · simp only [List.mem_cons, List.not_mem_nil, or_false] at data
      rcases data with rfl | rfl
      · trivial
      · exact ordered
    · obtain ⟨base, -, below⟩ := List.mem_flatMap.1 data
      cases found : Tree.get? (payload updates) base with
      | none =>
        rw [baseEdits_none found, List.mem_singleton] at below
        rw [below]
        trivial
      | some value =>
        rw [baseEdits_some found] at below
        rcases List.mem_append.1 below with before | put
        · rcases List.mem_cons.1 before with rfl | above
          · trivial
          · obtain ⟨parent, -, rfl⟩ := Edit.mem_above above
            trivial
        · rw [List.mem_singleton.1 put]
          exact Tree.ordered_at? ordered found
  · obtain ⟨update, -, isPolicy⟩ := List.mem_filterMap.1 policies
    cases update with
    | data path value => cases isPolicy
    | policy id text =>
      cases isPolicy
      trivial

end Truncate

namespace Contents

variable {c d : Contents}

theorem mem_ids_iff {id : String} : id ∈ c.ids ↔ c.policies.find? id ≠ none := by
  unfold ids
  rw [List.mem_toFinset, ne_eq, Dict.find?_eq_none_iff, not_not]

theorem accounts_patched {op : PatchOp} {path : Path} {value : Value}
    (ok : c.patch op path value = .ok d) (ordered : c.data.Ordered) :
    (patched op path value).Accounts c d := by
  unfold patch at ok
  obtain ⟨data, applied, rfl⟩ := map_ok ok
  refine .of_data ?_
  unfold DataChange.redo
  cases op with
  | add =>
    simp only [reduceCtorEq, if_false]
    cases above : path.parent? with
    | none => exact applied
    | some parent =>
      have stands := Tree.makeDir_above_of_apply above applied ordered
      simp only [stands]
      exact applied
  | replace => exact applied
  | remove => exact (Tree.apply_remove_congr c.data path .null value).trans applied

/-- Making objects along a path is recorded as one addition, or not at all. -/
theorem accounts_makeDir {path : Path} (ok : c.makeDir path = .ok d) (ordered : c.data.Ordered) :
    ((Edit.makeDir path).notes c).Accounts c d := by
  unfold makeDir at ok
  obtain ⟨⟨data, made⟩, done, rfl⟩ := map_ok ok
  cases made with
  | false =>
    have same : data = c.data := Tree.makeDir_of_not_made done ordered
    simp only [Edit.notes, done, same]
    exact .refl c
  | true =>
    obtain ⟨parent, above, made, isParent, okAbove, added⟩ := Tree.apply_add_of_makeDir done
    simp only [Edit.notes, done]
    refine .of_data ?_
    simp only [DataChange.redo, isParent, okAbove]
    exact added

theorem accounts_deletePolicy {id : String} (ok : c.deletePolicy id = .ok d) :
    (Changes.ofPolicy ⟨id, true⟩).Accounts c d := by
  rw [deletePolicy_ok ok]
  refine .of_policy ?_ fun other ne => Dict.find?_erase_ne c.policies ne
  ext other
  show other ∈ c.ids.erase id ↔ _
  rw [Finset.mem_erase, mem_ids_iff, mem_ids_iff]
  by_cases same : other = id
  · simp [same]
  · simp [same, Dict.find?_erase_ne c.policies same]

theorem accounts_upsertPolicy (c : Contents) (id text : String) :
    (Changes.ofPolicy ⟨id, false⟩).Accounts c { c with policies := c.policies.insert id text } := by
  refine .of_policy ?_ fun other ne => Dict.find?_insert_ne c.policies text ne
  ext other
  show other ∈ insert id c.ids ↔ _
  rw [Finset.mem_insert, mem_ids_iff, mem_ids_iff]
  by_cases same : other = id
  · simp [same]
  · simp [same, Dict.find?_insert_ne c.policies text same]

/-- Deletions that all succeed are recorded one by one. -/
theorem accounts_deletePolicies {ids : List String}
    (ok : ids.foldlM Contents.deletePolicy c = .ok d) :
    (Changes.mk [] (ids.map fun id => ⟨id, true⟩)).Accounts c d := by
  induction ids generalizing c with
  | nil =>
    cases ok
    exact .refl _
  | cons id rest ih =>
    rw [List.foldlM_cons] at ok
    obtain ⟨between, deleted, ok⟩ := bind_ok ok
    exact (accounts_deletePolicy deleted).trans (ih ok)

end Contents

namespace Store

variable {s : Store} {c d : Contents}

/-- A removal that is content with nothing there is recorded only when it removed something. -/
theorem accounts_removed {path : Path} (ordered : c.data.Ordered)
    (done : (c.get? path = none ∧ d = c) ∨ s.amendOwned c .remove path .null = .ok d) :
    (c.removed path).Accounts c d := by
  unfold Contents.removed
  obtain ⟨nothing, rfl⟩ | written := done
  · have absent : Tree.get? d.data path = none := nothing
    simp only [absent, Option.isSome_none]
    exact .refl d
  · obtain ⟨-, patched⟩ := amendOwned_ok written
    obtain ⟨data, applied, -⟩ := map_ok patched
    rw [if_pos (Tree.get?_of_apply (by decide) applied)]
    exact Contents.accounts_patched patched ordered

/-- What an edit records accounts for what it does. -/
theorem accounts_amend {e : Edit} (ok : s.amend c e = .ok d) (ordered : c.data.Ordered) :
    (e.notes c).Accounts c d := by
  cases e with
  | write op path value => exact Contents.accounts_patched (amendOwned_ok ok).2 ordered
  | writeUnchecked op path value => exact Contents.accounts_patched ok ordered
  | makeDir path => exact Contents.accounts_makeDir ok ordered
  | clear path => exact accounts_removed ordered (amend_clear_ok ok)
  | discard path => exact accounts_removed ordered (amend_discard_ok ok)
  | requireOwnerless path =>
    obtain ⟨-, -, same⟩ := bind_ok ok
    cases same
    exact .refl c
  | requireNoClaims =>
    obtain ⟨-, -, same⟩ := bind_ok ok
    cases same
    exact .refl c
  | upsertPolicy id text =>
    cases ok
    exact Contents.accounts_upsertPolicy c id text
  | deletePolicy id => exact Contents.accounts_deletePolicy ok
  | dropPolicies start => exact Contents.accounts_deletePolicies ok

theorem ordered_patch {op : PatchOp} {path : Path} {value : Value}
    (ok : c.patch op path value = .ok d) (ordered : c.data.Ordered) (sorted : value.Ordered) :
    d.data.Ordered := by
  obtain ⟨data, applied, rfl⟩ := map_ok ok
  exact Tree.ordered_apply applied ordered sorted

theorem ordered_removed {path : Path} (ordered : c.data.Ordered)
    (done : (c.get? path = none ∧ d = c) ∨ s.amendOwned c .remove path .null = .ok d) :
    d.data.Ordered := by
  obtain ⟨-, rfl⟩ | written := done
  · exact ordered
  · exact ordered_patch (amendOwned_ok written).2 ordered Value.ordered_null

/-- Edits keep the fields of the tree in order. -/
theorem ordered_amend {e : Edit} (ok : s.amend c e = .ok d) (ordered : c.data.Ordered)
    (sorted : e.Sorted) : d.data.Ordered := by
  cases e with
  | write op path value => exact ordered_patch (amendOwned_ok ok).2 ordered sorted
  | writeUnchecked op path value => exact ordered_patch ok ordered sorted
  | makeDir path =>
    obtain ⟨⟨data, made⟩, done, rfl⟩ := map_ok ok
    exact Tree.ordered_makeDir done ordered
  | clear path => exact ordered_removed ordered (amend_clear_ok ok)
  | discard path => exact ordered_removed ordered (amend_discard_ok ok)
  | requireOwnerless path =>
    obtain ⟨-, -, same⟩ := bind_ok ok
    cases same
    exact ordered
  | requireNoClaims =>
    obtain ⟨-, -, same⟩ := bind_ok ok
    cases same
    exact ordered
  | upsertPolicy id text =>
    cases ok
    exact ordered
  | deletePolicy id =>
    rw [Contents.deletePolicy_ok ok]
    exact ordered
  | dropPolicies start =>
    rw [(Contents.deletePolicies_ok ok).1]
    exact ordered

/-! ## Rows and works -/

/-- What a row of edits records, up to the first that fails, accounts for what it does. -/
theorem accounts_notesAll (ordered : c.data.Ordered) {edits : List Edit}
    (sorted : ∀ e ∈ edits, e.Sorted) :
    (s.notesAll c edits).Accounts c (s.amendAll c edits).1 ∧ (s.amendAll c edits).1.data.Ordered := by
  induction edits generalizing c with
  | nil => exact ⟨.refl c, ordered⟩
  | cons e rest ih =>
    unfold notesAll amendAll
    cases amended : s.amend c e with
    | error err => exact ⟨.refl c, ordered⟩
    | ok between =>
      have first := accounts_amend amended ordered
      have stillOrdered := ordered_amend amended ordered (sorted e List.mem_cons_self)
      obtain ⟨others, last⟩ := ih stillOrdered fun e later => sorted e (List.mem_cons_of_mem _ later)
      exact ⟨first.trans others, last⟩

end Store

namespace Contents

/-- What the work of a writer is to record. -/
def changesBy (c : Contents) : List Row → Changes
  | [] => .none
  | row :: rest => row.notes c ++ (row.amend c).changesBy rest

theorem changesBy_append (c : Contents) (work : List Row) (row : Row) :
    c.changesBy (work ++ [row]) = c.changesBy work ++ row.notes (c.after work) := by
  induction work generalizing c with
  | nil =>
    show row.notes c ++ Changes.none = Changes.none ++ row.notes c
    simp
  | cons first rest ih =>
    show first.notes c ++ (first.amend c).changesBy (rest ++ [row]) = _
    rw [ih, ← Changes.append_assoc]
    rfl

/-- What the work of a writer is to record accounts for what it does. -/
theorem accounts_changesBy {c : Contents} (ordered : c.data.Ordered) {work : List Row}
    (sorted : ∀ row ∈ work, row.Sorted) :
    (c.changesBy work).Accounts c (c.after work) ∧ (c.after work).data.Ordered := by
  induction work generalizing c with
  | nil => exact ⟨.refl c, ordered⟩
  | cons row rest ih =>
    obtain ⟨first, between⟩ := Store.accounts_notesAll ordered (sorted row List.mem_cons_self)
    obtain ⟨others, last⟩ := ih between fun row later => sorted row (List.mem_cons_of_mem _ later)
    exact ⟨first.trans others, last⟩

end Contents

/-- Writers that come one after the other keep the fields of the tree in order. -/
theorem Store.ordered_serial {s : Store} (ordered : s.contents.data.Ordered)
    {works : List (List Row)} (sorted : ∀ work ∈ works, ∀ row ∈ work, row.Sorted) :
    (s.serial works).data.Ordered := by
  induction works using List.reverseRecOn with
  | nil => exact ordered
  | append_singleton works work ih =>
    rw [Store.serial_append]
    have before := ih fun other earlier => sorted other (List.mem_append_left _ earlier)
    exact (Contents.accounts_changesBy before (sorted work (by simp))).2

namespace Schedule

/-! ## Schedules -/

/-- A party that writes has recorded what its work is to record. -/
def Noted (c : Contents) : Stage → Prop
  | .active t _ work | .committing t _ work => t.isWrite = true → t.changes = c.changesBy work
  | _ => True

variable {s : Store} {σ τ : Schedule}

/-- A party moves while the contents stay. -/
theorem noted_moved {store : Store} {ticket : Nat} {stage : Stage}
    (noted : ∀ other, Noted σ.store.contents (σ.stages other))
    (same : store.contents = σ.store.contents) (mine : Noted σ.store.contents stage) (other : Nat) :
    Noted ((σ.change store).move ticket stage).store.contents
      (((σ.change store).move ticket stage).stages other) := by
  show Noted store.contents (Function.update σ.stages ticket stage other)
  rw [same]
  by_cases isMine : other = ticket
  · rw [isMine, Function.update_self]
    exact mine
  · rw [Function.update_of_ne isMine]
    exact noted other

/-- A row of edits is recorded as it is to be. -/
theorem noted_edit (coherent : Coherent s σ) {ticket : Nat} {t : Transaction} {seen : Nat}
    {work : List Row} (active : σ.stages ticket = .active t seen work)
    (noted : Noted σ.store.contents (.active t seen work)) (edits : List Edit) :
    Noted σ.store.contents
      (.active (σ.store.editAll t edits).1 seen (work ++ [⟨σ.store.claims, edits⟩])) := by
  intro write
  have party := coherent.party ticket
  rw [active] at party
  rcases party with r | w
  · rw [Store.editAll_of_read r.read, r.read] at write
    cases write
  · have writes : σ.store.Writes t := ⟨w.home, w.write⟩
    rw [Store.editAll_changes_row writes, noted w.write, w.view, Contents.changesBy_append]

theorem noted_step (coherent : Coherent s σ)
    (noted : ∀ ticket, Noted σ.store.contents (σ.stages ticket)) (step : Step σ τ) (ticket : Nat) :
    Noted τ.store.contents (τ.stages ticket) := by
  cases step with
  | askRead | askWrite =>
    refine noted_moved noted rfl ?_ ticket
    trivial
  | admitRead asker asked held =>
    refine noted_moved noted rfl ?_ ticket
    intro write
    cases write
  | admitWrite asker asked held =>
    refine noted_moved noted rfl ?_ ticket
    intro _
    rfl
  | edit editor active edits =>
    have before := noted editor
    rw [active] at before
    exact noted_moved noted rfl (noted_edit coherent active before edits) ticket
  | @close leaver t _ _ active =>
    have same : (σ.store.close t).contents = σ.store.contents := by
      unfold Store.close
      split <;> rfl
    refine noted_moved noted same ?_ ticket
    trivial
  | askCommit asker active write =>
    have before := noted asker
    rw [active] at before
    refine noted_moved noted rfl ?_ ticket
    exact before
  | @commit committer t seen work committing held =>
    show Noted _ (Function.update σ.stages committer .absent ticket)
    by_cases same : ticket = committer
    · rw [same, Function.update_self]
      trivial
    · -- Nobody else is in a transaction whose contents could change.
      rw [Function.update_of_ne same]
      obtain absent | ⟨write, awaiting⟩ := coherent.commitsAlone committing held same
      · rw [absent]
        trivial
      · rw [awaiting]
        trivial
  | claim | release | releaseAll => exact noted ticket
  | register active ok =>
    obtain ⟨_, _, rfl⟩ := register_keeps ok
    exact noted ticket
  | unregister active ok =>
    obtain ⟨_, rfl⟩ := unregister_keeps ok
    exact noted ticket

/-- In every schedule a writer has recorded what its work is to record. -/
theorem Reachable.noted (reached : Reachable s σ) (ticket : Nat) :
    Noted σ.store.contents (σ.stages ticket) := by
  induction reached generalizing ticket with
  | start => trivial
  | step reached step ih => exact noted_step reached.coherent ih step ticket

/-- A party is in a write transaction that it was admitted to after `seen` others had committed. -/
def Writing (σ : Schedule) (ticket : Nat) (t : Transaction) (seen : Nat) (work : List Row) : Prop :=
  t.isWrite = true ∧
    (σ.stages ticket = .active t seen work ∨ σ.stages ticket = .committing t seen work)

theorem Reachable.writer (reached : Reachable s σ) {ticket : Nat} {t : Transaction} {seen : Nat}
    {work : List Row} (writing : σ.Writing ticket t seen work) :
    Writer s σ ticket t seen work ∧ t.changes = σ.store.contents.changesBy work := by
  have party := reached.coherent.party ticket
  have noted := reached.noted ticket
  obtain ⟨write, active | committing⟩ := writing
  · rw [active] at party noted
    rcases party with r | w
    · rw [r.read] at write
      cases write
    · exact ⟨w, noted write⟩
  · rw [committing] at party noted
    exact ⟨party, noted write⟩

/-- The list of changes of a write transaction is complete, whatever it did and whatever failed on the
way: made again in order on the contents at its admission, which are those that the writers before it
left, the changes give what the transaction sees. The policies are made again as a set of ids, and
every policy that is there, is not there or has another text since occurs in the list. If there are no
changes, a commit leaves everything as it was. -/
theorem changes_complete (reached : Reachable s σ) (ordered : s.contents.data.Ordered)
    (before : ∀ work ∈ σ.committed, ∀ row ∈ work, row.Sorted) (ticket : Nat) {t : Transaction}
    {seen : Nat} {work : List Row} (writing : σ.Writing ticket t seen work)
    (sorted : ∀ row ∈ work, row.Sorted) :
    t.changes.Accounts (s.serial (σ.committed.take seen)) (σ.store.view t) ∧
      (t.hasChanges = false →
        (σ.commit ticket t work).store.contents = s.serial (σ.committed.take seen)) := by
  obtain ⟨writer, noted⟩ := reached.writer writing
  have stillOrdered : σ.store.contents.data.Ordered := by
    rw [reached.coherent.contents]
    exact Store.ordered_serial ordered before
  have accounts : t.changes.Accounts (s.serial (σ.committed.take seen)) (σ.store.view t) := by
    rw [writer.origin, noted, writer.view]
    exact (Contents.accounts_changesBy stillOrdered sorted).1
  refine ⟨accounts, fun unchanged => ?_⟩
  have nothing : t.changes.data = [] ∧ t.changes.policy = [] := by
    simpa [Transaction.hasChanges, Changes.isEmpty] using unchanged
  have data := accounts.data
  unfold Changes.redoData at data
  rw [nothing.1] at data
  have policies := accounts.policies nothing.2
  show (σ.store.install t).contents = _
  rw [Store.contents_install]
  cases after : σ.store.view t with
  | mk viewData viewPolicies =>
    rw [after] at data policies
    cases before : s.serial (σ.committed.take seen) with
    | mk oldData oldPolicies =>
      rw [before] at data policies
      cases Except.ok.inj data
      cases policies
      rfl

/-- A writer makes objects along a path, is refused a replacement of what is not there, and goes on.
One addition stands for both objects that it made, nothing for the refusal. -/
theorem changes_complete_beside_refusal :
    ∃ (σ : Schedule) (t : Transaction) (work : List Row),
      Reachable (.new 1 (.object [("a", .int 0)])) σ ∧ σ.Writing 1 t 0 work ∧
      t.changes = ⟨[⟨⟨["b", "c"], by decide⟩, .add, .empty⟩, ⟨⟨["a"], by decide⟩, .replace, .int 1⟩],
        [⟨"p", false⟩]⟩ ∧
      t.changes.redoData (.object [("a", .int 0)]) =
        .ok (.object [("a", .int 1), ("b", .object [("c", .object [])])]) ∧
      t.changes.redoIds ∅ = {"p"} := by
  have opened := ((Reachable.start (.new 1 (.object [("a", .int 0)]))).step (.askWrite 1 rfl)).step
    (.admitWrite 1 rfl rfl)
  have refused := opened.step
    (.edit 1 rfl [.makeDir ⟨["b", "c"], by decide⟩, .write .replace ⟨["z"], by decide⟩ .null])
  have reached := refused.step
    (.edit 1 rfl [.write .replace ⟨["a"], by decide⟩ (.int 1), .upsertPolicy "p" "text"])
  have sorted : ∀ row ∈
      [Row.mk [] [.makeDir ⟨["b", "c"], by decide⟩, .write .replace ⟨["z"], by decide⟩ .null],
        ⟨[], [.write .replace ⟨["a"], by decide⟩ (.int 1), .upsertPolicy "p" "text"]⟩],
      row.Sorted := by
    simp [Row.Sorted, Edit.Sorted, Value.Ordered]
  obtain ⟨accounts, -⟩ := changes_complete reached ⟨by simp [Dict.Ordered], trivial, trivial⟩
    (fun work never => absurd never List.not_mem_nil) 1 ⟨rfl, Or.inl rfl⟩ sorted
  refine ⟨_, _, _, reached, ⟨rfl, Or.inl rfl⟩, ?changes, accounts.data.trans ?data,
    accounts.ids.trans ?ids⟩ <;> decide +kernel

end Schedule

end DocStore
