import DocStore.Proofs.Store.Lock
import DocStore.Proofs.System.Storing

/-!
# The course of an operation

An operation that works in a write transaction of its own sets out on an errand, waits where it has
to, and may fail at any of its steps. Until it commits it changes nothing but locks and the numbers of
transactions, and once it waits to commit it does not fail any more. When it fails, the writer lock
goes to the next in line.

Results:
  * `untraced_beginErrand`, `untraced_pollErrand`: a step that does not commit leaves no trace;
  * `passedOn_beginErrand`, `passedOn_pollErrand`: the writer lock after a step that fails;
  * `Course.clean`: the whole course of an operation.
-/

namespace DocStore

/-! ## What others can tell -/

/-- Two states of a store that nobody can tell apart: locks and numbers of transactions aside. -/
structure Store.Aside (s s' : Store) : Prop where
  contents : s'.contents = s.contents
  claims : s'.claims = s.claims
  triggers : s'.triggers = s.triggers

/-- The errand leaves the triggers of the store alone. -/
def Plan.isPlain : Plan → Bool
  | .register _ | .unregister _ => false
  | _ => true

/-- What such an errand does before its commit leaves the store as it is. -/
theorem Plan.perform_plain {s s' : Store} {t t' : Transaction} {plan : Plan} {outcome : Outcome}
    (plain : plan.isPlain = true) (ok : plan.perform s t = .ok (s', t', outcome)) : s' = s := by
  cases plan with
  | read path =>
    unfold perform at ok
    dsimp only at ok
    split at ok <;> cases ok
    rfl
  | contents =>
    cases ok
    rfl
  | roots =>
    unfold perform at ok
    dsimp only at ok
    split at ok <;> cases ok
    rfl
  | patch op path value => exact System.eq_of_edited ok
  | activate bundles => exact System.eq_of_bundled ok
  | deactivate names => exact System.eq_of_bundled ok
  | ensure path => exact System.eq_of_edited ok
  | replace path value => exact System.eq_of_edited ok
  | removeAll paths => exact System.eq_of_edited ok
  | register listener => cases plain
  | unregister handle => cases plain

/-- An errand that has to wait is the one that set out. Only a writing one waits to commit. -/
structure Errand.Follows (e e' : Errand) : Prop where
  store : e'.store = e.store
  ticket : e'.ticket = e.ticket
  plan : e'.plan = e.plan
  opening : e.plan.isWrite = false → e.stage = .opening → e'.stage = .opening

/-- An operation that works in a write transaction of its own. -/
inductive Operation
  | writeOne (op : PatchOp) (path : Path) (value : Value)
  | activate (bundles : List Bundle)
  | deactivate (names : List String)
  | ingest (path : Path) (value : Value)
  | removeSubtrees (paths : List Path)

/-- The errand of an operation. -/
def Operation.plan : Operation → Except BundleError Plan
  | .writeOne op path value => .ok (.patch op path value)
  | .activate bundles => Bundle.activate bundles fun bundles => .ok (.activate bundles)
  | .deactivate names => .ok (.deactivate names)
  | .ingest path value => .ok (.replace path value)
  | .removeSubtrees paths => .ok (.removeAll paths)

theorem Operation.plan_ok {op : Operation} {plan : Plan} (planned : op.plan = .ok plan) :
    plan.isPlain = true ∧ plan.isWrite = true := by
  cases op with
  | activate bundles =>
    unfold Operation.plan at planned
    cases (Bundle.activate_eq_ok_iff.1 planned).2
    exact ⟨rfl, rfl⟩
  | _ =>
    cases planned
    exact ⟨rfl, rfl⟩

namespace System

/-- Nothing that anybody can tell has changed: no store has other contents, claims or triggers, and no
trigger was told anything. A probe would have it among its deliveries, and a watch would have looked
at its group and made transforms stale. -/
structure Untraced (sys sys' : System) : Prop where
  stores : ∀ place, (sys.storeAt place).Aside (sys'.storeAt place)
  groups : sys'.groups = sys.groups
  deliveries : sys'.deliveries = sys.deliveries
  prepared : ∀ place transform, sys.prepared? place = some transform →
    sys'.prepared? place = some transform

variable {sys sys' : System} {e : Errand} {w : Worker} {ticket place : Nat} {plan : Plan}

namespace Untraced

theorem refl (sys : System) : Untraced sys sys :=
  ⟨fun _ => ⟨rfl, rfl, rfl⟩, rfl, rfl, fun _ _ found => found⟩

theorem trans {a b c : System} (first : Untraced a b) (next : Untraced b c) : Untraced a c where
  stores place :=
    ⟨(next.stores place).contents.trans (first.stores place).contents,
      (next.stores place).claims.trans (first.stores place).claims,
      (next.stores place).triggers.trans (first.stores place).triggers⟩
  groups := next.groups.trans first.groups
  deliveries := next.deliveries.trans first.deliveries
  prepared place transform found := next.prepared place transform (first.prepared place transform found)

/-- What is no business of stores, groups and slots. -/
theorem aside (stores : sys'.stores = sys.stores) (groups : sys'.groups = sys.groups)
    (deliveries : sys'.deliveries = sys.deliveries) (slots : sys'.slots = sys.slots) :
    Untraced sys sys' := by
  refine ⟨fun place => ?_, groups, deliveries, fun place transform found => ?_⟩
  · rw [storeAt_of_stores stores]
    exact ⟨rfl, rfl, rfl⟩
  · unfold prepared? at found ⊢
    rw [slots]
    exact found

end Untraced

/-! ## One step of an errand -/

theorem untraced_putStore {s : Store} (aside : (sys.storeAt place).Aside s) :
    Untraced sys (sys.updateStore place fun _ => s) := by
  refine ⟨fun other => ?_, rfl, rfl, fun _ _ found => found⟩
  by_cases here : place = other
  · subst here
    by_cases present : place < sys.stores.length
    · rw [storeAt_updateStore_self present]
      exact aside
    · -- There is no store at the place, so there is none to change.
      have same : (sys.updateStore place fun _ => s).stores = sys.stores :=
        List.set_eq_of_length_le (Nat.le_of_not_lt present)
      rw [storeAt_of_stores same]
      exact ⟨rfl, rfl, rfl⟩
  · rw [storeAt_updateStore_ne here]
    exact ⟨rfl, rfl, rfl⟩

/-- An errand is admitted, and has not committed yet. -/
theorem untraced_performErrand (plain : e.plan.isPlain = true)
    (uncommitted : ∀ outcome, (sys.performErrand e).2 = .finished (.ok outcome) →
      e.plan.isWrite = false) : Untraced sys (sys.performErrand e).1 := by
  unfold performErrand at uncommitted ⊢
  dsimp only at uncommitted ⊢
  have opened : (sys.storeAt e.store).Aside (if e.plan.isWrite then
      (sys.storeAt e.store).openWrite e.ticket else (sys.storeAt e.store).openRead e.ticket).1 := by
    cases e.plan.isWrite <;> exact ⟨rfl, rfl, rfl⟩
  revert opened uncommitted
  generalize (if e.plan.isWrite then (sys.storeAt e.store).openWrite e.ticket
    else (sys.storeAt e.store).openRead e.ticket) = pair
  obtain ⟨s, t⟩ := pair
  intro uncommitted opened
  dsimp only at uncommitted opened ⊢
  have closed (t : Transaction) : (sys.storeAt e.store).Aside (s.close t) := by
    obtain ⟨state, writer, same⟩ := close_keeps s t
    rw [same]
    exact ⟨opened.contents, opened.claims, opened.triggers⟩
  cases performed : e.plan.perform s t with
  | error refusal => exact untraced_putStore (closed t)
  | ok result =>
    obtain ⟨s', t', outcome⟩ := result
    rw [performed] at uncommitted
    cases Plan.perform_plain plain performed
    dsimp only at uncommitted ⊢
    split
    · next writes =>
      rw [if_pos writes] at uncommitted
      split
      · next granted =>
        rw [if_pos granted] at uncommitted
        rw [uncommitted outcome rfl] at writes
        cases writes
      · exact untraced_putStore ⟨opened.contents, opened.claims, opened.triggers⟩
    · exact untraced_putStore (closed t')

theorem untraced_pollErrand (plain : e.plan.isPlain = true)
    (uncommitted : ∀ outcome, (sys.pollErrand e).2 = .finished (.ok outcome) →
      e.plan.isWrite = false) (opening : e.plan.isWrite = false → e.stage = .opening) :
    Untraced sys (sys.pollErrand e).1 := by
  unfold pollErrand at uncommitted ⊢
  dsimp only at uncommitted ⊢
  cases stage : e.stage with
  | opening =>
    rw [stage] at uncommitted
    have turn (held : Bool)
        (uncommitted : ∀ outcome, (if held then sys.performErrand e else (sys, .waiting e)).2 =
          .finished (.ok outcome) → e.plan.isWrite = false) :
        Untraced sys (if held then sys.performErrand e else (sys, .waiting e)).1 := by
      cases held with
      | false => exact .refl sys
      | true => exact untraced_performErrand plain uncommitted
    exact turn _ uncommitted
  | closing t outcome =>
    rw [stage] at uncommitted opening
    dsimp only at uncommitted ⊢
    split
    · next held =>
      rw [if_pos held] at uncommitted
      cases opening (uncommitted outcome rfl)
    · exact .refl sys

theorem untraced_beginErrand (plain : plan.isPlain = true)
    (uncommitted : ∀ outcome, (sys.beginErrand place ticket plan).2 = .finished (.ok outcome) →
      plan.isWrite = false) : Untraced sys (sys.beginErrand place ticket plan).1 := by
  unfold beginErrand at uncommitted ⊢
  dsimp only at uncommitted ⊢
  refine Untraced.trans (untraced_putStore ?_) (untraced_pollErrand plain uncommitted fun _ => rfl)
  cases plan.isWrite <;> exact ⟨rfl, rfl, rfl⟩

theorem follows_performErrand {e' : Errand} (waits : (sys.performErrand e).2 = .waiting e') :
    Errand.Follows e e' := by
  unfold performErrand at waits
  dsimp only at waits
  split at waits
  · cases waits
  · split at waits
    · next writes =>
      split at waits
      · cases waits
      · cases waits
        refine ⟨rfl, rfl, rfl, fun reads => ?_⟩
        rw [writes] at reads
        cases reads
    · cases waits

theorem follows_pollErrand {e' : Errand} (waits : (sys.pollErrand e).2 = .waiting e') :
    Errand.Follows e e' := by
  unfold pollErrand at waits
  dsimp only at waits
  split at waits
  · next stage =>
    have turn (held : Bool)
        (waits : (if held then sys.performErrand e else (sys, .waiting e)).2 = .waiting e') :
        Errand.Follows e e' := by
      cases held with
      | false =>
        cases waits
        exact ⟨rfl, rfl, rfl, fun _ same => same⟩
      | true => exact follows_performErrand waits
    exact turn _ waits
  · split at waits
    · cases waits
    · cases waits
      exact ⟨rfl, rfl, rfl, fun _ same => same⟩

/-! ## The writer lock after a failure -/

theorem present_of_isHeldBy (held : (sys.storeAt place).writer.isHeldBy ticket = true) :
    place < sys.stores.length := by
  by_contra absent
  have nothing : sys.stores[place]? = none := List.getElem?_eq_none (Nat.le_of_not_lt absent)
  unfold storeAt at held
  rw [nothing] at held
  cases held

theorem passedOn_performErrand {refusal : Refusal} (writes : e.plan.isWrite = true)
    (present : e.store < sys.stores.length)
    (failed : (sys.performErrand e).2 = .finished (.error refusal)) :
    FairLock.PassedOn e.ticket (sys.storeAt e.store).writer
      ((sys.performErrand e).1.storeAt e.store).writer := by
  unfold performErrand at failed ⊢
  simp only [writes, if_true] at failed ⊢
  split
  · rw [storeAt_updateStore_self present]
    exact FairLock.passedOn_release _ e.ticket
  · next performed =>
    rw [performed] at failed
    dsimp only at failed
    split at failed <;> cases failed

theorem passedOn_pollErrand {refusal : Refusal} (writes : e.plan.isWrite = true)
    (failed : (sys.pollErrand e).2 = .finished (.error refusal)) :
    FairLock.PassedOn e.ticket (sys.storeAt e.store).writer
      ((sys.pollErrand e).1.storeAt e.store).writer := by
  unfold pollErrand at failed ⊢
  dsimp only at failed ⊢
  cases stage : e.stage with
  | opening =>
    simp only [stage, writes, if_true] at failed ⊢
    cases held : (sys.storeAt e.store).writer.isHeldBy e.ticket with
    | false =>
      rw [held] at failed
      cases failed
    | true =>
      rw [held] at failed
      exact passedOn_performErrand writes (present_of_isHeldBy held) failed
  | closing t outcome =>
    rw [stage] at failed
    dsimp only at failed
    split at failed <;> cases failed

theorem passedOn_beginErrand {refusal : Refusal} (writes : plan.isWrite = true)
    (failed : (sys.beginErrand place ticket plan).2 = .finished (.error refusal)) :
    FairLock.PassedOn ticket (sys.storeAt place).writer
      ((sys.beginErrand place ticket plan).1.storeAt place).writer := by
  unfold beginErrand at failed ⊢
  simp only [writes, if_true] at failed ⊢
  have passed := passedOn_pollErrand (e := ⟨place, ticket, plan, .opening⟩) writes failed
  by_cases present : place < sys.stores.length
  · rw [storeAt_updateStore_self present] at passed
    exact passed.of_request
  · have same : (sys.updateStore place fun s => s.requestWrite ticket).stores = sys.stores :=
      List.set_eq_of_length_le (Nat.le_of_not_lt present)
    rw [storeAt_of_stores same] at passed
    exact passed

/-! ## Operations -/

/-- The course of an operation at a store: its own steps, each with the system before and after, the
system at present, and how far the operation has come. Between two steps others do what they like. -/
inductive Course (place ticket : Nat) (op : Operation) :
    List (System × System) → System → Progress → Prop
  | refused {refusal : BundleError} (sys : System) (invalid : op.plan = .error refusal) :
      Course place ticket op [] sys (.finished (.error (.bundle refusal)))
  | setOut {plan : Plan} (sys : System) (planned : op.plan = .ok plan) :
      Course place ticket op [(sys, (sys.beginErrand place ticket plan).1)]
        (sys.beginErrand place ticket plan).1 (sys.beginErrand place ticket plan).2
  | others {steps : List (System × System)} {sys : System} {e : Errand}
      (course : Course place ticket op steps sys (.waiting e)) (sys' : System) :
      Course place ticket op steps sys' (.waiting e)
  | step {steps : List (System × System)} {sys : System} {e : Errand}
      (course : Course place ticket op steps sys (.waiting e)) :
      Course place ticket op (steps ++ [(sys, (sys.pollErrand e).1)]) (sys.pollErrand e).1
        (sys.pollErrand e).2

/-- What holds of a course that has not come to a commit. -/
def Course.Clean (place ticket : Nat) (steps : List (System × System)) : Progress → Prop
  | .waiting e => (∀ step ∈ steps, Untraced step.1 step.2) ∧
      e.store = place ∧ e.ticket = ticket ∧ e.plan.isPlain = true ∧ e.plan.isWrite = true
  | .finished (.ok _) => True
  | .finished (.error _) => (∀ step ∈ steps, Untraced step.1 step.2) ∧
      ∀ step, steps.getLast? = some step → FairLock.PassedOn ticket
        (step.1.storeAt place).writer (step.2.storeAt place).writer

theorem Course.clean {op : Operation} {steps : List (System × System)} {progress : Progress}
    (course : Course place ticket op steps sys progress) :
    Course.Clean place ticket steps progress := by
  induction course with
  | refused sys invalid => exact ⟨by simp, by simp⟩
  | @setOut plan sys planned =>
    obtain ⟨plain, writes⟩ := Operation.plan_ok planned
    have untraced := @untraced_beginErrand sys ticket place plan plain
    have passed {refusal : Refusal} := @passedOn_beginErrand sys ticket place plan refusal writes
    revert untraced passed
    have follows {e : Errand} (waits : (sys.beginErrand place ticket plan).2 = .waiting e) :=
      follows_pollErrand waits
    revert follows
    generalize sys.beginErrand place ticket plan = begun
    obtain ⟨sys', progress⟩ := begun
    intro follows untraced passed
    cases progress with
    | waiting e =>
      have same := follows rfl
      refine ⟨?_, same.store, same.ticket, same.plan ▸ plain, same.plan ▸ writes⟩
      intro step mem
      cases List.mem_singleton.1 mem
      exact untraced (by simp)
    | finished result =>
      cases result with
      | ok outcome => trivial
      | error refusal =>
        refine ⟨fun step mem => ?_, fun step last => ?_⟩
        · cases List.mem_singleton.1 mem
          exact untraced (by simp)
        · cases last
          exact passed rfl
  | others _ sys' ih => exact ih
  | @step steps sys e _ ih =>
    obtain ⟨before, rfl, rfl, plain, writes⟩ := ih
    have untraced := @untraced_pollErrand sys e plain
    have passed {refusal : Refusal} := @passedOn_pollErrand sys e refusal writes
    have follows {e' : Errand} := @follows_pollErrand sys e e'
    revert untraced passed follows
    generalize sys.pollErrand e = polled
    obtain ⟨sys', progress⟩ := polled
    intro untraced passed follows
    have reads : e.plan.isWrite = false → e.stage = .opening := fun never => by
      rw [writes] at never
      cases never
    cases progress with
    | waiting e' =>
      have same := follows rfl
      refine ⟨?_, same.store, same.ticket, same.plan ▸ plain, same.plan ▸ writes⟩
      intro step mem
      rcases List.mem_append.1 mem with earlier | now
      · exact before step earlier
      · cases List.mem_singleton.1 now
        exact untraced (by simp) reads
    | finished result =>
      cases result with
      | ok outcome => trivial
      | error refusal =>
        refine ⟨fun step mem => ?_, fun step last => ?_⟩
        · rcases List.mem_append.1 mem with earlier | now
          · exact before step earlier
          · cases List.mem_singleton.1 now
            exact untraced (by simp) reads
        · rw [List.getLast?_concat] at last
          cases last
          exact passed rfl

end System

end DocStore
