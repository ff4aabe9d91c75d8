import DocStore.Proofs.Store.Contents
import DocStore.Proofs.System.Commands

/-!
# The errands of a call

A call reads the records of bundles, makes sure of a path, removes what plugins stored, and registers
or unregisters the watch of its group. Each poll of such an errand commits at most once, so the watch
looks for overlaps at most once.

Results:
  * `glances_advanceErrand`: a group after a poll of an errand;
  * `besides_advanceErrand`: what a poll of an errand does to the stores;
  * `watches_commit`, `triggers_commit`: a commit keeps all watches;
  * `advanceErrand_enrolls`: a registration that is over has registered;
  * `advanceErrand_looks`: what is found by looking for overlaps.
-/

namespace DocStore

variable {sys sys' : System} {group place : Nat} {g : Group} {e : Errand} {c : Call}

namespace System

/-! ## One look at most -/

/-- A group has been looked at once for overlaps, or not at all. -/
def Glances (group : Nat) (sys sys' : System) : Prop :=
  ∀ g, sys.groups[group]? = some g → sys'.groups[group]? = some g ∨
    ∃ bundles, sys'.groups[group]? = some (g.check bundles)

theorem glances_commit (group : Nat) (sys : System) (place : Nat) (t : Transaction) :
    Glances group sys (sys.commit place t) := by
  intro g found
  rw [group_commit found]
  split
  · exact .inr ⟨_, rfl⟩
  · exact .inl rfl

theorem glances_performErrand (group : Nat) (sys : System) (e : Errand) :
    Glances group sys (sys.performErrand e).1 := by
  unfold performErrand
  dsimp only
  split
  · exact fun g found => .inl found
  · split
    · split
      · exact glances_commit group (sys.updateStore e.store _) e.store _
      · exact fun g found => .inl found
    · exact fun g found => .inl found

theorem glances_pollErrand (group : Nat) (sys : System) (e : Errand) :
    Glances group sys (sys.pollErrand e).1 := by
  unfold pollErrand
  dsimp only
  cases e.stage with
  | opening =>
    have turn (held : Bool) :
        Glances group sys (if held then sys.performErrand e else (sys, .waiting e)).1 := by
      cases held
      · exact fun g found => .inl found
      · exact glances_performErrand group sys e
    exact turn _
  | closing t outcome =>
    dsimp only
    split
    · exact glances_commit group sys _ _
    · exact fun g found => .inl found

theorem glances_advanceErrand (group : Nat) (sys : System) (c : Call) (plan : Plan) :
    Glances group sys (sys.advanceErrand c plan).1 := by
  unfold advanceErrand
  split
  · exact glances_pollErrand group sys _
  · exact fun g found => glances_pollErrand group _ _ g found

/-! ## Stores -/

/-- Neither contents nor claims change, and only with the plugins triggers may come and go. -/
structure Locally (place : Nat) (s s' : Store) : Prop where
  contents : s'.contents = s.contents
  claims : s'.claims = s.claims
  triggers : place ≠ pluginStore → s'.triggers = s.triggers

theorem allows_locally : Allows Locally where
  aside aside := ⟨aside.contents, aside.claims, fun _ => aside.triggers⟩
  trans first next := ⟨next.contents.trans first.contents, next.claims.trans first.claims,
    fun away => (next.triggers away).trans (first.triggers away)⟩

theorem permits_locally (plan : Plan) : Permits Locally pluginStore plan := by
  intro s s' t t' outcome ok
  obtain ⟨triggers, next, same⟩ := perform_keeps ok
  rw [same]
  exact ⟨rfl, rfl, fun away => absurd rfl away⟩

/-- The errand is sent to the store of the plugins. -/
theorem besides_advanceErrand {plan : Plan} {may : Nat → Store → Store → Prop} (allows : Allows may)
    (permits : Permits may pluginStore plan)
    (sent : ∀ e, c.errand = some e → e.Sent plan) :
    Besides may sys (sys.advanceErrand c plan).1 := by
  unfold advanceErrand
  split
  · next e under =>
    have sent := sent e under
    exact besides_pollErrand allows (by rw [sent.store, sent.planned]; exact permits)
  · have taken : Besides may sys sys.takeTicket.1 := .aside rfl rfl
    exact taken.trans (besides_beginErrand allows permits)

/-! ## Registration -/

theorem storeAt_commit_self (present : place < sys.stores.length) (t : Transaction) :
    (sys.commit place t).storeAt place = ((sys.storeAt place).install t).finishCommit t := by
  unfold commit
  dsimp only
  generalize deliveriesOf place _ t = deliveries
  obtain ⟨stores, -⟩ := deliveries_keep (sys.updateStore place (·.install t)) deliveries
  have still : place <
      (deliveries.foldl deliver (sys.updateStore place (·.install t))).stores.length := by
    rw [stores, length_updateStore]
    exact present
  rw [storeAt_updateStore_self still, storeAt_of_stores stores, storeAt_updateStore_self present]

theorem storeAt_commit_ne {other : Nat} (ne : place ≠ other) (t : Transaction) :
    (sys.commit place t).storeAt other = sys.storeAt other := by
  unfold commit
  dsimp only
  generalize deliveriesOf place _ t = deliveries
  obtain ⟨stores, -⟩ := deliveries_keep (sys.updateStore place (·.install t)) deliveries
  rw [storeAt_updateStore_ne ne, storeAt_of_stores stores, storeAt_updateStore_ne ne]

theorem stores_updateStore_absent (absent : ¬ place < sys.stores.length) (change : Store → Store) :
    (sys.updateStore place change).stores = sys.stores :=
  List.set_eq_of_length_le (Nat.le_of_not_lt absent)

theorem stores_commit_absent (absent : ¬ place < sys.stores.length) (t : Transaction) :
    (sys.commit place t).stores = sys.stores := by
  unfold commit
  dsimp only
  generalize deliveriesOf place _ t = deliveries
  obtain ⟨stores, -⟩ := deliveries_keep (sys.updateStore place (·.install t)) deliveries
  have same := stores.trans (stores_updateStore_absent absent (·.install t))
  rw [stores_updateStore_absent (by rw [same]; exact absent), same]

theorem length_commit (sys : System) (place : Nat) (t : Transaction) :
    (sys.commit place t).stores.length = sys.stores.length := by
  unfold commit
  dsimp only
  generalize deliveriesOf place _ t = deliveries
  obtain ⟨stores, -⟩ := deliveries_keep (sys.updateStore place (·.install t)) deliveries
  rw [length_updateStore, stores, length_updateStore]

/-- A commit changes no trigger. -/
theorem triggers_commit (sys : System) (place : Nat) (t : Transaction) (other : Nat) :
    ((sys.commit place t).storeAt other).triggers = (sys.storeAt other).triggers := by
  by_cases here : place = other
  · subst here
    by_cases present : place < sys.stores.length
    · rw [storeAt_commit_self present]
      obtain ⟨contents, installed⟩ := install_keeps (sys.storeAt place) t
      rw [installed]
      rfl
    · rw [storeAt_of_stores (stores_commit_absent present t)]
  · rw [storeAt_commit_ne here]

theorem watches_of_triggers (same : (sys'.storeAt place).triggers = (sys.storeAt place).triggers) :
    sys'.watches place group = sys.watches place group := by
  unfold watches
  rw [same]

theorem watches_commit (sys : System) (place : Nat) (t : Transaction) (other group : Nat) :
    (sys.commit place t).watches other group = sys.watches other group :=
  watches_of_triggers (triggers_commit sys place t other)

/-- An errand that registers the watch of a group, and has done so if it waits to commit. -/
structure Enrolling (group : Nat) (sys : System) (e : Errand) : Prop where
  sent : e.Sent (.register (.overlapWatch group))
  done : ∀ t outcome, e.stage = .closing t outcome →
    sys.watches pluginStore group = true ∧ ∃ handle, outcome = .handle handle

/-- How far such an errand has come: it waits, or the watch is registered. -/
def Enrolls (group : Nat) : System × Progress → Prop
  | (sys, .waiting e) => Enrolling group sys e
  | (sys, .finished result) => sys.watches pluginStore group = true ∧
    ∃ handle, result = .ok (.handle handle)

theorem register_of_openWrite (s : Store) (ticket : Nat) (listener : Listener) :
    ∃ handle, (Plan.register listener).perform (s.openWrite ticket).1 (s.openWrite ticket).2 =
      .ok ({ (s.openWrite ticket).1 with
        triggers := s.triggers ++ [(s.nextTrigger, listener)]
        nextTrigger := s.nextTrigger + 1 }, (s.openWrite ticket).2, .handle handle) := by
  refine ⟨⟨s.id, s.nextTrigger⟩, ?_⟩
  unfold Plan.perform Store.register Store.draftOf Store.check Store.openWrite
  simp only [if_true]
  rfl

/-- A registration never fails. -/
theorem ok_of_register {listener : Listener} {result : Except Refusal Outcome}
    (plan : e.plan = .register listener) (finished : (sys.pollErrand e).2 = .finished result) :
    ∃ outcome, result = .ok outcome := by
  have writes : e.plan.isWrite = true := by
    rw [plan]
    rfl
  obtain ⟨handle, performed⟩ := register_of_openWrite (sys.storeAt e.store) e.ticket listener
  have performs (finished : (sys.performErrand e).2 = .finished result) :
      ∃ outcome, result = .ok outcome := by
    unfold performErrand at finished
    simp only [writes, if_true] at finished
    simp only [plan, performed] at finished
    split at finished
    · cases finished
      exact ⟨_, rfl⟩
    · cases finished
  unfold pollErrand at finished
  dsimp only at finished
  cases stage : e.stage with
  | opening =>
    rw [stage] at finished
    have turn (held : Bool)
        (finished : (if held then sys.performErrand e else (sys, .waiting e)).2 =
          .finished result) : ∃ outcome, result = .ok outcome := by
      cases held with
      | false => cases finished
      | true => exact performs finished
    exact turn _ finished
  | closing t outcome =>
    rw [stage] at finished
    dsimp only at finished
    split at finished
    · cases finished
      exact ⟨_, rfl⟩
    · cases finished

theorem advanceErrand_register_ok {listener : Listener} {result : Except Refusal Outcome}
    (sent : ∀ e, c.errand = some e → e.Sent (.register listener))
    (finished : (sys.advanceErrand c (.register listener)).2 = .finished result) :
    ∃ outcome, result = .ok outcome := by
  unfold advanceErrand at finished
  split at finished
  · next e under => exact ok_of_register (sent e under).planned finished
  · unfold beginErrand at finished
    exact ok_of_register rfl finished

theorem performErrand_enrolls (enrolling : Enrolling group sys e)
    (present : pluginStore < sys.stores.length) : Enrolls group (sys.performErrand e) := by
  obtain ⟨handle, performed⟩ := register_of_openWrite (sys.storeAt pluginStore) e.ticket
    (.overlapWatch group)
  have writes : e.plan.isWrite = true := by
    rw [enrolling.sent.planned]
    rfl
  unfold performErrand
  simp only [writes, if_true]
  simp only [enrolling.sent.store, enrolling.sent.planned, performed]
  -- The watch is among the triggers before anything is committed.
  have registered (s : Store) (same : s.triggers = (sys.storeAt pluginStore).triggers ++
      [((sys.storeAt pluginStore).nextTrigger, .overlapWatch group)]) :
      (sys.updateStore pluginStore fun _ => s).watches pluginStore group = true := by
    refine watches_iff.2 ⟨(sys.storeAt pluginStore).nextTrigger, ?_⟩
    rw [storeAt_updateStore_self present, same]
    exact List.mem_append_right _ List.mem_cons_self
  split
  · refine ⟨?_, handle, rfl⟩
    rw [watches_commit]
    exact registered _ rfl
  · refine ⟨⟨rfl, rfl, fun never => by cases never⟩, fun t outcome closing =>
      ⟨registered _ rfl, ?_⟩⟩
    cases closing
    exact ⟨handle, rfl⟩

theorem pollErrand_enrolls (enrolling : Enrolling group sys e)
    (present : pluginStore < sys.stores.length) : Enrolls group (sys.pollErrand e) := by
  unfold pollErrand
  dsimp only
  cases stage : e.stage with
  | opening =>
    have turn (held : Bool) :
        Enrolls group (if held then sys.performErrand e else (sys, .waiting e)) := by
      cases held
      · exact enrolling
      · exact performErrand_enrolls enrolling present
    exact turn _
  | closing t outcome =>
    obtain ⟨watched, handle, rfl⟩ := enrolling.done t outcome stage
    dsimp only
    split
    · refine ⟨?_, handle, rfl⟩
      rw [watches_commit]
      exact watched
    · exact enrolling

theorem advanceErrand_enrolls (present : pluginStore < sys.stores.length)
    (enrolling : ∀ e, c.errand = some e → Enrolling group sys e) :
    Enrolls group (sys.advanceErrand c (.register (.overlapWatch group))) := by
  unfold advanceErrand
  split
  · next e under => exact pollErrand_enrolls (enrolling e under) present
  · unfold beginErrand
    refine pollErrand_enrolls ⟨⟨rfl, rfl, fun never => by cases never⟩, fun t outcome never => by
      cases never⟩ ?_
    rw [length_updateStore]
    exact present

/-! ## Reading -/

/-- What a look at some data finds. -/
def Finds (data : Value) (result : Except Refusal Outcome) : Prop :=
  ∀ g : Group, g.followed .checkOverlaps result = g.check (Bundle.rootsIn data)

theorem read_of_openRead (s : Store) (ticket : Nat) (path : Path) :
    (s.openRead ticket).1.read (s.openRead ticket).2 path = Store.lookup s.contents.data path := by
  unfold Store.read Store.check Store.openRead
  rw [if_pos rfl]
  rfl

/-- Whatever is recorded, and also if nothing is. -/
theorem performErrand_finds (sys : System) (sent : e.Sent (.read Bundle.recordsPath)) :
    ∃ result, (sys.performErrand e).2 = .finished result ∧
      Finds (sys.storeAt pluginStore).contents.data result := by
  have reads : e.plan.isWrite = false := by
    rw [sent.planned]
    rfl
  unfold performErrand
  simp only [reads]
  simp only [sent.store, sent.planned]
  unfold Plan.perform
  simp only [Bool.false_eq_true, if_false, read_of_openRead]
  unfold Store.lookup
  cases found : Tree.get? (sys.storeAt pluginStore).contents.data Bundle.recordsPath with
  | some records =>
    refine ⟨_, rfl, fun g => ?_⟩
    unfold Group.followed Bundle.rootsIn
    rw [found]
    rfl
  | none =>
    refine ⟨_, rfl, fun g => ?_⟩
    unfold Group.followed Bundle.rootsIn
    rw [found]

/-- An errand that reads the records leaves no trace, and it finds what is committed. -/
def Looks (sys : System) (polled : System × Progress) : Prop :=
  Untraced sys polled.1 ∧ ∀ result, polled.2 = .finished result →
    Finds (sys.storeAt pluginStore).contents.data result

theorem pollErrand_looks (sys : System) (sent : e.Sent (.read Bundle.recordsPath)) :
    Looks sys (sys.pollErrand e) := by
  have plain : e.plan.isPlain = true := by
    rw [sent.planned]
    rfl
  have reads : e.plan.isWrite = false := by
    rw [sent.planned]
    rfl
  refine ⟨untraced_pollErrand plain (fun _ _ => reads) fun _ => sent.opening rfl, ?_⟩
  intro result finished
  unfold pollErrand at finished
  dsimp only at finished
  rw [sent.opening rfl] at finished
  have turn (held : Bool)
      (finished : (if held then sys.performErrand e else (sys, .waiting e)).2 = .finished result) :
      Finds (sys.storeAt pluginStore).contents.data result := by
    cases held with
    | false => cases finished
    | true =>
      obtain ⟨result', ended, finds⟩ := performErrand_finds sys sent
      cases ended.symm.trans finished
      exact finds
  exact turn _ finished

theorem advanceErrand_looks (sys : System)
    (sent : ∀ e, c.errand = some e → e.Sent (.read Bundle.recordsPath)) :
    Looks sys (sys.advanceErrand c (.read Bundle.recordsPath)) := by
  unfold advanceErrand
  split
  · next e under => exact pollErrand_looks sys (sent e under)
  · unfold beginErrand
    dsimp only
    -- To ask for admission leaves no trace either.
    have asked : Untraced sys ((sys.takeTicket.1).updateStore pluginStore fun s =>
        Store.requestRead s sys.takeTicket.2) := by
      have taken : Untraced sys sys.takeTicket.1 := .aside rfl rfl rfl rfl
      have requested : (sys.takeTicket.1.storeAt pluginStore).Aside
          ((sys.takeTicket.1.storeAt pluginStore).requestRead sys.takeTicket.2) := ⟨rfl, rfl, rfl⟩
      exact taken.trans (untraced_putStore requested)
    have sent : Errand.Sent (.read Bundle.recordsPath)
        ⟨pluginStore, sys.takeTicket.2, .read Bundle.recordsPath, .opening⟩ :=
      ⟨rfl, rfl, fun _ => rfl⟩
    have looks := pollErrand_looks ((sys.takeTicket.1).updateStore pluginStore fun s =>
      Store.requestRead s sys.takeTicket.2) sent
    refine ⟨asked.trans looks.1, fun result finished => ?_⟩
    have finds := looks.2 result finished
    rw [(asked.stores pluginStore).contents] at finds
    exact finds

end System

end DocStore
