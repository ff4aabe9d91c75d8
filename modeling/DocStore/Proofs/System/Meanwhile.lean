import DocStore.Proofs.System.Failures
import Mathlib.Logic.Relation

/-!
# What goes on beside a call

While a call of a group is under way, and between two calls, workers have their turns, others work in
transactions of their own, and time passes. For the stores and the groups that is a row of three kinds
of steps: something that is no business of either, a store that changes without its contents, and a
commit.

Results:
  * `besides_performErrand`, `besides_pollErrand`, `besides_beginErrand`: an errand is such a row;
  * `turns_runWorker`, `turns_drain`: so are the turns of workers;
  * `check_eq`, `group_commit`, `group_beside`: what such a step makes of a group.
-/

namespace DocStore

/-- What a look for overlaps finds: the message of all of them, if there are any. -/
def Group.finding (active : Dict ActivePlugin) (bundles : Dict (List Path)) : Option String :=
  match Group.conflicts active bundles with
  | [] => none
  | found => some ("; ".intercalate found)

/-- The report on what was found. -/
def Status.ofFinding : Option String → Status
  | none => ⟨.ok, none⟩
  | some message => ⟨.error, some message⟩

/-- The store changes, but neither its contents nor its claims nor the watches among its triggers. -/
structure Store.Spares (s s' : Store) : Prop where
  contents : s'.contents = s.contents
  claims : s'.claims = s.claims
  watches : ∀ id group, (id, .overlapWatch group) ∈ s'.triggers ↔
    (id, .overlapWatch group) ∈ s.triggers

namespace System

/-! ## Steps -/

/-- One step beside a call, where stores may change in some ways without a commit. -/
inductive Beside (may : Nat → Store → Store → Prop) (sys : System) : System → Prop
  | aside (sys' : System) (stores : sys'.stores = sys.stores) (groups : sys'.groups = sys.groups) :
      Beside may sys sys'
  | store (place : Nat) (change : Store → Store)
      (kept : may place (sys.storeAt place) (change (sys.storeAt place))) :
      Beside may sys (sys.updateStore place change)
  | commit (place : Nat) (t : Transaction) : Beside may sys (sys.commit place t)

/-- A row of such steps. -/
abbrev Besides (may : Nat → Store → Store → Prop) : System → System → Prop :=
  Relation.ReflTransGen (Beside may)

/-- Nobody beside a call claims a path or watches for overlaps. -/
def quietly (_ : Nat) (s s' : Store) : Prop := s.Spares s'

/-- Locks and numbers of transactions always change, and one change may follow another. -/
structure Allows (may : Nat → Store → Store → Prop) : Prop where
  aside : ∀ {place : Nat} {s s' : Store}, s.Aside s' → may place s s'
  trans : ∀ {place : Nat} {a b c : Store}, may place a b → may place b c → may place a c

theorem Store.Aside.spares {s s' : Store} (aside : s.Aside s') : s.Spares s' :=
  ⟨aside.contents, aside.claims, fun id group => by rw [aside.triggers]⟩

theorem allows_quietly : Allows quietly where
  aside aside := Store.Aside.spares aside
  trans first next :=
    ⟨next.contents.trans first.contents, next.claims.trans first.claims,
      fun id group => (next.watches id group).trans (first.watches id group)⟩

variable {may : Nat → Store → Store → Prop} {sys sys' : System} {e : Errand} {plan : Plan}
  {place ticket group : Nat} {g : Group} {w : Worker}

theorem Besides.aside (stores : sys'.stores = sys.stores) (groups : sys'.groups = sys.groups) :
    Besides may sys sys' :=
  .single (.aside sys' stores groups)

theorem besides_putStore {s : Store} (kept : may place (sys.storeAt place) s) :
    Besides may sys (sys.updateStore place fun _ => s) :=
  .single (.store place (fun _ => s) kept)

/-! ## Errands -/

/-- What an errand with some plan does to a store before its commit is among what stores may do. -/
def Permits (may : Nat → Store → Store → Prop) (place : Nat) (plan : Plan) : Prop :=
  ∀ {s s' : Store} {t t' : Transaction} {outcome : Outcome},
    plan.perform s t = .ok (s', t', outcome) → may place s s'

theorem permits_plain (allows : Allows may) (plain : plan.isPlain = true) :
    Permits may place plan := by
  intro s s' t t' outcome ok
  rw [Plan.perform_plain plain ok]
  exact allows.aside ⟨rfl, rfl, rfl⟩

theorem besides_performErrand (allows : Allows may) (permits : Permits may e.store e.plan) :
    Besides may sys (sys.performErrand e).1 := by
  unfold performErrand
  dsimp only
  have opened : (sys.storeAt e.store).Aside (if e.plan.isWrite then
      (sys.storeAt e.store).openWrite e.ticket else (sys.storeAt e.store).openRead e.ticket).1 := by
    cases e.plan.isWrite <;> exact ⟨rfl, rfl, rfl⟩
  revert opened
  generalize (if e.plan.isWrite then (sys.storeAt e.store).openWrite e.ticket
    else (sys.storeAt e.store).openRead e.ticket) = pair
  obtain ⟨s, t⟩ := pair
  intro opened
  dsimp only at opened ⊢
  have closed (s : Store) (t : Transaction) : s.Aside (s.close t) := by
    obtain ⟨state, writer, same⟩ := close_keeps s t
    rw [same]
    exact ⟨rfl, rfl, rfl⟩
  split
  · exact besides_putStore (allows.trans (allows.aside opened) (allows.aside (closed s t)))
  · next s' t' outcome ok =>
    have performed := allows.trans (allows.aside opened) (permits ok)
    split
    · have asked : Besides may sys (sys.updateStore e.store fun _ => s'.requestCommit e.ticket) :=
        besides_putStore (allows.trans performed (allows.aside ⟨rfl, rfl, rfl⟩))
      split
      · exact asked.tail (.commit _ _)
      · exact asked
    · exact besides_putStore (allows.trans performed (allows.aside (closed s' t')))

theorem besides_pollErrand (allows : Allows may) (permits : Permits may e.store e.plan) :
    Besides may sys (sys.pollErrand e).1 := by
  unfold pollErrand
  dsimp only
  cases e.stage with
  | opening =>
    have turn (held : Bool) :
        Besides may sys (if held then sys.performErrand e else (sys, .waiting e)).1 := by
      cases held
      · exact .refl
      · exact besides_performErrand allows permits
    exact turn _
  | closing t outcome =>
    dsimp only
    split
    · exact .single (.commit _ _)
    · exact .refl

theorem besides_beginErrand (allows : Allows may) (permits : Permits may place plan) :
    Besides may sys (sys.beginErrand place ticket plan).1 := by
  unfold beginErrand
  dsimp only
  refine .trans (.single (.store place _ ?_)) (besides_pollErrand allows permits)
  refine allows.aside ?_
  cases plan.isWrite <;> exact ⟨rfl, rfl, rfl⟩

/-! ## Workers -/

/-- Every worker is on an errand of a tick, or on none. -/
def OnErrands (sys : System) : Prop := ∀ w ∈ sys.workers, OnErrand w.phase

/-- Workers have had their turns. -/
structure Turns (sys sys' : System) : Prop where
  besides : Besides quietly sys sys'
  errands : sys.OnErrands → sys'.OnErrands

namespace Turns

theorem refl (sys : System) : Turns sys sys := ⟨.refl, id⟩

theorem trans {a b c : System} (first : Turns a b) (next : Turns b c) : Turns a c :=
  ⟨first.besides.trans next.besides, fun errands => next.errands (first.errands errands)⟩

theorem aside (stores : sys'.stores = sys.stores) (groups : sys'.groups = sys.groups)
    (workers : sys'.workers = sys.workers) : Turns sys sys' := by
  refine ⟨.aside stores groups, fun errands => ?_⟩
  unfold OnErrands
  rw [workers]
  exact errands

end Turns

theorem turns_putWorker (fits : OnErrand w.phase) : Turns sys (sys.putWorker w) := by
  refine ⟨.aside rfl rfl, fun errands w' present => ?_⟩
  obtain ⟨other, isWorker, rfl⟩ := List.mem_map.1 present
  split
  · exact fits
  · exact errands other isWorker

theorem workers_performErrand (sys : System) (e : Errand) :
    (sys.performErrand e).1.workers = sys.workers := by
  unfold performErrand
  dsimp only
  split
  · rfl
  · split
    · split
      · exact workers_commit _ _ _
      · rfl
    · rfl

theorem workers_pollErrand (sys : System) (e : Errand) :
    (sys.pollErrand e).1.workers = sys.workers := by
  unfold pollErrand
  dsimp only
  cases e.stage with
  | opening =>
    have turn (held : Bool) :
        (if held then sys.performErrand e else (sys, .waiting e)).1.workers = sys.workers := by
      cases held
      · rfl
      · exact workers_performErrand sys e
    exact turn _
  | closing t outcome =>
    dsimp only
    split
    · exact workers_commit _ _ _
    · rfl

theorem turns_pollErrand (plain : e.plan.isPlain = true) : Turns sys (sys.pollErrand e).1 := by
  refine ⟨besides_pollErrand allows_quietly (permits_plain allows_quietly plain), fun errands => ?_⟩
  unfold OnErrands
  rw [workers_pollErrand]
  exact errands

theorem turns_beginErrand (plain : plan.isPlain = true) :
    Turns sys (sys.beginErrand place ticket plan).1 := by
  refine ⟨besides_beginErrand allows_quietly (permits_plain allows_quietly plain), fun errands => ?_⟩
  unfold OnErrands beginErrand
  dsimp only
  rw [workers_pollErrand]
  exact errands

section Workers

theorem turns_finishWorker (sys : System) (w : Worker) : Turns sys (sys.finishWorker w) := by
  have stopped : Turns sys (sys.setState w.state .stopped) := .aside rfl rfl rfl
  exact stopped.trans (turns_putWorker (w := { w with phase := .finished }) trivial)

theorem turns_endTick (sys : System) (w : Worker) : Turns sys (sys.endTick w) := by
  have polling : Turns sys (sys.setState w.state .polling) := .aside rfl rfl rfl
  unfold endTick
  dsimp only
  split
  · exact polling.trans (turns_finishWorker _ w)
  · have timed : Turns (sys.setState w.state .polling)
        ((sys.setState w.state .polling).setTimer w.interval w.ticket) := .aside rfl rfl rfl
    exact (polling.trans timed).trans (turns_putWorker (w := { w with phase := .sleeping }) trivial)

/-- A worker goes on with the progress of an errand that stores. -/
theorem turns_afterIngest {progress : Progress}
    (waits : ∀ e, progress = .waiting e → e.plan.isPlain = true ∧ e.plan.isWrite = true) :
    Turns sys (sys.afterIngest w progress) := by
  cases progress with
  | waiting e => exact turns_putWorker (w := { w with phase := .ingesting e }) (waits e rfl)
  | finished result => exact turns_endTick sys w

theorem turns_ingest (sys : System) (w : Worker) (value : Value) : Turns sys (sys.ingest w value) := by
  have state : Turns sys (sys.setState w.state .ingesting) := .aside rfl rfl rfl
  have begun : Turns _ ((sys.setState w.state .ingesting).beginErrand pluginStore w.ticket
      (.replace w.path value)).1 := turns_beginErrand rfl
  unfold ingest
  dsimp only
  refine (state.trans begun).trans (turns_afterIngest fun e waits => ?_)
  rw [(follows_pollErrand waits).plan]
  exact ⟨rfl, rfl⟩

theorem turns_currentTransform (sys : System) (place : Nat) :
    Turns sys (sys.currentTransform place).1 := by
  obtain ⟨engine, slots, same⟩ := currentTransform_keeps sys place
  rw [same]
  exact .aside rfl rfl rfl

theorem turns_transform (sys : System) (w : Worker) (place : Nat) (batch previous : Value) :
    Turns sys (sys.transform w place batch previous) := by
  have taken := turns_currentTransform sys place
  unfold transform
  split
  · next found =>
    rw [found] at taken
    exact taken.trans (turns_endTick _ w)
  · next found =>
    rw [found] at taken
    split
    · exact taken.trans (turns_endTick _ w)
    · exact taken.trans (turns_ingest _ w _)

/-- A worker goes on with the progress of an errand that reads. -/
theorem turns_afterRead {batch : Value} {progress : Progress}
    (waits : ∀ e, progress = .waiting e → OnErrand (.reading batch e)) :
    Turns sys (sys.afterRead w batch progress) := by
  cases progress with
  | waiting e => exact turns_putWorker (w := { w with phase := .reading batch e }) (waits e rfl)
  | finished result =>
    unfold afterRead
    dsimp only
    split
    · exact turns_transform sys w _ batch _
    · exact turns_endTick sys w

theorem turns_withBatch (sys : System) (w : Worker) (batch : Value) :
    Turns sys (sys.withBatch w batch) := by
  unfold withBatch
  split
  · exact turns_ingest sys w batch
  · have state : Turns sys (sys.setState w.state .transforming) := .aside rfl rfl rfl
    have begun : Turns _ ((sys.setState w.state .transforming).beginErrand pluginStore w.ticket
        (.read w.path)).1 := turns_beginErrand rfl
    dsimp only
    refine (state.trans begun).trans (turns_afterRead fun e waits => ?_)
    have follows := follows_pollErrand waits
    refine ⟨?_, ?_, follows.opening rfl rfl⟩ <;> rw [follows.plan] <;> rfl

theorem turns_afterFetch (sys : System) (w : Worker) (result : Except PluginError (Option Value)) :
    Turns sys (sys.afterFetch w result) := by
  unfold afterFetch
  split
  · exact turns_withBatch sys w _
  · exact turns_endTick sys w
  · exact turns_endTick sys w

theorem turns_afterFeed (sys : System) (w : Worker) (result : FeedResult) :
    Turns sys (sys.afterFeed w result) := by
  cases result with
  | batch value => exact turns_withBatch sys w value
  | nothing => exact turns_endTick sys w
  | failure => exact turns_endTick sys w
  | breakdown => exact turns_putWorker (w := { w with phase := .finished }) trivial

theorem turns_beginTick (sys : System) (w : Worker) : Turns sys (sys.beginTick w) := by
  have state : Turns sys (sys.setState w.state .fetching) := .aside rfl rfl rfl
  unfold beginTick
  dsimp only
  split
  · have loading : Turns _ ((sys.setState w.state .fetching).putWorker { w with phase := .loading }) :=
      turns_putWorker trivial
    exact (state.trans loading).trans (.aside rfl rfl rfl)
  · exact state.trans (turns_afterFetch _ w _)
  · have fetched (feeds : Dict Feed) :
        Turns sys { sys.setState w.state .fetching with feeds } := .aside rfl rfl rfl
    split
    · exact (fetched _).trans (turns_afterFeed _ w _)
    · refine .trans ?_ (turns_putWorker (w := { w with phase := .fetching _ }) trivial)
      exact .aside rfl rfl rfl

theorem turns_load (sys : System) (w : Worker) : Turns sys (sys.load w) := by
  unfold load
  split
  · exact turns_afterFetch sys _ _
  · exact turns_endTick sys w

/-- Whatever a worker is in the middle of. -/
theorem turns_runWorker (errands : sys.OnErrands) (ticket : Nat) :
    Turns sys (sys.runWorker ticket) := by
  unfold runWorker
  split
  · exact .refl sys
  · next w found =>
    have fits : OnErrand w.phase := errands w (List.mem_of_find?_eq_some found)
    have running : Turns sys (sys.putWorker { w with phase := .running }) :=
      turns_putWorker (w := { w with phase := .running }) trivial
    split
    · exact turns_beginTick sys w
    · exact turns_afterFeed sys w _
    · exact turns_load sys w
    · next batch e phase =>
      rw [phase] at fits
      obtain ⟨plain, reads, opening⟩ := fits
      refine (running.trans (turns_pollErrand plain)).trans (turns_afterRead fun e' waits => ?_)
      have follows := follows_pollErrand waits
      refine ⟨?_, ?_, follows.opening reads opening⟩ <;> rw [follows.plan] <;> assumption
    · next e phase =>
      rw [phase] at fits
      obtain ⟨plain, writes⟩ := fits
      refine (running.trans (turns_pollErrand plain)).trans (turns_afterIngest fun e' waits => ?_)
      rw [(follows_pollErrand waits).plan]
      exact ⟨plain, writes⟩
    · split
      · exact turns_finishWorker sys w
      · exact turns_beginTick sys w
    · exact .refl sys
    · exact .refl sys

theorem turns_drainWith (fuel : Nat) (errands : sys.OnErrands) :
    Turns sys (drainWith fuel sys) := by
  induction fuel generalizing sys with
  | zero => exact .refl sys
  | succ fuel ih =>
    unfold drainWith
    split
    · exact .refl sys
    · next ticket rest called =>
      have popped : Turns sys { sys with ready := rest } := .aside rfl rfl rfl
      have turn := popped.trans (turns_runWorker (popped.errands errands) ticket)
      exact turn.trans (ih (turn.errands errands))

theorem turns_drain (errands : sys.OnErrands) : Turns sys sys.drain := turns_drainWith _ errands

theorem turns_moveTo (sys : System) (time : Nat) : Turns sys (sys.moveTo time) := .aside rfl rfl rfl

end Workers

/-! ## Groups -/

/-- The watch of a group is among the triggers of a store. -/
def watches (sys : System) (place group : Nat) : Bool :=
  (sys.storeAt place).triggers.any fun trigger => trigger.2 = .overlapWatch group

theorem watches_iff : sys.watches place group = true ↔
    ∃ id, (id, .overlapWatch group) ∈ (sys.storeAt place).triggers := by
  unfold watches
  rw [List.any_eq_true]
  constructor
  · rintro ⟨⟨id, listener⟩, present, same⟩
    cases of_decide_eq_true same
    exact ⟨id, present⟩
  · rintro ⟨id, present⟩
    exact ⟨_, present, decide_eq_true rfl⟩

/-- A look for overlaps reports what it finds, unless that is reported already. -/
theorem check_eq (g : Group) (bundles : Dict (List Path)) : g.check bundles =
    if g.overlap = Group.finding g.active bundles then g
    else { g with
      overlap := Group.finding g.active bundles
      status := .ofFinding (Group.finding g.active bundles) } := by
  unfold Group.check Group.finding
  cases Group.conflicts g.active bundles with
  | nil =>
    dsimp only
    cases overlap : g.overlap <;> simp [Status.ofFinding]
  | cons first rest => rfl

/-- A second look at the same finds nothing new. -/
theorem check_check (g : Group) (bundles : Dict (List Path)) :
    (g.check bundles).check bundles = g.check bundles := by
  obtain ⟨overlap, status, same⟩ := check_keeps g bundles
  have active : (g.check bundles).active = g.active := by rw [same]
  rw [check_eq (g.check bundles), active, if_pos]
  rw [check_eq]
  split
  · assumption
  · rfl

theorem group_updateGroup (found : sys.groups[group]? = some g) (other : Nat)
    (change : Group → Group) : (sys.updateGroup other change).groups[group]? =
      some (if other = group then change g else g) := by
  unfold updateGroup
  rw [List.getElem?_modify, found]
  rfl

/-- What telling a trigger makes of a group. -/
theorem group_deliver (found : sys.groups[group]? = some g) (d : Delivery) :
    (sys.deliver d).groups[group]? =
      some (if d.listener = .overlapWatch group then g.check (Bundle.rootsIn d.contents.data)
        else g) := by
  unfold deliver
  split
  · next store tag told =>
    rw [told, if_neg (by simp)]
    exact found
  · next other told =>
    rw [told]
    unfold watch
    -- Marking transforms as stale is nothing to a group.
    have kept (marked : Group) : (sys.markStale marked).groups[group]? = some g := found
    by_cases here : other = group
    · subst here
      rw [found, if_pos rfl]
      dsimp only
      split
      · rw [group_updateGroup (kept g), if_pos rfl]
      · rw [group_updateGroup found, if_pos rfl]
    · have ne : Listener.overlapWatch other ≠ .overlapWatch group := fun same => by
        cases same
        exact here rfl
      rw [if_neg ne]
      split
      · exact found
      · dsimp only
        split
        · rw [group_updateGroup (kept _), if_neg here]
        · rw [group_updateGroup found, if_neg here]

/-- Triggers that are told of the same contents look at a group once, or not at all. -/
theorem group_deliveries {ds : List Delivery} {c : Contents} (same : ∀ d ∈ ds, d.contents = c)
    (found : sys.groups[group]? = some g) : (ds.foldl deliver sys).groups[group]? =
      some (if ds.any (fun d => d.listener = .overlapWatch group) then
        g.check (Bundle.rootsIn c.data) else g) := by
  induction ds generalizing sys g with
  | nil => exact found
  | cons d rest ih =>
    have told := group_deliver found d
    rw [same d List.mem_cons_self] at told
    rw [List.foldl_cons, ih (fun other later => same other (List.mem_cons_of_mem d later)) told,
      List.any_cons]
    by_cases mine : d.listener = .overlapWatch group
    · simp only [mine, if_true, decide_true, Bool.true_or, check_check, ite_self]
    · simp only [mine, if_false, decide_false, Bool.false_or]

/-- What a commit makes of a group: a look for overlaps with what is committed, if its watch is among
the triggers. -/
theorem group_commit (found : sys.groups[group]? = some g) (place : Nat) (t : Transaction) :
    (sys.commit place t).groups[group]? = some (if sys.watches place group then
      g.check (Bundle.rootsIn ((sys.storeAt place).install t).contents.data) else g) := by
  unfold commit
  dsimp only
  show (List.foldl deliver _ _).groups[group]? = _
  by_cases present : place < sys.stores.length
  · rw [storeAt_updateStore_self present]
    obtain ⟨contents, installed⟩ := install_keeps (sys.storeAt place) t
    have same : ∀ d ∈ deliveriesOf place ((sys.storeAt place).install t) t,
        d.contents = ((sys.storeAt place).install t).contents := by
      intro d told
      obtain ⟨trigger, -, rfl⟩ := List.mem_map.1 told
      rfl
    have kept : (sys.updateStore place (·.install t)).groups[group]? = some g := found
    rw [group_deliveries same kept]
    unfold watches deliveriesOf
    rw [List.any_map, installed]
    rfl
  · have nothing : sys.stores[place]? = none := List.getElem?_eq_none (Nat.le_of_not_lt present)
    have same : (sys.updateStore place (·.install t)).stores = sys.stores :=
      List.set_eq_of_length_le (Nat.le_of_not_lt present)
    rw [storeAt_of_stores same]
    unfold watches storeAt
    rw [nothing]
    exact found

/-- A step beside a call is about the report on overlaps. -/
theorem group_beside (beside : Beside may sys sys') (found : sys.groups[group]? = some g) :
    ∃ overlap status, sys'.groups[group]? = some { g with overlap, status } := by
  cases beside with
  | aside _ _ groups => exact ⟨_, _, by rw [groups, found]⟩
  | store => exact ⟨_, _, found⟩
  | commit place t =>
    rw [group_commit found]
    split
    · obtain ⟨overlap, status, same⟩ := check_keeps g _
      exact ⟨overlap, status, by rw [same]⟩
    · exact ⟨_, _, rfl⟩

end System

end DocStore
