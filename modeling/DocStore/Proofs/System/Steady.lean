import DocStore.Proofs.Fallible
import DocStore.System.Call

/-!
# What workers and time leave alone

The calls of a group are about its plugins and about the claims of the store that the plugins work
with. Nothing else than a call changes these: not a transaction, not a commit or what the triggers
make of it, not the worker of a plugin, and not the time that passes.

Results:
  * `steady_beginErrand`, `steady_pollErrand`: a transaction of its own, however far it comes;
  * `steady_runWorker`: whatever a worker is in the middle of;
  * `steady_drain`, `steady_moveTo`: all workers together, and time.
-/

namespace DocStore

/-! ## Holdings -/

/-- What the calls of a group are about: the plugins that it holds, and what is claimed. -/
structure Holding where
  plugins : Dict Plugin
  claims : Dict Path

namespace System

variable {sys : System} {group : Nat} {h : Holding}

/-- In this system the group holds plugins and the store of the plugins has claims. -/
structure Holds (sys : System) (group : Nat) (h : Holding) : Prop where
  present : pluginStore < sys.stores.length
  plugins : ∃ g, sys.groups[group]? = some g ∧ g.plugins = h.plugins
  claims : (sys.storeAt pluginStore).claims = h.claims

/-- The system has moved on, but neither the call under way nor what a group holds. -/
structure Steady (group : Nat) (sys sys' : System) : Prop where
  call : sys'.call = sys.call
  holds : ∀ h, sys.Holds group h → sys'.Holds group h

namespace Steady

variable {a b c : System}

theorem refl (group : Nat) (sys : System) : Steady group sys sys := ⟨rfl, fun _ holds => holds⟩

theorem trans (first : Steady group a b) (next : Steady group b c) : Steady group a c :=
  ⟨next.call.trans first.call, fun h holds => next.holds h (first.holds h holds)⟩

end Steady

/-- Neither the stores nor the groups have changed. -/
theorem steady_of_eq {sys' : System} (call : sys'.call = sys.call) (stores : sys'.stores = sys.stores)
    (groups : sys'.groups = sys.groups) : Steady group sys sys' := by
  refine ⟨call, fun h holds => ⟨?_, ?_, ?_⟩⟩
  · rw [stores]
    exact holds.present
  · rw [groups]
    exact holds.plugins
  · unfold storeAt
    rw [stores]
    exact holds.claims

/-! ## Stores and groups -/

theorem storeAt_updateStore_self {place : Nat} (present : place < sys.stores.length)
    (change : Store → Store) :
    (sys.updateStore place change).storeAt place = change (sys.storeAt place) := by
  unfold updateStore
  simp only [storeAt, List.getElem?_set_self present, Option.getD_some]

theorem storeAt_updateStore_ne {place other : Nat} (ne : place ≠ other) (change : Store → Store) :
    (sys.updateStore place change).storeAt other = sys.storeAt other := by
  unfold updateStore
  simp only [storeAt, List.getElem?_set_ne ne]

theorem length_updateStore (sys : System) (place : Nat) (change : Store → Store) :
    (sys.updateStore place change).stores.length = sys.stores.length :=
  List.length_set

theorem steady_updateStore (group : Nat) (sys : System) (place : Nat) (change : Store → Store)
    (kept : (change (sys.storeAt place)).claims = (sys.storeAt place).claims) :
    Steady group sys (sys.updateStore place change) := by
  refine ⟨rfl, fun h holds => ⟨?_, holds.plugins, ?_⟩⟩
  · rw [length_updateStore]
    exact holds.present
  · by_cases here : place = pluginStore
    · subst here
      rw [storeAt_updateStore_self holds.present, kept]
      exact holds.claims
    · rw [storeAt_updateStore_ne here]
      exact holds.claims

theorem steady_putStore (group : Nat) {place : Nat} {s : Store}
    (kept : s.claims = (sys.storeAt place).claims) :
    Steady group sys (sys.updateStore place fun _ => s) :=
  steady_updateStore group sys place (fun _ => s) kept

theorem steady_updateGroup (group : Nat) (sys : System) (place : Nat) (change : Group → Group)
    (kept : ∀ g, (change g).plugins = g.plugins) :
    Steady group sys (sys.updateGroup place change) := by
  refine ⟨rfl, fun h holds => ⟨holds.present, ?_, holds.claims⟩⟩
  obtain ⟨g, found, plugins⟩ := holds.plugins
  by_cases here : place = group
  · subst here
    refine ⟨change g, ?_, by rw [kept, plugins]⟩
    unfold updateGroup
    rw [List.getElem?_modify_eq, found]
    rfl
  · refine ⟨g, ?_, plugins⟩
    unfold updateGroup
    rw [List.getElem?_modify_ne _ _ here, found]

/-- A look for overlaps is about the report on them. -/
theorem check_keeps (g : Group) (bundles : Dict (List Path)) :
    ∃ overlap status, g.check bundles = { g with overlap, status } := by
  unfold Group.check
  split
  · split <;> exact ⟨_, _, rfl⟩
  · dsimp only
    split <;> exact ⟨_, _, rfl⟩

theorem plugins_check (g : Group) (bundles : Dict (List Path)) :
    (g.check bundles).plugins = g.plugins := by
  obtain ⟨overlap, status, same⟩ := check_keeps g bundles
  rw [same]

/-- The end of a transaction without an effect is about locks. -/
theorem close_keeps (s : Store) (t : Transaction) :
    ∃ state writer, s.close t = { s with state, writer } := by
  unfold Store.close
  split <;> exact ⟨_, _, rfl⟩

theorem claims_close (s : Store) (t : Transaction) : (s.close t).claims = s.claims := by
  obtain ⟨state, writer, same⟩ := close_keeps s t
  rw [same]

/-- What is put in place is contents. -/
theorem install_keeps (s : Store) (t : Transaction) :
    ∃ contents, s.install t = { s with contents } := by
  unfold Store.install
  split <;> exact ⟨_, rfl⟩

theorem claims_install (s : Store) (t : Transaction) : (s.install t).claims = s.claims := by
  obtain ⟨contents, same⟩ := install_keeps s t
  rw [same]

/-! ## Commits -/

/-- Telling a trigger changes no store and no worker, and nobody can go on because of it. -/
theorem deliver_keeps (sys : System) (d : Delivery) :
    (sys.deliver d).stores = sys.stores ∧ (sys.deliver d).workers = sys.workers ∧
      (sys.deliver d).ready = sys.ready := by
  unfold deliver
  split
  · exact ⟨rfl, rfl, rfl⟩
  · unfold watch
    split
    · exact ⟨rfl, rfl, rfl⟩
    · dsimp only
      split <;> exact ⟨rfl, rfl, rfl⟩

theorem deliveries_keep (sys : System) (ds : List Delivery) :
    (ds.foldl deliver sys).stores = sys.stores ∧ (ds.foldl deliver sys).workers = sys.workers ∧
      (ds.foldl deliver sys).ready = sys.ready := by
  induction ds generalizing sys with
  | nil => exact ⟨rfl, rfl, rfl⟩
  | cons d rest ih =>
    obtain ⟨stores, workers, ready⟩ := ih (sys.deliver d)
    obtain ⟨stores', workers', ready'⟩ := deliver_keeps sys d
    exact ⟨stores.trans stores', workers.trans workers', ready.trans ready'⟩

theorem steady_watch (group : Nat) (sys : System) (place : Nat) (d : Delivery) :
    Steady group sys (sys.watch place d) := by
  unfold watch
  cases sys.groups[place]? with
  | none => exact .refl group sys
  | some g =>
    dsimp only
    refine .trans ?_ (steady_updateGroup group _ place _ fun g => plugins_check g _)
    split
    · exact steady_of_eq rfl rfl rfl
    · exact .refl group sys

theorem steady_deliver (group : Nat) (sys : System) (d : Delivery) :
    Steady group sys (sys.deliver d) := by
  unfold deliver
  split
  · exact steady_of_eq rfl rfl rfl
  · exact steady_watch group sys _ d

theorem steady_deliveries (group : Nat) (sys : System) (deliveries : List Delivery) :
    Steady group sys (deliveries.foldl deliver sys) := by
  -- Each trigger works on the system that the triggers before it left.
  induction deliveries generalizing sys with
  | nil => exact .refl group sys
  | cons d rest ih => exact (steady_deliver group sys d).trans (ih (sys.deliver d))

theorem steady_commit (group : Nat) (sys : System) (place : Nat) (t : Transaction) :
    Steady group sys (sys.commit place t) := by
  unfold commit
  dsimp only
  refine (steady_updateStore group sys place (·.install t) (claims_install _ t)).trans ?_
  generalize deliveriesOf place _ t = deliveries
  refine (steady_deliveries group _ deliveries).trans ?_
  exact steady_updateStore group _ place (·.finishCommit t) rfl

/-! ## Errands -/

theorem claims_opened (s : Store) (ticket : Nat) (write : Bool) :
    (if write then s.openWrite ticket else s.openRead ticket).1.claims = s.claims := by
  cases write <;> rfl

theorem eq_of_edited {s s' : Store} {result : Except StoreError Transaction} {t' : Transaction}
    {outcome : Outcome} (ok : Plan.edited s result = .ok (s', t', outcome)) : s' = s := by
  cases result with
  | ok t =>
    cases ok
    rfl
  | error e => cases ok

theorem eq_of_bundled {s s' : Store} {result : Except BundleError Transaction} {t' : Transaction}
    {outcome : Outcome} (ok : Plan.bundled s result = .ok (s', t', outcome)) : s' = s := by
  cases result with
  | ok t =>
    cases ok
    rfl
  | error e => cases ok

/-- What an errand does leaves the claims alone. -/
theorem claims_perform {s s' : Store} {t t' : Transaction} {plan : Plan} {outcome : Outcome}
    (ok : plan.perform s t = .ok (s', t', outcome)) : s'.claims = s.claims := by
  cases plan with
  | read path =>
    unfold Plan.perform at ok
    dsimp only at ok
    split at ok <;> cases ok
    rfl
  | contents =>
    cases ok
    rfl
  | roots =>
    unfold Plan.perform at ok
    dsimp only at ok
    split at ok <;> cases ok
    rfl
  | patch op path value => rw [eq_of_edited ok]
  | activate bundles => rw [eq_of_bundled ok]
  | deactivate names => rw [eq_of_bundled ok]
  | ensure path => rw [eq_of_edited ok]
  | replace path value => rw [eq_of_edited ok]
  | removeAll paths => rw [eq_of_edited ok]
  | register listener =>
    unfold Plan.perform at ok
    dsimp only at ok
    split at ok
    · next registered =>
      cases ok
      obtain ⟨draft, -, added⟩ := bind_ok registered
      cases added
      rfl
    · cases ok
  | unregister handle =>
    unfold Plan.perform at ok
    dsimp only at ok
    split at ok
    · next removed =>
      cases ok
      obtain ⟨draft, -, filtered⟩ := bind_ok removed
      dsimp only at filtered
      split at filtered <;> cases filtered
      rfl
    · cases ok
      rfl

theorem steady_performErrand (group : Nat) (sys : System) (e : Errand) :
    Steady group sys (sys.performErrand e).1 := by
  unfold performErrand
  dsimp only
  -- Whatever becomes of the errand, the store that is put back has the claims of the one before.
  have kept := claims_opened (sys.storeAt e.store) e.ticket e.plan.isWrite
  revert kept
  generalize (if e.plan.isWrite then (sys.storeAt e.store).openWrite e.ticket
    else (sys.storeAt e.store).openRead e.ticket) = opened
  obtain ⟨s, t⟩ := opened
  intro kept
  dsimp only at kept ⊢
  split
  · exact steady_putStore group ((claims_close s t).trans kept)
  · next s' t' outcome ok =>
    have kept := (claims_perform ok).trans kept
    split
    · have asked : Steady group sys (sys.updateStore e.store fun _ => s'.requestCommit e.ticket) :=
        steady_putStore group kept
      split
      · exact asked.trans (steady_commit group _ e.store t')
      · exact asked
    · exact steady_putStore group ((claims_close s' t').trans kept)

theorem steady_pollErrand (group : Nat) (sys : System) (e : Errand) :
    Steady group sys (sys.pollErrand e).1 := by
  unfold pollErrand
  dsimp only
  cases e.stage with
  | opening =>
    have turn (held : Bool) :
        Steady group sys (if held then sys.performErrand e else (sys, .waiting e)).1 := by
      cases held
      · exact .refl group sys
      · exact steady_performErrand group sys e
    exact turn _
  | closing t outcome =>
    dsimp only
    split
    · exact steady_commit group sys _ _
    · exact .refl group sys

theorem steady_beginErrand (group : Nat) (sys : System) (place ticket : Nat) (plan : Plan) :
    Steady group sys (sys.beginErrand place ticket plan).1 := by
  unfold beginErrand
  dsimp only
  refine (steady_updateStore group sys place _ ?_).trans (steady_pollErrand group _ _)
  cases plan.isWrite <;> rfl

/-! ## Workers -/

section Workers

variable (group : Nat) (sys : System) (w : Worker)

theorem steady_finishWorker : Steady group sys (sys.finishWorker w) := steady_of_eq rfl rfl rfl

theorem steady_endTick : Steady group sys (sys.endTick w) := by
  unfold endTick
  dsimp only
  split
  · exact steady_of_eq rfl rfl rfl
  · exact steady_of_eq rfl rfl rfl

theorem steady_afterIngest (progress : Progress) :
    Steady group sys (sys.afterIngest w progress) := by
  cases progress with
  | waiting errand => exact steady_of_eq rfl rfl rfl
  | finished result => exact steady_endTick group sys w

theorem steady_ingest (value : Value) : Steady group sys (sys.ingest w value) := by
  unfold ingest
  dsimp only
  have state : Steady group sys (sys.setState w.state .ingesting) := steady_of_eq rfl rfl rfl
  refine .trans ?_ (steady_afterIngest group _ w _)
  exact state.trans (steady_beginErrand group _ pluginStore w.ticket _)

theorem steady_currentTransform (place : Nat) :
    Steady group sys (sys.currentTransform place).1 := by
  unfold currentTransform
  split
  · exact .refl group sys
  · split
    · exact .refl group sys
    · split
      · exact .refl group sys
      · exact steady_of_eq rfl rfl rfl

theorem steady_transform (place : Nat) (batch previous : Value) :
    Steady group sys (sys.transform w place batch previous) := by
  have prepared := steady_currentTransform group sys place
  unfold transform
  split
  · next found =>
    rw [found] at prepared
    exact prepared.trans (steady_endTick group _ w)
  · next found =>
    rw [found] at prepared
    split
    · exact prepared.trans (steady_endTick group _ w)
    · exact prepared.trans (steady_ingest group _ w _)

theorem steady_afterRead (batch : Value) (progress : Progress) :
    Steady group sys (sys.afterRead w batch progress) := by
  cases progress with
  | waiting errand => exact steady_of_eq rfl rfl rfl
  | finished result =>
    unfold afterRead
    dsimp only
    split
    · exact steady_transform group sys w _ batch _
    · exact steady_endTick group sys w

theorem steady_withBatch (batch : Value) : Steady group sys (sys.withBatch w batch) := by
  unfold withBatch
  split
  · exact steady_ingest group sys w batch
  · dsimp only
    have state : Steady group sys (sys.setState w.state .transforming) := steady_of_eq rfl rfl rfl
    refine .trans ?_ (steady_afterRead group _ w batch _)
    exact state.trans (steady_beginErrand group _ pluginStore w.ticket _)

theorem steady_afterFetch (result : Except PluginError (Option Value)) :
    Steady group sys (sys.afterFetch w result) := by
  unfold afterFetch
  split
  · exact steady_withBatch group sys w _
  · exact steady_endTick group sys w
  · exact steady_endTick group sys w

theorem steady_afterFeed (result : FeedResult) : Steady group sys (sys.afterFeed w result) := by
  cases result with
  | batch value => exact steady_withBatch group sys w value
  | nothing => exact steady_endTick group sys w
  | failure => exact steady_endTick group sys w
  | breakdown => exact steady_of_eq rfl rfl rfl

theorem steady_beginTick : Steady group sys (sys.beginTick w) := by
  unfold beginTick
  dsimp only
  have state : Steady group sys (sys.setState w.state .fetching) := steady_of_eq rfl rfl rfl
  split
  · exact steady_of_eq rfl rfl rfl
  · exact state.trans (steady_afterFetch group _ w _)
  · split
    · refine .trans ?_ (steady_afterFeed group _ w _)
      exact steady_of_eq rfl rfl rfl
    · exact steady_of_eq rfl rfl rfl

theorem steady_load : Steady group sys (sys.load w) := by
  unfold load
  split
  · exact steady_afterFetch group sys _ _
  · exact steady_endTick group sys w

/-- Whatever a worker is in the middle of. -/
theorem steady_runWorker (ticket : Nat) : Steady group sys (sys.runWorker ticket) := by
  unfold runWorker
  split
  · exact .refl group sys
  · next w found =>
    have running : Steady group sys (sys.putWorker { w with phase := .running }) :=
      steady_of_eq rfl rfl rfl
    split
    · exact steady_beginTick group sys w
    · exact steady_afterFeed group sys w _
    · exact steady_load group sys w
    · refine .trans ?_ (steady_afterRead group _ w _ _)
      exact running.trans (steady_pollErrand group _ _)
    · refine .trans ?_ (steady_afterIngest group _ w _)
      exact running.trans (steady_pollErrand group _ _)
    · split
      · exact steady_finishWorker group sys w
      · exact steady_beginTick group sys w
    · exact .refl group sys
    · exact .refl group sys

theorem steady_requestExit (ticket : Nat) : Steady group sys (sys.requestExit ticket) := by
  unfold requestExit
  split
  · exact .refl group sys
  · dsimp only
    split
    · exact steady_of_eq rfl rfl rfl
    · exact steady_of_eq rfl rfl rfl

end Workers

/-! ## Time -/

theorem steady_drainWith (group fuel : Nat) (sys : System) :
    Steady group sys (drainWith fuel sys) := by
  induction fuel generalizing sys with
  | zero => exact .refl group sys
  | succ fuel ih =>
    unfold drainWith
    split
    · exact .refl group sys
    · next ticket rest called =>
      have popped : Steady group sys { sys with ready := rest } := steady_of_eq rfl rfl rfl
      exact (popped.trans (steady_runWorker group _ ticket)).trans (ih _)

theorem steady_drain (group : Nat) (sys : System) : Steady group sys sys.drain :=
  steady_drainWith group _ sys

theorem steady_moveTo (group : Nat) (sys : System) (time : Nat) :
    Steady group sys (sys.moveTo time) :=
  steady_of_eq rfl rfl rfl

end System

end DocStore
