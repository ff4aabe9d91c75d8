import DocStore.Proofs.Store.Isolation
import DocStore.Proofs.System.Steady

/-!
# What happens in the system

Whatever goes on in the system is a row of moves: a store changes without its contents, a transaction
commits, the record of a worker is put back, a worker is brought up or asked to finish, a transform is
prepared or taken out of its slot, or something happens that is no business of stores, workers and
slots. A row of moves says which workers act in it, and keeps a log of what concerns transforms.

Results:
  * `goes_commit`, `goes_beginErrand`, `goes_pollErrand`: transactions;
  * `goes_runWorker`: the turn of a worker is a row of moves in which nobody else acts;
  * `goes_pollCall`: a call is a row of moves in which no worker acts;
  * `goes_drain`, `goes_pass`, `goes_makeCall`: all of it together.
-/

namespace DocStore

/-! ## Moves -/

/-- What concerns the transforms of plugins: the rule of a slot was prepared, or policies changed and
some slots were told. -/
inductive SlotEvent
  | prepared (place : Nat) (transform : Transform)
  | changed (told : List Nat)

namespace System

/-- The slots that a trigger of the system is about. -/
def slotsOf (sys : System) : Listener → List Nat
  | .probe .. => []
  | .overlapWatch group =>
    match sys.groups[group]? with
    | some g => g.active.filterMap (·.2.slot)
    | none => []

/-- The slots that are told when the store of the plugins commits a change of policies: those of the
plugins that a registered watch knows to run. -/
def watched (sys : System) : List Nat :=
  (sys.storeAt pluginStore).triggers.flatMap fun (_, listener) => sys.slotsOf listener

/-- What a commit means for transforms. -/
def commitLog (sys : System) (place : Nat) (t : Transaction) : List SlotEvent :=
  if place = pluginStore ∧ t.changes.policyChanged = true then [.changed sys.watched] else []

/-- The transform of a slot that is still good. -/
def prepared? (sys : System) (place : Nat) : Option Transform :=
  (sys.slots[place]?).bind (·.prepared)

/-- What it means for transforms when a tick asks for the one of its slot. -/
def takeLog (sys : System) (place : Nat) : List SlotEvent :=
  match sys.prepared? place, (sys.currentTransform place).2 with
  | none, .ok transform => [.prepared place transform]
  | _, _ => []

/-- What it means for transforms when a plugin is started. -/
def prepareLog (sys : System) : Option RuleRef → List SlotEvent
  | none => []
  | some rule =>
    match sys.engine.prepare rule with
    | .ok (_, transform) => [.prepared sys.slots.length transform]
    | .error _ => []

/-- One move of the system, with what it means for transforms. The records of workers are put back
under the tickets of those that act. -/
inductive Move (acts : Nat → Prop) (sys : System) : List SlotEvent → System → Prop
  | aside (sys' : System) (stores : sys'.stores = sys.stores) (workers : sys'.workers = sys.workers)
      (slots : sys'.slots = sys.slots) : Move acts sys [] sys'
  | store (place : Nat) (change : Store → Store)
      (kept : (change (sys.storeAt place)).contents = (sys.storeAt place).contents) :
      Move acts sys [] (sys.updateStore place change)
  | commit (place : Nat) (t : Transaction) : Move acts sys (sys.commitLog place t) (sys.commit place t)
  | worker (w : Worker) (mine : acts w.ticket) : Move acts sys [] (sys.putWorker w)
  | ask (w : Worker) (found : sys.worker? w.ticket = some w) :
      Move acts sys [] (sys.putWorker { w with exit := true })
  | bringUp (w : Worker) : Move acts sys [] { sys with workers := sys.workers ++ [w] }
  | take (place : Nat) : Move acts sys (sys.takeLog place) (sys.currentTransform place).1
  | prepare (rule : Option RuleRef) : Move acts sys (sys.prepareLog rule) (sys.prepareSlot rule).1

/-- Moves one after the other, with their log. -/
inductive Moves (acts : Nat → Prop) (start : System) : List SlotEvent → System → Prop
  | none : Moves acts start [] start
  | next {log more : List SlotEvent} {sys sys' : System} (before : Moves acts start log sys)
      (move : Move acts sys more sys') : Moves acts start (log ++ more) sys'

variable {acts : Nat → Prop} {sys sys' : System} {w : Worker}

theorem Moves.of_move {log : List SlotEvent} (move : Move acts sys log sys') :
    Moves acts sys log sys' := by
  have moves := Moves.none.next move
  rwa [List.nil_append] at moves

theorem Moves.trans {a b c : System} {log more : List SlotEvent} (first : Moves acts a log b)
    (second : Moves acts b more c) : Moves acts a (log ++ more) c := by
  induction second with
  | none =>
    rw [List.append_nil]
    exact first
  | next _ move ih =>
    rw [← List.append_assoc]
    exact ih.next move

/-- Some moves lead from one system to the other. -/
def Goes (acts : Nat → Prop) (sys sys' : System) : Prop := ∃ log, Moves acts sys log sys'

namespace Goes

theorem refl (sys : System) : Goes acts sys sys := ⟨[], .none⟩

theorem trans {a b c : System} (first : Goes acts a b) (second : Goes acts b c) : Goes acts a c := by
  obtain ⟨log, moves⟩ := first
  obtain ⟨more, others⟩ := second
  exact ⟨log ++ more, moves.trans others⟩

theorem of_move {log : List SlotEvent} (move : Move acts sys log sys') : Goes acts sys sys' :=
  ⟨log, .of_move move⟩

theorem aside (stores : sys'.stores = sys.stores) (workers : sys'.workers = sys.workers)
    (slots : sys'.slots = sys.slots) : Goes acts sys sys' :=
  of_move (.aside sys' stores workers slots)

/-- Whoever may act in a row of moves, more may act in it. -/
theorem mono {acts' : Nat → Prop} (goes : Goes acts sys sys') (more : ∀ n, acts n → acts' n) :
    Goes acts' sys sys' := by
  obtain ⟨log, moves⟩ := goes
  refine ⟨log, ?_⟩
  induction moves with
  | none => exact .none
  | next _ move ih =>
    refine ih.next ?_
    cases move with
    | aside _ stores workers slots => exact .aside _ stores workers slots
    | store place change kept => exact .store place change kept
    | commit place t => exact .commit place t
    | worker w mine => exact .worker w (more _ mine)
    | ask w found => exact .ask w found
    | bringUp w => exact .bringUp w
    | take place => exact .take place
    | prepare rule => exact .prepare rule

end Goes

/-! ## Transactions -/

theorem goes_putStore {place : Nat} {s : Store}
    (kept : s.contents = (sys.storeAt place).contents) :
    Goes acts sys (sys.updateStore place fun _ => s) :=
  .of_move (.store place (fun _ => s) kept)

theorem goes_commit (sys : System) (place : Nat) (t : Transaction) :
    Goes acts sys (sys.commit place t) :=
  .of_move (.commit place t)

theorem contents_close (s : Store) (t : Transaction) : (s.close t).contents = s.contents := by
  obtain ⟨state, writer, same⟩ := close_keeps s t
  rw [same]

/-- What an errand does in its transaction leaves the store as it is, but for triggers. -/
theorem perform_keeps {s s' : Store} {t t' : Transaction} {plan : Plan} {outcome : Outcome}
    (ok : plan.perform s t = .ok (s', t', outcome)) :
    ∃ triggers next, s' = { s with triggers, nextTrigger := next } := by
  cases plan with
  | read path =>
    unfold Plan.perform at ok
    dsimp only at ok
    split at ok <;> cases ok
    exact ⟨_, _, rfl⟩
  | contents =>
    cases ok
    exact ⟨_, _, rfl⟩
  | roots =>
    unfold Plan.perform at ok
    dsimp only at ok
    split at ok <;> cases ok
    exact ⟨_, _, rfl⟩
  | patch op path value => exact ⟨_, _, eq_of_edited ok⟩
  | activate bundles => exact ⟨_, _, eq_of_bundled ok⟩
  | deactivate names => exact ⟨_, _, eq_of_bundled ok⟩
  | ensure path => exact ⟨_, _, eq_of_edited ok⟩
  | replace path value => exact ⟨_, _, eq_of_edited ok⟩
  | removeAll paths => exact ⟨_, _, eq_of_edited ok⟩
  | register listener =>
    unfold Plan.perform at ok
    dsimp only at ok
    split at ok
    · next registered =>
      cases ok
      exact Schedule.register_keeps registered
    · cases ok
  | unregister handle =>
    unfold Plan.perform at ok
    dsimp only at ok
    split at ok
    · next removed =>
      cases ok
      obtain ⟨triggers, same⟩ := Schedule.unregister_keeps removed
      exact ⟨triggers, _, same⟩
    · cases ok
      exact ⟨_, _, rfl⟩

theorem goes_performErrand (sys : System) (e : Errand) : Goes acts sys (sys.performErrand e).1 := by
  unfold performErrand
  dsimp only
  -- Nothing is in place before the commit, whatever becomes of the errand.
  have opened : (if e.plan.isWrite then (sys.storeAt e.store).openWrite e.ticket
      else (sys.storeAt e.store).openRead e.ticket).1.contents = (sys.storeAt e.store).contents := by
    cases e.plan.isWrite <;> rfl
  revert opened
  generalize (if e.plan.isWrite then (sys.storeAt e.store).openWrite e.ticket
    else (sys.storeAt e.store).openRead e.ticket) = pair
  obtain ⟨s, t⟩ := pair
  intro opened
  dsimp only at opened ⊢
  split
  · exact goes_putStore ((contents_close s t).trans opened)
  · next s' t' outcome ok =>
    have kept : s'.contents = (sys.storeAt e.store).contents := by
      obtain ⟨_, _, rfl⟩ := perform_keeps ok
      exact opened
    split
    · have asked : Goes acts sys (sys.updateStore e.store fun _ => s'.requestCommit e.ticket) :=
        goes_putStore kept
      split
      · exact asked.trans (goes_commit _ e.store t')
      · exact asked
    · exact goes_putStore ((contents_close s' t').trans kept)

theorem goes_pollErrand (sys : System) (e : Errand) : Goes acts sys (sys.pollErrand e).1 := by
  unfold pollErrand
  dsimp only
  cases e.stage with
  | opening =>
    have turn (held : Bool) :
        Goes acts sys (if held then sys.performErrand e else (sys, .waiting e)).1 := by
      cases held
      · exact .refl sys
      · exact goes_performErrand sys e
    exact turn _
  | closing t outcome =>
    dsimp only
    split
    · exact goes_commit sys _ _
    · exact .refl sys

theorem goes_beginErrand (sys : System) (place ticket : Nat) (plan : Plan) :
    Goes acts sys (sys.beginErrand place ticket plan).1 := by
  unfold beginErrand
  dsimp only
  refine Goes.trans (.of_move (.store place _ ?_)) (goes_pollErrand _ _)
  cases plan.isWrite <;> rfl

/-! ## Workers -/

section Workers

variable (sys : System) (mine : acts w.ticket)

include mine

theorem goes_putWorker : Goes acts sys (sys.putWorker w) := .of_move (.worker w mine)

theorem goes_finishWorker : Goes acts sys (sys.finishWorker w) := by
  have state : Goes acts sys (sys.setState w.state .stopped) := .aside rfl rfl rfl
  have done : acts ({ w with phase := .finished } : Worker).ticket := mine
  exact state.trans (goes_putWorker _ done)

theorem goes_endTick : Goes acts sys (sys.endTick w) := by
  unfold endTick
  dsimp only
  have state : Goes acts sys (sys.setState w.state .polling) := .aside rfl rfl rfl
  split
  · exact state.trans (goes_finishWorker _ mine)
  · have timed : Goes acts (sys.setState w.state .polling)
        ((sys.setState w.state .polling).setTimer w.interval w.ticket) := .aside rfl rfl rfl
    have asleep : acts ({ w with phase := .sleeping } : Worker).ticket := mine
    exact (state.trans timed).trans (goes_putWorker _ asleep)

theorem goes_afterIngest (progress : Progress) : Goes acts sys (sys.afterIngest w progress) := by
  cases progress with
  | waiting errand =>
    have waits : acts ({ w with phase := .ingesting errand } : Worker).ticket := mine
    exact goes_putWorker sys waits
  | finished result => exact goes_endTick sys mine

theorem goes_ingest (value : Value) : Goes acts sys (sys.ingest w value) := by
  unfold ingest
  dsimp only
  have state : Goes acts sys (sys.setState w.state .ingesting) := .aside rfl rfl rfl
  refine .trans ?_ (goes_afterIngest _ mine _)
  exact state.trans (goes_beginErrand _ pluginStore w.ticket _)

/-- A tick that evaluates a transform takes it out of its slot. -/
theorem goes_transform (place : Nat) (batch previous : Value) :
    Goes acts sys (sys.transform w place batch previous) := by
  have taken : Goes acts sys (sys.currentTransform place).1 := .of_move (.take place)
  unfold transform
  split
  · next found =>
    rw [found] at taken
    exact taken.trans (goes_endTick _ mine)
  · next found =>
    rw [found] at taken
    split
    · exact taken.trans (goes_endTick _ mine)
    · exact taken.trans (goes_ingest _ mine _)

theorem goes_afterRead (batch : Value) (progress : Progress) :
    Goes acts sys (sys.afterRead w batch progress) := by
  cases progress with
  | waiting errand =>
    have waits : acts ({ w with phase := .reading batch errand } : Worker).ticket := mine
    exact goes_putWorker sys waits
  | finished result =>
    unfold afterRead
    dsimp only
    split
    · exact goes_transform sys mine _ batch _
    · exact goes_endTick sys mine

theorem goes_withBatch (batch : Value) : Goes acts sys (sys.withBatch w batch) := by
  unfold withBatch
  split
  · exact goes_ingest sys mine batch
  · dsimp only
    have state : Goes acts sys (sys.setState w.state .transforming) := .aside rfl rfl rfl
    refine .trans ?_ (goes_afterRead _ mine batch _)
    exact state.trans (goes_beginErrand _ pluginStore w.ticket _)

theorem goes_afterFetch (result : Except PluginError (Option Value)) :
    Goes acts sys (sys.afterFetch w result) := by
  unfold afterFetch
  split
  · exact goes_withBatch sys mine _
  · exact goes_endTick sys mine
  · exact goes_endTick sys mine

theorem goes_afterFeed (result : FeedResult) : Goes acts sys (sys.afterFeed w result) := by
  cases result with
  | batch value => exact goes_withBatch sys mine value
  | nothing => exact goes_endTick sys mine
  | failure => exact goes_endTick sys mine
  | breakdown =>
    have gone : acts ({ w with phase := .finished } : Worker).ticket := mine
    exact goes_putWorker sys gone

theorem goes_beginTick : Goes acts sys (sys.beginTick w) := by
  unfold beginTick
  dsimp only
  have state : Goes acts sys (sys.setState w.state .fetching) := .aside rfl rfl rfl
  split
  · have loads : acts ({ w with phase := .loading } : Worker).ticket := mine
    refine state.trans ((goes_putWorker _ loads).trans ?_)
    exact .aside rfl rfl rfl
  · exact state.trans (goes_afterFetch _ mine _)
  · have fetched (feeds : Dict Feed) :
        Goes acts sys { sys.setState w.state .fetching with feeds } := .aside rfl rfl rfl
    split
    · exact (fetched _).trans (goes_afterFeed _ mine _)
    · have waits (item : FeedItem) : acts ({ w with phase := .fetching item } : Worker).ticket := mine
      refine .trans ?_ (goes_putWorker _ (waits _))
      exact .aside rfl rfl rfl

theorem goes_load : Goes acts sys (sys.load w) := by
  unfold load
  split
  · next source _ =>
    have read : acts ({ w with source := .file (source.fetch sys.files).1 } : Worker).ticket := mine
    exact goes_afterFetch sys read _
  · exact goes_endTick sys mine

end Workers

theorem ticket_of_found {ticket : Nat} (found : sys.worker? ticket = some w) : w.ticket = ticket := by
  simpa using List.find?_some found

/-- In the turn of a worker nobody else acts. -/
theorem goes_runWorker (sys : System) (ticket : Nat) :
    Goes (· = ticket) sys (sys.runWorker ticket) := by
  unfold runWorker
  split
  · exact .refl sys
  · next w found =>
    have mine : w.ticket = ticket := ticket_of_found found
    have busy : ({ w with phase := .running } : Worker).ticket = ticket := mine
    have running : Goes (· = ticket) sys (sys.putWorker { w with phase := .running }) :=
      .of_move (.worker _ busy)
    split
    · exact goes_beginTick sys mine
    · exact goes_afterFeed sys mine _
    · exact goes_load sys mine
    · refine .trans ?_ (goes_afterRead _ mine _ _)
      exact running.trans (goes_pollErrand _ _)
    · refine .trans ?_ (goes_afterIngest _ mine _)
      exact running.trans (goes_pollErrand _ _)
    · split
      · exact goes_finishWorker sys mine
      · exact goes_beginTick sys mine
    · exact .refl sys
    · exact .refl sys

theorem goes_requestExit (sys : System) (ticket : Nat) : Goes acts sys (sys.requestExit ticket) := by
  unfold requestExit
  split
  · exact .refl sys
  · next w found =>
    have isFound : sys.worker? w.ticket = some w := by
      rw [ticket_of_found found]
      exact found
    have asked : Goes acts sys (sys.putWorker { w with exit := true }) := .of_move (.ask w isFound)
    dsimp only
    split
    · exact asked.trans (.aside rfl rfl rfl)
    · exact asked

/-! ## Time -/

theorem goes_drainWith (fuel : Nat) (sys : System) : Goes (fun _ => True) sys (drainWith fuel sys) := by
  induction fuel generalizing sys with
  | zero => exact .refl sys
  | succ fuel ih =>
    unfold drainWith
    split
    · exact .refl sys
    · next ticket rest called =>
      have popped : Goes (fun _ => True) sys { sys with ready := rest } := .aside rfl rfl rfl
      have turn := (goes_runWorker { sys with ready := rest } ticket).mono fun _ _ => trivial
      exact (popped.trans turn).trans (ih _)

theorem goes_drain (sys : System) : Goes (fun _ => True) sys sys.drain := goes_drainWith _ sys

theorem goes_moveTo (sys : System) (time : Nat) : Goes acts sys (sys.moveTo time) :=
  .aside rfl rfl rfl

theorem goes_passTo (time fuel : Nat) (sys : System) :
    Goes (fun _ => True) sys (passTo time fuel sys) := by
  induction fuel generalizing sys with
  | zero => exact goes_moveTo sys time
  | succ fuel ih =>
    unfold passTo
    dsimp only
    split
    · exact (goes_drain sys).trans (goes_moveTo _ time)
    · split
      · exact ((goes_drain sys).trans (goes_moveTo _ _)).trans (ih _)
      · exact (goes_drain sys).trans (goes_moveTo _ time)

theorem goes_pass (sys : System) (millis : Nat) : Goes (fun _ => True) sys (sys.pass millis) :=
  goes_passTo _ _ sys

/-! ## Calls -/

theorem goes_updateGroup (sys : System) (group : Nat) (change : Group → Group) :
    Goes acts sys (sys.updateGroup group change) :=
  .aside rfl rfl rfl

theorem goes_startCommands (sys : System) (entry : PluginEntry) (state : Nat) :
    Goes acts sys (sys.startCommands entry state).1 := by
  have prepared : Goes acts sys (sys.prepareSlot entry.transform).1 := .of_move (.prepare entry.transform)
  unfold startCommands
  split
  · next found =>
    rw [found] at prepared
    exact prepared
  · next found =>
    rw [found] at prepared
    exact prepared

theorem goes_connect (sys : System) (config : SourceConfig) : Goes acts sys (sys.connect config).1 := by
  cases config with
  | file config => exact .refl sys
  | http config => exact .refl sys
  | feed config =>
    unfold connect
    dsimp only
    split
    · exact .refl sys
    · exact .aside rfl rfl rfl

theorem goes_spawn (sys : System) (entry : PluginEntry) (state : Nat) (slot : Option Nat)
    (source : Source) : Goes acts sys (sys.spawn entry state slot source).1 := by
  unfold spawn
  dsimp only
  have ticket : Goes acts sys sys.takeTicket.1 := .aside rfl rfl rfl
  refine ticket.trans (.trans (.of_move (.bringUp ?_)) (.aside ?_ ?_ ?_))
  case refine_1 => exact
    { ticket := sys.nextTicket, path := entry.path, interval := entry.interval.toMillisUp, state
      slot, source, exit := false, phase := .due }
  all_goals rfl

theorem goes_launch (sys : System) (group : Nat) (entry : PluginEntry) (state : Nat)
    (slot : Option Nat) : Goes acts sys (sys.launch group entry state slot).1 := by
  have connected : Goes acts sys (sys.connect entry.source).1 := goes_connect sys entry.source
  unfold launch
  split
  · next found =>
    rw [found] at connected
    exact connected
  · next found =>
    rw [found] at connected
    exact connected.trans ((goes_spawn _ entry state slot _).trans (goes_updateGroup _ group _))

theorem goes_perform (sys : System) (group : Nat) (command : Command) :
    Goes acts sys (sys.perform group command).1 := by
  unfold perform
  split
  · exact .refl sys
  · next g _ =>
    cases command with
    | start name =>
      dsimp only
      split
      · exact .refl sys
      · split
        · exact .refl sys
        · exact goes_startCommands sys _ _
    | add entry =>
      have added : Goes acts sys { sys with states := sys.states ++ [PluginState.notReady] } :=
        .aside rfl rfl rfl
      have started := added.trans (goes_startCommands _ entry sys.states.length)
      dsimp only at started ⊢
      split
      · next found =>
        rw [found] at started
        exact started
      · next found =>
        rw [found] at started
        exact started
    | launch entry state slot => exact goes_launch sys group entry state slot
    | claim name path => exact .of_move (.store _ (·.claim name path) rfl)
    | release name => exact .of_move (.store _ (·.release name) rfl)
    | releaseAll => exact .of_move (.store _ (·.releaseAll) rfl)
    | publish => exact goes_updateGroup sys group _
    | unpublish => exact goes_updateGroup sys group _
    | enlist =>
      dsimp only
      split <;> exact .refl sys
    | delist =>
      dsimp only
      split
      · exact .refl sys
      · exact goes_updateGroup sys group _
    | stop name timeout =>
      dsimp only
      split
      · exact .refl sys
      · unfold stopPlugin
        split
        · exact .refl sys
        · exact (goes_requestExit sys _).trans (goes_updateGroup _ group _)
    | dismiss name timeout =>
      dsimp only
      split
      · exact .refl sys
      · unfold dismiss
        dsimp only
        split
        · exact goes_updateGroup sys group _
        · exact (goes_updateGroup sys group _).trans (goes_requestExit _ _)
    | retire name =>
      dsimp only
      split
      · exact .refl sys
      · next p _ =>
        have stopped : Goes acts sys (sys.setState p.state .stopped) := .aside rfl rfl rfl
        exact stopped.trans (goes_updateGroup _ group _)
    | refresh entry timeout => exact .refl sys
    | assign entry =>
      dsimp only
      split
      · exact .refl sys
      · exact goes_updateGroup sys group _
    | adopt config => exact goes_updateGroup sys group _
    | settle registered =>
      dsimp only
      split
      · exact goes_updateGroup sys group _
      · exact .refl sys
    | report status => exact goes_updateGroup sys group _
    | run plan followup => exact .refl sys
    | awaitExit ticket deadline => exact .refl sys

theorem goes_follow (sys : System) (group : Nat) (followup : Followup)
    (result : Except Refusal Outcome) : Goes acts sys (sys.follow group followup result).1 := by
  unfold follow
  split <;> first | exact goes_updateGroup sys group _ | exact .refl sys

theorem goes_finishCall (sys : System) (c : Call) (result : Except PluginError Unit) :
    Goes acts sys (sys.finishCall c result) := by
  unfold finishCall
  cases result with
  | ok u => exact .aside rfl rfl rfl
  | error e =>
    dsimp only
    split <;> exact .aside rfl rfl rfl

theorem goes_advanceErrand (sys : System) (c : Call) (plan : Plan) :
    Goes acts sys (sys.advanceErrand c plan).1 := by
  unfold advanceErrand
  cases c.errand with
  | some errand => exact goes_pollErrand sys errand
  | none =>
    have taken : Goes acts sys sys.takeTicket.1 := .aside rfl rfl rfl
    exact taken.trans (goes_beginErrand _ pluginStore _ plan)

theorem goes_pollCallWith (fuel : Nat) (sys : System) (c : Call) :
    Goes acts sys (pollCallWith fuel sys c) := by
  induction fuel generalizing sys c with
  | zero => exact .aside rfl rfl rfl
  | succ fuel ih =>
    unfold pollCallWith
    cases row : c.agenda with
    | nil => exact goes_finishCall sys c (.ok ())
    | cons command rest =>
      dsimp only
      split
      · next plan followup =>
        have advanced : Goes acts sys (sys.advanceErrand
            { c with starting := startingAfter c (.run plan followup) } plan).1 :=
          goes_advanceErrand sys _ plan
        rw [row] at advanced
        split
        · next found =>
          rw [found] at advanced
          exact advanced.trans (.aside rfl rfl rfl)
        · next sys' result found =>
          rw [found] at advanced
          have followed := advanced.trans (goes_follow sys' c.group followup result)
          refine followed.trans ?_
          split
          · exact goes_finishCall _ _ _
          · exact ih _ _
      · split
        · exact ih _ _
        · exact .aside rfl rfl rfl
      · refine (goes_perform sys c.group command).trans ?_
        split
        · exact goes_finishCall _ _ _
        · exact ih _ _

/-- However far a call comes, no worker acts in it. -/
theorem goes_pollCall (sys : System) : Goes acts sys sys.pollCall := by
  unfold pollCall
  split
  · exact .refl sys
  · split
    · exact .refl sys
    · exact goes_pollCallWith _ sys _

theorem goes_runCallWith (fuel : Nat) (sys : System) :
    Goes (fun _ => True) sys (runCallWith fuel sys) := by
  induction fuel generalizing sys with
  | zero => exact .refl sys
  | succ fuel ih =>
    have polled : Goes (fun _ => True) sys sys.pollCall := goes_pollCall sys
    unfold runCallWith
    dsimp only
    split
    · exact polled
    · split
      · exact (polled.trans (goes_drain _)).trans (ih _)
      · split
        · exact polled
        · exact (polled.trans (goes_moveTo _ _)).trans (ih _)

theorem goes_makeCall (sys : System) (group : Nat) (purpose : Purpose) (agenda : List Command) :
    Goes (fun _ => True) sys (sys.makeCall group purpose agenda) := by
  have made (c : Call) : Goes (fun _ => True) sys { sys with call := some c } := .aside rfl rfl rfl
  unfold makeCall
  exact (made _).trans (goes_runCallWith _ _)

end System

end DocStore
