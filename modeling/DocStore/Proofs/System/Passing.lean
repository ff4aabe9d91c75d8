import DocStore.Proofs.System.Traffic

/-!
# Time and calls in the traffic

While time passes, workers take their turns and nothing else happens. A call that is made and seen
through goes on command by command, with turns of workers and time in between. Both are rows of steps of
the traffic.

Results:
  * `pollCallWith_calling`: a call is carried out whatever the system notes about it;
  * `run_pass`, `run_makeCall`: the rows of steps.
-/

namespace DocStore

namespace System

variable {sys : System}

/-! ## The call that is noted -/

/-- The system with another call noted as under way. -/
def calling (sys : System) (call : Option Call) : System := { sys with call }

/-- What something comes to, with another call noted. -/
def noting {α : Type} (call : Option Call) (done : System × α) : System × α :=
  (done.1.calling call, done.2)

variable (sys : System) (call : Option Call)

theorem watch_calling (group : Nat) (d : Delivery) :
    (sys.calling call).watch group d = (sys.watch group d).calling call := by
  have groups : (sys.calling call).groups = sys.groups := rfl
  unfold watch
  rw [groups]
  cases sys.groups[group]? with
  | none => rfl
  | some g => cases d.announcement.changes.policyChanged <;> rfl

theorem deliver_calling (d : Delivery) :
    (sys.calling call).deliver d = (sys.deliver d).calling call := by
  unfold deliver
  cases d.listener with
  | probe => rfl
  | overlapWatch group => exact watch_calling ..

theorem commit_calling (place : Nat) (t : Transaction) :
    (sys.calling call).commit place t = (sys.commit place t).calling call := by
  have tells (told : List Delivery) (mid : System) :
      told.foldl deliver (mid.calling call) = (told.foldl deliver mid).calling call := by
    induction told generalizing mid with
    | nil => rfl
    | cons d rest ih =>
      rw [List.foldl_cons, List.foldl_cons, deliver_calling]
      exact ih _
  exact congrArg (updateStore · place (·.finishCommit t)) (tells _ (sys.updateStore place (·.install t)))

/-- Somebody commits, or still waits. -/
theorem commits_calling (held : Bool) (place : Nat) (t : Transaction) (outcome : Outcome) (e : Errand) :
    (if held then ((sys.calling call).commit place t, Progress.finished (.ok outcome))
      else (sys.calling call, .waiting e)) =
    noting call (if held then (sys.commit place t, .finished (.ok outcome)) else (sys, .waiting e)) := by
  cases held with
  | false => rfl
  | true => exact congrArg (·, _) (commit_calling sys call place t)

theorem performErrand_calling (e : Errand) :
    (sys.calling call).performErrand e = noting call (sys.performErrand e) := by
  have stands : (sys.calling call).storeAt e.store = sys.storeAt e.store := rfl
  unfold performErrand
  rw [stands]
  dsimp only
  generalize (if e.plan.isWrite then (sys.storeAt e.store).openWrite e.ticket
    else (sys.storeAt e.store).openRead e.ticket) = opened
  cases e.plan.perform opened.1 opened.2 with
  | error refusal => rfl
  | ok done =>
    obtain ⟨s, t, outcome⟩ := done
    dsimp only
    cases e.plan.isWrite with
    | false => rfl
    | true =>
      exact commits_calling (sys.updateStore e.store fun _ => s.requestCommit e.ticket) call _ _ _ _ _

theorem pollErrand_calling (e : Errand) :
    (sys.calling call).pollErrand e = noting call (sys.pollErrand e) := by
  unfold pollErrand
  dsimp only
  cases e.stage with
  | opening =>
    have turn (held : Bool) : (if held then (sys.calling call).performErrand e
        else (sys.calling call, .waiting e)) =
        noting call (if held then sys.performErrand e else (sys, .waiting e)) := by
      cases held with
      | false => rfl
      | true => exact performErrand_calling sys call e
    exact turn _
  | closing t outcome => exact commits_calling sys call _ _ _ _ _

theorem beginErrand_calling (place ticket : Nat) (plan : Plan) :
    (sys.calling call).beginErrand place ticket plan = noting call (sys.beginErrand place ticket plan) :=
  pollErrand_calling (sys.updateStore place fun s =>
    (if plan.isWrite then Store.requestWrite else Store.requestRead) s ticket) call
    ⟨place, ticket, plan, .opening⟩

theorem advanceErrand_calling (c : Call) (plan : Plan) :
    (sys.calling call).advanceErrand c plan = noting call (sys.advanceErrand c plan) := by
  unfold advanceErrand
  cases c.errand with
  | some e => exact pollErrand_calling sys call e
  | none => exact beginErrand_calling sys.takeTicket.1 call pluginStore sys.nextTicket plan

theorem startCommands_calling (entry : PluginEntry) (state : Nat) :
    (sys.calling call).startCommands entry state = noting call (sys.startCommands entry state) := by
  have engine : (sys.calling call).engine = sys.engine := rfl
  unfold startCommands prepareSlot
  rw [engine]
  cases entry.transform with
  | none => rfl
  | some rule =>
    dsimp only
    cases sys.engine.prepare rule <;> rfl

theorem launch_calling (group : Nat) (entry : PluginEntry) (state : Nat) (slot : Option Nat) :
    (sys.calling call).launch group entry state slot =
      noting call (sys.launch group entry state slot) := by
  unfold launch connect
  cases entry.source with
  | file | http => rfl
  | feed config =>
    dsimp only
    cases config.broken <;> rfl

theorem requestExit_calling (ticket : Nat) :
    (sys.calling call).requestExit ticket = (sys.requestExit ticket).calling call := by
  have worker : (sys.calling call).worker? ticket = sys.worker? ticket := rfl
  unfold requestExit
  rw [worker]
  cases sys.worker? ticket with
  | none => rfl
  | some w =>
    dsimp only
    rw [apply_ite (calling · call)]
    rfl

theorem stopPlugin_calling (group : Nat) (name : String) (p : Plugin) (timeout : Nat) :
    (sys.calling call).stopPlugin group name p timeout =
      noting call (sys.stopPlugin group name p timeout) := by
  unfold stopPlugin
  cases p.worker with
  | none => rfl
  | some ticket =>
    dsimp only
    rw [requestExit_calling]
    rfl

theorem dismiss_calling (group : Nat) (name : String) (p : Plugin) (timeout : Nat) :
    (sys.calling call).dismiss group name p timeout =
      noting call (sys.dismiss group name p timeout) := by
  unfold dismiss
  cases p.worker with
  | none => rfl
  | some ticket =>
    -- The group has changed before the worker is asked.
    have exits := requestExit_calling
      (sys.updateGroup group fun g => { g with plugins := g.plugins.erase name }) call ticket
    exact congrArg (·, _) exits

theorem perform_calling (group : Nat) (command : Command) :
    (sys.calling call).perform group command = noting call (sys.perform group command) := by
  have groups : (sys.calling call).groups = sys.groups := rfl
  unfold perform
  rw [groups]
  cases sys.groups[group]? with
  | none => rfl
  | some g =>
    cases command with
    | start name =>
      dsimp only
      cases g.plugins.find? name with
      | none => rfl
      | some p =>
        dsimp only
        cases p.worker with
        | none => exact startCommands_calling ..
        | some ticket => rfl
    | add entry =>
      have made := startCommands_calling { sys with states := sys.states ++ [PluginState.notReady] }
        call entry sys.states.length
      unfold calling at made ⊢
      dsimp only at made ⊢
      rw [made]
      generalize startCommands _ entry sys.states.length = added
      obtain ⟨mid, _ | commands⟩ := added <;> rfl
    | launch entry state slot => exact launch_calling ..
    | enlist | delist =>
      dsimp only
      cases g.trigger <;> rfl
    | stop name timeout =>
      dsimp only
      cases g.plugins.find? name with
      | none => rfl
      | some p => exact stopPlugin_calling ..
    | dismiss name timeout =>
      dsimp only
      cases g.plugins.find? name with
      | none => rfl
      | some p => exact dismiss_calling ..
    | retire name =>
      dsimp only
      cases g.plugins.find? name <;> rfl
    | assign entry =>
      dsimp only
      cases g.plugins.find? entry.name <;> rfl
    | settle registered =>
      dsimp only
      split <;> rfl
    | claim | release | releaseAll | publish | unpublish | refresh | adopt | report | run | awaitExit =>
      rfl

theorem follow_calling (group : Nat) (followup : Followup) (result : Except Refusal Outcome) :
    (sys.calling call).follow group followup result =
      noting call (sys.follow group followup result) := by
  unfold follow
  split <;> rfl

theorem finishCall_calling (c : Call) (result : Except PluginError Unit) :
    (sys.calling call).finishCall c result = sys.finishCall c result := by
  rw [finishCall_eq, finishCall_eq]
  unfold reported
  cases c.report result <;> rfl

/-- A call is carried out whatever the system notes about it. -/
theorem pollCallWith_calling (fuel : Nat) (c : Call) :
    pollCallWith fuel (sys.calling call) c = pollCallWith fuel sys c := by
  induction fuel generalizing sys c with
  | zero => rfl
  | succ fuel ih =>
    have goes (mid : System) (d : Call) (rest : List Command) (result : CommandResult) :
        pollOn fuel (mid.calling call) d rest result = pollOn fuel mid d rest result := by
      cases result with
      | error e => exact finishCall_calling mid call d (.error e)
      | ok first => exact ih ..
    unfold pollCallWith
    cases c.agenda with
    | nil => exact finishCall_calling ..
    | cons command rest =>
      cases command with
      | run plan followup =>
        dsimp only
        rw [advanceErrand_calling]
        generalize sys.advanceErrand _ plan = advanced
        obtain ⟨mid, e | result⟩ := advanced
        · rfl
        · show pollOn fuel ((mid.calling call).follow c.group followup result).1 _ rest
            ((mid.calling call).follow c.group followup result).2 = _
          rw [follow_calling]
          exact goes _ _ rest _
      | awaitExit ticket deadline =>
        have turn (ended : Bool) (d : Call) : (if ended then
              pollCallWith fuel (sys.calling call) { d with agenda := [] ++ rest, errand := none }
            else { sys.calling call with call := some d }) =
            if ended then pollCallWith fuel sys { d with agenda := [] ++ rest, errand := none }
            else { sys with call := some d } := by
          cases ended with
          | false => rfl
          | true => exact ih ..
        exact turn (sys.isFinished ticket || deadline ≤ sys.now) _
      | _ =>
        dsimp only
        rw [perform_calling]
        exact goes _ _ rest _

end System

namespace Traffic

open DocStore.System

variable (calls : System → Call → Prop) (τ : Traffic)

/-! ## Time -/

theorem run_drainWith (fuel : Nat) :
    ∃ log, Run calls τ log (τ.go (drainWith fuel τ.system)) := by
  induction fuel generalizing τ with
  | zero => exact ⟨_, .none⟩
  | succ fuel ih =>
    unfold drainWith
    split
    · exact ⟨_, .none⟩
    · next ticket rest _ =>
      have popped : Run calls τ _ (τ.go { τ.system with ready := rest }) :=
        Run.none.step (.other (.aside ⟨rfl, rfl, rfl, rfl, rfl, rfl, rfl⟩))
      obtain ⟨log, later⟩ := ih (τ.go ({ τ.system with ready := rest }.runWorker ticket))
      cases found : System.worker? { τ.system with ready := rest } ticket with
      | none =>
        have same : System.runWorker { τ.system with ready := rest } ticket =
            { τ.system with ready := rest } := by
          unfold runWorker
          rw [found]
        rw [same] at later ⊢
        exact ⟨_, popped.trans later⟩
      | some w => exact ⟨_, (popped.step (.other (.turn ticket (.run w found)))).trans later⟩

theorem run_drain : ∃ log, Run calls τ log (τ.go τ.system.drain) := run_drainWith calls τ _

theorem run_moveTo (time : Nat) : Run calls τ [] (τ.go (τ.system.moveTo time)) :=
  Run.none.step (.other (.aside ⟨rfl, rfl, rfl, rfl, rfl, rfl, rfl⟩))

theorem run_passTo (time fuel : Nat) : ∃ log, Run calls τ log (τ.go (passTo time fuel τ.system)) := by
  induction fuel generalizing τ with
  | zero => exact ⟨_, run_moveTo calls τ time⟩
  | succ fuel ih =>
    obtain ⟨log, drained⟩ := run_drain calls τ
    have moved (time : Nat) := drained.trans (run_moveTo calls (τ.go τ.system.drain) time)
    unfold passTo
    dsimp only
    split
    · exact ⟨_, moved time⟩
    · next due _ =>
      split
      · obtain ⟨more, later⟩ := ih (τ.go (τ.system.drain.moveTo due))
        exact ⟨_, (moved due).trans later⟩
      · exact ⟨_, moved time⟩

/-- Workers take their turns while time passes. -/
theorem run_pass (millis : Nat) : ∃ log, Run calls τ log (τ.go (τ.system.pass millis)) :=
  run_passTo calls τ _ _

/-! ## Calls -/

theorem run_pollCallWith (fuel : Nat) {c : Call} (called : τ.system.call = some c)
    (unfinished : c.result = none) :
    ∃ log, Run calls τ log (τ.go (pollCallWith fuel τ.system c)) := by
  induction fuel generalizing τ c with
  | zero =>
    unfold pollCallWith
    rw [← called]
    exact ⟨_, .none⟩
  | succ fuel ih =>
    have first : Run calls τ _ (τ.go (τ.system.proceed c)) :=
      Run.none.step (.proceed called unfinished)
    rcases pollsFrom_stepCall fuel unfinished with stops | ⟨goesOn, polled⟩
    · rw [stops]
      exact ⟨_, first⟩
    · obtain ⟨log, later⟩ := ih (τ.go (τ.system.proceed c)) rfl goesOn
      rw [polled, ← pollCallWith_calling _ (some (τ.system.stepCall c).2)]
      exact ⟨_, first.trans later⟩

theorem run_pollCall : ∃ log, Run calls τ log (τ.go τ.system.pollCall) := by
  unfold pollCall
  split
  · exact ⟨_, .none⟩
  · next c called =>
    split
    · exact ⟨_, .none⟩
    · next goesOn => exact run_pollCallWith calls τ _ called (Option.not_isSome_iff_eq_none.1 goesOn)

theorem run_runCallWith (fuel : Nat) : ∃ log, Run calls τ log (τ.go (runCallWith fuel τ.system)) := by
  induction fuel generalizing τ with
  | zero => exact ⟨_, .none⟩
  | succ fuel ih =>
    obtain ⟨log, polled⟩ := run_pollCall calls τ
    unfold runCallWith
    dsimp only
    split
    · exact ⟨_, polled⟩
    · split
      · obtain ⟨_, drained⟩ := run_drain calls (τ.go τ.system.pollCall)
        obtain ⟨_, later⟩ := ih (τ.go τ.system.pollCall.drain)
        exact ⟨_, (polled.trans drained).trans later⟩
      · split
        · exact ⟨_, polled⟩
        · have moved (time : Nat) := polled.trans (run_moveTo calls (τ.go τ.system.pollCall) time)
          obtain ⟨_, later⟩ := ih (τ.go (τ.system.pollCall.moveTo _))
          exact ⟨_, (moved _).trans later⟩

/-- A call that is made and seen through. -/
theorem run_makeCall {group : Nat} {purpose : Purpose} {agenda : List Command}
    (idle : τ.system.callIsOver = true)
    (may : calls τ.system ⟨group, purpose, agenda, none, none, none⟩) :
    ∃ log, Run calls τ log (τ.go (τ.system.makeCall group purpose agenda)) := by
  have made := Run.none.step (.call ⟨group, purpose, agenda, none, none, none⟩ idle may ⟨rfl, rfl⟩)
  obtain ⟨log, later⟩ := run_runCallWith calls
    (τ.go { τ.system with call := some ⟨group, purpose, agenda, none, none, none⟩ }) _
  exact ⟨_, made.trans later⟩

end Traffic

end DocStore
