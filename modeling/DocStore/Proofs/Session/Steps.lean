import DocStore.Proofs.Session.Visits
import DocStore.Proofs.System.Passing

/-!
# Sessions are traffic

A session goes on step by step: transactions and errands, plugins that are held and called, feeds,
files and rules that change, and time that passes. However it goes on, there is traffic that has the
system of the session, its open transactions inside, and its queue waiting. So what holds of all traffic
holds of sessions.

Results:
  * `Mirrors.endStep`, `Mirrors.call`: what follows a step, and calls;
  * `Mirrors.step`, `traffic`: every step of a session is a row of steps of the traffic.
-/

namespace DocStore.Session

open DocStore.System DocStore.Traffic

variable {trees : List Value} {engine : Engine} {files : FileTree} {calls : System → Call → Prop}
  {log : List WorkEvent} {τ τ' : Traffic} {s s' : Session} {others more : List (Nat × Visit)}

/-- The traffic goes on, and then it has the session. -/
def Reaches (calls : System → Call → Prop) (τ : Traffic) (s : Session)
    (others : List (Nat × Visit)) : Prop :=
  ∃ log τ', Run calls τ log τ' ∧ s.Mirrors others τ'

theorem Leads.reaches (leads : Leads τ s others) : Reaches calls τ s others := by
  obtain ⟨τ', calm, mirrors⟩ := leads
  exact ⟨[], τ', calm.run .none, mirrors⟩

theorem Reaches.next (reaches : Reaches calls τ s others)
    (next : ∀ log τ', Run calls τ log τ' → s.Mirrors others τ' → Reaches calls τ' s' more) :
    Reaches calls τ s' more := by
  obtain ⟨log, υ, run, mirrors⟩ := reaches
  obtain ⟨log', φ, later, mirrors⟩ := next log υ run mirrors
  exact ⟨_, φ, run.trans later, mirrors⟩

/-- Nobody is admitted to a store that is not there. -/
theorem waits_of_absent (sys : System) {place ticket : Nat} {plan : Plan}
    (absent : ¬ place < sys.stores.length) :
    (sys.beginErrand place ticket plan).2 = .waiting ⟨place, ticket, plan, .opening⟩ := by
  have nobody : (sys.updateStore place fun s => (if plan.isWrite then Store.requestWrite
      else Store.requestRead) s ticket).storeAt place = .new 0 .empty := by
    unfold storeAt
    rw [List.getElem?_eq_none (Nat.le_of_not_lt ((length_updateStore ..).symm ▸ absent))]
    rfl
  unfold beginErrand pollErrand
  dsimp only
  rw [nobody]
  cases plan.isWrite <;> rfl

namespace Mirrors

/-- What nobody of the session does. -/
theorem reaches (h : s.Mirrors others τ) (transactions : s'.transactions = s.transactions)
    (run : ∃ log, Run calls τ log (τ.go s'.system)) : Reaches calls τ s' others := by
  obtain ⟨log, run⟩ := run
  exact ⟨log, _, run, h.go transactions⟩

theorem row (h : s.Mirrors others τ) (transactions : s'.transactions = s.transactions)
    (step : Traffic.Step calls τ [] (τ.go s'.system)) : Reaches calls τ s' others :=
  h.reaches transactions ⟨_, Run.none.step step⟩

/-- What is no business of stores, groups, calls and workers. -/
theorem aside (h : s.Mirrors others τ) (transactions : s'.transactions = s.transactions)
    (unconcerned : Unconcerned s.system s'.system) : Reaches calls τ s' others := by
  rw [← h.system] at unconcerned
  exact h.row transactions (.other (.aside unconcerned))

theorem wait (h : s.Mirrors others τ) (millis : Nat) : Reaches calls τ (s.wait millis) others := by
  refine h.reaches rfl ?_
  unfold Session.wait
  rw [← h.system]
  exact run_pass calls τ millis

/-- What every step ends with. -/
theorem endStep (run : Run calls (of (System.new trees engine files)) log τ)
    (h : s.Mirrors s.waiting τ) : Reaches calls τ s.endStep.1 s.endStep.1.waiting := by
  refine (h.settle run).reaches.next fun _ τ₁ run₁ settled => ?_
  refine (settled.wait 1).next fun _ τ₂ run₂ later => ?_
  exact (later.settle ((run.trans run₁).trans run₂)).reaches

theorem change (h : s.Mirrors s.waiting τ) (place : Nat) {f : Store → Store}
    (claiming : Store.Claiming f) :
    Reaches calls τ (s.change place f).1 (s.change place f).1.waiting := by
  unfold Session.change
  split
  · exact h.leads.reaches
  · refine h.row rfl (.other ?_)
    rw [← h.system]
    exact .claim _ claiming

/-- Looking at a store changes nothing. -/
theorem look (h : s.Mirrors s.waiting τ) (place : Nat) :
    Reaches calls τ (s.change place id).1 (s.change place id).1.waiting := by
  unfold Session.change
  split
  · exact h.leads.reaches
  · next there found =>
    obtain ⟨rfl, present⟩ := of_storePlace found
    refine h.aside rfl ⟨?_, rfl, rfl, rfl, rfl, rfl, rfl⟩
    show s.system.stores.set place (s.system.storeAt place) = s.system.stores
    unfold storeAt
    rw [List.getElem?_eq_getElem present, Option.getD_some, List.set_getElem_self]

/-- Plugins are held while no call is under way. -/
theorem hold (h : s.Mirrors others τ) {r : Registry} {raw : Value} {config : PluginConfig}
    (stopTimeout : Nat) (idle : s.system.callIsOver = true)
    (validated : PluginConfig.validate r raw = .ok config) :
    Reaches calls τ (s.holdPlugins config stopTimeout) others := by
  have held : (s.holdPlugins config stopTimeout).system = τ.system.hold config stopTimeout := by
    rw [h.system]
    rfl
  rw [← h.system] at idle
  have step : Traffic.Step calls τ [] (τ.go (s.holdPlugins config stopTimeout).system) := by
    rw [held]
    exact .hold stopTimeout idle validated
  exact h.row rfl step

/-- A call is made while no other is under way. -/
theorem call (h : s.Mirrors s.waiting τ) (purpose : Purpose) (agenda : Group → List Command)
    (idle : s.system.callIsOver = true)
    (may : ∀ place g, s.group? = some (place, g) →
      calls s.system ⟨place, purpose, agenda g, none, none, none⟩) :
    Reaches calls τ (s.call purpose agenda).1 (s.call purpose agenda).1.waiting := by
  unfold Session.call
  split
  · exact h.leads.reaches
  · next place g found =>
    have may := may place g found
    refine h.reaches rfl ?_
    rw [← h.system] at idle may ⊢
    exact run_makeCall calls τ idle may

theorem defineRule (h : s.Mirrors s.waiting τ) (rule : String) (body : RuleBody) :
    Reaches calls τ (s.defineRule rule body).1 (s.defineRule rule body).1.waiting := by
  unfold Session.defineRule
  split
  · exact h.leads.reaches
  · exact h.aside rfl ⟨rfl, rfl, rfl, rfl, rfl, rfl, rfl⟩

/-- Looking at the tree of the plugins is an errand, which is not sent out if it has to wait. -/
theorem peekTree (run : Run calls (of (System.new trees engine files)) log τ)
    (h : s.Mirrors s.waiting τ) : Reaches calls τ s.peekTree.1 s.peekTree.1.waiting := by
  obtain ⟨free, -⟩ := (run.ticketed (ticketed_new trees engine files)).free
  have goes {sys : System} {result : Except Refusal Outcome}
      (finished : τ.system.takeTicket.1.beginErrand System.pluginStore τ.system.nextTicket (.read .root) =
        (sys, .finished result)) : Reaches calls τ { s with system := sys } s.waiting := by
    have present : System.pluginStore < τ.system.stores.length := by
      by_contra absent
      cases (waits_of_absent τ.system.takeTicket.1 absent).symm.trans (congrArg Prod.snd finished)
    have sent : Other τ [] _ := .send System.pluginStore (.read .root) present
    rw [finished] at sent
    exact (Leads.first sent (h.comes free sys none).leads).reaches
  unfold Session.peekTree
  dsimp only
  rw [← h.system]
  split
  · next finished => exact goes finished
  · next finished => exact goes finished
  · exact h.leads.reaches

end Mirrors

/-! ## Whole sessions -/

/-- One step of a session. `calls` says which calls are made. -/
inductive Step (calls : System → Call → Prop) (s : Session) : Session → Prop
  | begin (step place : Nat) (name : String) (write : Bool) :
      Step calls s (s.begin step place name write).1
  | edit (place : Nat) (name : String) (edits : List Edit) : Step calls s (s.edit place name edits).1
  | commit (step place : Nat) (name : String) : Step calls s (s.commit step place name).1
  | abort (name : String) : Step calls s (s.abort name).1
  | register (place : Nat) (name handle : String) (watched : List Path) :
      Step calls s (s.register place name handle watched).1
  | unregister (place : Nat) (name handle : String) : Step calls s (s.unregister place name handle).1
  | send (step place : Nat) (plan : Plan) : Step calls s (s.send step place plan).1
  | change (place : Nat) {f : Store → Store} (claiming : Store.Claiming f) :
      Step calls s (s.change place f).1
  | look (place : Nat) : Step calls s (s.change place id).1
  | hold {r : Registry} {raw : Value} {config : PluginConfig} (stopTimeout : Nat)
      (idle : s.system.callIsOver = true) (validated : PluginConfig.validate r raw = .ok config) :
      Step calls s (s.holdPlugins config stopTimeout)
  | call (purpose : Purpose) (agenda : Group → List Command) (idle : s.system.callIsOver = true)
      (may : ∀ place g, s.group? = some (place, g) →
        calls s.system ⟨place, purpose, agenda g, none, none, none⟩) :
      Step calls s (s.call purpose agenda).1
  | defineRule (rule : String) (body : RuleBody) : Step calls s (s.defineRule rule body).1
  | pushFeed (name : String) (items : List FeedItem) : Step calls s (s.pushFeed name items)
  | changeFiles (f : FileTree → FileTree) : Step calls s (s.changeFiles f)
  | wait (millis : Nat) : Step calls s (s.wait millis)
  | peekTree : Step calls s s.peekTree.1
  | endStep : Step calls s s.endStep.1
  | takeDeliveries : Step calls s s.takeDeliveries.1

/-- One step of a session is a row of steps of the traffic. -/
theorem Mirrors.step (run : Run calls (of (System.new trees engine files)) log τ)
    (h : s.Mirrors s.waiting τ) (step : Step calls s s') : Reaches calls τ s' s'.waiting := by
  cases step with
  | begin step place name write => exact (h.begin run step place name write).reaches
  | edit place name edits => exact (h.edit run place name edits).reaches
  | commit step place name => exact (h.commit run step place name).reaches
  | abort name => exact (h.abort run name).reaches
  | register place name handle watched => exact (h.register run place name handle watched).reaches
  | unregister place name handle => exact (h.unregister run place name handle).reaches
  | send step place plan => exact (h.send run step place plan).reaches
  | change place claiming => exact h.change place claiming
  | look place => exact h.look place
  | hold stopTimeout idle validated => exact h.hold stopTimeout idle validated
  | call purpose agenda idle may => exact h.call purpose agenda idle may
  | defineRule rule body => exact h.defineRule rule body
  | pushFeed | changeFiles | takeDeliveries => exact h.aside rfl ⟨rfl, rfl, rfl, rfl, rfl, rfl, rfl⟩
  | wait millis => exact h.wait millis
  | peekTree => exact h.peekTree run
  | endStep => exact h.endStep run

/-- However a session goes on, it is part of traffic that has its system, its open transactions inside,
and its queue waiting. -/
theorem traffic (steps : Relation.ReflTransGen (Step calls)
    (Session.new (System.new trees engine files)) s) :
    ∃ log τ, Run calls (of (System.new trees engine files)) log τ ∧ s.Mirrors s.waiting τ := by
  induction steps with
  | refl => exact ⟨[], _, .none, mirrors_new _⟩
  | tail _ step ih =>
    obtain ⟨log, τ, run, mirrors⟩ := ih
    obtain ⟨more, τ', later, mirrors⟩ := mirrors.step run step
    exact ⟨log ++ more, τ', run.trans later, mirrors⟩

end DocStore.Session
