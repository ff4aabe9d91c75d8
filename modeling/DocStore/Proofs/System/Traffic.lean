import DocStore.Proofs.System.Deeds
import DocStore.Proofs.System.Service

/-!
# Everything that goes on

Visitors have transactions of their own at any store, or send out errands. Workers take their turns, and
calls of groups go on command by command. All of them are parties with tickets, at the locks of the
stores they go to, and anyone may be the next to move. The log of such traffic has the deeds of the
workers, and how the waits of calls for them ended.

Results:
  * `staffed_stepCall`, `staffed_hold`: what calls make of the workers;
  * `Ticketed.step`, `Run.ticketed`: no two parties share a ticket.
-/

namespace DocStore

/-- How far somebody has come with a transaction. -/
inductive Affair
  | asking (write : Bool)
  | inside (transaction : Transaction)
  | closing (transaction : Transaction)
deriving DecidableEq, Repr

/-- A visitor at a store, or an errand that was sent out. -/
inductive Visit
  | visitor (place : Nat) (affair : Affair)
  | sent (errand : Errand)
deriving DecidableEq, Repr

/-- How far an errand has come. It does everything inside its transaction at once. -/
def Errand.affair (e : Errand) : Affair :=
  match e.stage with
  | .opening => .asking e.plan.isWrite
  | .closing t _ => .closing t

/-- What an errand does at a store. -/
def Errand.affairAt (place : Nat) (e : Errand) : Option Affair :=
  if e.store = place then some e.affair else none

/-- What a visit does at a store. -/
def Visit.affairAt (place : Nat) : Visit → Option Affair
  | .visitor there affair => if there = place then some affair else none
  | .sent e => e.affairAt place

/-- What happens to workers. -/
inductive WorkEvent
  | did (ticket : Nat) (deed : Deed)
  /-- A call waited for the worker to finish, and it has. -/
  | acknowledged (ticket : Nat)
  /-- The call did not wait any longer. -/
  | gaveUp (ticket : Nat)
deriving DecidableEq, Repr

/-- A system and those who visit its stores, by their tickets. -/
structure Traffic where
  system : System
  visits : Nat → Option Visit

namespace System

/-- How the wait of a call for a worker ends. -/
def exitEvents (sys : System) (c : Call) : List WorkEvent :=
  match c.agenda with
  | .awaitExit ticket deadline :: _ =>
    if sys.isFinished ticket then [.acknowledged ticket]
    else if deadline ≤ sys.now then [.gaveUp ticket]
    else []
  | _ => []

/-- Hold the plugins of a configuration as a group. The group before it is given up. -/
def hold (sys : System) (config : PluginConfig) (stopTimeout : Nat) : System :=
  ((Session.new sys).holdPlugins config stopTimeout).system

/-- A call goes on with its first command. -/
def proceed (sys : System) (c : Call) : System :=
  { (sys.stepCall c).1 with call := some (sys.stepCall c).2 }

/-- Only what is no business of stores, groups, calls and workers has changed. -/
structure Unconcerned (sys sys' : System) : Prop where
  stores : sys'.stores = sys.stores
  nextTicket : sys'.nextTicket = sys.nextTicket
  workers : sys'.workers = sys.workers
  states : sys'.states.length = sys.states.length
  slots : sys'.slots = sys.slots
  groups : sys'.groups = sys.groups
  call : sys'.call = sys.call

end System

namespace Traffic

open DocStore.System

variable {τ τ' : Traffic} {sys sys' : System} {place ticket : Nat} {log events : List WorkEvent}

/-- A system that nobody visits. -/
def of (sys : System) : Traffic := ⟨sys, fun _ => none⟩

/-- What the party with a ticket does at a store: a visitor, a worker, or the call under way. -/
def affairAt (τ : Traffic) (place ticket : Nat) : Option Affair :=
  ((τ.visits ticket).bind (·.affairAt place)).or
    ((((τ.system.worker? ticket).bind (·.phase.errand?)).bind (·.affairAt place)).or
      (((τ.system.call.bind (·.errand)).filter (·.ticket = ticket)).bind (·.affairAt place)))

/-- A visit goes on, or is over. -/
def visit (τ : Traffic) (sys : System) (ticket : Nat) (change : Option Visit) : Traffic :=
  ⟨sys, Function.update τ.visits ticket change⟩

theorem visits_self (τ : Traffic) (sys : System) (ticket : Nat) (change : Option Visit) :
    (τ.visit sys ticket change).visits ticket = change :=
  Function.update_self ..

theorem visits_ne {other : Nat} (ne : other ≠ ticket) (τ : Traffic) (sys : System)
    (change : Option Visit) : (τ.visit sys ticket change).visits other = τ.visits other :=
  Function.update_of_ne ne ..

/-- Everything but the visits goes on. -/
def go (τ : Traffic) (sys : System) : Traffic := { τ with system := sys }

/-- One step that is not of a call: of a visitor, an errand that was sent out, or a worker. -/
inductive Other (τ : Traffic) : List WorkEvent → Traffic → Prop
  | ask (place : Nat) (write : Bool) (present : place < τ.system.stores.length) :
      Other τ [] (τ.visit (τ.system.takeTicket.1.updateStore place fun s =>
          (if write then Store.requestWrite else Store.requestRead) s τ.system.nextTicket)
        τ.system.nextTicket (some (.visitor place (.asking write))))
  | enterRead (ticket place : Nat) (asked : τ.visits ticket = some (.visitor place (.asking false)))
      (held : (τ.system.storeAt place).state.isHeldBy ticket = true) :
      Other τ [] (τ.visit
        (τ.system.updateStore place fun _ => ((τ.system.storeAt place).openRead ticket).1) ticket
        (some (.visitor place (.inside ((τ.system.storeAt place).openRead ticket).2))))
  | enterWrite (ticket place : Nat) (asked : τ.visits ticket = some (.visitor place (.asking true)))
      (held : (τ.system.storeAt place).writer.isHeldBy ticket = true) :
      Other τ [] (τ.visit
        (τ.system.updateStore place fun _ => ((τ.system.storeAt place).openWrite ticket).1) ticket
        (some (.visitor place (.inside ((τ.system.storeAt place).openWrite ticket).2))))
  | edit (ticket place : Nat) {t : Transaction}
      (inside : τ.visits ticket = some (.visitor place (.inside t))) (edits : List Edit) :
      Other τ [] (τ.visit τ.system ticket
        (some (.visitor place (.inside ((τ.system.storeAt place).editAll t edits).1))))
  | register (ticket place : Nat) {t : Transaction} {listener : Listener} {s : Store}
      {handle : TriggerHandle} (inside : τ.visits ticket = some (.visitor place (.inside t)))
      (ok : (τ.system.storeAt place).register t listener = .ok (s, handle)) :
      Other τ [] (τ.go (τ.system.updateStore place fun _ => s))
  | unregister (ticket place : Nat) {t : Transaction} {handle : TriggerHandle} {s : Store}
      (inside : τ.visits ticket = some (.visitor place (.inside t)))
      (ok : (τ.system.storeAt place).unregister t handle = .ok s) :
      Other τ [] (τ.go (τ.system.updateStore place fun _ => s))
  | leave (ticket place : Nat) {t : Transaction}
      (inside : τ.visits ticket = some (.visitor place (.inside t))) :
      Other τ [] (τ.visit (τ.system.updateStore place (·.close t)) ticket none)
  | askCommit (ticket place : Nat) {t : Transaction}
      (inside : τ.visits ticket = some (.visitor place (.inside t))) (write : t.isWrite = true) :
      Other τ [] (τ.visit (τ.system.updateStore place (·.requestCommit ticket)) ticket
        (some (.visitor place (.closing t))))
  | commit (ticket place : Nat) {t : Transaction}
      (closing : τ.visits ticket = some (.visitor place (.closing t)))
      (held : (τ.system.storeAt place).state.isHeldBy ticket = true) :
      Other τ [] (τ.visit (τ.system.commit place t) ticket none)
  | send (place : Nat) (plan : Plan) (present : place < τ.system.stores.length) :
      Other τ [] (τ.visit
        (τ.system.takeTicket.1.beginErrand place τ.system.nextTicket plan).1 τ.system.nextTicket
        ((τ.system.takeTicket.1.beginErrand place τ.system.nextTicket plan).2.hand.map .sent))
  | resume (ticket : Nat) {e : Errand} (sent : τ.visits ticket = some (.sent e)) :
      Other τ [] (τ.visit (τ.system.pollErrand e).1 ticket
        ((τ.system.pollErrand e).2.hand.map .sent))
  | claim (place : Nat) {change : Store → Store} (claiming : Store.Claiming change) :
      Other τ [] (τ.go (τ.system.updateStore place change))
  | turn (ticket : Nat) {deeds : List Deed} {sys : System} (took : Took ticket τ.system deeds sys) :
      Other τ (deeds.map (.did ticket)) (τ.go sys)
  | aside {sys : System} (unconcerned : Unconcerned τ.system sys) : Other τ [] (τ.go sys)

/-- One step of somebody, with what happens to workers. `calls` says which calls are made. -/
inductive Step (calls : System → Call → Prop) (τ : Traffic) : List WorkEvent → Traffic → Prop
  | other {events : List WorkEvent} {τ' : Traffic} (other : Other τ events τ') : Step calls τ events τ'
  | hold {r : Registry} {raw : Value} {config : PluginConfig} (stopTimeout : Nat)
      (idle : τ.system.callIsOver = true) (validated : PluginConfig.validate r raw = .ok config) :
      Step calls τ [] (τ.go (τ.system.hold config stopTimeout))
  | call (c : Call) (idle : τ.system.callIsOver = true) (may : calls τ.system c)
      (new : c.errand = none ∧ c.result = none) :
      Step calls τ [] (τ.go { τ.system with call := some c })
  | proceed {c : Call} (called : τ.system.call = some c) (unfinished : c.result = none) :
      Step calls τ (τ.system.exitEvents c) (τ.go (τ.system.proceed c))

/-- Steps one after the other, with their log. -/
inductive Run (calls : System → Call → Prop) (start : Traffic) : List WorkEvent → Traffic → Prop
  | none : Run calls start [] start
  | step {log events : List WorkEvent} {τ τ' : Traffic} (run : Run calls start log τ)
      (step : Step calls τ events τ') : Run calls start (log ++ events) τ'

/-- More calls may be made. -/
theorem Step.mono {calls other : System → Call → Prop} (step : Step calls τ events τ')
    (weaker : ∀ sys c, calls sys c → other sys c) : Step other τ events τ' := by
  cases step with
  | other other => exact .other other
  | hold stopTimeout idle validated => exact .hold stopTimeout idle validated
  | call c idle may new => exact .call c idle (weaker _ c may) new
  | proceed called unfinished => exact .proceed called unfinished

namespace Run

variable {start τ τ' : Traffic} {log more : List WorkEvent} {calls other : System → Call → Prop}

theorem mono (run : Run calls start log τ) (weaker : ∀ sys c, calls sys c → other sys c) :
    Run other start log τ := by
  induction run with
  | none => exact .none
  | step _ step ih => exact ih.step (step.mono weaker)

theorem trans (run : Run calls start log τ) (next : Run calls τ more τ') :
    Run calls start (log ++ more) τ' := by
  induction next with
  | none =>
    rw [List.append_nil]
    exact run
  | step _ step ih =>
    rw [← List.append_assoc]
    exact ih.step step

end Run

/-! ## Staff -/

end Traffic

namespace System

variable {sys sys' mid : System} {ticket group : Nat} {w : Worker}

/-- What calls make of the workers: some may have been asked to finish, and others are new. -/
structure Staffed (sys sys' : System) : Prop where
  tickets : sys.nextTicket ≤ sys'.nextTicket
  kept : ∀ ticket w, sys.worker? ticket = some w →
    ∃ exit, sys'.worker? ticket = some { w with exit }
  new : ∀ ticket w, sys'.worker? ticket = some w → sys.worker? ticket = none →
    sys.nextTicket ≤ ticket ∧ ticket < sys'.nextTicket ∧ w.phase = .due

namespace Staffed

theorem of_eq (workers : sys'.workers = sys.workers) (tickets : sys.nextTicket ≤ sys'.nextTicket) :
    Staffed sys sys' := by
  refine ⟨tickets, fun ticket w found => ⟨w.exit, ?_⟩, fun ticket w found absent => ?_⟩
  · exact (worker?_of_workers workers ticket).trans found
  · rw [worker?_of_workers workers, absent] at found
    cases found

theorem refl (sys : System) : Staffed sys sys := .of_eq rfl (Nat.le_refl _)

theorem trans {a b c : System} (first : Staffed a b) (next : Staffed b c) : Staffed a c := by
  refine ⟨Nat.le_trans first.tickets next.tickets, fun ticket w found => ?_,
    fun ticket w found absent => ?_⟩
  · obtain ⟨exit, between⟩ := first.kept ticket w found
    exact next.kept ticket { w with exit } between
  · cases between : b.worker? ticket with
    | none =>
      obtain ⟨fresh, taken, due⟩ := next.new ticket w found between
      exact ⟨Nat.le_trans first.tickets fresh, taken, due⟩
    | some new =>
      obtain ⟨fresh, taken, due⟩ := first.new ticket new between absent
      obtain ⟨_, still⟩ := next.kept ticket new between
      cases still.symm.trans found
      exact ⟨fresh, Nat.lt_of_lt_of_le taken next.tickets, due⟩

/-- Whoever was not there and is not new is still not there. -/
theorem absent (staffed : Staffed sys sys') (absent : sys.worker? ticket = none)
    (old : ticket < sys.nextTicket) : sys'.worker? ticket = none := by
  cases found : sys'.worker? ticket with
  | none => rfl
  | some w => exact absurd (staffed.new ticket w found absent).1 (Nat.not_le_of_lt old)

end Staffed

theorem staffed_of_asks (asks : AsksExit ticket sys sys')
    (tickets : sys'.nextTicket = sys.nextTicket) : Staffed sys sys' := by
  refine ⟨Nat.le_of_eq tickets.symm, fun other w found => ?_, fun other w found absent => ?_⟩
  · rw [asks other]
    by_cases same : other = ticket
    · subst same
      rw [if_pos rfl, found]
      exact ⟨true, rfl⟩
    · rw [if_neg same]
      exact ⟨w.exit, found⟩
  · rw [asks other] at found
    by_cases same : other = ticket
    · subst same
      rw [if_pos rfl, absent] at found
      cases found
    · rw [if_neg same, absent] at found
      cases found

theorem staffed_requestExit (sys : System) (ticket : Nat) : Staffed sys (sys.requestExit ticket) := by
  obtain ⟨_, _, _, same⟩ := requestExit_keeps sys ticket
  refine staffed_of_asks (worker?_requestExit sys ticket) ?_
  rw [same]

theorem worker?_append (workers : sys'.workers = sys.workers ++ [w]) (ticket : Nat) :
    sys'.worker? ticket = (sys.worker? ticket).or (if w.ticket = ticket then some w else none) := by
  unfold worker?
  rw [workers, List.find?_append]
  by_cases same : w.ticket = ticket <;> simp [same]

/-- Somebody is brought up. -/
theorem staffed_append (mine : w.ticket = sys.nextTicket) (due : w.phase = .due)
    (workers : sys'.workers = sys.workers ++ [w]) (tickets : sys'.nextTicket = sys.nextTicket + 1) :
    Staffed sys sys' := by
  refine ⟨tickets ▸ Nat.le_succ _, fun ticket v found => ⟨v.exit, ?_⟩,
    fun ticket v found absent => ?_⟩
  · rw [worker?_append workers, found]
    rfl
  · rw [worker?_append workers, absent, Option.none_or] at found
    split at found
    · next same =>
      cases found
      rw [← same, mine, tickets]
      exact ⟨Nat.le_refl _, Nat.lt_succ_self _, due⟩
    · cases found

theorem Manages.staffed {command : Command} {result : CommandResult}
    (manages : Manages group sys command result sys') : Staffed sys sys' := by
  cases manages with
  | fails inert | idles inert | delists _ inert | starts _ _ inert | adds inert =>
    exact .of_eq inert.workers (Nat.le_of_eq inert.nextTicket.symm)
  | enlists | refreshes => exact .refl sys
  | claims change => exact .of_eq rfl (Nat.le_refl _)
  | launches _ new workers tickets => exact staffed_append new.1 new.2.2 workers tickets
  | stops _ _ _ asks tickets | dismisses _ _ _ asks tickets => exact staffed_of_asks asks tickets
  | drops _ _ _ workers tickets | retires _ _ workers tickets | assigns _ _ workers tickets =>
    exact .of_eq workers (Nat.le_of_eq tickets.symm)

theorem staffed_goOn (sys : System) (c : Call) (rest : List Command) (result : CommandResult) :
    Staffed sys (sys.goOn c rest result).1 := by
  cases result with
  | ok first => exact .refl sys
  | error e =>
    unfold goOn reported
    dsimp only
    split <;> exact .of_eq rfl (Nat.le_refl _)

theorem staffed_advanceErrand (sys : System) (c : Call) (plan : Plan) :
    Staffed sys (sys.advanceErrand c plan).1 := by
  unfold advanceErrand
  split
  · next e _ =>
    obtain ⟨⟨_, _, _, _, _, same⟩, -⟩ := transacts_pollErrand sys e
    rw [same]
    exact .of_eq rfl (Nat.le_refl _)
  · obtain ⟨⟨_, _, _, _, _, same⟩, -⟩ :=
      transacts_beginErrand sys.takeTicket.1 pluginStore sys.takeTicket.2 plan
    dsimp only
    rw [same]
    exact .of_eq rfl (Nat.le_succ _)

theorem staffed_follow (sys : System) (group : Nat) (followup : Followup)
    (result : Except Refusal Outcome) : Staffed sys (sys.follow group followup result).1 := by
  unfold follow
  split <;> exact .of_eq rfl (Nat.le_refl _)

theorem staffed_stepCall (sys : System) (c : Call) : Staffed sys (sys.stepCall c).1 := by
  have steps := stepsTo_stepCall 0 sys c
  revert steps
  generalize noticedBy 0 sys c = log, (sys.stepCall c).1 = sys', (sys.stepCall c).2 = c'
  intro steps
  cases steps with
  | ends | patient | exits => exact .refl sys
  | @waits plan _ _ _ _ row advanced =>
    have staffed := staffed_advanceErrand sys c plan
    rwa [advanced] at staffed
  | @runs plan followup _ mid _ result _ row advanced followed =>
    have first := staffed_advanceErrand sys c plan
    have then' := staffed_follow mid c.group followup result
    rw [advanced] at first
    rw [followed] at then'
    exact (first.trans then').trans (staffed_goOn _ c _ _)
  | @performs command _ _ _ row prompt performed =>
    have done := (manages_perform sys c.group command).staffed
    rw [performed] at done
    exact done.trans (staffed_goOn _ _ _ _)

/-- A group that is given up has its workers asked to finish. -/
theorem abandon_keeps (sys : System) (g : Group) :
    ∃ workers timers ready, Session.abandon sys g = { sys with workers, timers, ready } := by
  unfold Session.abandon
  generalize g.plugins.filterMap (·.2.worker) = tickets
  induction tickets generalizing sys with
  | nil => exact ⟨_, _, _, rfl⟩
  | cons ticket rest ih =>
    obtain ⟨_, _, _, first⟩ := requestExit_keeps sys ticket
    obtain ⟨workers, timers, ready, others⟩ := ih (sys.requestExit ticket)
    refine ⟨workers, timers, ready, ?_⟩
    rw [List.foldl_cons, others, first]

theorem staffed_abandon (sys : System) (g : Group) : Staffed sys (Session.abandon sys g) := by
  unfold Session.abandon
  generalize g.plugins.filterMap (·.2.worker) = tickets
  induction tickets generalizing sys with
  | nil => exact .refl sys
  | cons ticket rest ih => exact (staffed_requestExit sys ticket).trans (ih _)

theorem hold_keeps (sys : System) (config : PluginConfig) (stopTimeout : Nat) :
    (sys.hold config stopTimeout).stores = sys.stores ∧
      (sys.hold config stopTimeout).call = sys.call := by
  unfold hold Session.holdPlugins
  dsimp only
  split
  · next g _ =>
    obtain ⟨_, _, _, same⟩ := abandon_keeps sys g
    show (Session.abandon sys g).stores = _ ∧ (Session.abandon sys g).call = _
    rw [same]
    exact ⟨rfl, rfl⟩
  · exact ⟨rfl, rfl⟩

theorem staffed_hold (sys : System) (config : PluginConfig) (stopTimeout : Nat) :
    Staffed sys (sys.hold config stopTimeout) := by
  unfold hold Session.holdPlugins
  dsimp only
  split
  · exact (staffed_abandon sys _).trans (.of_eq rfl (Nat.le_refl _))
  · exact .of_eq rfl (Nat.le_refl _)

end System

/-! ## Tickets -/

/-- An errand that was sent out goes by the ticket of the visit. -/
def Visit.Under (ticket : Nat) : Visit → Prop
  | .visitor .. => True
  | .sent e => e.ticket = ticket

namespace Traffic

open DocStore.System

/-- The call under way is on no errand with this ticket. -/
def Elsewhere (sys : System) (ticket : Nat) : Prop :=
  ∀ c, sys.call = some c → ∀ e, c.errand = some e → e.ticket ≠ ticket

/-- No two parties share a ticket, and new tickets are new. -/
structure Ticketed (τ : Traffic) : Prop where
  visits : ∀ ticket v, τ.visits ticket = some v →
    ticket < τ.system.nextTicket ∧ τ.system.worker? ticket = none ∧ v.Under ticket
  workers : ∀ ticket w, τ.system.worker? ticket = some w →
    ticket < τ.system.nextTicket ∧ ∃ p, w.phase.At ticket p
  call : ∀ c, τ.system.call = some c → c.Coherent ∧ ∀ e, c.errand = some e →
    c.result = none ∧ e.ticket < τ.system.nextTicket ∧ τ.visits e.ticket = none ∧
      τ.system.worker? e.ticket = none

namespace Ticketed

variable {τ τ' : Traffic} {sys : System} {ticket : Nat} {log events : List WorkEvent}
  {calls : System → Call → Prop}

/-- Somebody with a ticket of their own comes, goes on or leaves. -/
theorem visit (h : Ticketed τ) {change : Option Visit} (workers : sys.workers = τ.system.workers)
    (call : sys.call = τ.system.call) (tickets : τ.system.nextTicket ≤ sys.nextTicket)
    (taken : ticket < sys.nextTicket) (free : τ.system.worker? ticket = none)
    (elsewhere : Elsewhere τ.system ticket)
    (under : ∀ v, change = some v → v.Under ticket) : Ticketed (τ.visit sys ticket change) := by
  have same (other : Nat) : sys.worker? other = τ.system.worker? other :=
    worker?_of_workers workers other
  refine ⟨fun other v visited => ?_, fun other w found => ?_, fun c called => ?_⟩
  · by_cases mine : other = ticket
    · subst mine
      have now : change = some v := (visits_self τ sys other change).symm.trans visited
      exact ⟨taken, (same other).trans free, under v now⟩
    · have before : τ.visits other = some v := (visits_ne mine τ sys change).symm.trans visited
      obtain ⟨old, absent, named⟩ := h.visits other v before
      exact ⟨Nat.lt_of_lt_of_le old tickets, (same other).trans absent, named⟩
  · obtain ⟨old, at'⟩ := h.workers other w ((same other).symm.trans found)
    exact ⟨Nat.lt_of_lt_of_le old tickets, at'⟩
  · have before : τ.system.call = some c := call.symm.trans called
    obtain ⟨coherent, errand⟩ := h.call c before
    refine ⟨coherent, fun e on => ?_⟩
    obtain ⟨unfinished, old, unvisited, absent⟩ := errand e on
    have ne := elsewhere c before e on
    exact ⟨unfinished, Nat.lt_of_lt_of_le old tickets, (visits_ne ne τ sys change).trans unvisited,
      (same e.ticket).trans absent⟩

/-- The call is on no errand of a visitor. -/
theorem elsewhere (h : Ticketed τ) {v : Visit} (visited : τ.visits ticket = some v) :
    Elsewhere τ.system ticket := by
  rintro c called e on rfl
  rw [((h.call c called).2 e on).2.2.1] at visited
  cases visited

/-- Whoever visits has a ticket of their own. -/
theorem visited (h : Ticketed τ) {change : Option Visit} {v : Visit}
    (visited : τ.visits ticket = some v) (workers : sys.workers = τ.system.workers)
    (call : sys.call = τ.system.call) (tickets : sys.nextTicket = τ.system.nextTicket)
    (under : ∀ v, change = some v → v.Under ticket) : Ticketed (τ.visit sys ticket change) := by
  obtain ⟨taken, free, -⟩ := h.visits ticket v visited
  exact h.visit workers call (Nat.le_of_eq tickets.symm) (tickets ▸ taken) free
    (h.elsewhere visited) under

/-- The next ticket is nobody's. -/
theorem free (h : Ticketed τ) : τ.visits τ.system.nextTicket = none ∧
    τ.system.worker? τ.system.nextTicket = none ∧ Elsewhere τ.system τ.system.nextTicket := by
  refine ⟨?_, ?_, fun c called e on => Nat.ne_of_lt ((h.call c called).2 e on).2.1⟩
  · cases visited : τ.visits τ.system.nextTicket with
    | none => rfl
    | some v => exact absurd (h.visits _ v visited).1 (Nat.lt_irrefl _)
  · cases found : τ.system.worker? τ.system.nextTicket with
    | none => rfl
    | some w => exact absurd (h.workers _ w found).1 (Nat.lt_irrefl _)

/-- Somebody comes, with a new ticket. -/
theorem comes (h : Ticketed τ) {change : Option Visit} (workers : sys.workers = τ.system.workers)
    (call : sys.call = τ.system.call) (tickets : sys.nextTicket = τ.system.nextTicket + 1)
    (under : ∀ v, change = some v → v.Under τ.system.nextTicket) :
    Ticketed (τ.visit sys τ.system.nextTicket change) := by
  obtain ⟨-, free, elsewhere⟩ := h.free
  refine h.visit workers call ?_ ?_ free elsewhere under
  · rw [tickets]
    exact Nat.le_succ _
  · rw [tickets]
    exact Nat.lt_succ_self _

/-- A call goes on, or another one is made. -/
theorem staffed (h : Ticketed τ) (staffed : Staffed τ.system sys)
    (call : ∀ c, sys.call = some c → c.Coherent ∧ ∀ e, c.errand = some e → c.result = none ∧
      e.ticket < sys.nextTicket ∧ τ.visits e.ticket = none ∧ sys.worker? e.ticket = none) :
    Ticketed (τ.go sys) := by
  refine ⟨fun other v visited => ?_, fun other w found => ?_, call⟩
  · obtain ⟨old, absent, named⟩ := h.visits other v visited
    exact ⟨Nat.lt_of_lt_of_le old staffed.tickets, staffed.absent absent old, named⟩
  · cases before : τ.system.worker? other with
    | none =>
      obtain ⟨-, taken, due⟩ := staffed.new other w found before
      refine ⟨taken, .resting, ?_⟩
      rw [due]
      rfl
    | some v =>
      obtain ⟨old, at'⟩ := h.workers other v before
      obtain ⟨exit, still⟩ := staffed.kept other v before
      cases still.symm.trans found
      exact ⟨Nat.lt_of_lt_of_le old staffed.tickets, at'⟩

/-- Nobody comes or leaves, and the call is where it was. -/
theorem same_call (h : Ticketed τ) (staffed : Staffed τ.system sys)
    (call : sys.call = τ.system.call) : Ticketed (τ.go sys) := by
  refine h.staffed staffed fun c called => ?_
  obtain ⟨coherent, errand⟩ := h.call c (call.symm.trans called)
  refine ⟨coherent, fun e on => ?_⟩
  obtain ⟨unfinished, old, unvisited, absent⟩ := errand e on
  exact ⟨unfinished, Nat.lt_of_lt_of_le old staffed.tickets, unvisited, staffed.absent absent old⟩

theorem turn (h : Ticketed τ) {deeds : List Deed} (took : Took ticket τ.system deeds sys) :
    Ticketed (τ.go sys) := by
  obtain ⟨w, found⟩ := took.worker
  have mine : w.ticket = ticket := ticket_of_found found
  obtain ⟨old, p, fits⟩ := h.workers ticket w found
  obtain ⟨phase, source, q, acts, -, still, fits⟩ := works_took took found fits
  rw [mine] at acts still fits
  obtain ⟨tickets, others, call, nextTicket, -⟩ := acts.keeps
  have absent {other : Nat} (absent : τ.system.worker? other = none) : sys.worker? other = none := by
    by_cases same : other = ticket
    · subst same
      cases absent.symm.trans found
    · exact (others other same).trans absent
  refine ⟨fun other v visited => ?_, fun other v held => ?_, fun c called => ?_⟩
  · obtain ⟨old, gone, named⟩ := h.visits other v visited
    exact ⟨nextTicket.symm ▸ old, absent gone, named⟩
  · by_cases same : other = ticket
    · subst same
      cases still.symm.trans held
      exact ⟨nextTicket.symm ▸ old, q, fits⟩
    · obtain ⟨old, at'⟩ := h.workers other v ((others other same).symm.trans held)
      exact ⟨nextTicket.symm ▸ old, at'⟩
  · obtain ⟨coherent, errand⟩ := h.call c (call.symm.trans called)
    refine ⟨coherent, fun e on => ?_⟩
    obtain ⟨unfinished, old, unvisited, gone⟩ := errand e on
    exact ⟨unfinished, nextTicket.symm ▸ old, unvisited, absent gone⟩

theorem proceed (h : Ticketed τ) {c : Call} (called : τ.system.call = some c)
    (unfinished : c.result = none) : Ticketed (τ.go (τ.system.proceed c)) := by
  have staffed := staffed_stepCall τ.system c
  obtain ⟨coherent, errand⟩ := h.call c called
  obtain ⟨unvisited, unworked, -⟩ := h.free
  have steps := stepsTo_stepCall 0 τ.system c
  have goes : Staffed τ.system (τ.system.proceed c) := staffed.trans (.of_eq rfl (Nat.le_refl _))
  refine h.staffed goes fun c' called' => ?_
  have same : (τ.system.stepCall c).2 = c' := Option.some.inj called'
  rw [← same]
  refine ⟨steps.coherent coherent, fun e on => ?_⟩
  show _ ∧ e.ticket < (τ.system.stepCall c).1.nextTicket ∧ _ ∧
    (τ.system.stepCall c).1.worker? e.ticket = none
  -- An errand that is under way afterwards was so before, or it has just been set out on.
  have old (e₀ : Errand) (before : c.errand = some e₀) (ticket : e.ticket = e₀.ticket) :
      e.ticket < (τ.system.stepCall c).1.nextTicket ∧ τ.visits e.ticket = none ∧
        (τ.system.stepCall c).1.worker? e.ticket = none := by
    obtain ⟨-, old, unvisited, absent⟩ := errand e₀ before
    rw [ticket]
    exact ⟨Nat.lt_of_lt_of_le old staffed.tickets, unvisited, staffed.absent absent old⟩
  revert steps on old
  generalize noticedBy 0 τ.system c = log, (τ.system.stepCall c).1 = sys',
    (τ.system.stepCall c).2 = c''
  intro steps on old
  cases steps with
  | ends | exits => cases on
  | patient => exact ⟨unfinished, old e on rfl⟩
  | runs | performs =>
    exfalso
    unfold goOn at on
    split at on <;> cases on
  | @waits plan _ _ sys' e' row advanced =>
    cases on
    unfold advanceErrand at advanced
    split at advanced
    · next e₀ under =>
      have follows := follows_pollErrand (congrArg Prod.snd advanced)
      exact ⟨unfinished, old e₀ under follows.ticket⟩
    · have follows := follows_pollErrand (congrArg Prod.snd advanced)
      have ticket : e.ticket = τ.system.nextTicket := follows.ticket
      obtain ⟨⟨_, _, _, _, _, after⟩, -⟩ :=
        transacts_beginErrand τ.system.takeTicket.1 pluginStore τ.system.takeTicket.2 plan
      have same : sys' = _ := (congrArg Prod.fst advanced).symm.trans after
      rw [ticket, same]
      exact ⟨unfinished, Nat.lt_succ_self _, unvisited, unworked⟩

/-- What others do beside the calls. -/
theorem other (h : Ticketed τ) (other : Other τ events τ') : Ticketed τ' := by
  have visitor {place : Nat} {affair : Affair} (v : Visit)
      (same : some (Visit.visitor place affair) = some v) (ticket : Nat) : v.Under ticket := by
    cases same
    trivial
  have nobody (v : Visit) (never : none = some v) (ticket : Nat) : v.Under ticket := by cases never
  have quiet {sys : System} (same : sys.workers = τ.system.workers)
      (tickets : sys.nextTicket = τ.system.nextTicket) : Staffed τ.system sys :=
    .of_eq same (Nat.le_of_eq tickets.symm)
  cases other with
  | ask place write present => exact h.comes rfl rfl rfl fun v same => visitor v same _
  | enterRead ticket place asked held | enterWrite ticket place asked held =>
    exact h.visited asked rfl rfl rfl fun v same => visitor v same _
  | edit ticket place inside edits =>
    exact h.visited inside rfl rfl rfl fun v same => visitor v same _
  | register ticket place inside ok | unregister ticket place inside ok =>
    exact h.same_call (quiet rfl rfl) rfl
  | leave ticket place inside => exact h.visited inside rfl rfl rfl fun v same => nobody v same _
  | askCommit ticket place inside write =>
    exact h.visited inside rfl rfl rfl fun v same => visitor v same _
  | commit ticket place closing held =>
    obtain ⟨⟨_, _, _, _, _, same⟩, -⟩ := transacts_commit τ.system place _
    rw [same]
    exact h.visited closing rfl rfl rfl fun v same => nobody v same _
  | send place plan present =>
    obtain ⟨⟨_, _, _, _, _, same⟩, -⟩ :=
      transacts_beginErrand τ.system.takeTicket.1 place τ.system.nextTicket plan
    have under (v : Visit) (sent : (τ.system.takeTicket.1.beginErrand place τ.system.nextTicket
        plan).2.hand.map Visit.sent = some v) : v.Under τ.system.nextTicket := by
      obtain ⟨e, hand, rfl⟩ := Option.map_eq_some_iff.1 sent
      exact (follows_pollErrand (waiting_of_hand hand)).ticket
    refine h.comes ?_ ?_ ?_ under <;> rw [same] <;> rfl
  | @resume ticket e sent =>
    obtain ⟨-, -, named⟩ := h.visits ticket _ sent
    obtain ⟨⟨_, _, _, _, _, same⟩, -⟩ := transacts_pollErrand τ.system e
    have under (v : Visit) (later : (τ.system.pollErrand e).2.hand.map Visit.sent = some v) :
        v.Under ticket := by
      obtain ⟨e', hand, rfl⟩ := Option.map_eq_some_iff.1 later
      exact (follows_pollErrand (waiting_of_hand hand)).ticket.trans named
    refine h.visited sent ?_ ?_ ?_ under <;> rw [same]
  | claim place claiming => exact h.same_call (quiet rfl rfl) rfl
  | turn ticket took => exact h.turn took
  | aside unconcerned =>
    exact h.same_call (quiet unconcerned.workers unconcerned.nextTicket) unconcerned.call

/-- Whatever anybody does. -/
theorem step (h : Ticketed τ) (step : Step calls τ events τ') : Ticketed τ' := by
  cases step with
  | other other => exact h.other other
  | hold stopTimeout idle validated =>
    exact h.same_call (staffed_hold _ _ _) (hold_keeps _ _ _).2
  | call c idle may new =>
    refine h.staffed (.of_eq rfl (Nat.le_refl _)) fun c' called => ?_
    cases called
    refine ⟨fun e on => ?_, fun e on => ?_⟩ <;> cases new.1.symm.trans on
  | proceed called unfinished => exact h.proceed called unfinished

end Ticketed

/-- A system in which nothing has happened yet. -/
theorem ticketed_new (trees : List Value) (engine : Engine) (files : FileTree) :
    Ticketed (of (System.new trees engine files)) :=
  ⟨fun _ _ never => (by cases never), fun _ _ never => (by cases never),
    fun _ never => (by cases never)⟩

theorem Run.ticketed {calls : System → Call → Prop} {start τ : Traffic} {log : List WorkEvent}
    (run : Run calls start log τ) (ticketed : Ticketed start) : Ticketed τ := by
  induction run with
  | none => exact ticketed
  | step _ step ih => exact ih.step step

end Traffic

end DocStore
