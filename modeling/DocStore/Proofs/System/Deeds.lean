import DocStore.Proofs.System.Roster
import Mathlib.Data.List.Induction

/-!
# What a worker does, deed by deed

A tick begins, fetches, evaluates its transform if there is one, stores and ends, and it may stop short
after the fetch or the evaluation. A worker takes several turns for that, so each turn is read off as a
row of deeds, and the phase in which it leaves the worker says how far the tick has come. Towards the
stores a turn is a row of acts: what it does aside, and the errands that it sets out on and goes on with.

Results:
  * `Point.after_ticks`: deeds that follow one another are whole ticks and the beginning of one;
  * `transacts_pollErrand`: what an errand leaves alone;
  * `Acts.unstored`: acts without a deed that stores leave all contents;
  * `works_runWorker`, `works_took`: a turn as a row of acts, and where it leaves the worker.
-/

namespace DocStore

/-! ## Ticks -/

/-- What a worker does in a tick, as far as it matters to others. -/
inductive Deed
  | begins
  | fetched
  | evaluated
  /-- Something was committed. -/
  | stored
  | ends
deriving DecidableEq, Repr

/-- How far a tick has come. -/
inductive Point
  /-- Between two ticks. -/
  | resting
  | fetching
  | fetched
  | evaluated
  | stored
deriving DecidableEq, Repr

namespace Point

/-- Where a deed leads, if it is its turn. -/
def next : Point → Deed → Option Point
  | .resting, .begins => some .fetching
  | .fetching, .fetched => some .fetched
  | .fetched, .evaluated => some .evaluated
  | .fetched, .stored | .evaluated, .stored => some .stored
  | .fetched, .ends | .evaluated, .ends | .stored, .ends => some .resting
  | _, _ => none

/-- Where a row of deeds leads. -/
def after (p : Point) (deeds : List Deed) : Option Point := deeds.foldlM next p

theorem after_append (p : Point) (deeds more : List Deed) :
    p.after (deeds ++ more) = (p.after deeds).bind (·.after more) :=
  List.foldlM_append

theorem after_trans {p q r : Point} {deeds more : List Deed} (first : p.after deeds = some q)
    (rest : q.after more = some r) : p.after (deeds ++ more) = some r := by
  rw [after_append, first]
  exact rest

end Point

/-- The deeds of one tick, which evaluates or not, and stores or not. -/
def tickOf (evaluates stores : Bool) : List Deed :=
  [.begins, .fetched] ++ (if evaluates then [.evaluated] else []) ++ (if stores then [.stored] else [])
    ++ [.ends]

/-- The deeds of one tick. -/
def IsTick (deeds : List Deed) : Prop := ∃ evaluates stores, deeds = tickOf evaluates stores

/-- The tick has come to a point with these deeds. -/
def Point.Begun : Point → List Deed → Prop
  | .resting, deeds => deeds = []
  | .fetching, deeds => deeds = [.begins]
  | .fetched, deeds => deeds = [.begins, .fetched]
  | .evaluated, deeds => deeds = [.begins, .fetched, .evaluated]
  | .stored, deeds => deeds = [.begins, .fetched, .stored] ∨
      deeds = [.begins, .fetched, .evaluated, .stored]

/-- One more deed goes on with the tick, or ends it. -/
theorem Point.Begun.next {p q : Point} {deed : Deed} {begun : List Deed} (sofar : p.Begun begun)
    (leads : p.next deed = some q) :
    q.Begun (begun ++ [deed]) ∨ q = .resting ∧ IsTick (begun ++ [deed]) := by
  have ticks (evaluates stores : Bool) (same : begun ++ [deed] = tickOf evaluates stores) :
      IsTick (begun ++ [deed]) := ⟨evaluates, stores, same⟩
  cases p <;> cases deed <;> cases leads
  case resting.begins | fetching.fetched | fetched.evaluated =>
    cases sofar
    exact .inl rfl
  case fetched.stored =>
    cases sofar
    exact .inl (.inl rfl)
  case evaluated.stored =>
    cases sofar
    exact .inl (.inr rfl)
  case fetched.ends =>
    cases sofar
    exact .inr ⟨rfl, ticks false false rfl⟩
  case evaluated.ends =>
    cases sofar
    exact .inr ⟨rfl, ticks true false rfl⟩
  case stored.ends =>
    rcases sofar with rfl | rfl
    · exact .inr ⟨rfl, ticks false true rfl⟩
    · exact .inr ⟨rfl, ticks true true rfl⟩

/-- Deeds that follow one another are whole ticks, one after the other, and the beginning of one. -/
theorem Point.after_ticks {deeds : List Deed} {p : Point}
    (follows : Point.resting.after deeds = some p) :
    ∃ ticks begun, deeds = List.flatten ticks ++ begun ∧ (∀ tick ∈ ticks, IsTick tick) ∧
      p.Begun begun := by
  -- The induction adds deeds at the end, where a tick may end.
  induction deeds using List.reverseRecOn generalizing p with
  | nil =>
    cases follows
    exact ⟨[], [], rfl, (fun _ never => by cases never), rfl⟩
  | append_singleton deeds deed ih =>
    rw [after_append] at follows
    obtain ⟨q, sofar, leads⟩ := Option.bind_eq_some_iff.1 follows
    have leads : q.next deed = some p := by
      unfold after at leads
      simpa only [List.foldlM_cons, List.foldlM_nil, bind_pure] using leads
    obtain ⟨ticks, begun, same, whole, started⟩ := ih sofar
    rcases started.next leads with goesOn | ⟨rfl, ended⟩
    · exact ⟨ticks, begun ++ [deed], by rw [same, List.append_assoc], whole, goesOn⟩
    · refine ⟨ticks ++ [begun ++ [deed]], [], ?_, fun tick mem => ?_, rfl⟩
      · rw [same, List.flatten_append, List.flatten_singleton, List.append_nil, List.append_assoc]
      · rcases List.mem_append.1 mem with earlier | now
        · exact whole tick earlier
        · rw [List.mem_singleton.1 now]
          exact ended

/-! ## Errands in hand -/

/-- An errand of a worker, for a plan of one of the two kinds. -/
structure Errand.Of (ticket : Nat) (write : Bool) (e : Errand) : Prop where
  store : e.store = System.pluginStore
  ticket : e.ticket = ticket
  plain : e.plan.isPlain = true
  kind : e.plan.isWrite = write
  opening : e.plan.isWrite = false → e.stage = .opening

/-- The errand that is still under way. -/
def Progress.hand : Progress → Option Errand
  | .waiting e => some e
  | .finished _ => none

theorem waiting_of_hand {progress : Progress} {e : Errand} (hand : progress.hand = some e) :
    progress = .waiting e := by
  cases progress with
  | waiting e' =>
    cases hand
    rfl
  | finished result => cases hand

/-- What an errand has committed when it is over. -/
def Progress.deeds (write : Bool) : Progress → List Deed
  | .finished (.ok _) => if write then [.stored] else []
  | _ => []

/-- The errand that a worker is on. -/
def WorkerPhase.errand? : WorkerPhase → Option Errand
  | .reading _ e | .ingesting e => some e
  | _ => none

/-- The phase in which a worker is left at a point of its tick. -/
def WorkerPhase.At (ticket : Nat) : WorkerPhase → Point → Prop
  | .due, p | .sleeping, p | .finished, p => p = .resting
  | .fetching _, p | .loading, p => p = .fetching
  | .reading _ e, p => p = .fetched ∧ e.Of ticket false
  | .ingesting e, p => (p = .fetched ∨ p = .evaluated) ∧ e.Of ticket true
  | .running, _ => False

namespace System

variable {sys sys' mid : System} {e : Errand} {w : Worker} {p q : Point} {ticket place : Nat}
  {plan : Plan} {hand held : Option Errand} {deeds more : List Deed}

/-! ## The deeds of a turn

These follow the functions of a tick, one by one. -/

def afterIngestDeeds : Progress → List Deed
  | .waiting _ => []
  | .finished (.ok _) => [.stored, .ends]
  | .finished (.error _) => [.ends]

def ingestDeeds (sys : System) (w : Worker) (value : Value) : List Deed :=
  let sys := sys.setState w.state .ingesting
  afterIngestDeeds (sys.beginErrand pluginStore w.ticket (.replace w.path value)).2

def transformDeeds (sys : System) (w : Worker) (place : Nat) (batch previous : Value) : List Deed :=
  match sys.currentTransform place with
  | (_, .error _) => [.ends]
  | (sys, .ok transform) =>
    .evaluated :: match transform.eval (Transform.input batch previous) with
      | .error _ => [.ends]
      | .ok value => sys.ingestDeeds w value

def afterReadDeeds (sys : System) (w : Worker) (batch : Value) : Progress → List Deed
  | .waiting _ => []
  | .finished result =>
    match previousOf result, w.slot with
    | some previous, some place => sys.transformDeeds w place batch previous
    | _, _ => [.ends]

def withBatchDeeds (sys : System) (w : Worker) (batch : Value) : List Deed :=
  match w.slot with
  | none => sys.ingestDeeds w batch
  | some _ =>
    let sys := sys.setState w.state .transforming
    let (sys, progress) := sys.beginErrand pluginStore w.ticket (.read w.path)
    sys.afterReadDeeds w batch progress

def afterFetchDeeds (sys : System) (w : Worker) : Except PluginError (Option Value) → List Deed
  | .ok (some batch) => .fetched :: sys.withBatchDeeds w batch
  | .ok none | .error _ => [.fetched, .ends]

def afterFeedDeeds (sys : System) (w : Worker) : FeedResult → List Deed
  | .batch value => .fetched :: sys.withBatchDeeds w value
  | .nothing | .failure | .breakdown => [.fetched, .ends]

def beginTickDeeds (sys : System) (w : Worker) : List Deed :=
  let sys := sys.setState w.state .fetching
  .begins :: match w.source with
    | .file _ => []
    | .http source => sys.afterFetchDeeds w (.error source.unreachable)
    | .feed config =>
      let (feed, item) := ((sys.feeds.find? config.feed).getD .empty).fetch
      let sys := { sys with feeds := sys.feeds.insert config.feed feed }
      if item.delay = 0 then sys.afterFeedDeeds w item.result else []

def loadDeeds (sys : System) (w : Worker) : List Deed :=
  match w.source with
  | .file source =>
    let (source, result) := source.fetch sys.files
    sys.afterFetchDeeds { w with source := .file source } result
  | _ => [.fetched, .ends]

def turnDeeds (sys : System) (w : Worker) : List Deed :=
  match w.phase with
  | .due => sys.beginTickDeeds w
  | .fetching item => sys.afterFeedDeeds w item.result
  | .loading => sys.loadDeeds w
  | .reading batch errand =>
    let (sys, progress) := (sys.putWorker { w with phase := .running }).pollErrand errand
    sys.afterReadDeeds w batch progress
  | .ingesting errand =>
    afterIngestDeeds ((sys.putWorker { w with phase := .running }).pollErrand errand).2
  | .sleeping => if w.exit then [] else sys.beginTickDeeds w
  | .running | .finished => []

def takeAnswerDeeds (sys : System) (w : Worker) (source : HttpSource) (a : HttpAnswer) : List Deed :=
  let (source, result) := source.receive a
  sys.afterFetchDeeds { w with source := .http source } result

/-! ## What errands leave alone -/

theorem deliver_about (sys : System) (d : Delivery) :
    (∃ groups slots deliveries, sys.deliver d = { sys with groups, slots, deliveries }) ∧
      (sys.deliver d).rosters = sys.rosters := by
  unfold deliver
  split
  · exact ⟨⟨_, _, _, rfl⟩, rfl⟩
  · unfold watch
    split
    · exact ⟨⟨_, _, _, rfl⟩, rfl⟩
    · dsimp only
      refine ⟨by split <;> exact ⟨_, _, _, rfl⟩,
        (rosters_updateGroup (fun g => plugins_check g _) _ _).trans ?_⟩
      split <;> rfl

theorem deliveries_about (sys : System) (told : List Delivery) :
    (∃ groups slots deliveries, told.foldl deliver sys = { sys with groups, slots, deliveries }) ∧
      (told.foldl deliver sys).rosters = sys.rosters := by
  induction told generalizing sys with
  | nil => exact ⟨⟨_, _, _, rfl⟩, rfl⟩
  | cons d rest ih =>
    obtain ⟨⟨_, _, _, first⟩, same⟩ := deliver_about sys d
    obtain ⟨⟨groups, slots, deliveries, others⟩, still⟩ := ih (sys.deliver d)
    refine ⟨⟨groups, slots, deliveries, ?_⟩, still.trans same⟩
    rw [List.foldl_cons, others, first]

/-- What transactions are about: the stores, who can go on, and what the triggers make of a commit. -/
def Transacts (sys sys' : System) : Prop :=
  (∃ stores ready groups slots deliveries,
    sys' = { sys with stores, ready, groups, slots, deliveries }) ∧ sys'.rosters = sys.rosters

theorem Transacts.refl (sys : System) : Transacts sys sys := ⟨⟨_, _, _, _, _, rfl⟩, rfl⟩

theorem Transacts.trans {a b c : System} (first : Transacts a b) (next : Transacts b c) :
    Transacts a c := by
  refine ⟨?_, next.2.trans first.2⟩
  obtain ⟨⟨_, _, _, _, _, rfl⟩, -⟩ := first
  obtain ⟨⟨_, _, _, _, _, rfl⟩, -⟩ := next
  exact ⟨_, _, _, _, _, rfl⟩

theorem transacts_updateStore (sys : System) (place : Nat) (change : Store → Store) :
    Transacts sys (sys.updateStore place change) := ⟨⟨_, _, _, _, _, rfl⟩, rfl⟩

theorem transacts_commit (sys : System) (place : Nat) (t : Transaction) :
    Transacts sys (sys.commit place t) := by
  unfold commit
  dsimp only
  generalize deliveriesOf place _ t = told
  have tells (mid : System) : Transacts mid (told.foldl deliver mid) := by
    obtain ⟨⟨_, _, _, same⟩, rosters⟩ := deliveries_about mid told
    exact ⟨⟨_, _, _, _, _, same⟩, rosters⟩
  exact ((transacts_updateStore sys place _).trans (tells _)).trans (transacts_updateStore _ place _)

theorem transacts_performErrand (sys : System) (e : Errand) :
    Transacts sys (sys.performErrand e).1 := by
  have put (s : Store) : Transacts sys (sys.updateStore e.store fun _ => s) :=
    transacts_updateStore sys _ _
  unfold performErrand
  dsimp only
  split
  · exact put _
  · split
    · split
      · exact (put _).trans (transacts_commit _ _ _)
      · exact put _
    · exact put _

theorem transacts_pollErrand (sys : System) (e : Errand) : Transacts sys (sys.pollErrand e).1 := by
  unfold pollErrand
  dsimp only
  cases e.stage with
  | opening =>
    have turn (held : Bool) :
        Transacts sys (if held then sys.performErrand e else (sys, .waiting e)).1 := by
      cases held
      · exact .refl sys
      · exact transacts_performErrand sys e
    exact turn _
  | closing t outcome =>
    dsimp only
    split
    · exact transacts_commit _ _ _
    · exact .refl sys

theorem transacts_beginErrand (sys : System) (place ticket : Nat) (plan : Plan) :
    Transacts sys (sys.beginErrand place ticket plan).1 := by
  unfold beginErrand
  exact (transacts_updateStore sys _ _).trans (transacts_pollErrand _ _)

theorem length_pollErrand (sys : System) (e : Errand) :
    (sys.pollErrand e).1.stores.length = sys.stores.length := by
  have goes : Goes (fun _ => False) sys (sys.pollErrand e).1 := goes_pollErrand sys e
  exact goes.keeps_stores

/-! ## Acts -/

/-- Something that is no business of stores, groups and calls, and of no worker but one. -/
structure Aloof (ticket : Nat) (sys sys' : System) : Prop where
  stores : sys'.stores = sys.stores
  groups : sys'.groups = sys.groups
  call : sys'.call = sys.call
  nextTicket : sys'.nextTicket = sys.nextTicket
  states : sys'.states.length = sys.states.length
  tickets : sys'.workers.map (·.ticket) = sys.workers.map (·.ticket)
  others : ∀ other, other ≠ ticket → sys'.worker? other = sys.worker? other

theorem Aloof.trans {a b c : System} (first : Aloof ticket a b) (next : Aloof ticket b c) :
    Aloof ticket a c where
  stores := next.stores.trans first.stores
  groups := next.groups.trans first.groups
  call := next.call.trans first.call
  nextTicket := next.nextTicket.trans first.nextTicket
  states := next.states.trans first.states
  tickets := next.tickets.trans first.tickets
  others other ne := (next.others other ne).trans (first.others other ne)

/-- It is no business of any worker. -/
theorem aloof_of_eq (stores : sys'.stores = sys.stores) (groups : sys'.groups = sys.groups)
    (call : sys'.call = sys.call) (nextTicket : sys'.nextTicket = sys.nextTicket)
    (states : sys'.states.length = sys.states.length) (workers : sys'.workers = sys.workers) :
    Aloof ticket sys sys' :=
  ⟨stores, groups, call, nextTicket, states, by rw [workers],
    fun other _ => worker?_of_workers workers other⟩

theorem aloof_setState (sys : System) (place : Nat) (state : PluginState) :
    Aloof ticket sys (sys.setState place state) :=
  aloof_of_eq rfl rfl rfl rfl List.length_set rfl

theorem aloof_putWorker (sys : System) (w : Worker) : Aloof w.ticket sys (sys.putWorker w) where
  stores := rfl
  groups := rfl
  call := rfl
  nextTicket := rfl
  states := rfl
  tickets := by
    unfold putWorker
    rw [List.map_map]
    refine List.map_congr_left fun other _ => ?_
    rw [Function.comp_apply]
    split
    · next same => exact same.symm
    · rfl
  others other ne := worker?_putWorker_ne fun same => ne same.symm

/-- One act of a worker in its turn, with the errand in its hand before and after. -/
inductive Act (ticket : Nat) (sys : System) :
    Option Errand → List Deed → System → Option Errand → Prop
  | aside (hand : Option Errand) {deeds : List Deed} {sys' : System}
      (aloof : Aloof ticket sys sys') (unstored : .stored ∉ deeds) : Act ticket sys hand deeds sys' hand
  | setOut (plan : Plan) (plain : plan.isPlain = true) :
      Act ticket sys none ((sys.beginErrand pluginStore ticket plan).2.deeds plan.isWrite)
        (sys.beginErrand pluginStore ticket plan).1 (sys.beginErrand pluginStore ticket plan).2.hand
  | goOn {write : Bool} (e : Errand) (mine : e.Of ticket write) :
      Act ticket sys (some e) ((sys.pollErrand e).2.deeds write) (sys.pollErrand e).1
        (sys.pollErrand e).2.hand

/-- A row of acts. -/
inductive Acts (ticket : Nat) :
    System → Option Errand → List Deed → System → Option Errand → Prop
  | none (sys : System) (hand : Option Errand) : Acts ticket sys hand [] sys hand
  | act {sys mid sys' : System} {hand held final : Option Errand} {deeds more : List Deed}
      (act : Act ticket sys hand deeds mid held) (rest : Acts ticket mid held more sys' final) :
      Acts ticket sys hand (deeds ++ more) sys' final

namespace Acts

variable {final : Option Errand}

theorem of_act (act : Act ticket sys hand deeds sys' held) : Acts ticket sys hand deeds sys' held := by
  have row := Acts.act act (.none sys' held)
  rwa [List.append_nil] at row

theorem aside (hand : Option Errand) (aloof : Aloof ticket sys sys') (unstored : .stored ∉ deeds) :
    Acts ticket sys hand deeds sys' hand :=
  .of_act (.aside hand aloof unstored)

theorem trans (first : Acts ticket sys hand deeds mid held)
    (next : Acts ticket mid held more sys' final) :
    Acts ticket sys hand (deeds ++ more) sys' final := by
  induction first with
  | none => exact next
  | act act _ ih =>
    rw [List.append_assoc]
    exact .act act (ih next)

end Acts

theorem Act.transacts (act : Act ticket sys hand deeds sys' held) :
    Aloof ticket sys sys' ∨ Transacts sys sys' := by
  cases act with
  | aside _ aloof => exact .inl aloof
  | setOut plan => exact .inr (transacts_beginErrand _ _ _ _)
  | goOn e => exact .inr (transacts_pollErrand _ _)

/-- Nobody else is changed, and nobody comes or goes. -/
theorem Acts.keeps (acts : Acts ticket sys hand deeds sys' held) :
    sys'.workers.map (·.ticket) = sys.workers.map (·.ticket) ∧
      (∀ other, other ≠ ticket → sys'.worker? other = sys.worker? other) ∧
      sys'.call = sys.call ∧ sys'.nextTicket = sys.nextTicket ∧
      sys'.states.length = sys.states.length ∧ sys'.rosters = sys.rosters := by
  induction acts with
  | none => exact ⟨rfl, fun _ _ => rfl, rfl, rfl, rfl, rfl⟩
  | act act _ ih =>
    obtain ⟨tickets, others, call, nextTicket, states, rosters⟩ := ih
    rcases act.transacts with aloof | ⟨⟨_, _, _, _, _, rfl⟩, same⟩
    · exact ⟨tickets.trans aloof.tickets,
        fun other ne => (others other ne).trans (aloof.others other ne), call.trans aloof.call,
        nextTicket.trans aloof.nextTicket, states.trans aloof.states,
        rosters.trans (congrArg (·.map (·.plugins)) aloof.groups)⟩
    · exact ⟨tickets, others, call, nextTicket, states, rosters.trans same⟩

theorem present_iff : (sys.worker? ticket).isSome = true ↔
    ticket ∈ sys.workers.map (·.ticket) := by
  unfold worker?
  rw [List.find?_isSome]
  constructor
  · rintro ⟨w, present, same⟩
    exact List.mem_map.2 ⟨w, present, of_decide_eq_true same⟩
  · intro mem
    obtain ⟨w, present, same⟩ := List.mem_map.1 mem
    exact ⟨w, present, decide_eq_true same⟩

theorem Acts.present (acts : Acts ticket sys hand deeds sys' held)
    (present : (sys.worker? ticket).isSome = true) : (sys'.worker? ticket).isSome = true := by
  rw [present_iff, acts.keeps.1]
  exact present_iff.1 present

/-- Without a deed that stores, no contents change. -/
theorem Acts.unstored (acts : Acts ticket sys hand deeds sys' held) (unstored : .stored ∉ deeds)
    (place : Nat) : (sys'.storeAt place).contents = (sys.storeAt place).contents := by
  have wrote {write : Bool} {progress : Progress} {outcome : Outcome}
      (none : .stored ∉ progress.deeds write) (ended : progress = .finished (.ok outcome)) :
      write = false := by
    rw [ended] at none
    cases write with
    | false => rfl
    | true => exact absurd List.mem_cons_self none
  induction acts with
  | none => rfl
  | act act _ ih =>
    rw [ih fun mem => unstored (List.mem_append_right _ mem)]
    have none := fun mem => unstored (List.mem_append_left _ mem)
    cases act with
    | aside _ aloof => rw [storeAt_of_stores aloof.stores]
    | setOut plan plain =>
      exact ((untraced_beginErrand plain fun outcome ended => wrote none ended).stores place).contents
    | goOn e mine =>
      refine ((untraced_pollErrand mine.plain (fun outcome ended => ?_) mine.opening).stores
        place).contents
      rw [mine.kind]
      exact wrote none ended

/-- An errand that goes on is still the same one. -/
theorem Errand.Of.follows {write : Bool} {e' : Errand} (mine : e.Of ticket write)
    (follows : Errand.Follows e e') : e'.Of ticket write := by
  refine ⟨follows.store.trans mine.store, follows.ticket.trans mine.ticket, ?_, ?_, fun reads => ?_⟩
  · rw [follows.plan]
    exact mine.plain
  · rw [follows.plan]
    exact mine.kind
  · rw [follows.plan] at reads
    exact follows.opening reads (mine.opening reads)

theorem of_beginErrand (plan : Plan) (plain : plan.isPlain = true)
    (waits : (sys.beginErrand pluginStore ticket plan).2 = .waiting e) : e.Of ticket plan.isWrite :=
  Errand.Of.follows (e := ⟨pluginStore, ticket, plan, .opening⟩) ⟨rfl, rfl, plain, rfl, fun _ => rfl⟩
    (follows_pollErrand waits)

/-! ## Where a turn leaves the worker -/

/-- The worker does something, at a point of its tick and with something in its hand: these are acts of
its own, the deeds are what comes next in a tick, and the phase in which it is left fits them. -/
def Works (w : Worker) (p : Point) (sys : System) (hand : Option Errand) (deeds : List Deed)
    (sys' : System) : Prop :=
  ∃ (phase : WorkerPhase) (source : Source) (q : Point),
    Acts w.ticket sys hand deeds sys' phase.errand? ∧ p.after deeds = some q ∧
      sys'.worker? w.ticket = some { w with phase, source } ∧ phase.At w.ticket q

/-- Something was done before. -/
theorem Works.after (works : Works w q mid held more sys')
    (acts : Acts w.ticket sys hand deeds mid held) (leads : p.after deeds = some q) :
    Works w p sys hand (deeds ++ more) sys' := by
  obtain ⟨phase, source, r, rest, follows, found, fits⟩ := works
  exact ⟨phase, source, r, acts.trans rest, Point.after_trans leads follows, found, fits⟩

section Turns

variable {batch previous value : Value} {progress : Progress}

/-- Some acts, after which the record of the worker is put back. -/
theorem works_putWorker (phase : WorkerPhase) (present : (sys.worker? w.ticket).isSome = true)
    (acts : Acts w.ticket sys hand deeds mid phase.errand?) (leads : p.after deeds = some q)
    (fits : phase.At w.ticket q) : Works w p sys hand deeds (mid.putWorker { w with phase }) := by
  have put : Acts w.ticket mid phase.errand? [] (mid.putWorker { w with phase }) phase.errand? :=
    .aside _ (aloof_putWorker mid { w with phase }) List.not_mem_nil
  have row := acts.trans put
  rw [List.append_nil] at row
  refine ⟨phase, w.source, q, row, leads, ?_, fits⟩
  exact worker?_putWorker_self (w := { w with phase }) (acts.present present)

/-- The end of a tick, however that came. -/
theorem works_endTick (present : (sys.worker? w.ticket).isSome = true)
    (ends : p.next .ends = some .resting) : Works w p sys none [.ends] (sys.endTick w) := by
  have leads : p.after [.ends] = some .resting := by
    show p.next .ends >>= _ = _
    rw [ends]
    rfl
  have polling : Aloof w.ticket sys (sys.setState w.state .polling) := aloof_setState _ _ _
  unfold endTick
  dsimp only
  split
  · have stopped := polling.trans (aloof_setState _ w.state .stopped)
    exact works_putWorker .finished present (.aside none stopped (by simp)) leads rfl
  · have timed : Aloof w.ticket (sys.setState w.state .polling)
        ((sys.setState w.state .polling).setTimer w.interval w.ticket) :=
      aloof_of_eq rfl rfl rfl rfl rfl rfl
    exact works_putWorker .sleeping present (.aside none (polling.trans timed) (by simp))
      leads rfl

theorem works_afterIngest (present : (sys.worker? w.ticket).isSome = true)
    (ready : p = .fetched ∨ p = .evaluated)
    (acts : Acts w.ticket sys hand (progress.deeds true) mid progress.hand)
    (waits : ∀ e, progress = .waiting e → e.Of w.ticket true) :
    Works w p sys hand (afterIngestDeeds progress) (mid.afterIngest w progress) := by
  have there := acts.present present
  cases progress with
  | waiting e =>
    exact works_putWorker (.ingesting e) present acts rfl ⟨ready, waits e rfl⟩
  | finished result =>
    cases result with
    | error refusal =>
      have ended : Works w p mid none [.ends] (mid.endTick w) :=
        works_endTick there (by rcases ready with rfl | rfl <;> rfl)
      exact ended.after acts rfl
    | ok outcome =>
      have ended : Works w .stored mid none [.ends] (mid.endTick w) := works_endTick there rfl
      exact ended.after acts (by rcases ready with rfl | rfl <;> rfl)

theorem works_ingest (present : (sys.worker? w.ticket).isSome = true)
    (ready : p = .fetched ∨ p = .evaluated) :
    Works w p sys none (sys.ingestDeeds w value) (sys.ingest w value) := by
  have set : Acts w.ticket sys none [] (sys.setState w.state .ingesting) none :=
    .aside none (aloof_setState _ _ _) List.not_mem_nil
  have begun : Acts w.ticket (sys.setState w.state .ingesting) none _ _ _ :=
    .of_act (.setOut (.replace w.path value) rfl)
  unfold ingest ingestDeeds
  dsimp only
  exact works_afterIngest present ready (set.trans begun) fun e waits =>
    of_beginErrand (.replace w.path value) rfl waits

/-- To ask for a transform changes the engine and a slot. -/
theorem acts_currentTransform (sys : System) (place : Nat) (unstored : .stored ∉ deeds) :
    Acts ticket sys hand deeds (sys.currentTransform place).1 hand := by
  obtain ⟨engine, slots, same⟩ := currentTransform_keeps sys place
  rw [same]
  exact .aside hand (aloof_of_eq rfl rfl rfl rfl rfl rfl) unstored

theorem works_transform (present : (sys.worker? w.ticket).isSome = true) :
    Works w .fetched sys none (sys.transformDeeds w place batch previous)
      (sys.transform w place batch previous) := by
  have asked (deeds : List Deed) (unstored : .stored ∉ deeds) :
      Acts w.ticket sys none deeds (sys.currentTransform place).1 none :=
    acts_currentTransform sys place unstored
  unfold transform transformDeeds
  revert asked
  generalize sys.currentTransform place = current
  obtain ⟨mid, result⟩ := current
  intro asked
  have there : (mid.worker? w.ticket).isSome = true := (asked [] List.not_mem_nil).present present
  cases result with
  | error e => exact (works_endTick (p := .fetched) there rfl).after (asked [] List.not_mem_nil) rfl
  | ok transform =>
    have evaluated := asked [.evaluated] (by simp)
    dsimp only
    cases transform.eval (Transform.input batch previous) with
    | error e => exact (works_endTick (p := .evaluated) there rfl).after evaluated rfl
    | ok value => exact (works_ingest there (.inr rfl)).after evaluated rfl

theorem works_afterRead (present : (sys.worker? w.ticket).isSome = true)
    (acts : Acts w.ticket sys hand [] mid progress.hand)
    (waits : ∀ e, progress = .waiting e → e.Of w.ticket false) :
    Works w .fetched sys hand (mid.afterReadDeeds w batch progress)
      (mid.afterRead w batch progress) := by
  have there := acts.present present
  cases progress with
  | waiting e => exact works_putWorker (.reading batch e) present acts rfl ⟨rfl, waits e rfl⟩
  | finished result =>
    have ended : Works w .fetched mid none [.ends] (mid.endTick w) := works_endTick there rfl
    unfold afterRead afterReadDeeds
    dsimp only
    cases previousOf result with
    | none => exact ended.after acts rfl
    | some previous =>
      cases w.slot with
      | none => exact ended.after acts rfl
      | some place => exact (works_transform there).after acts rfl

/-- An errand that only reads stores nothing. -/
theorem deeds_of_read (progress : Progress) : progress.deeds false = [] := by
  unfold Progress.deeds
  split <;> rfl

theorem works_withBatch (present : (sys.worker? w.ticket).isSome = true) :
    Works w .fetched sys none (sys.withBatchDeeds w batch) (sys.withBatch w batch) := by
  unfold withBatch withBatchDeeds
  cases w.slot with
  | none => exact works_ingest present (.inl rfl)
  | some place =>
    have set : Acts w.ticket sys none [] (sys.setState w.state .transforming) none :=
      .aside none (aloof_setState _ _ _) List.not_mem_nil
    have begun : Acts w.ticket (sys.setState w.state .transforming) none _ _ _ :=
      .of_act (.setOut (.read w.path) rfl)
    have row := set.trans begun
    rw [show (Plan.read w.path).isWrite = false from rfl, deeds_of_read] at row
    exact works_afterRead present row fun e waits => of_beginErrand (.read w.path) rfl waits

theorem works_afterFetch (present : (sys.worker? w.ticket).isSome = true)
    (result : Except PluginError (Option Value)) :
    Works w .fetching sys none (sys.afterFetchDeeds w result) (sys.afterFetch w result) := by
  have fetched : Acts w.ticket sys none [.fetched] sys none :=
    .aside none (aloof_of_eq rfl rfl rfl rfl rfl rfl) (by simp)
  have ended : Works w .fetched sys none [.ends] (sys.endTick w) := works_endTick present rfl
  cases result with
  | error e => exact ended.after fetched rfl
  | ok found =>
    cases found with
    | none => exact ended.after fetched rfl
    | some batch => exact (works_withBatch present).after fetched rfl

theorem works_afterFeed (present : (sys.worker? w.ticket).isSome = true) (result : FeedResult) :
    Works w .fetching sys none (sys.afterFeedDeeds w result) (sys.afterFeed w result) := by
  have fetched : Acts w.ticket sys none [.fetched] sys none :=
    .aside none (aloof_of_eq rfl rfl rfl rfl rfl rfl) (by simp)
  have ended : Works w .fetched sys none [.ends] (sys.endTick w) := works_endTick present rfl
  cases result with
  | batch value => exact (works_withBatch present).after fetched rfl
  | nothing => exact ended.after fetched rfl
  | failure => exact ended.after fetched rfl
  | breakdown =>
    have gone : Acts w.ticket sys none [.fetched, .ends] sys none :=
      .aside none (aloof_of_eq rfl rfl rfl rfl rfl rfl) (by simp)
    exact works_putWorker .finished present gone rfl rfl

theorem works_beginTick (present : (sys.worker? w.ticket).isSome = true) :
    Works w .resting sys none (sys.beginTickDeeds w) (sys.beginTick w) := by
  have set : Aloof w.ticket sys (sys.setState w.state .fetching) := aloof_setState _ _ _
  have begun : Acts w.ticket sys none [.begins] (sys.setState w.state .fetching) none :=
    .aside none set (by simp)
  unfold beginTick beginTickDeeds
  dsimp only
  cases w.source with
  | file source =>
    have loading : Works w .resting sys none [.begins] ((sys.setState w.state .fetching).putWorker
        { w with source := .file source, phase := .loading }) :=
      works_putWorker (w := { w with source := .file source }) .loading present begun rfl rfl
    obtain ⟨phase, source', q, acts, leads, found, fits⟩ := loading
    have called : Acts w.ticket ((sys.setState w.state .fetching).putWorker
        { w with source := .file source, phase := .loading }) phase.errand? []
        { (sys.setState w.state .fetching).putWorker
            { w with source := .file source, phase := .loading } with
          ready := sys.ready ++ [w.ticket] } phase.errand? :=
      .aside _ (aloof_of_eq rfl rfl rfl rfl rfl rfl) List.not_mem_nil
    exact ⟨phase, source', q, acts.trans called, leads, found, fits⟩
  | http source =>
    have there : ((sys.setState w.state .fetching).worker? w.ticket).isSome = true := present
    exact (works_afterFetch there (.error source.unreachable)).after begun rfl
  | feed config =>
    -- Whatever item the feed gives, and whatever is left in it.
    have tick (feeds : Dict Feed) (item : FeedItem) : Works w .resting sys none
        (.begins :: if item.delay = 0 then
          ({ sys.setState w.state .fetching with feeds } : System).afterFeedDeeds w item.result
        else [])
        (if item.delay = 0 then
          ({ sys.setState w.state .fetching with feeds } : System).afterFeed w item.result
        else (({ sys.setState w.state .fetching with feeds } : System).setTimer item.delay
          w.ticket).putWorker { w with source := .feed config, phase := .fetching item }) := by
      have fed : Aloof w.ticket (sys.setState w.state .fetching)
          { sys.setState w.state .fetching with feeds } := aloof_of_eq rfl rfl rfl rfl rfl rfl
      have taken : Acts w.ticket sys none [.begins] { sys.setState w.state .fetching with feeds }
          none := .aside none (set.trans fed) (by simp)
      split
      · have there : (({ sys.setState w.state .fetching with feeds } : System).worker?
            w.ticket).isSome = true := present
        exact (works_afterFeed there item.result).after taken rfl
      · have timed : Aloof w.ticket sys (({ sys.setState w.state .fetching with feeds } :
            System).setTimer item.delay w.ticket) :=
          (set.trans fed).trans (aloof_of_eq rfl rfl rfl rfl rfl rfl)
        exact works_putWorker (w := { w with source := .feed config }) (.fetching item)
          present (.aside none timed (by simp)) rfl rfl
    exact tick _ _

theorem works_load (present : (sys.worker? w.ticket).isSome = true) :
    Works w .fetching sys none (sys.loadDeeds w) (sys.load w) := by
  have fetched : Acts w.ticket sys none [.fetched] sys none :=
    .aside none (aloof_of_eq rfl rfl rfl rfl rfl rfl) (by simp)
  have ended : Works w .fetched sys none [.ends] (sys.endTick w) := works_endTick present rfl
  unfold load loadDeeds
  cases w.source with
  | file source =>
    exact works_afterFetch (w := { w with source := .file (source.fetch sys.files).1 }) present _
  | http source => exact ended.after fetched rfl
  | feed config => exact ended.after fetched rfl

/-- The turn of a worker, with its deeds, and where it leaves the worker. -/
theorem works_runWorker (found : sys.worker? ticket = some w) (fits : w.phase.At ticket p) :
    Works w p sys w.phase.errand? (sys.turnDeeds w) (sys.runWorker ticket) := by
  have mine : w.ticket = ticket := ticket_of_found found
  subst mine
  have present : (sys.worker? w.ticket).isSome = true := by
    rw [found]
    rfl
  have running (e : Errand) : Acts w.ticket sys (some e) []
      (sys.putWorker { w with phase := .running }) (some e) :=
    .aside _ (aloof_putWorker sys { w with phase := .running }) List.not_mem_nil
  have rests (same : sys.runWorker w.ticket = sys) (row : sys.turnDeeds w = [])
      (empty : w.phase.errand? = none) : Works w p sys none (sys.turnDeeds w)
        (sys.runWorker w.ticket) := by
    rw [same, row]
    refine ⟨w.phase, w.source, p, ?_, rfl, found, fits⟩
    rw [empty]
    exact .none sys _
  unfold runWorker turnDeeds at rests ⊢
  rw [found] at rests ⊢
  dsimp only at rests ⊢
  cases phase : w.phase with
  | due =>
    rw [phase] at fits
    cases fits
    exact works_beginTick present
  | fetching item =>
    rw [phase] at fits
    cases fits
    exact works_afterFeed present item.result
  | loading =>
    rw [phase] at fits
    cases fits
    exact works_load present
  | reading batch e =>
    rw [phase] at fits
    obtain ⟨rfl, mine⟩ := fits
    have polled : Acts w.ticket (sys.putWorker { w with phase := .running }) (some e) _ _ _ :=
      .of_act (.goOn e mine)
    have row := (running e).trans polled
    rw [deeds_of_read] at row
    exact works_afterRead present row fun e' waits => Errand.Of.follows mine (follows_pollErrand waits)
  | ingesting e =>
    rw [phase] at fits
    obtain ⟨ready, mine⟩ := fits
    have polled : Acts w.ticket (sys.putWorker { w with phase := .running }) (some e) _ _ _ :=
      .of_act (.goOn e mine)
    exact works_afterIngest present ready ((running e).trans polled) fun e' waits =>
      Errand.Of.follows mine (follows_pollErrand waits)
  | running =>
    rw [phase] at fits
    exact fits.elim
  | sleeping =>
    rw [phase] at fits
    cases fits
    dsimp only
    split
    · have stopped : Acts w.ticket sys none [] (sys.setState w.state .stopped) none :=
        .aside none (aloof_setState _ _ _) List.not_mem_nil
      exact works_putWorker .finished present stopped rfl rfl
    · exact works_beginTick present
  | finished =>
    rw [phase] at rests
    exact rests rfl rfl rfl

/-- What a worker does between two waits, with its deeds. -/
inductive Took (ticket : Nat) (sys : System) : List Deed → System → Prop
  | run (w : Worker) (found : sys.worker? ticket = some w) :
      Took ticket sys (sys.turnDeeds w) (sys.runWorker ticket)
  /-- It sleeps, and its interval passes at the moment when it is asked to finish. -/
  | wake (w : Worker) (found : sys.worker? ticket = some w) (sleeps : w.phase = .sleeping) :
      Took ticket sys (sys.beginTickDeeds w) (sys.beginTick w)
  | send (w : Worker) (source : HttpSource) (found : sys.worker? ticket = some w)
      (web : w.source = .http source) (idle : w.phase = .due ∨ w.phase = .sleeping) :
      Took ticket sys [.begins] (sys.sendRequest w)
  | answer (w : Worker) (source : HttpSource) (a : HttpAnswer)
      (found : sys.worker? ticket = some w) (web : w.source = .http source)
      (asked : w.phase = .loading) :
      Took ticket sys (sys.takeAnswerDeeds w source a) (sys.takeAnswer w source a)

theorem Took.worker (took : Took ticket sys deeds sys') : ∃ w, sys.worker? ticket = some w := by
  cases took with
  | run w found | wake w found | send w _ found | answer w _ _ found => exact ⟨w, found⟩

/-- A worker that has finished does nothing any more. -/
theorem Took.finished (took : Took ticket sys deeds sys') (found : sys.worker? ticket = some w)
    (finished : w.phase = .finished) : deeds = [] ∧ sys' = sys := by
  cases took with
  | run w' found' =>
    cases found.symm.trans found'
    unfold turnDeeds runWorker
    rw [found]
    dsimp only
    rw [finished]
    exact ⟨rfl, rfl⟩
  | wake w' found' sleeps =>
    cases found.symm.trans found'
    cases finished.symm.trans sleeps
  | send w' source found' web idle =>
    cases found.symm.trans found'
    rcases idle with due | sleeps
    · cases finished.symm.trans due
    · cases finished.symm.trans sleeps
  | answer w' source a found' web asked =>
    cases found.symm.trans found'
    cases finished.symm.trans asked

/-- A worker takes a turn, and it is left in the middle of a tick or between two. -/
theorem works_took (took : Took ticket sys deeds sys') (found : sys.worker? ticket = some w)
    (fits : w.phase.At ticket p) : Works w p sys w.phase.errand? deeds sys' := by
  have mine : w.ticket = ticket := ticket_of_found found
  subst mine
  have present : (sys.worker? w.ticket).isSome = true := by
    rw [found]
    rfl
  cases took with
  | run w' found' =>
    cases found.symm.trans found'
    exact works_runWorker found fits
  | wake w' found' sleeps =>
    cases found.symm.trans found'
    rw [sleeps] at fits ⊢
    cases fits
    exact works_beginTick present
  | send w' source found' web idle =>
    cases found.symm.trans found'
    have set : Acts w.ticket sys none [.begins] (sys.setState w.state .fetching) none :=
      .aside none (aloof_setState _ _ _) (by simp)
    rcases idle with due | sleeps
    · rw [due] at fits ⊢
      cases fits
      exact works_putWorker .loading present set rfl rfl
    · rw [sleeps] at fits ⊢
      cases fits
      exact works_putWorker .loading present set rfl rfl
  | answer w' source a found' web asked =>
    cases found.symm.trans found'
    rw [asked] at fits ⊢
    cases fits
    exact works_afterFetch (w := { w with source := .http (source.receive a).1 }) present _

end Turns

end System

end DocStore
