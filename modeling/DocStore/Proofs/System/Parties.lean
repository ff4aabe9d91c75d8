import DocStore.Proofs.System.Plans
import DocStore.Proofs.System.Traffic
import DocStore.Proofs.System.Watching

/-!
# Parties at the locks of a store

Everything that goes on is, for one store, a schedule of transactions: visitors, the errands of workers,
of calls and of others are its parties, and whoever takes a step of the traffic moves one party at most.

Results:
  * `shows_pollErrand`, `shows_beginErrand`: an errand at the locks, for as long as it takes;
  * `shows_acts`: the turn of a worker;
  * `Scheduled.step`: every step of the traffic as moves of one party.
-/

namespace DocStore

/-- What the party at a stage does. -/
def Stage.affair? : Stage → Option Affair
  | .absent => none
  | .awaiting write => some (.asking write)
  | .active t _ _ => some (.inside t)
  | .committing t _ _ => some (.closing t)

namespace Stage

variable {stage : Stage} {t : Transaction} {write : Bool}

theorem of_none (same : stage.affair? = none) : stage = .absent := by
  cases stage with
  | absent => rfl
  | awaiting | active | committing => cases same

theorem of_asking (same : stage.affair? = some (.asking write)) : stage = .awaiting write := by
  cases stage with
  | awaiting =>
    cases same
    rfl
  | absent | active | committing => cases same

theorem of_inside (same : stage.affair? = some (.inside t)) :
    ∃ seen work, stage = .active t seen work := by
  cases stage with
  | active =>
    cases same
    exact ⟨_, _, rfl⟩
  | absent | awaiting | committing => cases same

theorem of_closing (same : stage.affair? = some (.closing t)) :
    ∃ seen work, stage = .committing t seen work := by
  cases stage with
  | committing =>
    cases same
    exact ⟨_, _, rfl⟩
  | absent | awaiting | active => cases same

end Stage

namespace Traffic

open DocStore.System Schedule

variable {s : Store} {sys sys' : System} {e : Errand} {ticket place : Nat} {plan : Plan}
  {σ : Schedule} {hand held : Option Errand} {deeds : List Deed}

/-! ## Errands -/

/-- The schedule shows a store as it is, and what one party does. -/
structure Shows (sys : System) (place ticket : Nat) (affair : Option Affair) (σ : Schedule) :
    Prop where
  store : σ.store = sys.storeAt place
  party : (σ.stages ticket).affair? = affair

/-- What the errand in a hand does at a store. -/
def handAt (place : Nat) (hand : Option Errand) : Option Affair := hand.bind (·.affairAt place)

theorem updated (present : place < sys.stores.length) (store : σ.store = sys.storeAt place)
    (change : Store → Store) : change σ.store = (sys.updateStore place change).storeAt place := by
  rw [storeAt_updateStore_self present, store]

/-- A party that moves to another stage. -/
theorem shows_moves {store : Store} {stage : Stage}
    (step : Schedule.Step σ ((σ.change store).move ticket stage)) (same : store = sys.storeAt place) :
    By ticket σ ((σ.change store).move ticket stage) ∧
      Shows sys place ticket stage.affair? ((σ.change store).move ticket stage) :=
  ⟨.moves step, same, congrArg Stage.affair? (Function.update_self ..)⟩

theorem shows_commits {t : Transaction} {work : List Row} (present : place < sys.stores.length)
    (store : σ.store = sys.storeAt place) (step : Schedule.Step σ (σ.commit ticket t work)) :
    By ticket σ (σ.commit ticket t work) ∧
      Shows (sys.commit place t) place ticket none (σ.commit ticket t work) := by
  refine ⟨.commits step, ?_, ?_⟩
  · rw [storeAt_commit_self present, ← store]
    rfl
  · show (Function.update σ.stages ticket .absent ticket).affair? = none
    rw [Function.update_self]
    rfl

/-- An errand that is admitted does what it is for at once, and asks to commit. -/
theorem shows_performErrand (reached : Reachable s σ) (present : e.store < sys.stores.length)
    (store : σ.store = sys.storeAt e.store) (asked : σ.stages e.ticket = .awaiting e.plan.isWrite)
    (lock : (if e.plan.isWrite then σ.store.writer else σ.store.state).isHeldBy e.ticket = true) :
    ∃ τ, By e.ticket σ τ ∧ Shows (sys.performErrand e).1 e.store e.ticket
      (handAt e.store (sys.performErrand e).2.hand) τ := by
  have put (mid : Store) : (sys.updateStore e.store fun _ => mid).storeAt e.store = mid :=
    storeAt_updateStore_self present _
  have admitted : ∃ τ, By e.ticket σ τ ∧
      τ.store = (if e.plan.isWrite then σ.store.openWrite e.ticket
        else σ.store.openRead e.ticket).1 ∧
      (if e.plan.isWrite then σ.store.openWrite e.ticket
        else σ.store.openRead e.ticket).2.isWrite = e.plan.isWrite ∧
      τ.stages e.ticket = .active (if e.plan.isWrite then σ.store.openWrite e.ticket
        else σ.store.openRead e.ticket).2 σ.committed.length [] := by
    cases kind : e.plan.isWrite with
    | true =>
      rw [kind] at asked lock
      exact ⟨_, .moves (.admitWrite e.ticket asked lock), rfl, rfl, Function.update_self ..⟩
    | false =>
      rw [kind] at asked lock
      exact ⟨_, .moves (.admitRead e.ticket asked lock), rfl, rfl, Function.update_self ..⟩
  unfold performErrand
  dsimp only
  rw [← store]
  revert admitted
  generalize (if e.plan.isWrite then σ.store.openWrite e.ticket
    else σ.store.openRead e.ticket) = opened
  obtain ⟨mid, t⟩ := opened
  rintro ⟨τ, row, rfl, kind, active⟩
  dsimp only
  split
  · next refusal failed =>
    obtain ⟨leaves, shows⟩ := shows_moves (.close e.ticket active) (put _).symm
    exact ⟨_, row.trans leaves, shows⟩
  · next mid t' outcome ok =>
    obtain ⟨same, υ, work, more, rfl, active⟩ := by_perform (row.reachable reached) active ok
    have row := row.trans more
    split
    · next write =>
      have writes : t'.isWrite = true := same.trans (kind.trans write)
      obtain ⟨asks, shows⟩ := shows_moves (.askCommit e.ticket active writes) (put _).symm
      have row := row.trans asks
      split
      · next granted =>
        have still : e.store <
            (sys.updateStore e.store fun _ => υ.store.requestCommit e.ticket).stores.length := by
          rw [length_updateStore]
          exact present
        rw [← shows.store] at granted
        obtain ⟨commits, shows⟩ := shows_commits still shows.store
          (.commit e.ticket (Function.update_self ..) granted)
        exact ⟨_, row.trans commits, shows⟩
      · refine ⟨_, row, shows.store, ?_⟩
        rw [shows.party]
        show _ = Errand.affairAt e.store _
        unfold Errand.affairAt
        rw [if_pos rfl]
        rfl
    · obtain ⟨leaves, shows⟩ := shows_moves (.close e.ticket active) (put _).symm
      exact ⟨_, row.trans leaves, shows⟩

theorem storeAt_pollErrand_ne (ne : e.store ≠ place) :
    (sys.pollErrand e).1.storeAt place = sys.storeAt place := by
  have performs : (sys.performErrand e).1.storeAt place = sys.storeAt place := by
    unfold performErrand
    dsimp only
    split
    · exact storeAt_updateStore_ne ne _
    · split
      · split
        · exact (storeAt_commit_ne ne _).trans (storeAt_updateStore_ne ne _)
        · exact storeAt_updateStore_ne ne _
      · exact storeAt_updateStore_ne ne _
  unfold pollErrand
  dsimp only
  cases e.stage with
  | opening =>
    have turn (held : Bool) : (if held then sys.performErrand e else (sys, .waiting e)).1.storeAt place =
        sys.storeAt place := by
      cases held
      · rfl
      · exact performs
    exact turn _
  | closing t outcome =>
    dsimp only
    split
    · exact storeAt_commit_ne ne t
    · rfl

/-- An errand goes on at its store. -/
theorem shows_poll_here (reached : Reachable s σ) (present : e.store < sys.stores.length)
    (shows : Shows sys e.store e.ticket (some e.affair) σ) :
    ∃ τ, By e.ticket σ τ ∧ Shows (sys.pollErrand e).1 e.store e.ticket
      (handAt e.store (sys.pollErrand e).2.hand) τ := by
  have waits : Shows sys e.store e.ticket (handAt e.store (some e)) σ := by
    refine ⟨shows.store, shows.party.trans ?_⟩
    show _ = e.affairAt e.store
    unfold Errand.affairAt
    rw [if_pos rfl]
  have party := shows.party
  unfold Errand.affair at party
  unfold pollErrand
  dsimp only
  rw [← shows.store]
  cases stage : e.stage with
  | opening =>
    rw [stage] at party
    have asked : σ.stages e.ticket = .awaiting e.plan.isWrite := Stage.of_asking party
    have turn (held : Bool)
        (lock : held = true → (if e.plan.isWrite then σ.store.writer else σ.store.state).isHeldBy
          e.ticket = true) :
        ∃ τ, By e.ticket σ τ ∧ Shows (if held then sys.performErrand e else (sys, .waiting e)).1
          e.store e.ticket
          (handAt e.store (if held then sys.performErrand e else (sys, .waiting e)).2.hand) τ := by
      cases held with
      | false => exact ⟨σ, .refl σ, waits⟩
      | true => exact shows_performErrand reached present shows.store asked (lock rfl)
    exact turn _ id
  | closing t outcome =>
    rw [stage] at party
    obtain ⟨seen, work, committing⟩ := Stage.of_closing party
    dsimp only
    split
    · next granted =>
      obtain ⟨commits, shows⟩ := shows_commits present shows.store
        (.commit e.ticket committing granted)
      exact ⟨_, commits, shows⟩
    · exact ⟨σ, .refl σ, waits⟩

theorem handAt_ne {progress : Progress} (ne : ∀ e, progress = .waiting e → e.store ≠ place) :
    handAt place progress.hand = none := by
  cases progress with
  | finished result => rfl
  | waiting e =>
    show e.affairAt place = none
    unfold Errand.affairAt
    exact if_neg (ne e rfl)

theorem bind_sent (hand : Option Errand) :
    (hand.map Visit.sent).bind (·.affairAt place) = handAt place hand := by
  cases hand <;> rfl

/-- An errand is never found in the middle of what it does in its transaction. -/
theorem handAt_outside (hand : Option Errand) (t : Transaction) :
    handAt place hand ≠ some (.inside t) := by
  intro never
  obtain ⟨e, -, there⟩ := Option.bind_eq_some_iff.1 never
  unfold Errand.affairAt Errand.affair at there
  cases stage : e.stage with
  | opening | closing =>
    rw [stage] at there
    split at there <;> cases there

/-- An errand goes on, at this store or at another. -/
theorem shows_pollErrand (reached : Reachable s σ) (present : place < sys.stores.length)
    (shows : Shows sys place e.ticket (e.affairAt place) σ) :
    ∃ τ, By e.ticket σ τ ∧ Shows (sys.pollErrand e).1 place e.ticket
      (handAt place (sys.pollErrand e).2.hand) τ := by
  unfold Errand.affairAt at shows
  by_cases here : e.store = place
  · subst here
    rw [if_pos rfl] at shows
    exact shows_poll_here reached present shows
  · rw [if_neg here] at shows
    refine ⟨σ, .refl σ, shows.store.trans (storeAt_pollErrand_ne here).symm, ?_⟩
    rw [shows.party, handAt_ne]
    intro e' waits
    rw [(follows_pollErrand waits).store]
    exact here

/-- Somebody asks for the lock that they need. -/
theorem shows_request (present : place < sys.stores.length) (write : Bool)
    (shows : Shows sys place ticket none σ) :
    ∃ τ, By ticket σ τ ∧ Shows (sys.updateStore place fun s =>
      (if write then Store.requestWrite else Store.requestRead) s ticket) place ticket
        (some (.asking write)) τ := by
  have absent := Stage.of_none shows.party
  cases write with
  | true =>
    obtain ⟨asks, shows⟩ := shows_moves (.askWrite ticket absent)
      (updated present shows.store (·.requestWrite ticket))
    exact ⟨_, asks, shows⟩
  | false =>
    obtain ⟨asks, shows⟩ := shows_moves (.askRead ticket absent)
      (updated present shows.store (·.requestRead ticket))
    exact ⟨_, asks, shows⟩

/-- Somebody sets out on an errand to a store, this one or another. -/
theorem shows_beginErrand {there : Nat} (reached : Reachable s σ)
    (present : place < sys.stores.length) (shows : Shows sys place ticket none σ) :
    ∃ τ, By ticket σ τ ∧ Shows (sys.beginErrand there ticket plan).1 place ticket
      (handAt place (sys.beginErrand there ticket plan).2.hand) τ := by
  have asked : ∃ τ, By ticket σ τ ∧ Shows (sys.updateStore there fun s =>
      (if plan.isWrite then Store.requestWrite else Store.requestRead) s ticket) place ticket
        (Errand.affairAt place ⟨there, ticket, plan, .opening⟩) τ := by
    unfold Errand.affairAt
    dsimp only
    by_cases here : there = place
    · subst here
      rw [if_pos rfl]
      exact shows_request present plan.isWrite shows
    · rw [if_neg here]
      exact ⟨σ, .refl σ, shows.store.trans (storeAt_updateStore_ne here _).symm, shows.party⟩
  obtain ⟨τ, asks, shows⟩ := asked
  unfold beginErrand
  dsimp only
  obtain ⟨υ, goes, shows⟩ := shows_pollErrand (e := ⟨there, ticket, plan, .opening⟩)
    (asks.reachable reached) (by rw [length_updateStore]; exact present) shows
  exact ⟨υ, asks.trans goes, shows⟩

/-! ## Turns of workers -/

theorem length_acts (acts : Acts ticket sys hand deeds sys' held) :
    sys'.stores.length = sys.stores.length := by
  induction acts with
  | none => rfl
  | act act _ ih =>
    refine ih.trans ?_
    cases act with
    | aside _ aloof => rw [aloof.stores]
    | setOut plan => exact (length_pollErrand _ _).trans (length_updateStore _ _ _)
    | goOn e => exact length_pollErrand _ _

/-- The acts of a worker are moves of one party. -/
theorem shows_acts (acts : Acts ticket sys hand deeds sys' held) (reached : Reachable s σ)
    (present : place < sys.stores.length) (shows : Shows sys place ticket (handAt place hand) σ) :
    ∃ τ, By ticket σ τ ∧ Shows sys' place ticket (handAt place held) τ := by
  induction acts generalizing σ with
  | none => exact ⟨σ, .refl σ, shows⟩
  | @act sys mid sys' hand held final deeds more act _ ih =>
    have first : ∃ τ, By ticket σ τ ∧ Shows mid place ticket (handAt place held) τ := by
      cases act with
      | aside _ aloof =>
        exact ⟨σ, .refl σ, shows.store.trans (storeAt_of_stores aloof.stores place).symm, shows.party⟩
      | setOut plan => exact shows_beginErrand reached present shows
      | goOn e mine =>
        obtain rfl := mine.ticket
        exact shows_pollErrand reached present shows
    obtain ⟨τ, row, shows⟩ := first
    have still : place < mid.stores.length := by
      rw [length_acts (.of_act act)]
      exact present
    obtain ⟨υ, more, shows⟩ := ih (row.reachable reached) still shows
    exact ⟨υ, row.trans more, shows⟩

/-! ## Moves of one party -/

/-- One party has moved, and if it was in a transaction, by one step at most. -/
structure Moved (mover : Nat) (σ τ : Schedule) : Prop where
  row : By mover σ τ
  single : (σ.stages mover).Inside → τ = σ ∨ Schedule.Step σ τ

/-- What a party comes to that goes from one thing to the next at a store. -/
def Comes (s : Store) (place ticket : Nat) (sys sys' : System) (before after : Option Affair) : Prop :=
  ∀ σ, Reachable s σ → Shows sys place ticket before σ →
    ∃ τ, Moved ticket σ τ ∧ Shows sys' place ticket after τ

theorem comes_of_step {sys sys' : System} {before after : Option Affair}
    (step : ∀ σ, Reachable s σ → Shows sys place ticket before σ →
      ∃ τ, Schedule.Step σ τ ∧ By ticket σ τ ∧ Shows sys' place ticket after τ) :
    Comes s place ticket sys sys' before after := by
  intro σ reached shows
  obtain ⟨τ, step, row, shows⟩ := step σ reached shows
  exact ⟨τ, ⟨row, fun _ => .inr step⟩, shows⟩

/-- Whoever is not in a transaction may take several steps. -/
theorem comes_of_row {sys sys' : System} {before after : Option Affair}
    (outside : ∀ t, before ≠ some (.inside t))
    (row : ∀ σ, Reachable s σ → Shows sys place ticket before σ →
      ∃ τ, By ticket σ τ ∧ Shows sys' place ticket after τ) :
    Comes s place ticket sys sys' before after := by
  intro σ reached shows
  obtain ⟨τ, row, shows'⟩ := row σ reached shows
  refine ⟨τ, ⟨row, fun inside => ?_⟩, shows'⟩
  have party := shows.party
  cases stage : σ.stages ticket with
  | active t seen work =>
    rw [stage] at party
    exact absurd party.symm (outside t)
  | absent | awaiting | committing =>
    rw [stage] at inside
    exact inside.elim

/-- What happens elsewhere. -/
theorem comes_elsewhere {sys sys' : System} {affair : Option Affair}
    (same : sys'.storeAt place = sys.storeAt place) : Comes s place ticket sys sys' affair affair :=
  fun σ _ shows => ⟨σ, ⟨.refl σ, fun _ => .inl rfl⟩, shows.store.trans same.symm, shows.party⟩

/-- What a visitor does at one store is nothing to the others. -/
theorem comes_visitor {sys sys' : System} {there : Nat} {affair : Affair} (change : Option Affair)
    (elsewhere : ∀ other, there ≠ other → sys'.storeAt other = sys.storeAt other)
    (here : there = place → Comes s there ticket sys sys' (some affair) change) :
    Comes s place ticket sys sys' ((Visit.visitor there affair).affairAt place)
      ((change.map (Visit.visitor there)).bind (·.affairAt place)) := by
  have affairs : (change.map (Visit.visitor there)).bind (·.affairAt place) =
      if there = place then change else none := by
    cases change with
    | none => split <;> rfl
    | some affair => rfl
  rw [affairs]
  show Comes s place ticket sys sys' (if there = place then some affair else none) _
  by_cases same : there = place
  · subst same
    rw [if_pos rfl, if_pos rfl]
    exact here rfl
  · rw [if_neg same, if_neg same]
    exact comes_elsewhere (elsewhere place same)

section Visitors

variable (present : place < sys.stores.length)

include present

theorem comes_enterRead (held : (sys.storeAt place).state.isHeldBy ticket = true) :
    Comes s place ticket sys
      (sys.updateStore place fun _ => ((sys.storeAt place).openRead ticket).1)
      (some (.asking false)) (some (.inside ((sys.storeAt place).openRead ticket).2)) := by
  refine comes_of_step fun σ _ shows => ?_
  rw [← shows.store] at held ⊢
  have step := Schedule.Step.admitRead ticket (Stage.of_asking shows.party) held
  obtain ⟨row, shows⟩ := shows_moves step
    (updated present shows.store fun _ => (σ.store.openRead ticket).1)
  exact ⟨_, step, row, shows⟩

theorem comes_enterWrite (held : (sys.storeAt place).writer.isHeldBy ticket = true) :
    Comes s place ticket sys
      (sys.updateStore place fun _ => ((sys.storeAt place).openWrite ticket).1)
      (some (.asking true)) (some (.inside ((sys.storeAt place).openWrite ticket).2)) := by
  refine comes_of_step fun σ _ shows => ?_
  rw [← shows.store] at held ⊢
  have step := Schedule.Step.admitWrite ticket (Stage.of_asking shows.party) held
  obtain ⟨row, shows⟩ := shows_moves step
    (updated present shows.store fun _ => (σ.store.openWrite ticket).1)
  exact ⟨_, step, row, shows⟩

theorem comes_leave (t : Transaction) :
    Comes s place ticket sys (sys.updateStore place (·.close t)) (some (.inside t)) none := by
  refine comes_of_step fun σ _ shows => ?_
  obtain ⟨seen, work, active⟩ := Stage.of_inside shows.party
  have step := Schedule.Step.close ticket active
  obtain ⟨row, shows⟩ := shows_moves step (updated present shows.store (·.close t))
  exact ⟨_, step, row, shows⟩

theorem comes_askCommit {t : Transaction} (write : t.isWrite = true) :
    Comes s place ticket sys (sys.updateStore place (·.requestCommit ticket))
      (some (.inside t)) (some (.closing t)) := by
  refine comes_of_step fun σ _ shows => ?_
  obtain ⟨seen, work, active⟩ := Stage.of_inside shows.party
  have step := Schedule.Step.askCommit ticket active write
  obtain ⟨row, shows⟩ := shows_moves step (updated present shows.store (·.requestCommit ticket))
  exact ⟨_, step, row, shows⟩

theorem comes_commit {t : Transaction} (held : (sys.storeAt place).state.isHeldBy ticket = true) :
    Comes s place ticket sys (sys.commit place t) (some (.closing t)) none := by
  refine comes_of_step fun σ _ shows => ?_
  obtain ⟨seen, work, committing⟩ := Stage.of_closing shows.party
  rw [← shows.store] at held
  have step := Schedule.Step.commit ticket committing held
  obtain ⟨row, shows⟩ := shows_commits present shows.store step
  exact ⟨_, step, row, shows⟩

/-- Triggers come and go in a transaction, and nobody moves. -/
theorem comes_trigger {t : Transaction} {after : Store}
    (step : ∀ σ : Schedule, σ.store = sys.storeAt place → ∀ seen work,
      σ.stages ticket = .active t seen work → Schedule.Step σ (σ.change after)) :
    Comes s place ticket sys (sys.updateStore place fun _ => after) (some (.inside t))
      (some (.inside t)) := by
  refine comes_of_step fun σ _ shows => ?_
  obtain ⟨seen, work, active⟩ := Stage.of_inside shows.party
  have step := step σ shows.store seen work active
  exact ⟨_, step, .changes step, updated present shows.store fun _ => after, shows.party⟩

theorem comes_claiming {change : Store → Store} (claiming : Store.Claiming change)
    (affair : Option Affair) :
    Comes s place ticket sys (sys.updateStore place change) affair affair := by
  refine comes_of_step fun σ _ shows => ?_
  have step : Schedule.Step σ (σ.change (change σ.store)) := by
    cases claiming with
    | claim name path => exact .claim name path
    | release name => exact .release name
    | releaseAll => exact .releaseAll
  exact ⟨_, step, .changes step, updated present shows.store change, shows.party⟩

end Visitors

theorem comes_edit (t : Transaction) (edits : List Edit) :
    Comes s place ticket sys sys (some (.inside t))
      (some (.inside ((sys.storeAt place).editAll t edits).1)) := by
  refine comes_of_step fun σ _ shows => ?_
  obtain ⟨seen, work, active⟩ := Stage.of_inside shows.party
  rw [← shows.store]
  have step : Schedule.Step σ ((σ.change σ.store).move ticket _) := .edit ticket active edits
  obtain ⟨row, shows⟩ := shows_moves step shows.store
  exact ⟨_, step, row, shows⟩

theorem contents_claiming {there : Nat} {change : Store → Store} (claiming : Store.Claiming change) :
    ((sys.updateStore there change).storeAt place).contents = (sys.storeAt place).contents := by
  by_cases here : there = place
  · subst here
    by_cases present : there < sys.stores.length
    · rw [storeAt_updateStore_self present]
      cases claiming <;> rfl
    · rw [storeAt_of_stores (stores_updateStore_absent present change)]
  · rw [storeAt_updateStore_ne here]

/-- Claims change at one store. -/
theorem comes_claim {there : Nat} {change : Store → Store} (present : place < sys.stores.length)
    (claiming : Store.Claiming change) (affair : Option Affair) :
    Comes s place ticket sys (sys.updateStore there change) affair affair := by
  by_cases same : there = place
  · subst same
    exact comes_claiming present claiming affair
  · exact comes_elsewhere (storeAt_updateStore_ne same _)

/-! ## Steps of the traffic -/

variable {τ τ' : Traffic} {events : List WorkEvent} {calls : System → Call → Prop}

/-- The schedule of the parties at a store, which nobody used at first. -/
structure Scheduled (s : Store) (place : Nat) (τ : Traffic) (σ : Schedule) : Prop where
  reached : Reachable s σ
  store : σ.store = τ.system.storeAt place
  parties : ∀ ticket, (σ.stages ticket).affair? = τ.affairAt place ticket

theorem Elsewhere.filter (elsewhere : Elsewhere sys ticket) :
    (sys.call.bind (·.errand)).filter (·.ticket = ticket) = none := by
  refine Option.filter_eq_none_iff.2 fun e on => ?_
  obtain ⟨c, called, under⟩ := Option.bind_eq_some_iff.1 on
  rw [decide_eq_true_eq]
  exact elsewhere c called e under

theorem affairAt_visitor (free : τ.system.worker? ticket = none)
    (elsewhere : Elsewhere τ.system ticket) :
    τ.affairAt place ticket = (τ.visits ticket).bind (·.affairAt place) := by
  unfold affairAt
  rw [free, elsewhere.filter]
  exact Option.or_none

theorem affairAt_worker (unvisited : τ.visits ticket = none)
    (elsewhere : Elsewhere τ.system ticket) : τ.affairAt place ticket =
      handAt place ((τ.system.worker? ticket).bind (·.phase.errand?)) := by
  unfold affairAt
  rw [unvisited, elsewhere.filter]
  exact Option.or_none

theorem affairAt_call (unvisited : τ.visits ticket = none)
    (free : τ.system.worker? ticket = none) : τ.affairAt place ticket =
      handAt place ((τ.system.call.bind (·.errand)).filter (·.ticket = ticket)) := by
  unfold affairAt
  rw [unvisited, free]
  rfl

theorem affairAt_congr (visits : τ'.visits ticket = τ.visits ticket)
    (workers : (τ'.system.worker? ticket).bind (·.phase.errand?) =
      (τ.system.worker? ticket).bind (·.phase.errand?))
    (call : (τ'.system.call.bind (·.errand)).filter (·.ticket = ticket) =
      (τ.system.call.bind (·.errand)).filter (·.ticket = ticket)) :
    τ'.affairAt place ticket = τ.affairAt place ticket := by
  unfold affairAt
  rw [visits, workers, call]

namespace Scheduled

variable {change : Option Visit}

/-- One party has moved, and the others do what they did. -/
theorem moves (h : Scheduled s place τ σ) (mover : Nat)
    (comes : Comes s place mover τ.system τ'.system (τ.affairAt place mover)
      (τ'.affairAt place mover))
    (others : ∀ ticket, ticket ≠ mover → τ'.affairAt place ticket = τ.affairAt place ticket) :
    ∃ υ, Moved mover σ υ ∧ Scheduled s place τ' υ := by
  obtain ⟨υ, moved, shows⟩ := comes σ h.reached ⟨h.store, h.parties mover⟩
  refine ⟨υ, moved, moved.row.reachable h.reached, shows.store, fun ticket => ?_⟩
  by_cases same : ticket = mover
  · subst same
    exact shows.party
  · rw [moved.row.others same, h.parties ticket, others ticket same]

/-- A visit goes on, begins or is over. -/
theorem visits (h : Scheduled s place τ σ) (workers : sys.workers = τ.system.workers)
    (call : sys.call = τ.system.call) (free : τ.system.worker? ticket = none)
    (elsewhere : Elsewhere τ.system ticket)
    (comes : Comes s place ticket τ.system sys ((τ.visits ticket).bind (·.affairAt place))
      (change.bind (·.affairAt place))) :
    ∃ υ, Moved ticket σ υ ∧ Scheduled s place (τ.visit sys ticket change) υ := by
  have still (other : Nat) : sys.worker? other = τ.system.worker? other :=
    worker?_of_workers workers other
  have before : τ.affairAt place ticket = _ := affairAt_visitor free elsewhere
  have after : (τ.visit sys ticket change).affairAt place ticket = change.bind (·.affairAt place) := by
    rw [affairAt_visitor, visits_self]
    · exact (still ticket).trans free
    · intro c called
      exact elsewhere c (call.symm.trans called)
  refine h.moves ticket ?_ fun other ne => ?_
  · rw [before, after]
    exact comes
  · refine affairAt_congr (visits_ne ne τ sys change) ?_ ?_
    · rw [show (τ.visit sys ticket change).system = sys from rfl, still]
    · rw [show (τ.visit sys ticket change).system = sys from rfl, call]

/-- The same for somebody who was there before. -/
theorem visited (h : Scheduled s place τ σ) (ticketed : Ticketed τ) {v : Visit}
    (visited : τ.visits ticket = some v) (workers : sys.workers = τ.system.workers)
    (call : sys.call = τ.system.call)
    (comes : Comes s place ticket τ.system sys (v.affairAt place) (change.bind (·.affairAt place))) :
    ∃ υ, Moved ticket σ υ ∧ Scheduled s place (τ.visit sys ticket change) υ := by
  obtain ⟨-, free, -⟩ := ticketed.visits ticket v visited
  refine h.visits workers call free (ticketed.elsewhere visited) ?_
  rw [visited]
  exact comes

/-- The same for somebody who stays where they are. -/
theorem stays (h : Scheduled s place τ σ) (ticketed : Ticketed τ) {v : Visit} {there : Nat}
    {change : Store → Store} (visited : τ.visits ticket = some v)
    (comes : Comes s place ticket τ.system (τ.system.updateStore there change)
      (v.affairAt place) (v.affairAt place)) :
    ∃ υ, Moved ticket σ υ ∧ Scheduled s place (τ.go (τ.system.updateStore there change)) υ := by
  have same (other : Nat) : (τ.go (τ.system.updateStore there change)).affairAt place other =
      τ.affairAt place other := affairAt_congr rfl rfl rfl
  obtain ⟨-, free, -⟩ := ticketed.visits ticket v visited
  have mine : τ.affairAt place ticket = v.affairAt place := by
    rw [affairAt_visitor free (ticketed.elsewhere visited), visited]
    rfl
  refine h.moves ticket ?_ fun other _ => same other
  rw [same, mine]
  exact comes

/-- Nobody moves, and a store may change in other ways. -/
theorem changes (h : Scheduled s place τ σ) (sys : System)
    (workers : ∀ ticket, (sys.worker? ticket).bind (·.phase.errand?) =
      (τ.system.worker? ticket).bind (·.phase.errand?))
    (call : sys.call.bind (·.errand) = τ.system.call.bind (·.errand)) (mover : Nat)
    (comes : ∀ affair, Comes s place mover τ.system sys affair affair) :
    ∃ υ, Moved mover σ υ ∧ Scheduled s place (τ.go sys) υ := by
  have same (ticket : Nat) : (τ.go sys).affairAt place ticket = τ.affairAt place ticket := by
    refine affairAt_congr rfl (workers ticket) ?_
    rw [show (τ.go sys).system = sys from rfl, call]
  refine h.moves mover ?_ fun other _ => same other
  rw [same]
  exact comes _

end Scheduled

/-! ## Calls -/

/-- The party for which a call goes to its store: that of its errand, or a new one. -/
def callTicket (sys : System) (c : Call) : Nat := (c.errand.map (·.ticket)).getD sys.nextTicket

theorem callTicket_of_errand {c : Call} (on : c.errand = some e) : callTicket sys c = e.ticket := by
  unfold callTicket
  rw [on]
  rfl

/-- What becomes of the errand of a call when it goes on with it or sets out on it. -/
theorem comes_advanceErrand {c : Call} {plan : Plan} (present : place < sys.stores.length) :
    Comes s place (callTicket sys c) sys (sys.advanceErrand c plan).1 (handAt place c.errand)
      (handAt place (sys.advanceErrand c plan).2.hand) := by
  refine comes_of_row (handAt_outside _) fun σ reached shows => ?_
  unfold advanceErrand
  cases on : c.errand with
  | some e =>
    rw [callTicket_of_errand on, on] at shows
    rw [callTicket_of_errand on]
    exact shows_pollErrand reached present shows
  | none =>
    have fresh : callTicket sys c = sys.nextTicket := by
      unfold callTicket
      rw [on]
      rfl
    rw [fresh, on] at shows
    rw [fresh]
    have taken : Shows sys.takeTicket.1 place sys.nextTicket none σ := ⟨shows.store, shows.party⟩
    exact shows_beginErrand reached present taken

/-- The errand of a call that goes on is the same party. -/
theorem ticket_advanceErrand {c : Call} {plan : Plan}
    (waits : (sys.advanceErrand c plan).2 = .waiting e) : e.ticket = callTicket sys c := by
  unfold advanceErrand at waits
  cases on : c.errand with
  | some before =>
    rw [on] at waits
    rw [callTicket_of_errand on]
    exact (follows_pollErrand waits).ticket
  | none =>
    rw [on] at waits
    unfold callTicket
    rw [on]
    exact (follows_pollErrand waits).ticket

theorem stores_goOn (sys : System) (c : Call) (rest : List Command) (result : CommandResult) :
    (sys.goOn c rest result).1.stores = sys.stores ∧ (sys.goOn c rest result).2.errand = none := by
  cases result with
  | ok first => exact ⟨rfl, rfl⟩
  | error e => exact ⟨stores_reported sys c _, rfl⟩

/-- A call goes on with its first command, at the locks as one party. -/
theorem comes_stepCall {c : Call} (coherent : c.Coherent) (present : place < sys.stores.length) :
    Comes s place (callTicket sys c) sys (sys.stepCall c).1 (handAt place c.errand)
      (handAt place (sys.stepCall c).2.errand) ∧
    ∀ e, (sys.stepCall c).2.errand = some e → e.ticket = callTicket sys c := by
  have steps := stepsTo_stepCall 0 sys c
  have idle {command : Command} {rest : List Command} (row : c.agenda = command :: rest)
      (other : ∀ plan followup, command ≠ .run plan followup) : c.errand = none := by
    cases on : c.errand with
    | none => rfl
    | some e =>
      obtain ⟨plan, followup, rest', row', -⟩ := coherent e on
      cases row.symm.trans row'
      exact absurd rfl (other plan followup)
  have stays {sys' : System} (same : sys'.stores = sys.stores) (affair : Option Affair) :
      Comes s place (callTicket sys c) sys sys' affair affair :=
    comes_elsewhere (storeAt_of_stores same place)
  revert steps
  generalize noticedBy 0 sys c = log, (sys.stepCall c).1 = sys', (sys.stepCall c).2 = c'
  intro steps
  cases steps with
  | ends row =>
    have none : c.errand = none := by
      cases on : c.errand with
      | none => rfl
      | some e =>
        obtain ⟨plan, followup, rest, row', -⟩ := coherent e on
        cases row.symm.trans row'
    rw [none]
    exact ⟨stays rfl _, fun e never => by cases never⟩
  | patient row => exact ⟨stays rfl _, fun e on => (callTicket_of_errand on).symm⟩
  | exits row =>
    rw [idle row (by simp)]
    exact ⟨stays rfl _, fun e never => by cases never⟩
  | @waits plan followup rest sys' errand row advanced =>
    have comes := @comes_advanceErrand s sys place c plan present
    rw [advanced] at comes
    refine ⟨comes, fun e on => ?_⟩
    cases on
    exact ticket_advanceErrand (congrArg Prod.snd advanced)
  | @runs plan followup rest mid after result next row advanced followed =>
    have comes := @comes_advanceErrand s sys place c plan present
    have follows := stores_follow mid c.group followup result
    obtain ⟨stores, none⟩ := stores_goOn after c rest next
    rw [advanced] at comes
    rw [followed] at follows
    rw [none]
    refine ⟨fun σ reached shows => ?_, fun e never => by cases never⟩
    obtain ⟨τ, moved, shows⟩ := comes σ reached shows
    exact ⟨τ, moved, shows.store.trans (storeAt_of_stores (stores.trans follows) place).symm,
      shows.party⟩
  | @performs command rest after next row prompt performed =>
    have none : c.errand = none := idle row fun plan followup same => by
      subst same
      exact prompt
    obtain ⟨stores, ended⟩ := stores_goOn after { c with starting := startingAfter c command } rest next
    rw [ended, show handAt place c.errand = handAt place Option.none from congrArg _ none]
    refine ⟨?_, fun e never => by cases never⟩
    rcases claiming_perform sys c.group command with same | ⟨change, claiming, same⟩
    · rw [performed] at same
      exact stays (stores.trans same) _
    · rw [performed] at same
      intro σ reached shows
      obtain ⟨τ, moved, shows⟩ := comes_claim present claiming _ σ reached shows
      rw [← same] at shows
      exact ⟨τ, moved, shows.store.trans (storeAt_of_stores stores place).symm, shows.party⟩

/-- A call asks workers to finish at most, and those it brings up are on no errand. -/
theorem errands_staffed {sys' : System} (staffed : Staffed sys sys') (ticket : Nat) :
    (sys'.worker? ticket).bind (·.phase.errand?) = (sys.worker? ticket).bind (·.phase.errand?) := by
  cases before : sys.worker? ticket with
  | some w =>
    obtain ⟨exit, after⟩ := staffed.kept ticket w before
    rw [after]
    rfl
  | none =>
    cases after : sys'.worker? ticket with
    | none => rfl
    | some w =>
      obtain ⟨-, -, due⟩ := staffed.new ticket w after before
      rw [Option.bind_some, due]
      rfl

namespace Scheduled

theorem proceed (h : Scheduled s place τ σ) (ticketed : Ticketed τ)
    (present : place < τ.system.stores.length) {c : Call} (called : τ.system.call = some c) :
    ∃ υ, Moved (callTicket τ.system c) σ υ ∧ Scheduled s place (τ.go (τ.system.proceed c)) υ := by
  obtain ⟨coherent, errand⟩ := ticketed.call c called
  obtain ⟨comes, mine⟩ := @comes_stepCall s τ.system place c coherent present
  obtain ⟨unvisited, unworked, -⟩ := ticketed.free
  have staffed : Staffed τ.system (τ.system.proceed c) :=
    (staffed_stepCall τ.system c).trans (.of_eq rfl (Nat.le_refl _))
  -- Nobody else has the ticket of the call's errand.
  have alone : τ.visits (callTicket τ.system c) = none ∧
      τ.system.worker? (callTicket τ.system c) = none := by
    cases on : c.errand with
    | some e =>
      rw [callTicket_of_errand on]
      exact (errand e on).2.2
    | none =>
      unfold callTicket
      rw [on]
      exact ⟨unvisited, unworked⟩
  have filtered (hand : Option Errand) (ticket : Nat)
      (own : ∀ e, hand = some e → e.ticket = ticket) : hand.filter (·.ticket = ticket) = hand := by
    cases hand with
    | none => rfl
    | some e => exact if_pos (decide_eq_true (own e rfl))
  have before : τ.affairAt place (callTicket τ.system c) = handAt place c.errand := by
    rw [affairAt_call alone.1 alone.2, called, Option.bind_some, filtered]
    exact fun e on => (callTicket_of_errand on).symm
  have after : (τ.go (τ.system.proceed c)).affairAt place (callTicket τ.system c) =
      handAt place (τ.system.stepCall c).2.errand := by
    unfold affairAt
    rw [show (τ.go (τ.system.proceed c)).visits = τ.visits from rfl,
      show (τ.go (τ.system.proceed c)).system = τ.system.proceed c from rfl, alone.1,
      errands_staffed staffed, alone.2, show (τ.system.proceed c).call =
        some (τ.system.stepCall c).2 from rfl, Option.bind_some, filtered _ _ mine]
    rfl
  refine h.moves (callTicket τ.system c) ?_ fun other ne => ?_
  · rw [before, after]
    intro υ reached shows
    obtain ⟨ω, moved, shows⟩ := comes υ reached shows
    exact ⟨ω, moved, shows.store, shows.party⟩
  · have dropped (hand : Option Errand) (own : ∀ e, hand = some e → e.ticket = callTicket τ.system c) :
        hand.filter (·.ticket = other) = none :=
      Option.filter_eq_none_iff.2 fun e on => by
        rw [decide_eq_true_eq, own e on]
        exact fun same => ne same.symm
    refine affairAt_congr rfl (errands_staffed staffed other) ?_
    rw [show (τ.go (τ.system.proceed c)).system.call = some (τ.system.stepCall c).2 from rfl, called,
      Option.bind_some, Option.bind_some, dropped _ mine,
      dropped _ fun e on => (callTicket_of_errand on).symm]

theorem turn (h : Scheduled s place τ σ) (ticketed : Ticketed τ)
    (present : place < τ.system.stores.length) (took : Took ticket τ.system deeds sys) :
    Elsewhere τ.system ticket ∧ ∃ υ, Moved ticket σ υ ∧ Scheduled s place (τ.go sys) υ := by
  obtain ⟨w, found⟩ := took.worker
  have mine : w.ticket = ticket := ticket_of_found found
  obtain ⟨old, p, fits⟩ := ticketed.workers ticket w found
  obtain ⟨phase, source, q, acts, -, still, -⟩ := works_took took found fits
  rw [mine] at acts still
  obtain ⟨-, others, call, -, -⟩ := acts.keeps
  have unvisited : τ.visits ticket = none := by
    cases visited : τ.visits ticket with
    | none => rfl
    | some v => cases (ticketed.visits ticket v visited).2.1.symm.trans found
  have elsewhere : Elsewhere τ.system ticket := by
    rintro c called e on rfl
    cases ((ticketed.call c called).2 e on).2.2.2.symm.trans found
  have before : τ.affairAt place ticket = handAt place w.phase.errand? := by
    rw [affairAt_worker unvisited elsewhere, found]
    rfl
  have after : (τ.go sys).affairAt place ticket = handAt place phase.errand? := by
    have later : Elsewhere sys ticket := fun c called => elsewhere c (call.symm.trans called)
    have same : (τ.go sys).affairAt place ticket = _ := affairAt_worker unvisited later
    rw [same, show (τ.go sys).system = sys from rfl, still]
    rfl
  refine ⟨elsewhere, h.moves ticket ?_ fun other ne => affairAt_congr rfl ?_ ?_⟩
  · rw [before, after]
    refine comes_of_row (fun t => handAt_outside _ t) fun υ reached shows => ?_
    exact shows_acts acts reached present shows
  · rw [show (τ.go sys).system = sys from rfl, others other ne]
  · rw [show (τ.go sys).system = sys from rfl, call]

/-- What others do beside the calls: a party that is not the call's moves, or no contents change. -/
theorem other (h : Scheduled s place τ σ) (ticketed : Ticketed τ)
    (present : place < τ.system.stores.length) (other : Other τ events τ') :
    ∃ mover, (Elsewhere τ.system mover ∨
        (τ'.system.storeAt place).contents = (τ.system.storeAt place).contents) ∧
      ∃ υ, Moved mover σ υ ∧ Scheduled s place τ' υ := by
  -- What visitors do is done at their own store.
  have updates {there : Nat} {change : Store → Store} (other : Nat) (ne : there ≠ other) :
      (τ.system.updateStore there change).storeAt other = τ.system.storeAt other :=
    storeAt_updateStore_ne ne change
  cases other with
  | ask there write _ =>
    obtain ⟨unvisited, free, elsewhere⟩ := ticketed.free
    refine ⟨_, .inl elsewhere, h.visits rfl rfl free elsewhere ?_⟩
    rw [unvisited]
    show Comes s place _ τ.system _ none
      (if there = place then some (Affair.asking write) else none)
    by_cases here : there = place
    · subst here
      rw [if_pos rfl]
      refine comes_of_row (fun t never => by cases never) fun υ _ shows => ?_
      have taken : Shows τ.system.takeTicket.1 there τ.system.nextTicket none υ :=
        ⟨shows.store, shows.party⟩
      have there' : there < τ.system.takeTicket.1.stores.length := present
      exact shows_request there' write taken
    · rw [if_neg here]
      exact comes_elsewhere (storeAt_updateStore_ne here _)
  | enterRead ticket there asked held =>
    refine ⟨_, .inl (ticketed.elsewhere asked), h.visited ticketed asked rfl rfl
      (comes_visitor (some (.inside _)) updates fun here => ?_)⟩
    subst here
    exact comes_enterRead present held
  | enterWrite ticket there asked held =>
    refine ⟨_, .inl (ticketed.elsewhere asked), h.visited ticketed asked rfl rfl
      (comes_visitor (some (.inside _)) updates fun here => ?_)⟩
    subst here
    exact comes_enterWrite present held
  | edit ticket there inside edits =>
    refine ⟨_, .inl (ticketed.elsewhere inside), h.visited ticketed inside rfl rfl
      (comes_visitor (some (.inside _)) (fun _ _ => rfl) fun here => ?_)⟩
    subst here
    exact comes_edit _ edits
  | leave ticket there inside =>
    refine ⟨_, .inl (ticketed.elsewhere inside), h.visited ticketed inside rfl rfl
      (comes_visitor none updates fun here => ?_)⟩
    subst here
    exact comes_leave present _
  | askCommit ticket there inside write =>
    refine ⟨_, .inl (ticketed.elsewhere inside), h.visited ticketed inside rfl rfl
      (comes_visitor (some (.closing _)) updates fun here => ?_)⟩
    subst here
    exact comes_askCommit present write
  | @commit ticket there t closing held =>
    obtain ⟨⟨_, _, _, _, _, same⟩, -⟩ := transacts_commit τ.system there t
    refine ⟨_, .inl (ticketed.elsewhere closing), h.visited ticketed closing ?_ ?_
      (comes_visitor none (fun other ne => storeAt_commit_ne ne _) fun here => ?_)⟩
    · rw [same]
    · rw [same]
    · subst here
      exact comes_commit present held
  | register ticket there inside ok =>
    refine ⟨_, .inl (ticketed.elsewhere inside), h.stays ticketed inside
      (comes_visitor (some (.inside _)) updates fun here => ?_)⟩
    subst here
    exact comes_trigger present fun υ store seen work active =>
      .register active (by rw [store]; exact ok)
  | unregister ticket there inside ok =>
    refine ⟨_, .inl (ticketed.elsewhere inside), h.stays ticketed inside
      (comes_visitor (some (.inside _)) updates fun here => ?_)⟩
    subst here
    exact comes_trigger present fun υ store seen work active =>
      .unregister active (by rw [store]; exact ok)
  | send there plan _ =>
    obtain ⟨unvisited, free, elsewhere⟩ := ticketed.free
    obtain ⟨⟨_, _, _, _, _, same⟩, -⟩ :=
      transacts_beginErrand τ.system.takeTicket.1 there τ.system.nextTicket plan
    refine ⟨_, .inl elsewhere, h.visits ?_ ?_ free elsewhere ?_⟩
    · rw [same]
      rfl
    · rw [same]
      rfl
    · rw [unvisited, bind_sent]
      refine comes_of_row (fun t never => by cases never) fun υ reached shows => ?_
      have taken : Shows τ.system.takeTicket.1 place τ.system.nextTicket none υ :=
        ⟨shows.store, shows.party⟩
      have there' : place < τ.system.takeTicket.1.stores.length := present
      exact shows_beginErrand reached there' taken
  | @resume ticket e sent =>
    obtain ⟨-, -, named⟩ := ticketed.visits ticket _ sent
    obtain ⟨⟨_, _, _, _, _, same⟩, -⟩ := transacts_pollErrand τ.system e
    obtain rfl : e.ticket = ticket := named
    refine ⟨_, .inl (ticketed.elsewhere sent), h.visited ticketed sent ?_ ?_ ?_⟩
    · rw [same]
    · rw [same]
    · rw [bind_sent]
      exact comes_of_row (fun t => handAt_outside (some e) t) fun υ reached shows =>
        shows_pollErrand reached present shows
  | @claim there change claiming =>
    exact ⟨0, .inr (contents_claiming claiming), h.changes (τ.system.updateStore there change)
      (fun _ => rfl) rfl 0 fun affair => comes_claim present claiming affair⟩
  | turn ticket took =>
    obtain ⟨elsewhere, moves⟩ := h.turn ticketed present took
    exact ⟨ticket, .inl elsewhere, moves⟩
  | aside unconcerned =>
    have same := storeAt_of_stores unconcerned.stores place
    have staffed : Staffed τ.system _ :=
      .of_eq unconcerned.workers (Nat.le_of_eq unconcerned.nextTicket.symm)
    exact ⟨0, .inr (congrArg Store.contents same), h.changes _ (errands_staffed staffed)
      (by rw [unconcerned.call]) 0 fun _ => comes_elsewhere same⟩

/-- Whatever anybody does, one party moves at most. -/
theorem step (h : Scheduled s place τ σ) (ticketed : Ticketed τ)
    (present : place < τ.system.stores.length) (step : Step calls τ events τ') :
    ∃ mover υ, Moved mover σ υ ∧ Scheduled s place τ' υ := by
  cases step with
  | other other =>
    obtain ⟨mover, -, moves⟩ := h.other ticketed present other
    exact ⟨mover, moves⟩
  | hold stopTimeout idle validated =>
    obtain ⟨stores, call⟩ := hold_keeps τ.system _ stopTimeout
    exact ⟨0, h.changes _ (errands_staffed (staffed_hold _ _ _)) (by rw [call]) 0 fun _ =>
      comes_elsewhere (storeAt_of_stores stores place)⟩
  | call c idle may new =>
    refine ⟨0, h.changes { τ.system with call := some c } (fun _ => rfl) ?_ 0 fun _ =>
      comes_elsewhere rfl⟩
    -- The call before is over, so it is on no errand.
    have before : τ.system.call.bind (·.errand) = none := by
      refine Option.bind_eq_none_iff.2 fun c' called => ?_
      cases on : c'.errand with
      | none => rfl
      | some e =>
        have unfinished := ((ticketed.call c' called).2 e on).1
        unfold callIsOver at idle
        rw [called] at idle
        dsimp only at idle
        rw [unfinished] at idle
        cases idle
    rw [before]
    exact new.1
  | proceed called unfinished => exact ⟨_, h.proceed ticketed present called⟩

end Scheduled

end Traffic

end DocStore
