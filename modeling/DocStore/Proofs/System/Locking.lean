import DocStore.Proofs.System.Parties

/-!
# Locking is safe, and it never gets stuck

In all traffic the parties at the locks of a store are those of a schedule. So what holds of schedules
holds of visitors, of the errands of workers and of calls, and of errands that others send out.

Results:
  * `Run.scheduled`: all traffic at a store is a schedule;
  * `locks_safe`: what is true of the locks of every store, whatever goes on.
-/

namespace DocStore

namespace Affair

/-- Somebody is in a write transaction, or commits one. -/
def Writes : Affair → Prop
  | .asking _ => False
  | .inside t => t.isWrite = true
  | .closing _ => True

/-- Somebody waits for a lock. -/
def Waits : Affair → Prop
  | .asking _ | .closing _ => True
  | .inside _ => False

/-- The lock that somebody waits for is held under their ticket. -/
def Granted (s : Store) (ticket : Nat) : Affair → Prop
  | .asking true => s.writer.isHeldBy ticket = true
  | .asking false | .closing _ => s.state.isHeldBy ticket = true
  | .inside _ => False

end Affair

namespace Stage

variable {stage : Stage} {affair : Affair}

theorem writes_iff (same : stage.affair? = some affair) : stage.Writes ↔ affair.Writes := by
  cases stage <;> cases same <;> rfl

theorem waits_iff (same : stage.affair? = some affair) : stage.Waits ↔ affair.Waits := by
  cases stage <;> cases same <;> rfl

theorem granted_iff {s : Store} {ticket : Nat} (same : stage.affair? = some affair) :
    stage.Granted s ticket ↔ affair.Granted s ticket := by
  cases stage with
  | absent => cases same
  | awaiting write => cases write <;> cases same <;> rfl
  | active | committing =>
    cases same
    rfl

theorem affair_of_waits (waits : stage.Waits) : ∃ affair, stage.affair? = some affair := by
  cases stage with
  | absent | active => exact waits.elim
  | awaiting write => exact ⟨_, rfl⟩
  | committing t seen work => exact ⟨_, rfl⟩

end Stage

namespace Traffic

open DocStore.System Schedule

variable {s : Store} {τ τ' : Traffic} {σ : Schedule} {place ticket : Nat} {log events : List WorkEvent}
  {calls : System → Call → Prop}

/-! ## Stores stay -/

theorem length_stepCall (sys : System) (c : Call) :
    (sys.stepCall c).1.stores.length = sys.stores.length := by
  have goes (plan : Plan) : Goes (fun _ => False) sys (sys.advanceErrand c plan).1 :=
    goes_advanceErrand sys c plan
  have steps := stepsTo_stepCall 0 sys c
  revert steps
  generalize noticedBy 0 sys c = log, (sys.stepCall c).1 = sys', (sys.stepCall c).2 = c'
  intro steps
  cases steps with
  | ends | patient | exits => rfl
  | @waits plan _ _ _ _ row advanced =>
    have kept := (goes plan).keeps_stores
    rwa [advanced] at kept
  | @runs plan followup _ mid _ result _ row advanced followed =>
    have kept := (goes plan).keeps_stores
    have follows := stores_follow mid c.group followup result
    rw [advanced] at kept
    rw [followed] at follows
    rw [(stores_goOn _ c _ _).1, follows, kept]
  | @performs command _ _ _ row prompt performed =>
    have kept : Goes (fun _ => False) sys (sys.perform c.group command).1 :=
      goes_perform sys c.group command
    have kept := kept.keeps_stores
    rw [performed] at kept
    rw [(stores_goOn _ _ _ _).1, kept]

theorem length_other (ticketed : Ticketed τ) (other : Other τ events τ') :
    τ'.system.stores.length = τ.system.stores.length := by
  have set {sys : System} {place : Nat} {change : Store → Store} :
      (sys.updateStore place change).stores.length = sys.stores.length :=
    length_updateStore sys place change
  cases other with
  | ask | enterRead | enterWrite | leave | askCommit | register | unregister | claim => exact set
  | edit => rfl
  | commit ticket place => exact length_commit _ place _
  | send place plan => exact (length_pollErrand _ _).trans set
  | resume => exact length_pollErrand _ _
  | turn ticket took =>
    obtain ⟨w, found⟩ := took.worker
    obtain ⟨-, p, fits⟩ := ticketed.workers ticket w found
    obtain ⟨_, _, _, acts, -⟩ := works_took took found fits
    exact length_acts acts
  | aside unconcerned => exact congrArg List.length unconcerned.stores

theorem length_step (ticketed : Ticketed τ) (step : Step calls τ events τ') :
    τ'.system.stores.length = τ.system.stores.length := by
  cases step with
  | other other => exact length_other ticketed other
  | hold stopTimeout => exact congrArg List.length (hold_keeps _ _ stopTimeout).1
  | call => rfl
  | @proceed c => exact length_stepCall τ.system c

/-! ## Traffic is a schedule -/

theorem storeAt_new (trees : List Value) (engine : Engine) (files : FileTree) (place : Nat) :
    ∃ id tree, (System.new trees engine files).storeAt place = Store.new id tree := by
  unfold storeAt System.new
  dsimp only
  cases found : (List.zipWith (fun i tree => Store.new (i + 1) tree) (List.range trees.length)
      trees)[place]? with
  | none => exact ⟨0, .empty, rfl⟩
  | some s =>
    obtain ⟨inside, same⟩ := List.getElem?_eq_some_iff.1 found
    rw [List.getElem_zipWith] at same
    exact ⟨_, _, same.symm⟩

/-- Nobody uses the stores at first. -/
theorem scheduled_new (trees : List Value) (engine : Engine) (files : FileTree) (place : Nat) :
    Scheduled ((System.new trees engine files).storeAt place) place
      (of (System.new trees engine files))
      (Schedule.start ((System.new trees engine files).storeAt place)) := by
  refine ⟨.start _, ?_, fun _ => rfl⟩
  show Store.mk _ _ _ _ _ _ _ _ = (System.new trees engine files).storeAt place
  obtain ⟨id, tree, same⟩ := storeAt_new trees engine files place
  rw [same]
  rfl

/-- Whatever goes on, the parties at a store are those of a schedule. -/
theorem Run.scheduled {trees : List Value} {engine : Engine} {files : FileTree}
    (run : Run calls (of (System.new trees engine files)) log τ) (present : place < trees.length) :
    place < τ.system.stores.length ∧
      ∃ σ, Scheduled ((System.new trees engine files).storeAt place) place τ σ := by
  induction run with
  | none =>
    refine ⟨?_, _, scheduled_new trees engine files place⟩
    show place < (List.zipWith _ (List.range trees.length) trees).length
    rw [List.length_zipWith, List.length_range, Nat.min_self]
    exact present
  | step before step ih =>
    obtain ⟨there, σ, scheduled⟩ := ih
    have ticketed := before.ticketed (ticketed_new trees engine files)
    obtain ⟨_, υ, -, scheduled⟩ := scheduled.step ticketed there step
    exact ⟨(length_step ticketed step).symm ▸ there, υ, scheduled⟩

/-! ## What is true of the locks -/

/-- A step replaces what is committed only while nobody is in a transaction. -/
theorem Scheduled.alone (h : Scheduled s place τ σ) (ticketed : Ticketed τ)
    (present : place < τ.system.stores.length) (step : Step calls τ events τ')
    (changed : (τ'.system.storeAt place).contents ≠ (τ.system.storeAt place).contents)
    (other : Nat) (t : Transaction) : τ.affairAt place other ≠ some (.inside t) := by
  obtain ⟨mover, υ, moved, after⟩ := h.step ticketed present step
  rw [← after.store, ← h.store] at changed
  intro inside
  rw [← h.parties other] at inside
  obtain ⟨seen, work, active⟩ := Stage.of_inside inside
  have within : (σ.stages other).Inside := by
    rw [active]
    trivial
  by_cases mine : other = mover
  · -- Whoever is in a transaction takes one step, and that is no commit of another.
    subst mine
    rcases moved.single within with rfl | single
    · exact changed rfl
    · obtain ⟨committer, u, _, _, committing, -, absent⟩ := single.replaces changed
      by_cases same : committer = other
      · subst same
        cases active.symm.trans committing
      · rw [moved.row.others same, committing] at absent
        cases absent
  · exact moved.row.alone h.reached changed mine within

/-- While a call commits, others leave what is committed as it is. -/
theorem Scheduled.contents_other (h : Scheduled s place τ σ) (ticketed : Ticketed τ)
    (present : place < τ.system.stores.length) (other : Other τ events τ') {c : Call} {e : Errand}
    {t : Transaction} {outcome : Outcome} (called : τ.system.call = some c) (on : c.errand = some e)
    (closing : e.stage = .closing t outcome) (here : e.store = place) :
    (τ'.system.storeAt place).contents = (τ.system.storeAt place).contents := by
  obtain ⟨mover, apart | same, υ, moved, after⟩ := h.other ticketed present other
  · by_contra changed
    have ne : e.ticket ≠ mover := apart c called e on
    obtain ⟨-, -, unvisited, free⟩ := (ticketed.call c called).2 e on
    have mine : τ.affairAt place e.ticket = some (.closing t) := by
      rw [affairAt_call unvisited free, called, Option.bind_some, on]
      show handAt place (if decide (e.ticket = e.ticket) = true then some e else none) = _
      rw [if_pos (decide_eq_true rfl)]
      show e.affairAt place = _
      unfold Errand.affairAt Errand.affair
      rw [if_pos here, closing]
    rw [← after.store, ← h.store] at changed
    rw [← h.parties] at mine
    obtain ⟨seen, work, committing⟩ := Stage.of_closing mine
    rcases moved.row.idle h.reached changed ne with gone | ⟨write, waits⟩
    · cases committing.symm.trans gone
    · cases committing.symm.trans waits
  · exact same

/-- When somebody waits and nobody is in a transaction, somebody who waits has the lock. -/
theorem Scheduled.goesOn (h : Scheduled s place τ σ) {affair : Affair}
    (outside : ∀ other t, τ.affairAt place other ≠ some (.inside t))
    (party : τ.affairAt place ticket = some affair) (waits : affair.Waits) :
    ∃ other affair, τ.affairAt place other = some affair ∧ affair.Waits ∧
      affair.Granted (τ.system.storeAt place) other := by
  have outside (other : Nat) : ¬ (σ.stages other).Inside := by
    intro inside
    have party := h.parties other
    cases stage : σ.stages other with
    | active t seen work =>
      rw [stage] at party
      exact outside other t party.symm
    | absent | awaiting | committing =>
      rw [stage] at inside
      exact inside.elim
  have mine : (σ.stages ticket).affair? = some affair := (h.parties ticket).trans party
  obtain ⟨other, waits, granted⟩ := h.reached.goesOn outside ((Stage.waits_iff mine).2 waits)
  obtain ⟨affair, theirs⟩ := Stage.affair_of_waits waits
  refine ⟨other, affair, (h.parties other).symm.trans theirs, (Stage.waits_iff theirs).1 waits, ?_⟩
  rw [← h.store]
  exact (Stage.granted_iff theirs).1 granted

/-- Whatever goes on, at every store: there is one write transaction at most, open or committing; what
is committed is replaced only while nobody is in a transaction; a writer at work is given the state lock
shared at once, and giving it back leaves the lock as it was; when somebody waits and nobody is in a
transaction, somebody who waits has the lock they wait for; and a call that waits for a worker waits for
no lock and holds none. -/
theorem locks_safe {trees : List Value} {engine : Engine} {files : FileTree}
    (run : Run calls (of (System.new trees engine files)) log τ) (present : place < trees.length) :
    (∀ one other affair affair', τ.affairAt place one = some affair → affair.Writes →
      τ.affairAt place other = some affair' → affair'.Writes → other = one) ∧
    (∀ events τ', Step calls τ events τ' →
      (τ'.system.storeAt place).contents ≠ (τ.system.storeAt place).contents →
      ∀ other t, τ.affairAt place other ≠ some (.inside t)) ∧
    (∀ ticket t, τ.affairAt place ticket = some (.inside t) → t.isWrite = true →
      ((τ.system.storeAt place).state.request ticket .shared).isHeldBy ticket = true ∧
      ((τ.system.storeAt place).state.request ticket .shared).release ticket =
        (τ.system.storeAt place).state) ∧
    ((∀ other t, τ.affairAt place other ≠ some (.inside t)) →
      ∀ ticket affair, τ.affairAt place ticket = some affair → affair.Waits →
        ∃ other affair, τ.affairAt place other = some affair ∧ affair.Waits ∧
          affair.Granted (τ.system.storeAt place) other) ∧
    (∀ c ticket deadline rest, τ.system.call = some c →
      c.agenda = .awaitExit ticket deadline :: rest → c.errand = none) := by
  obtain ⟨there, σ, scheduled⟩ := run.scheduled present
  have ticketed := run.ticketed (ticketed_new trees engine files)
  have coherent := scheduled.reached.coherent
  refine ⟨fun one other affair affair' mine writes theirs others => ?_, ?_,
    fun ticket t inside write => ?_, ?_, fun c ticket deadline rest called row => ?_⟩
  · rw [← scheduled.parties] at mine theirs
    exact coherent.oneWriter ((Stage.writes_iff mine).2 writes) ((Stage.writes_iff theirs).2 others)
  · exact fun events τ' step changed => scheduled.alone ticketed there step changed
  · rw [← scheduled.parties] at inside
    obtain ⟨seen, work, active⟩ := Stage.of_inside inside
    rw [← scheduled.store]
    exact scheduled.reached.grants active write
  · exact fun outside ticket affair party waits => scheduled.goesOn outside party waits
  · cases on : c.errand with
    | none => rfl
    | some e =>
      obtain ⟨plan, followup, rest', row', -⟩ := (ticketed.call c called).1 e on
      cases row.symm.trans row'

/-- One more visitor asks to write. -/
def Samples.asked (τ : Traffic) : Traffic :=
  τ.visit (τ.system.takeTicket.1.updateStore 0 fun s => s.requestWrite τ.system.nextTicket)
    τ.system.nextTicket (some (.visitor 0 (.asking true)))

/-- Two visitors have asked to write, and the first may go in. -/
def Samples.queue : Traffic := asked (asked (of (System.new [.object []] .absent .empty)))

/-- The first has gone in. -/
def Samples.entered : Traffic :=
  queue.visit (queue.system.updateStore 0 fun _ => ((queue.system.storeAt 0).openWrite 1).1) 1
    (some (.visitor 0 (.inside ((queue.system.storeAt 0).openWrite 1).2)))

theorem locks_safe_between_writers :
    (∃ log, Run (fun _ _ => True) (of (System.new [.object []] .absent .empty)) log Samples.queue) ∧
    (∃ other affair, Samples.queue.affairAt 0 other = some affair ∧ affair.Waits ∧
      affair.Granted (Samples.queue.system.storeAt 0) other) ∧
    ((Samples.entered.system.storeAt 0).state.request 1 .shared).isHeldBy 1 = true := by
  have start : Run (fun _ _ => True) (of (System.new [.object []] .absent .empty)) [] _ := .none
  have queue : Run _ _ _ Samples.queue := (start.step (.other (.ask 0 true (by decide)))).step
    (.other (.ask 0 true (by decide)))
  have entered : Run _ _ _ Samples.entered := queue.step (.other (.enterWrite 1 0 rfl rfl))
  have outside (other : Nat) (t : Transaction) :
      Samples.queue.affairAt 0 other ≠ some (.inside t) := by
    intro inside
    by_cases second : other = 2
    · subst second
      cases inside
    · by_cases first : other = 1
      · subst first
        cases inside
      · have absent : Samples.queue.visits other = none :=
          (visits_ne second _ _ _).trans (visits_ne first _ _ _)
        unfold affairAt at inside
        rw [absent] at inside
        cases inside
  refine ⟨⟨_, queue⟩, ?_, ?_⟩
  · exact (locks_safe queue (by decide)).2.2.2.1 outside 2 (.asking true) rfl trivial
  · exact ((locks_safe entered (by decide)).2.2.1 1 _ rfl rfl).1

end Traffic

end DocStore
