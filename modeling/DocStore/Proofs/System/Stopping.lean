import DocStore.Proofs.System.Plays
import DocStore.Proofs.System.Removing

/-!
# Workers that have stopped

A worker is asked to finish at any point of a tick, and looks at that only between two ticks. The call that
asked waits until the worker has finished, or until it gives up. So when the wait was acknowledged all ticks
of the worker are whole and lie behind, and it never does anything again.

Results:
  * `Paced.step`: the deeds of a worker are whole ticks and the beginning of one, and its phase says how
    far it has come;
  * `Acknowledged.step`: the wait for a worker that is acknowledged ends when it has finished;
  * `stops_are_final`: what stops come to, whatever goes on.
-/

namespace DocStore

/-! ## What a worker did -/

/-- What the worker did, if the event is a deed of it. -/
def WorkEvent.deedOf? (ticket : Nat) : WorkEvent → Option Deed
  | .did other deed => if other = ticket then some deed else none
  | _ => none

/-- The deeds of a worker, in the order of the log. -/
def deedsOf (ticket : Nat) (log : List WorkEvent) : List Deed := log.filterMap (·.deedOf? ticket)

/-- Ticks, one after the other. -/
def WholeTicks (deeds : List Deed) : Prop :=
  ∃ ticks, deeds = List.flatten ticks ∧ ∀ tick ∈ ticks, IsTick tick

/-- An event of a log that grows is new, or it was there before. -/
theorem split_append {log events before after : List WorkEvent} {event : WorkEvent}
    (split : log ++ events = before ++ event :: after) :
    (∃ later, log = before ++ event :: later ∧ after = later ++ events) ∨
      ∃ first, before = log ++ first ∧ events = first ++ event :: after := by
  rcases List.append_eq_append_iff.1 split with ⟨first, same, rest⟩ | ⟨last, same, rest⟩
  · exact .inr ⟨first, same, rest⟩
  · cases last with
    | nil => exact .inr ⟨[], by rw [same, List.append_nil, List.append_nil], rest.symm⟩
    | cons head later =>
      obtain ⟨rfl, rfl⟩ := List.cons.inj rest
      exact .inl ⟨later, same, rfl⟩

section Deeds

variable {ticket other : Nat} {log events : List WorkEvent} {deeds : List Deed}

theorem deedsOf_append (ticket : Nat) (log events : List WorkEvent) :
    deedsOf ticket (log ++ events) = deedsOf ticket log ++ deedsOf ticket events :=
  List.filterMap_append

theorem deedsOf_self (ticket : Nat) (deeds : List Deed) :
    deedsOf ticket (deeds.map (.did ticket)) = deeds := by
  unfold deedsOf
  rw [List.filterMap_map]
  have all : (·.deedOf? ticket) ∘ WorkEvent.did ticket = some := by
    funext deed
    exact if_pos rfl
  rw [all, List.filterMap_some]

theorem deedsOf_silent (silent : ∀ deed, .did ticket deed ∉ events) : deedsOf ticket events = [] := by
  unfold deedsOf
  refine List.filterMap_eq_nil_iff.2 fun event mem => ?_
  cases event with
  | did other deed =>
    refine if_neg ?_
    rintro rfl
    exact silent deed mem
  | acknowledged | gaveUp => rfl

theorem silent_of_ne (ne : other ≠ ticket) (deeds : List Deed) (deed : Deed) :
    .did ticket deed ∉ deeds.map (WorkEvent.did other) := by
  intro mem
  obtain ⟨_, -, same⟩ := List.mem_map.1 mem
  cases same
  exact ne rfl

end Deeds

/-- A tick that has not begun leaves whole ticks. -/
theorem Point.wholeTicks {deeds : List Deed} (follows : Point.resting.after deeds = some .resting) :
    WholeTicks deeds := by
  obtain ⟨ticks, begun, same, whole, rfl⟩ := Point.after_ticks follows
  exact ⟨ticks, by rw [same, List.append_nil], whole⟩

/-- At most one thing is committed in a tick. -/
theorem IsTick.stores_once {tick : List Deed} (whole : IsTick tick) : tick.count .stored ≤ 1 := by
  obtain ⟨evaluates, stores, rfl⟩ := whole
  cases evaluates <;> cases stores <;> decide

namespace Traffic

open DocStore.System

variable {τ τ' : Traffic} {log events : List WorkEvent} {calls : System → Call → Prop} {ticket : Nat}

/-! ## Ticks of a worker -/

/-- The deeds of every worker follow one another as in ticks, and its phase says how far it has come. Who
is not there has done nothing. -/
def Paced (log : List WorkEvent) (τ : Traffic) : Prop :=
  ∀ ticket, (∃ w p, τ.system.worker? ticket = some w ∧ w.phase.At ticket p ∧
      Point.resting.after (deedsOf ticket log) = some p) ∨
    (τ.system.worker? ticket = none ∧ deedsOf ticket log = [])

theorem Paced.step (paced : Paced log τ) (step : Step calls τ events τ') :
    Paced (log ++ events) τ' := by
  intro ticket
  rw [deedsOf_append]
  rcases step.turns with ⟨other, deeds, sys, took, rfl, rfl⟩ | ⟨silent, staffed⟩
  · show (∃ w p, sys.worker? ticket = some w ∧ _) ∨ (sys.worker? ticket = none ∧ _)
    obtain ⟨w, found⟩ := took.worker
    rcases paced other with ⟨w', p, found', fits, sofar⟩ | ⟨absent, -⟩
    · cases found.symm.trans found'
      have mine : w.ticket = other := ticket_of_found found
      obtain ⟨phase, source, q, acts, leads, still, fits'⟩ := works_took took found fits
      rw [mine] at acts still fits'
      by_cases same : ticket = other
      · subst same
        rw [deedsOf_self]
        exact .inl ⟨_, q, still, fits', Point.after_trans sofar leads⟩
      · rw [deedsOf_silent (silent_of_ne (Ne.symm same) deeds), List.append_nil,
          acts.keeps.2.1 ticket same]
        exact paced ticket
    · cases absent.symm.trans found
  · rw [deedsOf_silent (silent ticket), List.append_nil]
    rcases paced ticket with ⟨w, p, found, fits, sofar⟩ | ⟨absent, nothing⟩
    · obtain ⟨exit, still⟩ := staffed.kept ticket w found
      exact .inl ⟨_, p, still, fits, sofar⟩
    · cases found : τ'.system.worker? ticket with
      | none => exact .inr ⟨rfl, nothing⟩
      | some w =>
        obtain ⟨-, -, due⟩ := staffed.new ticket w found absent
        refine .inl ⟨w, .resting, rfl, ?_, by rw [nothing]; rfl⟩
        rw [due]
        rfl

/-! ## Stops that were acknowledged -/

/-- Of every worker whose stop was acknowledged: what it did before were whole ticks, it does nothing
afterwards, and it has finished. -/
def Acknowledged (log : List WorkEvent) (τ : Traffic) : Prop :=
  ∀ ticket before after, log = before ++ .acknowledged ticket :: after →
    WholeTicks (deedsOf ticket before) ∧ (∀ deed, .did ticket deed ∉ after) ∧
      ∃ w, τ.system.worker? ticket = some w ∧ w.phase = .finished

/-- Only a wait that is over is acknowledged, and then the worker has finished. -/
theorem finished_of_acknowledged (h : Answers log τ) (step : Step calls τ events τ')
    (mem : .acknowledged ticket ∈ events) : events = [.acknowledged ticket] ∧
      ∃ w, τ.system.worker? ticket = some w ∧ w.phase = .finished := by
  cases step with
  | other other =>
    cases other with
    | turn =>
      obtain ⟨_, -, never⟩ := List.mem_map.1 mem
      cases never
    | _ => cases mem
  | hold | call => cases mem
  | @proceed c called unfinished =>
    have due := h.accounted.due
    rw [agenda_of_call called] at due
    unfold exitEvents at mem ⊢
    split at mem
    · next waited deadline rest row =>
      rw [row] at due
      obtain ⟨w, found⟩ := Option.isSome_iff_exists.1 due.present
      split at mem
      · next finished =>
        cases List.mem_singleton.1 mem
        exact ⟨if_pos finished, w, found, (isFinished_iff found).1 finished⟩
      · split at mem <;> simp at mem
    · cases mem

theorem Acknowledged.step (acknowledged : Acknowledged log τ) (h : Answers log τ)
    (ticketed : Ticketed τ) (paced : Paced log τ) (step : Step calls τ events τ') :
    Acknowledged (log ++ events) τ' := by
  intro ticket before after split
  rcases split_append split with ⟨later, rfl, rfl⟩ | ⟨first, rfl, rest⟩
  · obtain ⟨whole, silent, w, found, finished⟩ := acknowledged ticket before later rfl
    obtain ⟨w', still, -, keeps⟩ := step_keeps ticketed step found
    refine ⟨whole, fun deed did => ?_, w', still, keeps finished⟩
    rcases List.mem_append.1 did with earlier | now
    · exact silent deed earlier
    · obtain ⟨v, was, working⟩ := step_working step now
      cases found.symm.trans was
      exact working finished
  · have mem : .acknowledged ticket ∈ events := rest ▸ List.mem_append_right _ List.mem_cons_self
    obtain ⟨only, w, found, finished⟩ := finished_of_acknowledged h step mem
    obtain ⟨rfl, rfl⟩ : first = [] ∧ after = [] := by
      rw [only] at rest
      cases first with
      | nil => exact ⟨rfl, (List.cons.inj rest).2.symm⟩
      | cons _ first => cases first <;> cases rest
    rw [List.append_nil]
    obtain ⟨w', still, -, keeps⟩ := step_keeps ticketed step found
    refine ⟨?_, fun _ => List.not_mem_nil, w', still, keeps finished⟩
    -- Between two ticks no tick has begun.
    rcases paced ticket with ⟨v, p, found', fits, sofar⟩ | ⟨absent, -⟩
    · cases found.symm.trans found'
      rw [finished] at fits
      cases fits
      exact Point.wholeTicks sofar
    · cases found.symm.trans absent

section Run

variable {trees : List Value} {engine : Engine} {files : FileTree}

theorem Run.paced (run : Run calls (of (System.new trees engine files)) log τ) : Paced log τ := by
  induction run with
  | none => exact fun _ => .inr ⟨rfl, rfl⟩
  | step _ step ih => exact ih.step step

theorem Run.acknowledged (run : Run Asked (of (System.new trees engine files)) log τ) :
    Acknowledged log τ := by
  induction run with
  | none =>
    intro ticket before after split
    cases before <;> cases split
  | step before step ih =>
    exact ih.step before.answers (before.ticketed (ticketed_new trees engine files)) before.paced step

/-- Whatever goes on: what a worker does are whole ticks and the beginning of one, and in a tick one thing
is committed at most. Once a stop is acknowledged, all ticks of the worker are whole, it does nothing any
more, and it has finished. In a turn without a commit no store changes. A worker that was not given up and
has not finished is that of a plugin that is held, or the call waits for it and no plugin is held with it;
so of the workers of one plugin there is one at most. A reconfiguration that ends has come to a moment when
nothing was left at the path of a plugin that it removes, unless the removal failed, and from then on the
workers of that plugin do nothing. -/
theorem stops_are_final (stores : 0 < trees.length)
    (run : Run Asked (of (System.new trees engine files)) log τ) :
    (∀ ticket, ∃ ticks begun, ∃ p : Point, deedsOf ticket log = List.flatten ticks ++ begun ∧
      (∀ tick ∈ ticks, IsTick tick ∧ tick.count .stored ≤ 1) ∧ p.Begun begun) ∧
    (∀ ticket before after, log = before ++ .acknowledged ticket :: after →
      WholeTicks (deedsOf ticket before) ∧ (∀ deed, .did ticket deed ∉ after) ∧
        ∃ w, τ.system.worker? ticket = some w ∧ w.phase = .finished) ∧
    (∀ ticket deeds sys, Took ticket τ.system deeds sys → .stored ∉ deeds →
      ∀ place, (sys.storeAt place).contents = (τ.system.storeAt place).contents) ∧
    (∀ ticket w, τ.system.worker? ticket = some w → w.phase ≠ .finished → .gaveUp ticket ∉ log →
      τ.system.Employed ticket w.state ∨
        Heads ticket τ.system.agenda ∧ τ.system.Idle w.state) ∧
    (∀ one other w v, τ.system.worker? one = some w → τ.system.worker? other = some v →
      w.phase ≠ .finished → v.phase ≠ .finished → .gaveUp one ∉ log → .gaveUp other ∉ log →
      v.state = w.state → other = one) ∧
    (∀ (place : Nat) g name p next more τ' c, τ.system.callIsOver = true →
      τ.system.groups[place]? = some g → g.plugins.find? name = some p → next.contains name = false →
      Run Alone (τ.reconfiguring place g next) more τ' → τ'.system.call = some c →
      c.result.isSome = true →
      ∃ first later mid, more = first ++ later ∧
        Run Alone (τ.reconfiguring place g next) first mid ∧ Run Alone mid later τ' ∧
        ((mid.system.storeAt pluginStore).contents.get? p.entry.path = none ∨ mid.Failed) ∧
        ∀ last τ'', Run Asked mid last τ'' → ∀ ticket w, τ''.system.worker? ticket = some w →
          w.state = p.state → .gaveUp ticket ∉ log ++ first → ∀ deed, .did ticket deed ∉ last) := by
  have answers := run.answers
  have ticketed := run.ticketed (ticketed_new trees engine files)
  refine ⟨fun ticket => ?_, run.acknowledged, fun ticket deeds sys took unstored place => ?_,
    answers.accounted.answers, fun one other w v found found' working working' kept kept' same =>
      answers.alone found found' working working' kept kept' same,
    fun place g name p next more τ' c idle group held unnamed call called ended => ?_⟩
  · rcases run.paced ticket with ⟨w, p, -, -, follows⟩ | ⟨-, nothing⟩
    · obtain ⟨ticks, begun, same, whole, started⟩ := Point.after_ticks follows
      exact ⟨ticks, begun, p, same, fun tick mem => ⟨whole tick mem, (whole tick mem).stores_once⟩,
        started⟩
    · exact ⟨[], [], .resting, nothing, (fun _ never => by cases never), rfl⟩
  · obtain ⟨w, found⟩ := took.worker
    obtain ⟨-, p, fits⟩ := ticketed.workers ticket w found
    obtain ⟨_, _, _, acts, -⟩ := works_took took found fits
    exact acts.unstored unstored place
  · obtain ⟨first, later, mid, split, sofar, rest, nothing, departed⟩ :=
      run_removes stores run idle group held unnamed call called ended
    refine ⟨first, later, mid, split, sofar, rest, nothing, fun last τ'' onwards => ?_⟩
    have made : Run Asked (τ.reconfiguring place g next) first mid :=
      sofar.mono fun _ _ never => never.elim
    have start : Ticketed (τ.reconfiguring place g next) := by
      have step : Step Asked τ [] (τ.reconfiguring place g next) :=
        .call _ idle (plain_agenda (.reconfigure next) g) ⟨rfl, rfl⟩
      exact ticketed.step step
    exact (departed.run (made.ticketed start) onwards).2

/-- A worker is asked to finish while it waits for the batch of its first tick. -/
def Samples.stopping : List WorkEvent × System :=
  (System.new [.empty] .absent .empty).play OneFeed.kinds
    ([.feed "a" [⟨4, .batch (.string "b")⟩], .hold (OneFeed.takesFrom "a") 5, .start 0] ++
      List.replicate 10 .proceed ++ [.turn 2, .stop 0 3, .proceed, .turn 2, .proceed])

theorem stops_are_final_in_mid_tick : 0 < [Value.empty].length ∧
    Run (Requested OneFeed.kinds) (of (System.new [.empty] .absent .empty)) Samples.stopping.1
      (of Samples.stopping.2) ∧
    Samples.stopping.1 = [.did 2 .begins, .did 2 .fetched, .did 2 .stored, .did 2 .ends] ++
      [.acknowledged 2] ∧
    WholeTicks (deedsOf 2 [.did 2 .begins, .did 2 .fetched, .did 2 .stored, .did 2 .ends]) ∧
    ∃ w, Samples.stopping.2.worker? 2 = some w ∧ w.phase = .finished := by
  have run : Run (Requested OneFeed.kinds) (of (System.new [.empty] .absent .empty)) Samples.stopping.1
      (of Samples.stopping.2) := run_play OneFeed.kinds _ fun _ _ _ requested => requested
  have log : Samples.stopping.1 = [.did 2 .begins, .did 2 .fetched, .did 2 .stored, .did 2 .ends] ++
      [.acknowledged 2] := by decide +kernel
  have asked : Run Asked (of (System.new [.empty] .absent .empty)) Samples.stopping.1
      (of Samples.stopping.2) := run.mono fun _ _ requested => requested.asked
  obtain ⟨-, acknowledged, -⟩ := stops_are_final (by decide) asked
  obtain ⟨whole, -, finished⟩ := acknowledged 2 _ [] log
  exact ⟨by decide, run, log, whole, finished⟩

end Run

end Traffic

end DocStore
