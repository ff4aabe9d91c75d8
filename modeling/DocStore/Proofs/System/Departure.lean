import DocStore.Proofs.System.Accounts
import DocStore.Proofs.System.Commitments

/-!
# What becomes of a plugin that is removed

A plugin that is taken out of its group leaves a place in the row of states that nobody holds any more. No
worker is brought up with that state again, and those that there were have finished once the call that took
the plugin out has waited for them.

Results:
  * `step_keeps`, `step_working`, `step_new`: who works after a step, who did something in it, and who is
    new;
  * `Departed.run`: once the workers of a plugin have finished and nobody holds it, they do nothing any
    more, whatever goes on.
-/

namespace DocStore

namespace System

variable {sys sys' : System} {place state ticket : Nat} {name : String} {command : Command}
  {row rest first : List Command} {post : Option Plugin} {c : Call}

/-! ## States that are given up -/

/-- Nobody holds the state, and no worker is about to be brought up with it. -/
structure Gone (sys : System) (state : Nat) (row : List Command) : Prop where
  inside : state < sys.states.length
  unheld : ∀ place name p, sys.held? place name = some p → p.state ≠ state
  unlaunched : ∀ entry slot, .launch entry state slot ∉ row

namespace Gone

variable {row' : List Command}

theorem keep (gone : Gone sys state row) (rosters : sys'.rosters = sys.rosters)
    (states : sys.states.length ≤ sys'.states.length)
    (unlaunched : ∀ entry slot, .launch entry state slot ∉ row') : Gone sys' state row' :=
  ⟨Nat.lt_of_lt_of_le gone.inside states,
    fun place name p held =>
      gone.unheld place name p ((held?_of_rosters rosters place name).symm.trans held),
    unlaunched⟩

theorem posts (gone : Gone sys state row) (posts : Posts place name post sys sys')
    (other : ∀ q, post = some q → q.state ≠ state)
    (unlaunched : ∀ entry slot, .launch entry state slot ∉ row') : Gone sys' state row' := by
  refine ⟨posts.states.symm ▸ gone.inside, fun place' name' q held => ?_, unlaunched⟩
  rw [posts.held] at held
  split at held
  · exact other q held
  · exact gone.unheld place' name' q held

end Gone

/-- A command brings up no worker with a state that is given up. -/
theorem Manages.gone (manages : Manages place sys command (.ok first) sys')
    (gone : Gone sys state (command :: rest)) : Gone sys' state (first ++ rest) := by
  have behind (entry : PluginEntry) (slot : Option Nat) : .launch entry state slot ∉ rest :=
    fun mem => gone.unlaunched entry slot (List.mem_cons_of_mem _ mem)
  have front {row : List Command} (other : ∀ entry slot, .launch entry state slot ∉ row)
      (entry : PluginEntry) (slot : Option Nat) : .launch entry state slot ∉ row ++ rest := by
    intro mem
    rcases List.mem_append.1 mem with new | old
    · exact other entry slot new
    · exact behind entry slot old
  cases manages with
  | idles inert => exact gone.keep inert.rosters inert.states behind
  | enlists => exact gone.keep rfl (Nat.le_refl _) (front (by simp))
  | delists _ inert => exact gone.keep inert.rosters inert.states (front (by simp))
  | claims change => exact gone.keep rfl (Nat.le_refl _) behind
  | @starts name p slot _ held stopped inert =>
    have other := gone.unheld place name p held
    exact gone.keep inert.rosters inert.states (front (by simp [other.symm]))
  | @adds entry slot _ inert fresh =>
    have other := Nat.ne_of_lt gone.inside
    exact gone.keep inert.rosters inert.states (front (by simp [other]))
  | @launches entry state' slot w _ posts new workers tickets =>
    refine gone.posts posts (fun q posted same => ?_) behind
    cases posted
    subst same
    exact gone.unlaunched entry slot List.mem_cons_self
  | @stops name timeout ticket deadline p _ held runs posts =>
    refine gone.posts posts (fun q posted => ?_) (front (by simp))
    cases posted
    exact gone.unheld place name p held
  | drops held stopped posts => exact gone.posts posts (fun _ never => by cases never) behind
  | dismisses held runs posts =>
    exact gone.posts posts (fun _ never => by cases never) (front (by simp))
  | @retires name p _ held posts =>
    refine gone.posts posts (fun q posted => ?_) behind
    cases posted
    exact gone.unheld place name p held
  | refreshes entry timeout =>
    refine gone.keep rfl (Nat.le_refl _) (front fun entry' slot mem => ?_)
    exact forall_refreshCommands (P := (· ≠ .launch entry' state slot)) (fun _ => nofun) nofun nofun nofun
      _ mem rfl
  | @assigns entry p _ held posts =>
    refine gone.posts posts (fun q posted => ?_) behind
    cases posted
    exact gone.unheld place entry.name p held

theorem Gone.stepCall (gone : Gone sys state c.agenda) :
    Gone (sys.stepCall c).1 state (sys.stepCall c).2.agenda := by
  have behind {sys : System} {command : Command} {rest : List Command}
      (gone : Gone sys state (command :: rest)) : Gone sys state rest :=
    gone.keep rfl (Nat.le_refl _) fun entry slot mem =>
      gone.unlaunched entry slot (List.mem_cons_of_mem _ mem)
  refine stepCall_keeps (P := fun sys row => Gone sys state row) gone
    (fun _ _ _ undisturbed gone => gone.keep undisturbed.rosters
      (Nat.le_of_eq undisturbed.states.symm) gone.unlaunched)
    (fun _ _ gone => gone.keep rfl (Nat.le_refl _) fun _ _ => List.not_mem_nil)
    (fun _ _ _ _ gone => behind gone) (fun _ _ _ gone => behind gone)
    (fun _ _ _ _ _ manages gone => manages.gone gone)
    fun _ _ inert gone => gone.keep inert.rosters inert.states gone.unlaunched

/-! ## Who is new -/

theorem workers_goOn (sys : System) (c : Call) (rest : List Command) (next : CommandResult) :
    (sys.goOn c rest next).1.workers = sys.workers := by
  unfold System.goOn
  cases next with
  | ok => rfl
  | error e => exact workers_reported sys c (.error e)

/-- A step of a call keeps the staff, or it brings up one worker. -/
theorem staff_stepCall (sys : System) (c : Call) : SameStaff sys (sys.stepCall c).1 ∨
    ∃ entry state slot rest w, c.agenda = .launch entry state slot :: rest ∧
      (sys.stepCall c).1.workers = sys.workers ++ [w] ∧ w.state = state := by
  have steps := stepsTo_stepCall 0 sys c
  revert steps
  generalize noticedBy 0 sys c = noted, (sys.stepCall c).1 = sys', (sys.stepCall c).2 = c'
  intro steps
  cases steps with
  | ends | patient | exits => exact .inl (.of_workers rfl)
  | @waits plan _ _ _ _ row advanced =>
    have same := workers_advanceErrand sys c plan
    rw [advanced] at same
    exact .inl (.of_workers same)
  | @runs plan followup rest mid after result next row advanced followed =>
    have first := workers_advanceErrand sys c plan
    have then' := workers_follow mid c.group followup result
    rw [advanced] at first
    rw [followed] at then'
    exact .inl (.of_workers (((workers_goOn after c rest next).trans then').trans first))
  | @performs command rest after next row prompt performed =>
    have goesOn := workers_goOn after { c with starting := startingAfter c command } rest next
    have manages := manages_perform sys c.group command
    rw [performed] at manages
    dsimp only at manages
    cases manages with
    | fails inert | idles inert | delists _ inert | starts _ _ inert | adds inert =>
      exact .inl (.of_workers (goesOn.trans inert.workers))
    | enlists | refreshes | claims => exact .inl (.of_workers goesOn)
    | launches posts new workers tickets =>
      exact .inr ⟨_, _, _, _, _, row, goesOn.trans workers, new.2.1⟩
    | stops held runs posts asks | dismisses held runs posts asks =>
      exact .inl ((SameStaff.of_asks asks).trans (.of_workers goesOn))
    | drops _ _ _ workers | retires _ _ workers | assigns _ _ workers =>
      exact .inl (.of_workers (goesOn.trans workers))

/-- The end of a wait is no deed of a worker. -/
theorem silent_exitEvents (sys : System) (c : Call) (ticket : Nat) (deed : Deed) :
    .did ticket deed ∉ sys.exitEvents c := by
  intro did
  unfold exitEvents at did
  split at did
  · split at did
    · simp at did
    · split at did <;> simp at did
  · cases did

end System

namespace Traffic

open DocStore.System

variable {τ τ' mid : Traffic} {log more events : List WorkEvent} {calls : System → Call → Prop}
  {ticket state : Nat} {w : Worker}

/-- A worker stays, with its plugin's state, and once it has finished it has finished for good. -/
theorem step_keeps (ticketed : Ticketed τ) (step : Step calls τ events τ')
    (found : τ.system.worker? ticket = some w) : ∃ w', τ'.system.worker? ticket = some w' ∧
      w'.state = w.state ∧ (w.phase = .finished → w'.phase = .finished) := by
  have same {sys : System} (staff : SameStaff τ.system sys) : ∃ w', sys.worker? ticket = some w' ∧
      w'.state = w.state ∧ (w.phase = .finished → w'.phase = .finished) := by
    obtain ⟨w', found', state⟩ := staff.kept found
    refine ⟨w', found', state, fun finished => ?_⟩
    exact (isFinished_iff found').1 (staff.finished ticket ((isFinished_iff found).2 finished))
  cases step with
  | other other => exact same (other_keeps ticketed other).2.1
  | @hold _ _ config stopTimeout => exact same (staff_hold config stopTimeout τ.system)
  | call => exact ⟨w, found, rfl, id⟩
  | @proceed c =>
    obtain ⟨exit, still⟩ := (staffed_stepCall τ.system c).kept ticket w found
    exact ⟨_, still, rfl, id⟩

/-- Somebody takes a turn, or nobody does anything and workers only come or are asked to finish. -/
theorem Step.turns (step : Step calls τ events τ') :
    (∃ ticket deeds sys, Took ticket τ.system deeds sys ∧ events = deeds.map (.did ticket) ∧
      τ' = τ.go sys) ∨
    ((∀ ticket deed, .did ticket deed ∉ events) ∧ Staffed τ.system τ'.system) := by
  have quiet {sys : System} (workers : sys.workers = τ.system.workers)
      (tickets : τ.system.nextTicket ≤ sys.nextTicket) :
      (∀ ticket deed, WorkEvent.did ticket deed ∉ []) ∧ Staffed τ.system sys :=
    ⟨fun _ _ => List.not_mem_nil, .of_eq workers tickets⟩
  have transacts {sys : System} (transacts : Transacts τ.system sys) :
      (∀ ticket deed, WorkEvent.did ticket deed ∉ []) ∧ Staffed τ.system sys := by
    obtain ⟨⟨_, _, _, _, _, rfl⟩, -⟩ := transacts
    exact quiet rfl (Nat.le_refl _)
  cases step with
  | other other =>
    cases other with
    | @turn ticket deeds sys took => exact .inl ⟨ticket, deeds, sys, took, rfl, rfl⟩
    | ask => exact .inr (quiet rfl (Nat.le_succ _))
    | enterRead | enterWrite | edit | register | unregister | leave | askCommit | claim =>
      exact .inr (quiet rfl (Nat.le_refl _))
    | commit ticket place => exact .inr (transacts (transacts_commit _ place _))
    | send place plan =>
      obtain ⟨⟨_, _, _, _, _, same⟩, -⟩ :=
        transacts_beginErrand τ.system.takeTicket.1 place τ.system.nextTicket plan
      refine .inr (quiet ?_ ?_)
      · show (System.beginErrand ..).1.workers = _
        rw [same]
        rfl
      · show _ ≤ (System.beginErrand ..).1.nextTicket
        rw [same]
        exact Nat.le_succ _
    | resume => exact .inr (transacts (transacts_pollErrand _ _))
    | aside unconcerned =>
      exact .inr (quiet unconcerned.workers (Nat.le_of_eq unconcerned.nextTicket.symm))
  | hold => exact .inr ⟨fun _ _ => List.not_mem_nil, staffed_hold _ _ _⟩
  | call => exact .inr (quiet rfl (Nat.le_refl _))
  | @proceed c =>
    exact .inr ⟨fun ticket deed => silent_exitEvents τ.system c ticket deed,
      (staffed_stepCall τ.system c).trans (.of_eq rfl (Nat.le_refl _))⟩

/-- Who does something has not finished. -/
theorem step_working {deed : Deed} (step : Step calls τ events τ') (did : .did ticket deed ∈ events) :
    ∃ w, τ.system.worker? ticket = some w ∧ w.phase ≠ .finished := by
  rcases step.turns with ⟨other, deeds, sys, took, rfl, -⟩ | ⟨silent, -⟩
  · obtain ⟨w, found⟩ := took.worker
    obtain ⟨deed', mem, same⟩ := List.mem_map.1 did
    cases same
    refine ⟨w, found, fun finished => ?_⟩
    rw [(took.finished found finished).1] at mem
    cases mem
  · exact absurd did (silent ticket deed)

/-- Who is new was brought up by a call, with the state that it says. -/
theorem step_new (ticketed : Ticketed τ) (step : Step calls τ events τ')
    (found : τ'.system.worker? ticket = some w) (absent : τ.system.worker? ticket = none) :
    ∃ entry slot rest, τ.system.agenda = .launch entry w.state slot :: rest := by
  have none {sys : System} (staff : SameStaff τ.system sys) (found : sys.worker? ticket = some w) :
      False := by
    obtain ⟨v, was, -⟩ := staff.before found
    cases absent.symm.trans was
  cases step with
  | other other => exact (none (other_keeps ticketed other).2.1 found).elim
  | @hold _ _ config stopTimeout => exact (none (staff_hold config stopTimeout τ.system) found).elim
  | call => cases absent.symm.trans found
  | @proceed c called =>
    rcases staff_stepCall τ.system c with staff | ⟨entry, state, slot, rest, v, row, workers, rfl⟩
    · exact (none staff found).elim
    · have found : (τ.system.stepCall c).1.worker? ticket = some w := found
      rw [worker?_append workers, absent, Option.none_or] at found
      split at found
      · cases found
        refine ⟨entry, slot, rest, ?_⟩
        unfold agenda
        rw [called]
        exact row
      · cases found

/-- A state that is given up stays so. -/
theorem gone_step (gone : Gone τ.system state τ.system.agenda) (ticketed : Ticketed τ)
    (step : Step Asked τ events τ') : Gone τ'.system state τ'.system.agenda := by
  have same {sys : System} (call : sys.call = τ.system.call) (entry : PluginEntry) (slot : Option Nat) :
      .launch entry state slot ∉ sys.agenda := by
    unfold agenda
    rw [call]
    exact gone.unlaunched entry slot
  cases step with
  | other other =>
    obtain ⟨rosters, -, states, call⟩ := other_keeps ticketed other
    exact gone.keep rosters (Nat.le_of_eq states.symm) (same call)
  | @hold _ _ config stopTimeout =>
    refine ⟨?_, fun place name p held => ?_, same (hold_keeps _ _ _).2⟩
    · show state < (τ.system.hold config stopTimeout).states.length
      rw [states_hold]
      exact Nat.lt_add_right _ gone.inside
    · have held : (τ.system.hold config stopTimeout).held? place name = some p := held
      rw [held?_hold] at held
      split at held
      · obtain ⟨i, entry, -, rfl⟩ := state_of_ofConfig config stopTimeout held
        exact Nat.ne_of_gt (Nat.lt_of_lt_of_le gone.inside (Nat.le_add_right _ _))
      · exact gone.unheld place name p held
  | call c idle may =>
    exact gone.keep rfl (Nat.le_refl _) fun entry slot mem => may _ mem
  | @proceed c called =>
    have before : Gone τ.system state c.agenda := by
      unfold agenda at gone
      rwa [called] at gone
    have after := before.stepCall
    exact after.keep rfl (Nat.le_refl _) after.unlaunched

/-! ## Plugins that are gone -/

/-- Nobody holds a plugin with the state any more, and its workers have finished, but for those that were
given up. -/
structure Departed (log : List WorkEvent) (state : Nat) (τ : Traffic) : Prop where
  gone : Gone τ.system state τ.system.agenda
  finished : ∀ ticket w, τ.system.worker? ticket = some w → w.state = state → .gaveUp ticket ∉ log →
    w.phase = .finished

/-- When a plugin is gone, the call need only not be waiting for its worker. -/
theorem Answers.departed (h : Answers log τ) (gone : Gone τ.system state τ.system.agenda)
    (unwaited : ∀ ticket, ¬ Heads ticket τ.system.agenda) : Departed log state τ := by
  refine ⟨gone, fun ticket w found same kept => ?_⟩
  by_contra working
  rcases h.accounted.answers ticket w found working kept with ⟨place, name, p, held, of, -⟩ | ⟨waits, -⟩
  · exact gone.unheld place name p held (of.trans same)
  · exact unwaited ticket waits

/-- A worker with a state that is given up was there before. -/
theorem known_before (gone : Gone τ.system state τ.system.agenda) (ticketed : Ticketed τ)
    (step : Step calls τ events τ') (found : τ'.system.worker? ticket = some w) (same : w.state = state) :
    ∃ v, τ.system.worker? ticket = some v ∧ v.state = state ∧
      (v.phase = .finished → w.phase = .finished) := by
  cases was : τ.system.worker? ticket with
  | none =>
    obtain ⟨entry, slot, rest, row⟩ := step_new ticketed step found was
    rw [same] at row
    exact absurd (row ▸ List.mem_cons_self) (gone.unlaunched entry slot)
  | some v =>
    obtain ⟨w', found', state', finished⟩ := step_keeps ticketed step was
    cases found.symm.trans found'
    exact ⟨v, rfl, state'.symm.trans same, finished⟩

theorem Departed.step (departed : Departed log state τ) (ticketed : Ticketed τ)
    (step : Step Asked τ events τ') : Departed log state τ' := by
  refine ⟨gone_step departed.gone ticketed step, fun ticket w found same kept => ?_⟩
  obtain ⟨v, was, of, finished⟩ := known_before departed.gone ticketed step found same
  exact finished (departed.finished ticket v was of kept)

/-- Whatever goes on from then on, the workers of the plugin do nothing. -/
theorem Departed.run (departed : Departed log state mid) (ticketed : Ticketed mid)
    (run : Run Asked mid more τ) : Departed log state τ ∧
      ∀ ticket w, τ.system.worker? ticket = some w → w.state = state → .gaveUp ticket ∉ log →
        ∀ deed, .did ticket deed ∉ more := by
  induction run with
  | none => exact ⟨departed, fun _ _ _ _ _ _ never => by cases never⟩
  | @step more events τ τ' before step ih =>
    obtain ⟨still, silent⟩ := ih
    have ticketed := before.ticketed ticketed
    refine ⟨still.step ticketed step, fun ticket w found same kept deed did => ?_⟩
    -- Who did something was there before, with the same state, and so had finished.
    obtain ⟨v, was, of, -⟩ := known_before still.gone ticketed step found same
    rcases List.mem_append.1 did with earlier | now
    · exact silent ticket v was of kept deed earlier
    · obtain ⟨v', was', working⟩ := step_working step now
      cases was.symm.trans was'
      exact working (still.finished ticket v was of kept)

end Traffic

end DocStore
