import DocStore.Proofs.System.Traffic

/-!
# Every worker is accounted for

Each plugin has its place in the row of states, and so has its worker. A worker that has not finished is
that of the plugin that is held with its state, or the call under way waits for it, or a call gave up
waiting for it. Commands bring that about one after the other: a worker is brought up only for a plugin
that is held without one, or that nobody holds yet.

Results:
  * `Accounted.manages`: a command leaves every worker accounted for;
  * `Answers.step`, `Run.answers`: so does whatever anybody does;
  * `Answers.alone`: of the workers of one plugin that were not given up, one at most has not finished.
-/

namespace DocStore

/-- The first command waits for this worker. -/
def Heads (ticket : Nat) (agenda : List Command) : Prop :=
  ∃ deadline rest, agenda = .awaitExit ticket deadline :: rest

namespace System

variable {sys sys' mid : System} {place state ticket : Nat} {name : String} {p : Plugin} {w : Worker}
  {row rest : List Command} {command : Command} {result : CommandResult} {post : Option Plugin}

/-! ## The same staff -/

theorem isFinished_iff (found : sys.worker? ticket = some w) :
    sys.isFinished ticket = true ↔ w.phase = .finished := by
  unfold isFinished
  rw [found]
  exact decide_eq_true_iff

/-- The same workers, of the same plugins. Who has finished is still so. -/
structure SameStaff (sys sys' : System) : Prop where
  states : ∀ ticket, (sys'.worker? ticket).map (·.state) = (sys.worker? ticket).map (·.state)
  finished : ∀ ticket, sys.isFinished ticket = true → sys'.isFinished ticket = true

namespace SameStaff

theorem of_workers (same : sys'.workers = sys.workers) : SameStaff sys sys' := by
  refine ⟨fun ticket => by rw [worker?_of_workers same], fun ticket finished => ?_⟩
  unfold isFinished at finished ⊢
  rwa [worker?_of_workers same]

theorem of_asks (asks : AsksExit ticket sys sys') : SameStaff sys sys' := by
  refine ⟨fun other => ?_, fun other finished => ?_⟩
  · rw [asks other]
    split
    · next same =>
      subst same
      rw [Option.map_map]
      rfl
    · rfl
  · unfold isFinished at finished ⊢
    rw [asks other]
    by_cases same : other = ticket
    · subst same
      rw [if_pos rfl]
      cases found : sys.worker? other with
      | none => rfl
      | some w =>
        rw [found] at finished
        exact finished
    · rw [if_neg same]
      exact finished

theorem trans {a b c : System} (first : SameStaff a b) (next : SameStaff b c) : SameStaff a c :=
  ⟨fun ticket => (next.states ticket).trans (first.states ticket),
    fun ticket finished => next.finished ticket (first.finished ticket finished)⟩

theorem kept (staff : SameStaff sys sys') (found : sys.worker? ticket = some w) :
    ∃ w', sys'.worker? ticket = some w' ∧ w'.state = w.state := by
  have states := staff.states ticket
  rw [found, Option.map_some] at states
  exact Option.map_eq_some_iff.1 states

/-- Whoever has not finished had not finished before. -/
theorem before (staff : SameStaff sys sys') (found : sys'.worker? ticket = some w) :
    ∃ v, sys.worker? ticket = some v ∧ v.state = w.state ∧
      (w.phase ≠ .finished → v.phase ≠ .finished) := by
  have states := staff.states ticket
  rw [found, Option.map_some] at states
  obtain ⟨v, was, same⟩ := Option.map_eq_some_iff.1 states.symm
  refine ⟨v, was, same, fun working finished => working ?_⟩
  exact (isFinished_iff found).1 (staff.finished ticket ((isFinished_iff was).2 finished))

end SameStaff

/-! ## The roster -/

/-- Every plugin is held under its own name and has a place of its own in the row of states, and the
worker that it names is there and has the same place. -/
structure Roster (sys : System) : Prop where
  named : ∀ place name p, sys.held? place name = some p → p.entry.name = name
  state : ∀ place name p, sys.held? place name = some p → p.state < sys.states.length
  distinct : ∀ place name p place' name' p', sys.held? place name = some p →
    sys.held? place' name' = some p' → p'.state = p.state → place' = place ∧ name' = name
  runs : ∀ place name p ticket, sys.held? place name = some p → p.worker = some ticket →
    ∃ w, sys.worker? ticket = some w ∧ w.state = p.state
  works : ∀ ticket w, sys.worker? ticket = some w → w.state < sys.states.length

namespace Roster

theorem keep (roster : Roster sys) (rosters : sys'.rosters = sys.rosters) (staff : SameStaff sys sys')
    (states : sys.states.length ≤ sys'.states.length) : Roster sys' := by
  have held (place : Nat) (name : String) := held?_of_rosters rosters place name
  refine ⟨fun place name p found => ?_, fun place name p found => ?_,
    fun place name p place' name' p' found found' => ?_, fun place name p ticket found runs => ?_,
    fun ticket w found => ?_⟩
  · exact roster.named place name p ((held place name).symm.trans found)
  · exact Nat.lt_of_lt_of_le (roster.state place name p ((held place name).symm.trans found)) states
  · exact roster.distinct place name p place' name' p' ((held place name).symm.trans found)
      ((held place' name').symm.trans found')
  · obtain ⟨w, works, same⟩ := roster.runs place name p ticket ((held place name).symm.trans found) runs
    obtain ⟨w', works', same'⟩ := staff.kept works
    exact ⟨w', works', same'.trans same⟩
  · obtain ⟨v, was, same, -⟩ := staff.before found
    rw [← same]
    exact Nat.lt_of_lt_of_le (roster.works ticket v was) states

/-- What is posted under a name has a state that nobody else has. -/
theorem posts (roster : Roster sys) (posts : Posts place name post sys sys')
    (kept : ∀ ticket w, sys.worker? ticket = some w →
      ∃ w', sys'.worker? ticket = some w' ∧ w'.state = w.state)
    (works : ∀ ticket w, sys'.worker? ticket = some w → w.state < sys.states.length)
    (fits : ∀ p, post = some p → p.entry.name = name ∧ p.state < sys.states.length ∧
      (∀ place' name' q, sys.held? place' name' = some q → q.state = p.state →
        place' = place ∧ name' = name) ∧
      ∀ ticket, p.worker = some ticket → ∃ w, sys'.worker? ticket = some w ∧ w.state = p.state) :
    Roster sys' := by
  -- What is held afterwards is what was posted, or it was held before.
  have either {place' : Nat} {name' : String} {q : Plugin} (found : sys'.held? place' name' = some q) :
      (place' = place ∧ name' = name ∧ post = some q) ∨
        (¬ (place' = place ∧ name' = name) ∧ sys.held? place' name' = some q) := by
    rw [posts.held] at found
    split at found
    · next here => exact .inl ⟨here.1, here.2, found⟩
    · next there => exact .inr ⟨there, found⟩
  refine ⟨fun place' name' q found => ?_, fun place' name' q found => ?_,
    fun a b q a' b' q' found found' same => ?_, fun place' name' q ticket found runs => ?_,
    fun ticket w found => posts.states.symm ▸ works ticket w found⟩
  · rcases either found with ⟨rfl, rfl, posted⟩ | ⟨-, before⟩
    · exact (fits q posted).1
    · exact roster.named place' name' q before
  · rw [posts.states]
    rcases either found with ⟨rfl, rfl, posted⟩ | ⟨-, before⟩
    · exact (fits q posted).2.1
    · exact roster.state place' name' q before
  · rcases either found with ⟨rfl, rfl, posted⟩ | ⟨there, before⟩
    · rcases either found' with ⟨rfl, rfl, -⟩ | ⟨-, before'⟩
      · exact ⟨rfl, rfl⟩
      · exact (fits q posted).2.2.1 a' b' q' before' same
    · rcases either found' with ⟨rfl, rfl, posted⟩ | ⟨-, before'⟩
      · exact absurd ((fits q' posted).2.2.1 a b q before same.symm) there
      · exact roster.distinct a b q a' b' q' before before' same
  · rcases either found with ⟨rfl, rfl, posted⟩ | ⟨-, before⟩
    · exact (fits q posted).2.2.2 ticket runs
    · obtain ⟨w, works, same⟩ := roster.runs place' name' q ticket before runs
      obtain ⟨w', works', same'⟩ := kept ticket w works
      exact ⟨w', works', same'.trans same⟩

end Roster

/-! ## What a call may be about to do -/

/-- A worker may be brought up with this state: the plugin is held and does not run, or it is not held yet
and nobody has the state. -/
def Vacant (sys : System) (place : Nat) (name : String) (state : Nat) : Prop :=
  (∃ p, sys.held? place name = some p ∧ p.state = state ∧ p.worker = none) ∨
    (sys.held? place name = none ∧ state < sys.states.length ∧
      (∀ place' name' p, sys.held? place' name' = some p → p.state ≠ state) ∧
      ∀ ticket w, sys.worker? ticket = some w → w.state ≠ state)

/-- The agenda of a call: commands that can be asked for, and in front of them what these have come to. -/
inductive Due (sys : System) (place : Nat) : List Command → Prop
  | plain {agenda : List Command} (plain : ∀ c ∈ agenda, c.Plain) : Due sys place agenda
  | add {entry : PluginEntry} {rest : List Command} (absent : sys.held? place entry.name = none)
      (plain : ∀ c ∈ rest, c.Plain) : Due sys place (.add entry :: rest)
  | ensure {plan : Plan} {followup : Followup} {entry : PluginEntry} {state : Nat} {slot : Option Nat}
      {rest : List Command} (vacant : sys.Vacant place entry.name state) (plain : ∀ c ∈ rest, c.Plain) :
      Due sys place (.run plan followup :: .launch entry state slot :: rest)
  | launch {entry : PluginEntry} {state : Nat} {slot : Option Nat} {rest : List Command}
      (vacant : sys.Vacant place entry.name state) (plain : ∀ c ∈ rest, c.Plain) :
      Due sys place (.launch entry state slot :: rest)
  | wait {ticket deadline : Nat} {rest : List Command} (present : (sys.worker? ticket).isSome = true)
      (plain : ∀ c ∈ rest, c.Plain) : Due sys place (.awaitExit ticket deadline :: rest)

theorem Vacant.keep (vacant : sys.Vacant place name state) (rosters : sys'.rosters = sys.rosters)
    (staff : SameStaff sys sys') (states : sys.states.length ≤ sys'.states.length) :
    sys'.Vacant place name state := by
  unfold Vacant
  rw [held?_of_rosters rosters]
  rcases vacant with held | ⟨absent, inside, unheld, unworked⟩
  · exact .inl held
  · refine .inr ⟨absent, Nat.lt_of_lt_of_le inside states, fun place' name' p held => ?_,
      fun ticket w found => ?_⟩
    · exact unheld place' name' p ((held?_of_rosters rosters place' name').symm.trans held)
    · obtain ⟨v, was, same, -⟩ := staff.before found
      rw [← same]
      exact unworked ticket v was

/-- Nobody else has the state. -/
theorem Vacant.mine (vacant : sys.Vacant place name state) (roster : Roster sys) {place' : Nat}
    {name' : String} {q : Plugin} (held : sys.held? place' name' = some q) (same : q.state = state) :
    place' = place ∧ name' = name := by
  rcases vacant with ⟨p, here, mine, -⟩ | ⟨-, -, unheld, -⟩
  · exact roster.distinct place name p place' name' q here held (same.trans mine.symm)
  · exact absurd same (unheld place' name' q held)

/-- What is held there does not run. -/
theorem Vacant.idle (vacant : sys.Vacant place name state) {q : Plugin}
    (held : sys.held? place name = some q) : q.worker = none := by
  rcases vacant with ⟨p, here, -, stopped⟩ | ⟨absent, -⟩
  · cases held.symm.trans here
    exact stopped
  · cases held.symm.trans absent

namespace Due

theorem keep (due : sys.Due place row) (rosters : sys'.rosters = sys.rosters)
    (staff : SameStaff sys sys') (states : sys.states.length ≤ sys'.states.length) :
    sys'.Due place row := by
  cases due with
  | plain plain => exact .plain plain
  | add absent plain => exact .add ((held?_of_rosters rosters _ _).trans absent) plain
  | ensure vacant plain => exact .ensure (vacant.keep rosters staff states) plain
  | launch vacant plain => exact .launch (vacant.keep rosters staff states) plain
  | wait present plain =>
    obtain ⟨w, found⟩ := Option.isSome_iff_exists.1 present
    obtain ⟨w', found', -⟩ := staff.kept found
    exact .wait (Option.isSome_iff_exists.2 ⟨w', found'⟩) plain

/-- Behind a command that is carried out at once there are only those that can be asked for. -/
theorem behind (due : sys.Due place (command :: rest)) (prompt : command.Prompt) :
    ∀ c ∈ rest, c.Plain := by
  cases due with
  | plain plain => exact fun c mem => plain c (List.mem_cons_of_mem _ mem)
  | add _ plain | launch _ plain => exact plain
  | ensure | wait => exact prompt.elim

theorem absent {entry : PluginEntry} (due : sys.Due place (.add entry :: rest)) :
    sys.held? place entry.name = none := by
  cases due with
  | plain plain => exact (plain _ List.mem_cons_self).elim
  | add absent => exact absent

theorem vacant {entry : PluginEntry} {slot : Option Nat}
    (due : sys.Due place (.launch entry state slot :: rest)) : sys.Vacant place entry.name state := by
  cases due with
  | plain plain => exact (plain _ List.mem_cons_self).elim
  | launch vacant => exact vacant

/-- What is behind an errand that is over. -/
theorem of_run {plan : Plan} {followup : Followup} (due : sys.Due place (.run plan followup :: rest)) :
    sys.Due place rest := by
  cases due with
  | plain plain => exact .plain fun c mem => plain c (List.mem_cons_of_mem _ mem)
  | ensure vacant plain => exact .launch vacant plain

/-- What is behind a wait that is over. -/
theorem of_wait {deadline : Nat} (due : sys.Due place (.awaitExit ticket deadline :: rest)) :
    sys.Due place rest := by
  cases due with
  | plain plain => exact (plain _ List.mem_cons_self).elim
  | wait _ plain => exact .plain plain

theorem present {deadline : Nat} (due : sys.Due place (.awaitExit ticket deadline :: rest)) :
    (sys.worker? ticket).isSome = true := by
  cases due with
  | plain plain => exact (plain _ List.mem_cons_self).elim
  | wait present => exact present

end Due

/-- What a command comes to stands in front of the rest. -/
theorem Manages.due {first : List Command} (manages : Manages place sys command (.ok first) sys')
    (roster : Roster sys) (due : sys.Due place (command :: rest)) (prompt : command.Prompt) :
    sys'.Due place (first ++ rest) := by
  have plain := due.behind prompt
  have front {c : Command} (here : c.Plain) : ∀ d ∈ c :: rest, d.Plain :=
    List.forall_mem_cons.2 ⟨here, plain⟩
  cases manages with
  | idles | claims | launches | drops | retires | assigns => exact .plain plain
  | enlists | delists => exact .plain (front trivial)
  | @starts name p slot _ held stopped inert =>
    have named := roster.named place name p held
    refine .ensure (.inl ⟨p, ?_, rfl, stopped⟩) plain
    rw [named, held?_of_rosters inert.rosters, held]
  | @adds entry slot _ inert fresh =>
    have unheld (place' : Nat) (name' : String) (p : Plugin)
        (held : sys'.held? place' name' = some p) : p.state ≠ sys.states.length :=
      Nat.ne_of_lt (roster.state place' name' p
        ((held?_of_rosters inert.rosters place' name').symm.trans held))
    have unworked (ticket : Nat) (w : Worker) (found : sys'.worker? ticket = some w) :
        w.state ≠ sys.states.length :=
      Nat.ne_of_lt (roster.works ticket w
        ((worker?_of_workers inert.workers ticket).symm.trans found))
    refine .ensure (.inr ⟨?_, fresh, unheld, unworked⟩) (front trivial)
    exact (held?_of_rosters inert.rosters _ _).trans due.absent
  | @stops name timeout ticket deadline p _ held runs posts asks tickets =>
    obtain ⟨w, found, -⟩ := roster.runs place name p ticket held runs
    obtain ⟨w', found', -⟩ := (SameStaff.of_asks asks).kept found
    exact .wait (Option.isSome_iff_exists.2 ⟨w', found'⟩) (front trivial)
  | @dismisses name timeout ticket deadline p _ held runs posts asks tickets =>
    obtain ⟨w, found, -⟩ := roster.runs place name p ticket held runs
    obtain ⟨w', found', -⟩ := (SameStaff.of_asks asks).kept found
    exact .wait (Option.isSome_iff_exists.2 ⟨w', found'⟩) plain
  | refreshes entry timeout =>
    cases held : sys.held? place entry.name with
    | none => exact .add held plain
    | some p =>
      have row : ∀ c ∈ refreshCommands (some p) entry timeout, c.Plain :=
        forall_refreshCommands (fun never => by cases never) trivial trivial trivial
      exact .plain (List.forall_mem_append.2 ⟨row, plain⟩)

/-! ## Workers and their plugins -/

/-- A plugin with this state is held and names the worker. -/
def Employed (sys : System) (ticket state : Nat) : Prop :=
  ∃ place name p, sys.held? place name = some p ∧ p.state = state ∧ p.worker = some ticket

/-- No plugin that is held with this state runs. -/
def Idle (sys : System) (state : Nat) : Prop :=
  ∀ place name p, sys.held? place name = some p → p.state = state → p.worker = none

theorem Employed.keep (employed : sys.Employed ticket state) (rosters : sys'.rosters = sys.rosters) :
    sys'.Employed ticket state := by
  obtain ⟨place, name, p, held, same, runs⟩ := employed
  exact ⟨place, name, p, (held?_of_rosters rosters place name).trans held, same, runs⟩

theorem Idle.keep (idle : sys.Idle state) (rosters : sys'.rosters = sys.rosters) : sys'.Idle state :=
  fun place name p held =>
    idle place name p ((held?_of_rosters rosters place name).symm.trans held)

/-- The plugin is still held, unless something was posted in its stead. -/
theorem Employed.posts (employed : sys.Employed ticket state)
    (posts : Posts place name post sys sys') : sys'.Employed ticket state ∨
      ∃ p, sys.held? place name = some p ∧ p.state = state ∧ p.worker = some ticket := by
  obtain ⟨place', name', p, held, same, runs⟩ := employed
  by_cases here : place' = place ∧ name' = name
  · obtain ⟨rfl, rfl⟩ := here
    exact .inr ⟨p, held, same, runs⟩
  · exact .inl ⟨place', name', p, by rw [posts.held, if_neg here, held], same, runs⟩

/-- The worker of a plugin is on its own when the plugin is held without it. -/
theorem idle_of_posts (roster : Roster sys) (held : sys.held? place name = some p)
    (posts : Posts place name post sys sys') (stopped : ∀ q, post = some q → q.worker = none) :
    sys'.Idle p.state := by
  intro place' name' q found same
  rw [posts.held] at found
  split at found
  · exact stopped q found
  · next there => exact absurd (roster.distinct place name p place' name' q held found same) there

/-- Every worker is accounted for, and the agenda of the call under way is such that it stays so. -/
structure Accounted (log : List WorkEvent) (sys : System) (place : Nat) (agenda : List Command) :
    Prop extends Roster sys where
  due : sys.Due place agenda
  answers : ∀ ticket w, sys.worker? ticket = some w → w.phase ≠ .finished → .gaveUp ticket ∉ log →
    sys.Employed ticket w.state ∨ Heads ticket agenda ∧ sys.Idle w.state

/-- The commands that the call under way has still to carry out. -/
def agenda (sys : System) : List Command := (sys.call.map (·.agenda)).getD []

/-- The group that the call under way is of. -/
def callee (sys : System) : Nat := (sys.call.map (·.group)).getD 0

namespace Accounted

variable {log log' : List WorkEvent} {place' : Nat} {row' : List Command}

/-- Nothing becomes of the plugins, and nobody is brought up. -/
theorem keep (h : Accounted log sys place row) (rosters : sys'.rosters = sys.rosters)
    (staff : SameStaff sys sys') (states : sys.states.length ≤ sys'.states.length)
    (due : sys'.Due place' row') (more : log ⊆ log')
    (heads : ∀ ticket, Heads ticket row → Heads ticket row' ∨
      sys.isFinished ticket = true ∨ .gaveUp ticket ∈ log') : Accounted log' sys' place' row' := by
  refine ⟨h.toRoster.keep rosters staff states, due, fun ticket w found working kept => ?_⟩
  obtain ⟨v, was, same, worked⟩ := staff.before found
  rw [← same]
  rcases h.answers ticket v was (worked working) fun gave => kept (more gave) with
    employed | ⟨waits, idle⟩
  · exact .inl (employed.keep rosters)
  · rcases heads ticket waits with still | finished | gave
    · exact .inr ⟨still, idle.keep rosters⟩
    · exact absurd ((isFinished_iff was).1 finished) (worked working)
    · exact absurd gave kept

/-- Nobody waits for a worker while something else is the next command. -/
theorem employed (h : Accounted log sys place (command :: rest)) (prompt : command.Prompt)
    (found : sys.worker? ticket = some w) (working : w.phase ≠ .finished)
    (kept : .gaveUp ticket ∉ log) : sys.Employed ticket w.state := by
  rcases h.answers ticket w found working kept with employed | ⟨⟨_, _, row⟩, -⟩
  · exact employed
  · cases row
    exact prompt.elim

/-- Something is posted under the name of a plugin, which leaves its worker accounted for. -/
theorem posts (h : Accounted log sys place (command :: rest)) (prompt : command.Prompt)
    (held : sys.held? place name = some p) (posts : Posts place name post sys sys')
    (staff : SameStaff sys sys') (due : sys'.Due place row')
    (fits : ∀ q, post = some q → q.entry.name = name ∧ q.state = p.state ∧
      (q.worker = p.worker ∨ q.worker = none))
    (left : ∀ ticket, p.worker = some ticket → sys'.Employed ticket p.state ∨
      Heads ticket row' ∧ sys'.Idle p.state) : Accounted log sys' place row' := by
  refine ⟨h.toRoster.posts posts (fun _ _ found => staff.kept found) (fun ticket w found => ?_)
    (fun q posted => ?_), due, fun ticket w found working kept => ?_⟩
  · obtain ⟨v, was, same, -⟩ := staff.before found
    rw [← same]
    exact h.works ticket v was
  · obtain ⟨named, state, worker⟩ := fits q posted
    refine ⟨named, state ▸ h.state place name p held, fun place' name' q' held' same => ?_,
      fun ticket runs => ?_⟩
    · exact h.distinct place name p place' name' q' held held' (same.trans state)
    · rcases worker with same | stopped
      · obtain ⟨v, works, same'⟩ := h.runs place name p ticket held (same.symm.trans runs)
        obtain ⟨v', works', same''⟩ := staff.kept works
        exact ⟨v', works', same''.trans (same'.trans state.symm)⟩
      · cases stopped.symm.trans runs
  · obtain ⟨v, was, same, worked⟩ := staff.before found
    rw [← same]
    rcases (h.employed prompt was (worked working) kept).posts posts with still | ⟨q, here, of, runs⟩
    · exact .inl still
    · cases held.symm.trans here
      rw [← of]
      exact left ticket runs

/-- A worker is brought up for a plugin that has none. -/
theorem launches {entry : PluginEntry} {slot : Option Nat}
    (h : Accounted log sys place (.launch entry state slot :: rest))
    (free : sys.worker? sys.nextTicket = none)
    (posts : Posts place entry.name (some ⟨entry, state, slot, some sys.nextTicket⟩) sys sys')
    (new : w.ticket = sys.nextTicket ∧ w.state = state ∧ w.phase = .due)
    (workers : sys'.workers = sys.workers ++ [w]) (due : sys'.Due place rest) :
    Accounted log sys' place rest := by
  have vacant := h.due.vacant
  have inside : state < sys.states.length := by
    rcases vacant with ⟨p, held, rfl, -⟩ | ⟨-, inside, -⟩
    · exact h.state place entry.name p held
    · exact inside
  have self : sys'.worker? sys.nextTicket = some w := by
    rw [worker?_append workers, free, if_pos new.1]
    rfl
  have either {ticket : Nat} {v : Worker} (found : sys'.worker? ticket = some v) :
      sys.worker? ticket = some v ∨ (ticket = sys.nextTicket ∧ v = w) := by
    rw [worker?_append workers] at found
    rcases Option.or_eq_some_iff.1 found with before | ⟨-, now⟩
    · exact .inl before
    · split at now
      · next same =>
        cases now
        exact .inr ⟨same.symm.trans new.1, rfl⟩
      · cases now
  refine ⟨h.toRoster.posts posts (fun ticket v found => ⟨v, ?_, rfl⟩) (fun ticket v found => ?_)
    (fun p posted => ?_), due, fun ticket v found working kept => ?_⟩
  · rw [worker?_append workers, found]
    rfl
  · rcases either found with before | ⟨-, rfl⟩
    · exact h.works ticket v before
    · rw [new.2.1]
      exact inside
  · cases posted
    refine ⟨rfl, inside, fun place' name' q held same => vacant.mine h.toRoster held same,
      fun ticket runs => ?_⟩
    cases runs
    exact ⟨w, self, new.2.1⟩
  · rcases either found with before | ⟨rfl, rfl⟩
    · rcases (h.employed trivial before working kept).posts posts with still | ⟨q, here, -, runs⟩
      · exact .inl still
      · cases (vacant.idle here).symm.trans runs
    · exact .inl ⟨place, entry.name, _, posts.self, new.2.1.symm, rfl⟩

/-- A command is carried out. -/
theorem manages (h : Accounted log sys place (command :: rest)) (prompt : command.Prompt)
    (free : sys.worker? sys.nextTicket = none) {first : List Command}
    (manages : Manages place sys command (.ok first) sys') :
    Accounted log sys' place (first ++ rest) := by
  have due := manages.due h.toRoster h.due prompt
  have unwaited (ticket : Nat) (row' : List Command) (waits : Heads ticket (command :: rest)) :
      Heads ticket row' ∨ sys.isFinished ticket = true ∨ .gaveUp ticket ∈ log := by
    obtain ⟨_, _, same⟩ := waits
    cases same
    exact prompt.elim
  have inertly (inert : Inert sys sys') : Accounted log sys' place (first ++ rest) :=
    h.keep inert.rosters (.of_workers inert.workers) inert.states due (List.Subset.refl _)
      fun ticket waits => unwaited ticket _ waits
  cases manages with
  | idles inert | delists _ inert | starts _ _ inert | adds inert => exact inertly inert
  | enlists | refreshes => exact inertly (.refl sys)
  | claims change =>
    exact h.keep rfl (.of_workers rfl) (Nat.le_refl _) due (List.Subset.refl _)
      fun ticket waits => unwaited ticket _ waits
  | launches posts new workers tickets => exact h.launches free posts new workers due
  | @stops name timeout ticket deadline p _ held runs posts asks tickets =>
    refine h.posts prompt held posts (.of_asks asks) due (fun q posted => ?_) fun ticket' runs' => ?_
    · cases posted
      exact ⟨h.named place name p held, rfl, .inr rfl⟩
    · cases runs.symm.trans runs'
      refine .inr ⟨⟨deadline, _, rfl⟩, idle_of_posts h.toRoster held posts fun q posted => ?_⟩
      cases posted
      rfl
  | @drops name timeout p _ held stopped posts workers tickets =>
    refine h.posts prompt held posts (.of_workers workers) due (fun q never => by cases never)
      fun ticket' runs' => ?_
    cases stopped.symm.trans runs'
  | @dismisses name timeout ticket deadline p _ held runs posts asks tickets =>
    refine h.posts prompt held posts (.of_asks asks) due (fun q never => by cases never)
      fun ticket' runs' => ?_
    cases runs.symm.trans runs'
    exact .inr ⟨⟨deadline, _, rfl⟩, idle_of_posts h.toRoster held posts fun q never => by cases never⟩
  | @retires name p _ held posts workers tickets =>
    refine h.posts prompt held posts (.of_workers workers) due (fun q posted => ?_)
      fun ticket' runs' => .inl ⟨place, name, _, posts.self, rfl, runs'⟩
    cases posted
    exact ⟨h.named place name p held, rfl, .inl rfl⟩
  | @assigns entry p _ held posts workers tickets =>
    refine h.posts prompt held posts (.of_workers workers) due (fun q posted => ?_)
      fun ticket' runs' => .inl ⟨place, entry.name, _, posts.self, rfl, runs'⟩
    cases posted
    exact ⟨rfl, rfl, .inl rfl⟩

end Accounted

/-! ## What others do -/

/-- Nothing becomes of plugins and workers. -/
structure Undisturbed (sys sys' : System) : Prop where
  rosters : sys'.rosters = sys.rosters
  workers : sys'.workers = sys.workers
  states : sys'.states.length = sys.states.length

theorem Undisturbed.trans {a b c : System} (first : Undisturbed a b) (next : Undisturbed b c) :
    Undisturbed a c :=
  ⟨next.rosters.trans first.rosters, next.workers.trans first.workers,
    next.states.trans first.states⟩

theorem Transacts.undisturbed (transacts : Transacts sys sys') : Undisturbed sys sys' := by
  obtain ⟨⟨_, _, _, _, _, rfl⟩, rosters⟩ := transacts
  exact ⟨rosters, rfl, rfl⟩

theorem undisturbed_updateGroup {change : Group → Group} (kept : ∀ g, (change g).plugins = g.plugins)
    (sys : System) (group : Nat) : Undisturbed sys (sys.updateGroup group change) :=
  ⟨rosters_updateGroup kept sys group, rfl, rfl⟩

theorem undisturbed_advanceErrand (sys : System) (c : Call) (plan : Plan) :
    Undisturbed sys (sys.advanceErrand c plan).1 := by
  unfold advanceErrand
  split
  · exact (transacts_pollErrand sys _).undisturbed
  · have begun := (transacts_beginErrand sys.takeTicket.1 pluginStore sys.takeTicket.2 plan).undisturbed
    exact ⟨begun.rosters, begun.workers, begun.states⟩

theorem undisturbed_follow (sys : System) (group : Nat) (followup : Followup)
    (result : Except Refusal Outcome) : Undisturbed sys (sys.follow group followup result).1 := by
  unfold follow
  split
  · exact undisturbed_updateGroup (fun g => plugins_check g _) sys group
  · exact undisturbed_updateGroup (fun g => plugins_check g _) sys group
  · next handle =>
    have kept (g : Group) : { g with trigger := some handle }.plugins = g.plugins := rfl
    exact undisturbed_updateGroup kept sys group
  all_goals exact ⟨rfl, rfl, rfl⟩

/-- An errand that is over comes to no further commands. -/
theorem follow_nil {group : Nat} {followup : Followup} {result : Except Refusal Outcome}
    {first : List Command} (followed : (sys.follow group followup result).2 = .ok first) :
    first = [] := by
  unfold follow at followed
  split at followed <;> cases followed <;> rfl

theorem undisturbed_reported (sys : System) (c : Call) (result : Except PluginError Unit) :
    Undisturbed sys (sys.reported c result) := by
  unfold reported
  split
  · next status _ =>
    have kept (g : Group) : { g with status }.plugins = g.plugins := rfl
    exact undisturbed_updateGroup kept sys c.group
  · exact ⟨rfl, rfl, rfl⟩

theorem staff_abandon (sys : System) (g : Group) : SameStaff sys (Session.abandon sys g) := by
  unfold Session.abandon
  generalize g.plugins.filterMap (·.2.worker) = tickets
  induction tickets generalizing sys with
  | nil => exact .of_workers rfl
  | cons ticket rest ih => exact (SameStaff.of_asks (worker?_requestExit sys ticket)).trans (ih _)

section Hold

variable (config : PluginConfig) (stopTimeout : Nat)

theorem groups_hold (sys : System) : (sys.hold config stopTimeout).groups =
    sys.groups ++ [Group.ofConfig config sys.states.length stopTimeout] := rfl

theorem states_hold (sys : System) :
    (sys.hold config stopTimeout).states.length = sys.states.length + config.length := by
  show (sys.states ++ List.map _ config).length = _
  rw [List.length_append, List.length_map]

theorem staff_hold (sys : System) : SameStaff sys (sys.hold config stopTimeout) := by
  unfold hold Session.holdPlugins
  dsimp only
  split
  · exact (staff_abandon sys _).trans (.of_workers rfl)
  · exact .of_workers rfl

theorem held?_hold (sys : System) (place : Nat) (name : String) :
    (sys.hold config stopTimeout).held? place name = if place = sys.groups.length then
      (Group.ofConfig config sys.states.length stopTimeout).plugins.find? name
    else sys.held? place name := by
  unfold held? rosters
  rw [groups_hold, List.getElem?_map, List.getElem?_map, List.getElem?_append]
  split
  · next inside => rw [if_neg (Nat.ne_of_lt inside)]
  · next outside =>
    split
    · next here =>
      subst here
      rw [Nat.sub_self]
      rfl
    · next there =>
      have past : sys.groups[place]? = none := List.getElem?_eq_none (Nat.le_of_not_lt outside)
      rw [past, List.getElem?_eq_none (by simp; omega)]

theorem held_hold (held : sys.held? place name = some p) :
    (sys.hold config stopTimeout).held? place name = some p := by
  obtain ⟨g, found, -⟩ := group_of_held held
  have inside : place < sys.groups.length := (List.getElem?_eq_some_iff.1 found).1
  rw [held?_hold, if_neg (Nat.ne_of_lt inside), held]

theorem state_of_ofConfig {first : Nat}
    (held : (Group.ofConfig config first stopTimeout).plugins.find? name = some p) :
    ∃ i entry, config[i]? = some (name, entry) ∧ p = ⟨entry, first + i, none, none⟩ := by
  obtain ⟨i, inside, same⟩ := List.mem_mapIdx.1 (Dict.mem_of_find? held)
  cases same
  exact ⟨i, config[i].2, List.getElem?_eq_getElem inside, rfl⟩

/-- A new group has new places in the row of states, and none of its plugins runs. -/
theorem Roster.hold {r : Registry} {config : PluginConfig} (roster : Roster sys)
    (sound : config.Sound r) (stopTimeout : Nat) : Roster (sys.hold config stopTimeout) := by
  have states := states_hold config stopTimeout sys
  have staff := staff_hold config stopTimeout sys
  have either {place : Nat} {name : String} {p : Plugin}
      (held : (sys.hold config stopTimeout).held? place name = some p) :
      (place = sys.groups.length ∧ ∃ i entry, config[i]? = some (name, entry) ∧
        p = ⟨entry, sys.states.length + i, none, none⟩) ∨ sys.held? place name = some p := by
    rw [held?_hold] at held
    split at held
    · next here => exact .inl ⟨here, state_of_ofConfig config stopTimeout held⟩
    · exact .inr held
  refine ⟨fun place name p held => ?_, fun place name p held => ?_,
    fun place name p place' name' p' held held' same => ?_, fun place name p ticket held runs => ?_,
    fun ticket w found => ?_⟩
  · rcases either held with ⟨-, i, entry, listed, rfl⟩ | before
    · exact sound.named name entry (List.mem_of_getElem? listed)
    · exact roster.named place name p before
  · rw [states]
    rcases either held with ⟨-, i, entry, listed, rfl⟩ | before
    · exact Nat.add_lt_add_left (List.getElem?_eq_some_iff.1 listed).1 _
    · exact Nat.lt_add_right _ (roster.state place name p before)
  · rcases either held with ⟨rfl, i, entry, listed, rfl⟩ | before
    · rcases either held' with ⟨rfl, i', entry', listed', rfl⟩ | before'
      · obtain rfl : i' = i := Nat.add_left_cancel same
        cases listed.symm.trans listed'
        exact ⟨rfl, rfl⟩
      · have inside := roster.state place' name' p' before'
        rw [same] at inside
        exact absurd inside (Nat.not_lt_of_le (Nat.le_add_right _ _))
    · rcases either held' with ⟨rfl, i', entry', listed', rfl⟩ | before'
      · have inside := roster.state place name p before
        rw [← same] at inside
        exact absurd inside (Nat.not_lt_of_le (Nat.le_add_right _ _))
      · exact roster.distinct place name p place' name' p' before before' same
  · rcases either held with ⟨-, i, entry, listed, rfl⟩ | before
    · cases runs
    · obtain ⟨w, works, of⟩ := roster.runs place name p ticket before runs
      obtain ⟨w', works', of'⟩ := staff.kept works
      exact ⟨w', works', of'.trans of⟩
  · obtain ⟨v, was, same, -⟩ := staff.before found
    rw [states, ← same]
    exact Nat.lt_add_right _ (roster.works ticket v was)

end Hold

/-! ## One step of a call -/

section Proceed

variable {c : Call} {log : List WorkEvent} {deadline : Nat}

/-- A command that is carried out at once, and what the call goes on with. -/
theorem stepCall_prompt (sys : System) (row : c.agenda = command :: rest) (prompt : command.Prompt) :
    ∃ mid next, Manages c.group sys command next mid ∧
      sys.stepCall c = mid.goOn { c with starting := startingAfter c command } rest next := by
  refine ⟨_, _, manages_perform sys c.group command, ?_⟩
  obtain ⟨place, purpose, agenda, errand, starting, result⟩ := c
  cases row
  cases command with
  | run | awaitExit => exact prompt.elim
  | _ => rfl

/-- The call is on an errand, or the errand is over and the call goes on with what follows it. -/
theorem stepCall_run {plan : Plan} {followup : Followup} (sys : System)
    (row : c.agenda = .run plan followup :: rest) :
    (∃ mid e, sys.advanceErrand c plan = (mid, .waiting e) ∧
      sys.stepCall c = (mid, { c with errand := some e })) ∨
    ∃ mid result, sys.advanceErrand c plan = (mid, .finished result) ∧ sys.stepCall c =
      (mid.follow c.group followup result).1.goOn c rest (mid.follow c.group followup result).2 := by
  obtain ⟨place, purpose, agenda, errand, starting, result⟩ := c
  cases row
  cases advanced : sys.advanceErrand
      ⟨place, purpose, .run plan followup :: rest, errand, starting, result⟩ plan with
  | mk mid progress =>
    unfold stepCall
    dsimp only [startingAfter]
    rw [advanced]
    cases progress with
    | waiting e => exact .inl ⟨mid, e, rfl, rfl⟩
    | finished result => exact .inr ⟨mid, result, rfl, rfl⟩

/-- The wait for a worker is over, one way or the other, or it goes on. -/
theorem stepCall_wait (sys : System) (waits : c.agenda = .awaitExit ticket deadline :: rest) :
    (sys.stepCall c = (sys, { c with agenda := rest, errand := none }) ∧
      (sys.isFinished ticket = true ∧ sys.exitEvents c = [.acknowledged ticket] ∨
        sys.exitEvents c = [.gaveUp ticket])) ∨
      (sys.stepCall c = (sys, c) ∧ sys.exitEvents c = []) := by
  obtain ⟨place, purpose, agenda, errand, starting, result⟩ := c
  cases waits
  unfold stepCall exitEvents
  dsimp only [startingAfter]
  cases finished : sys.isFinished ticket with
  | true => exact .inl ⟨rfl, .inl ⟨rfl, rfl⟩⟩
  | false =>
    by_cases late : deadline ≤ sys.now
    · rw [if_pos (by simpa using late), if_neg Bool.false_ne_true, if_pos late]
      exact .inl ⟨rfl, .inr rfl⟩
    · rw [if_neg (by simpa using late), if_neg Bool.false_ne_true, if_neg late]
      exact .inr ⟨rfl, rfl⟩

/-- What every command keeps, and what errands and reports do not matter to, is kept by a step of a call. -/
theorem stepCall_keeps {P : System → List Command → Prop} (holds : P sys c.agenda)
    (undisturbed : ∀ a b row, Undisturbed a b → P a row → P b row)
    (nothing : ∀ a row, P a row → P a [])
    (errand : ∀ a plan followup rest, P a (.run plan followup :: rest) → P a rest)
    (wait : ∀ ticket deadline rest, P sys (.awaitExit ticket deadline :: rest) → P sys rest)
    (prompt : ∀ command rest first mid, command.Prompt → Manages c.group sys command (.ok first) mid →
      P sys (command :: rest) → P mid (first ++ rest))
    (fails : ∀ mid row, Inert sys mid → P sys row → P mid row) :
    P (sys.stepCall c).1 (sys.stepCall c).2.agenda := by
  have goes {mid : System} {d : Call} {rest : List Command} {next : CommandResult}
      (ok : ∀ first, next = .ok first → P mid (first ++ rest))
      (failed : ∀ e, next = .error e → P mid []) :
      P (mid.goOn d rest next).1 (mid.goOn d rest next).2.agenda := by
    unfold System.goOn
    cases next with
    | ok first => exact ok first rfl
    | error e => exact undisturbed _ _ _ (undisturbed_reported mid d (.error e)) (failed e rfl)
  cases row : c.agenda with
  | nil =>
    rw [row] at holds
    unfold stepCall
    rw [row]
    exact holds
  | cons command rest =>
    rw [row] at holds
    by_cases isPrompt : command.Prompt
    · obtain ⟨mid, next, manages, same⟩ := stepCall_prompt sys row isPrompt
      rw [same]
      refine goes (fun first ok => ?_) fun e failed => ?_
      · subst ok
        exact prompt command rest first mid isPrompt manages holds
      · subst failed
        cases manages with
        | fails inert => exact fails mid [] inert (nothing sys _ holds)
    · cases command with
      | run plan followup =>
        rcases stepCall_run sys row with ⟨mid, e, advanced, same⟩ | ⟨mid, result, advanced, same⟩
        · have first := undisturbed_advanceErrand sys c plan
          rw [advanced] at first
          rw [same]
          show P mid c.agenda
          rw [row]
          exact undisturbed _ _ _ first holds
        · have first := undisturbed_advanceErrand sys c plan
          rw [advanced] at first
          have after := undisturbed _ _ _
            (first.trans (undisturbed_follow mid c.group followup result)) holds
          rw [same]
          refine goes (fun first ok => ?_) fun e _ => nothing _ _ after
          rw [follow_nil ok]
          exact errand _ _ _ _ after
      | awaitExit ticket deadline =>
        rcases stepCall_wait sys row with ⟨same, -⟩ | ⟨same, -⟩
        · rw [same]
          exact wait ticket deadline rest holds
        · rw [same]
          show P sys c.agenda
          rw [row]
          exact holds
      | _ => exact absurd trivial isPrompt

theorem exitEvents_of_other (other : ∀ ticket, ¬ Heads ticket c.agenda) : sys.exitEvents c = [] := by
  unfold exitEvents
  split
  · next waits => exact absurd ⟨_, _, waits⟩ (other _)
  · rfl

theorem Accounted.of_undisturbed {log' : List WorkEvent} {place' : Nat} {row' : List Command}
    (h : Accounted log sys place row) (undisturbed : Undisturbed sys sys') (due : sys.Due place' row')
    (more : log ⊆ log') (heads : ∀ ticket, Heads ticket row → Heads ticket row' ∨
      sys.isFinished ticket = true ∨ .gaveUp ticket ∈ log') : Accounted log' sys' place' row' := by
  have staff : SameStaff sys sys' := .of_workers undisturbed.workers
  have states := Nat.le_of_eq undisturbed.states.symm
  exact h.keep undisturbed.rosters staff states (due.keep undisturbed.rosters staff states) more heads

/-- A call that has failed has nothing left to carry out. -/
theorem Accounted.goOn (h : ∀ first, result = .ok first → Accounted log sys c.group (first ++ rest))
    (failed : ∀ e, result = .error e → Accounted log sys c.group []) :
    Accounted log (sys.goOn c rest result).1 (sys.goOn c rest result).2.group
      (sys.goOn c rest result).2.agenda := by
  unfold System.goOn
  cases result with
  | ok first => exact h first rfl
  | error e =>
    refine (failed e rfl).of_undisturbed (undisturbed_reported sys c _) (.plain (List.forall_mem_nil _))
      (List.Subset.refl _) fun ticket waits => .inl waits

theorem Accounted.stepCall (h : Accounted log sys c.group c.agenda)
    (free : sys.worker? sys.nextTicket = none) : Accounted (log ++ sys.exitEvents c)
      (sys.stepCall c).1 (sys.stepCall c).2.group (sys.stepCall c).2.agenda := by
  by_cases waits : ∃ ticket, Heads ticket c.agenda
  · obtain ⟨ticket, deadline, rest, row⟩ := waits
    have due := h.due
    rw [row] at due
    rcases stepCall_wait sys row with ⟨same, ended⟩ | ⟨same, none⟩
    · rw [same]
      refine h.of_undisturbed ⟨rfl, rfl, rfl⟩ due.of_wait (List.subset_append_left _ _)
        fun other waits => ?_
      obtain ⟨_, _, row'⟩ := waits
      cases row.symm.trans row'
      rcases ended with ⟨finished, -⟩ | gave
      · exact .inr (.inl finished)
      · rw [gave]
        exact .inr (.inr (List.mem_append_right _ List.mem_cons_self))
    · rw [same, none, List.append_nil]
      exact h
  · have other (ticket : Nat) : ¬ Heads ticket c.agenda := fun heads => waits ⟨ticket, heads⟩
    rw [exitEvents_of_other other, List.append_nil]
    have steps := stepsTo_stepCall 0 sys c
    revert steps
    generalize noticedBy 0 sys c = noted, (sys.stepCall c).1 = sys', (sys.stepCall c).2 = c'
    intro steps
    have unheard (ticket : Nat) (row' : List Command) (waits : Heads ticket c.agenda) :
        Heads ticket row' ∨ sys.isFinished ticket = true ∨ .gaveUp ticket ∈ log :=
      absurd waits (other ticket)
    have ended : Accounted log sys c.group [] :=
      h.of_undisturbed ⟨rfl, rfl, rfl⟩ (.plain (List.forall_mem_nil _)) (List.Subset.refl _)
        fun ticket waits => unheard ticket _ waits
    cases steps with
    | ends row => exact ended
    | @waits plan _ _ _ _ row advanced =>
      have undisturbed := undisturbed_advanceErrand sys c plan
      rw [advanced] at undisturbed
      exact h.of_undisturbed undisturbed h.due (List.Subset.refl _)
        fun ticket waits => unheard ticket _ waits
    | @runs plan followup rest mid after result next row advanced followed =>
      have first := undisturbed_advanceErrand sys c plan
      have then' := undisturbed_follow mid c.group followup result
      rw [advanced] at first
      rw [followed] at then'
      have due := h.due
      rw [row] at due
      have whole (row' : List Command) (due : sys.Due c.group row') :
          Accounted log after c.group row' := h.of_undisturbed (first.trans then') due
        (List.Subset.refl _) fun ticket waits => unheard ticket _ waits
      refine .goOn (fun first ok => ?_) fun e _ => whole [] (.plain (List.forall_mem_nil _))
      have ended : (mid.follow c.group followup result).2 = .ok first := by rw [followed, ok]
      rw [follow_nil ended]
      exact whole rest due.of_run
    | patient row => exact absurd ⟨_, _, row⟩ (other _)
    | exits row => exact absurd ⟨_, _, row⟩ (other _)
    | @performs command rest after next row prompt performed =>
      have manages := manages_perform sys c.group command
      rw [performed] at manages
      rw [row] at h
      have ended' (e : PluginError) (failed : next = .error e) : Accounted log after c.group [] := by
        subst failed
        cases manages with
        | fails inert =>
          exact ended.keep inert.rosters (.of_workers inert.workers) inert.states
            (.plain (List.forall_mem_nil _)) (List.Subset.refl _) fun ticket waits => .inl waits
      refine .goOn (fun first ok => ?_) ended'
      subst ok
      exact h.manages prompt free manages

/-- Only a call that has ended has a result. -/
theorem sober_stepCall (unfinished : c.result = none) (ended : (sys.stepCall c).2.result.isSome = true) :
    (sys.stepCall c).2.agenda = [] := by
  have goes (mid : System) (d : Call) (open' : d.result = none) (rest : List Command)
      (next : CommandResult) (ended : (mid.goOn d rest next).2.result.isSome = true) :
      (mid.goOn d rest next).2.agenda = [] := by
    unfold System.goOn at ended ⊢
    cases next with
    | error e => rfl
    | ok first =>
      dsimp only at ended
      rw [open'] at ended
      cases ended
  have steps := stepsTo_stepCall 0 sys c
  revert steps ended
  generalize noticedBy 0 sys c = noted, (sys.stepCall c).1 = sys', (sys.stepCall c).2 = c'
  intro ended steps
  cases steps with
  | ends => rfl
  | waits | patient | exits => cases unfinished ▸ ended
  | runs => exact goes _ c unfinished _ _ ended
  | @performs command =>
    exact goes _ { c with starting := startingAfter c command } unfinished _ _ ended

end Proceed

end System

namespace Traffic

open DocStore.System

variable {τ τ' : Traffic} {sys : System} {log events : List WorkEvent} {calls : System → Call → Prop}

/-- Calls are made of commands that can be asked for. -/
def Asked (_ : System) (c : Call) : Prop := ∀ command ∈ c.agenda, command.Plain

/-- Calls are those that a group can be asked for. -/
def Requested (r : Registry) (sys : System) (c : Call) : Prop :=
  ∃ (place : Nat) (g : Group) (request : Request),
    sys.groups[place]? = some g ∧ request.Valid r ∧ c = request.call place g

theorem plain_agenda (request : Request) (g : Group) :
    ∀ command ∈ request.agenda g, command.Plain := by
  cases request with
  | start =>
    show ∀ command ∈ g.startAgenda, _
    unfold Group.startAgenda
    refine List.forall_mem_append.2 ⟨fun command mem => ?_, by simp [Command.Plain]⟩
    obtain ⟨_, -, mem⟩ := List.mem_flatMap.1 mem
    rcases List.mem_pair.1 mem with rfl | rfl <;> trivial
  | stop timeout =>
    show ∀ command ∈ g.stopAgenda timeout, _
    unfold Group.stopAgenda
    exact List.forall_mem_append.2 ⟨List.forall_mem_map.2 fun _ _ => trivial, by simp [Command.Plain]⟩
  | reconfigure next =>
    show ∀ command ∈ g.reconfigureAgenda next, _
    rw [Holding.reconfigureAgenda_eq]
    refine List.forall_mem_append.2 ⟨?_, List.forall_mem_cons.2 ⟨trivial, List.forall_mem_append.2 ⟨?_,
      List.forall_mem_append.2 ⟨?_, List.forall_mem_append.2 ⟨?_, by simp [Command.Plain]⟩⟩⟩⟩⟩
    · exact List.forall_mem_map.2 fun _ _ => trivial
    · split <;> simp [Command.Plain]
    · exact List.forall_mem_map.2 fun _ _ => trivial
    · exact List.forall_mem_map.2 fun _ _ => trivial

/-- What a group can be asked for consists of such commands. -/
theorem Requested.asked {r : Registry} {c : Call} (requested : Requested r sys c) : Asked sys c := by
  obtain ⟨place, g, request, -, -, rfl⟩ := requested
  exact plain_agenda request g

/-- What the workers are accounted for by in the traffic: a call that is over waits for nobody. -/
structure Answers (log : List WorkEvent) (τ : Traffic) : Prop where
  sober : ∀ c, τ.system.call = some c → c.result.isSome = true → c.agenda = []
  accounted : Accounted log τ.system τ.system.callee τ.system.agenda

/-- What others do leaves plugins and workers as they are, and the call where it was. -/
theorem other_keeps (ticketed : Ticketed τ) (other : Other τ events τ') :
    τ'.system.rosters = τ.system.rosters ∧ SameStaff τ.system τ'.system ∧
      τ'.system.states.length = τ.system.states.length ∧ τ'.system.call = τ.system.call := by
  have quiet {sys sys' : System} (undisturbed : Undisturbed sys sys') (call : sys'.call = sys.call) :
      sys'.rosters = sys.rosters ∧ SameStaff sys sys' ∧ sys'.states.length = sys.states.length ∧
        sys'.call = sys.call :=
    ⟨undisturbed.rosters, .of_workers undisturbed.workers, undisturbed.states, call⟩
  have transacts {sys sys' : System} (transacts : Transacts sys sys') :=
    quiet transacts.undisturbed (by obtain ⟨⟨_, _, _, _, _, same⟩, -⟩ := transacts; rw [same])
  cases other with
  | ask | enterRead | enterWrite | leave | askCommit | register | unregister | claim =>
    exact quiet ⟨rfl, rfl, rfl⟩ rfl
  | edit => exact quiet ⟨rfl, rfl, rfl⟩ rfl
  | commit ticket place => exact transacts (transacts_commit _ place _)
  | send place plan =>
    obtain ⟨rosters, staff, states, call⟩ :=
      transacts (transacts_beginErrand τ.system.takeTicket.1 place τ.system.nextTicket plan)
    exact ⟨rosters, ⟨staff.states, staff.finished⟩, states, call⟩
  | resume => exact transacts (transacts_pollErrand _ _)
  | @turn ticket deeds sys took =>
    obtain ⟨w, found⟩ := took.worker
    obtain ⟨-, p, fits⟩ := ticketed.workers ticket w found
    have mine : w.ticket = ticket := ticket_of_found found
    obtain ⟨phase, source, q, acts, -, still, -⟩ := works_took took found fits
    rw [mine] at acts still
    obtain ⟨-, others, call, -, states, rosters⟩ := acts.keeps
    refine ⟨rosters, ⟨fun other => ?_, fun other finished => ?_⟩, states, call⟩
    · by_cases same : other = ticket
      · subst same
        show (sys.worker? other).map _ = _
        rw [still, found]
        rfl
      · exact congrArg _ (others other same)
    · by_cases same : other = ticket
      · subst same
        have nothing := (took.finished found ((isFinished_iff found).1 finished)).2
        show sys.isFinished other = true
        rwa [nothing]
      · show sys.isFinished other = true
        unfold isFinished at finished ⊢
        rwa [others other same]
  | aside unconcerned =>
    exact quiet ⟨congrArg (·.map (·.plugins)) unconcerned.groups, unconcerned.workers,
      unconcerned.states⟩ unconcerned.call

/-- While no call is under way nothing is left to carry out. -/
theorem Answers.idle (h : Answers log τ) (idle : τ.system.callIsOver = true) :
    τ.system.agenda = [] := by
  unfold callIsOver at idle
  unfold agenda
  cases called : τ.system.call with
  | none => rfl
  | some c =>
    rw [called] at idle
    exact h.sober c called idle

/-- Who is not waited for is the worker of a plugin. -/
theorem Answers.employed (h : Answers log τ) (idle : τ.system.callIsOver = true) {ticket : Nat}
    {w : Worker} (found : τ.system.worker? ticket = some w) (working : w.phase ≠ .finished)
    (kept : .gaveUp ticket ∉ log) : τ.system.Employed ticket w.state := by
  rcases h.accounted.answers ticket w found working kept with employed | ⟨⟨_, _, row⟩, -⟩
  · exact employed
  · cases (h.idle idle).symm.trans row

/-- Of the workers of one plugin that were not given up one at most has not finished. -/
theorem Answers.alone (h : Answers log τ) {one other : Nat} {w v : Worker}
    (found : τ.system.worker? one = some w) (found' : τ.system.worker? other = some v)
    (working : w.phase ≠ .finished) (working' : v.phase ≠ .finished) (kept : .gaveUp one ∉ log)
    (kept' : .gaveUp other ∉ log) (same : v.state = w.state) : other = one := by
  have answers := h.accounted.answers one w found working kept
  have answers' := h.accounted.answers other v found' working' kept'
  rw [same] at answers'
  rcases answers with ⟨place, name, p, held, of, runs⟩ | ⟨waits, idle⟩
  · rcases answers' with ⟨place', name', p', held', of', runs'⟩ | ⟨-, idle'⟩
    · obtain ⟨rfl, rfl⟩ := h.accounted.distinct place name p place' name' p' held held'
        (of'.trans of.symm)
      cases held.symm.trans held'
      exact Option.some.inj (runs'.symm.trans runs)
    · cases (idle' place name p held of).symm.trans runs
  · rcases answers' with ⟨place', name', p', held', of', runs'⟩ | ⟨waits', -⟩
    · cases (idle place' name' p' held' of').symm.trans runs'
    · obtain ⟨_, _, row⟩ := waits
      obtain ⟨_, _, row'⟩ := waits'
      cases row.symm.trans row'
      rfl

theorem Answers.step (h : Answers log τ) (ticketed : Ticketed τ) (step : Step Asked τ events τ') :
    Answers (log ++ events) τ' := by
  have more : log ⊆ log ++ events := List.subset_append_left _ _
  cases step with
  | other other =>
    obtain ⟨rosters, staff, states, call⟩ := other_keeps ticketed other
    have row : τ'.system.agenda = τ.system.agenda := by unfold agenda; rw [call]
    have place : τ'.system.callee = τ.system.callee := by unfold callee; rw [call]
    refine ⟨fun c called => h.sober c (call.symm.trans called), ?_⟩
    rw [row, place]
    exact h.accounted.keep rosters staff (Nat.le_of_eq states.symm)
      (h.accounted.due.keep rosters staff (Nat.le_of_eq states.symm)) more fun _ waits => .inl waits
  | @hold r raw config stopTimeout idle validated =>
    have same : (τ.system.hold config stopTimeout).call = τ.system.call := (hold_keeps _ _ _).2
    have row : (τ.system.hold config stopTimeout).agenda = [] := by
      rw [← h.idle idle]
      unfold agenda
      rw [same]
    refine ⟨fun c called => h.sober c (same.symm.trans called), ?_⟩
    show Accounted _ (τ.system.hold config stopTimeout) _ (τ.system.hold config stopTimeout).agenda
    rw [row, List.append_nil]
    refine ⟨h.accounted.toRoster.hold (PluginConfig.sound_of_validate validated) stopTimeout,
      .plain (List.forall_mem_nil _), fun ticket w found working kept => .inl ?_⟩
    obtain ⟨v, was, of, worked⟩ := (staff_hold config stopTimeout τ.system).before found
    obtain ⟨place, name, p, held, same, runs⟩ := h.employed idle was (worked working) kept
    exact ⟨place, name, p, held_hold config stopTimeout held, same.trans of, runs⟩
  | call c idle may new =>
    refine ⟨fun c' called ended => ?_, ?_⟩
    · cases called
      rw [new.2] at ended
      cases ended
    · refine ⟨h.accounted.toRoster.keep rfl (.of_workers rfl) (Nat.le_refl _), .plain may,
        fun ticket w found working kept => .inl ?_⟩
      rw [List.append_nil] at kept
      exact (h.employed idle found working kept).keep rfl
  | @proceed c called unfinished =>
    have free := ticketed.free.2.1
    have before : Accounted log τ.system c.group c.agenda := by
      have h := h.accounted
      unfold agenda callee at h
      rwa [called] at h
    have after := before.stepCall free
    refine ⟨fun c' called' ended => ?_, ?_⟩
    · cases called'
      exact sober_stepCall unfinished ended
    · exact after.of_undisturbed ⟨rfl, rfl, rfl⟩ after.due (List.Subset.refl _)
        fun _ waits => .inl waits

/-- Nothing has happened yet. -/
theorem answers_new (trees : List Value) (engine : Engine) (files : FileTree) :
    Answers [] (of (System.new trees engine files)) := by
  have unheld {place : Nat} {name : String} {p : Plugin}
      (held : (System.new trees engine files).held? place name = some p) : False := by
    obtain ⟨g, never, -⟩ := group_of_held held
    cases never
  refine ⟨fun _ never => (by cases never), ⟨⟨?_, ?_, ?_, ?_, fun _ _ never => (by cases never)⟩,
    .plain fun _ never => (by cases never), fun _ _ never => (by cases never)⟩⟩
  · exact fun _ _ _ held => (unheld held).elim
  · exact fun _ _ _ held => (unheld held).elim
  · exact fun _ _ _ _ _ _ held => (unheld held).elim
  · exact fun _ _ _ _ held => (unheld held).elim

/-- Whatever goes on, every worker is accounted for. -/
theorem Run.answers {trees : List Value} {engine : Engine} {files : FileTree}
    (run : Run Asked (of (System.new trees engine files)) log τ) : Answers log τ := by
  induction run with
  | none => exact answers_new trees engine files
  | step before step ih => exact ih.step (before.ticketed (ticketed_new trees engine files)) step

end Traffic

end DocStore
