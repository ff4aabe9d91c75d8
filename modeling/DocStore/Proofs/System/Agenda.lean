import DocStore.Proofs.System.Steady

/-!
# What calls make of a holding

A call is carried out command by command while workers and other transactions go on. For what the
group holds only the commands count: `Does` says what each of them makes of a holding, and `Runs`
what a row of them makes of it, whether it comes to its end or fails on the way.

Results:
  * `Runs.split`: a row that runs has run its first part, and then the rest;
  * `Runs.quiet`: a row of commands about other things changes nothing;
  * `System.does_perform`: every command does what `Does` says.
-/

namespace DocStore

namespace Holding

/-- Hold a plugin. -/
def hold (h : Holding) (name : String) (p : Plugin) : Holding :=
  { h with plugins := h.plugins.insert name p }

/-- Hold a plugin no longer. -/
def drop (h : Holding) (name : String) : Holding :=
  { h with plugins := h.plugins.erase name }

def claim (h : Holding) (name : String) (path : Path) : Holding :=
  { h with claims := h.claims.insert name path }

def release (h : Holding) (name : String) : Holding :=
  { h with claims := h.claims.erase name }

/-- The holding stays, and nothing is left to do. -/
def Idle (h : Holding) (next : Option (List Command)) (h' : Holding) : Prop :=
  h' = h ∧ next = some []

/-- What a command makes of a holding, and the commands it comes to; nothing when it fails. -/
def Does (h : Holding) : Command → Option (List Command) → Holding → Prop
  | .start name, next, h' =>
    match h.plugins.find? name with
    | none => h.Idle next h'
    | some p =>
      if p.worker.isSome then h.Idle next h'
      else h' = h ∧ (next = none ∨
        ∃ slot, next = some [.run (.ensure p.entry.path) .nothing, .launch p.entry p.state slot])
  | .add entry, next, h' =>
    h' = h ∧ (next = none ∨ ∃ state slot, next = some [.run (.ensure entry.path) .nothing,
      .launch entry state slot, .claim entry.name entry.path])
  | .launch entry state slot, next, h' =>
    (next = none ∧ h' = h) ∨
      (next = some [] ∧ ∃ ticket, h' = h.hold entry.name ⟨entry, state, slot, some ticket⟩)
  | .claim name path, next, h' => next = some [] ∧ h' = h.claim name path
  | .release name, next, h' => next = some [] ∧ h' = h.release name
  | .releaseAll, next, h' => next = some [] ∧ h' = { h with claims := [] }
  | .stop name _, next, h' =>
    match h.plugins.find? name with
    | none => h.Idle next h'
    | some p =>
      match p.worker with
      | none => h.Idle next h'
      | some ticket => h' = h.hold name { p with worker := none } ∧
        ∃ deadline, next = some [.awaitExit ticket deadline, .retire name]
  | .dismiss name _, next, h' =>
    match h.plugins.find? name with
    | none => h.Idle next h'
    | some _ => h' = h.drop name ∧
      (next = some [] ∨ ∃ ticket deadline, next = some [.awaitExit ticket deadline])
  | .retire name, next, h' =>
    match h.plugins.find? name with
    | none => h.Idle next h'
    | some p => next = some [] ∧ h' = h.hold name { p with slot := none }
  | .refresh entry timeout, next, h' =>
    h' = h ∧ next = some (System.refreshCommands (h.plugins.find? entry.name) entry timeout)
  | .assign entry, next, h' =>
    match h.plugins.find? entry.name with
    | none => h.Idle next h'
    | some p => next = some [] ∧ h' = h.hold entry.name { p with entry }
  | .enlist, next, h' | .delist, next, h' =>
    h' = h ∧ (next = some [] ∨ ∃ plan followup, next = some [.run plan followup])
  | .run .., next, h' => h' = h ∧ (next = none ∨ next = some [])
  | .publish, next, h' | .unpublish, next, h' | .adopt _, next, h' | .settle _, next, h'
  | .report _, next, h' | .awaitExit .., next, h' => h.Idle next h'

end Holding

/-- What a row of commands makes of a holding, with whether it comes to its end. -/
inductive Runs : List Command → Holding → Bool → Holding → Prop
  | done (h : Holding) : Runs [] h true h
  | failed {c : Command} {rest : List Command} {h h' : Holding} :
      h.Does c none h' → Runs (c :: rest) h false h'
  | went {c : Command} {first rest : List Command} {h mid h' : Holding} {ok : Bool} :
      h.Does c (some first) mid → Runs (first ++ rest) mid ok h' → Runs (c :: rest) h ok h'

/-- A row that runs has run its first part, and then the rest unless that failed. -/
theorem Runs.split {front back : List Command} {h h' : Holding} {ok : Bool}
    (runs : Runs (front ++ back) h ok h') :
    (∃ mid, Runs front h true mid ∧ Runs back mid ok h') ∨ (ok = false ∧ Runs front h false h') := by
  -- What a command comes to stands in front of the rest, so it belongs to the first part.
  generalize row : front ++ back = agenda at runs
  induction runs generalizing front with
  | done h =>
    obtain ⟨rfl, rfl⟩ := List.append_eq_nil_iff.1 row
    exact .inl ⟨h, .done h, .done h⟩
  | @failed c rest h h' fails =>
    cases front with
    | nil =>
      cases row
      exact .inl ⟨h, .done h, .failed fails⟩
    | cons c' front =>
      cases row
      exact .inr ⟨rfl, .failed fails⟩
  | @went c first rest h mid h' ok does more ih =>
    cases front with
    | nil =>
      cases row
      exact .inl ⟨h, .done h, .went does more⟩
    | cons c' front =>
      cases row
      rcases ih (List.append_assoc first front back) with ⟨later, ran, left⟩ | ⟨ended, ran⟩
      · exact .inl ⟨later, .went does ran, left⟩
      · exact .inr ⟨ended, .went does ran⟩

/-- The same for the first command of a row. -/
theorem Runs.split_cons {c : Command} {rest : List Command} {h h' : Holding} {ok : Bool}
    (runs : Runs (c :: rest) h ok h') :
    (∃ mid, Runs [c] h true mid ∧ Runs rest mid ok h') ∨ (ok = false ∧ Runs [c] h false h') :=
  Runs.split runs

theorem Runs.of_nil {h h' : Holding} {ok : Bool} (runs : Runs [] h ok h') : ok = true ∧ h' = h := by
  cases runs
  exact ⟨rfl, rfl⟩

/-! ## Commands that change nothing -/

/-- The command is about something else than what is held and claimed. -/
def Command.Quiet : Command → Prop
  | .publish | .unpublish | .enlist | .delist | .run .. | .awaitExit .. | .adopt _ | .settle _
  | .report _ => True
  | _ => False

theorem Holding.Idle.quiet {h h' : Holding} {next : Option (List Command)}
    (idle : h.Idle next h') : h' = h ∧ ∀ row, next = some row → ∀ c ∈ row, c.Quiet := by
  obtain ⟨rfl, rfl⟩ := idle
  refine ⟨rfl, fun row same => ?_⟩
  cases same
  exact fun _ never => by cases never

theorem Holding.Does.quiet {h h' : Holding} {c : Command} {next : Option (List Command)}
    (does : h.Does c next h') (quiet : c.Quiet) :
    h' = h ∧ ∀ row, next = some row → ∀ c ∈ row, c.Quiet := by
  cases c with
  | publish | unpublish | awaitExit _ _ | adopt _ | settle _ | report _ =>
    exact Holding.Idle.quiet does
  | enlist | delist =>
    obtain ⟨rfl, rfl | ⟨plan, followup, rfl⟩⟩ := does
    · exact Holding.Idle.quiet ⟨rfl, rfl⟩
    · refine ⟨rfl, fun row same c present => ?_⟩
      cases same
      rw [List.mem_singleton.1 present]
      trivial
  | run plan followup =>
    obtain ⟨rfl, rfl | rfl⟩ := does
    · exact ⟨rfl, fun _ never => by cases never⟩
    · exact Holding.Idle.quiet ⟨rfl, rfl⟩
  | _ => exact quiet.elim

/-- A row of such commands changes nothing, whether it comes to its end or not. -/
theorem Runs.quiet {agenda : List Command} {h h' : Holding} {ok : Bool}
    (runs : Runs agenda h ok h') (quiet : ∀ c ∈ agenda, c.Quiet) : h' = h := by
  induction runs with
  | done h => rfl
  | failed fails => exact (fails.quiet (quiet _ List.mem_cons_self)).1
  | went does _ ih =>
    obtain ⟨rfl, follows⟩ := does.quiet (quiet _ List.mem_cons_self)
    refine ih fun c present => ?_
    rcases List.mem_append.1 present with first | later
    · exact follows _ rfl c first
    · exact quiet c (List.mem_cons_of_mem _ later)

namespace System

variable {sys : System} {group : Nat} {h : Holding}

/-! ## Commands -/

/-- What bringing a plugin in line comes to: it is added, or it is stopped, gets its entry and may be
started again. -/
theorem forall_refreshCommands {P : Command → Prop} {held : Option Plugin} {entry : PluginEntry}
    {timeout : Nat} (add : held = none → P (.add entry)) (stop : P (.stop entry.name timeout))
    (assign : P (.assign entry)) (start : P (.start entry.name)) :
    ∀ c ∈ refreshCommands held entry timeout, P c := by
  unfold refreshCommands
  cases held with
  | none => exact List.forall_mem_singleton.2 (add rfl)
  | some p =>
    dsimp only
    split
    · exact List.forall_mem_nil _
    · refine List.forall_mem_cons.2 ⟨stop, List.forall_mem_cons.2 ⟨assign, ?_⟩⟩
      split
      · exact List.forall_mem_singleton.2 start
      · exact List.forall_mem_nil _

theorem holds_updateGroup (holds : sys.Holds group h) {change : Group → Group}
    {plugins : Dict Plugin} (changed : ∀ g, g.plugins = h.plugins → (change g).plugins = plugins) :
    (sys.updateGroup group change).Holds group { h with plugins } := by
  obtain ⟨g, found, same⟩ := holds.plugins
  refine ⟨holds.present, ⟨change g, ?_, changed g same⟩, holds.claims⟩
  unfold updateGroup
  rw [List.getElem?_modify_eq, found]
  rfl

theorem holds_regrouped (holds : sys.Holds group h) {change : Group → Group}
    (kept : ∀ g, (change g).plugins = g.plugins) : (sys.updateGroup group change).Holds group h :=
  holds_updateGroup holds fun g same => (kept g).trans same

theorem holds_updateStore (holds : sys.Holds group h) {change : Store → Store} {claims : Dict Path}
    (changed : ∀ s, s.claims = h.claims → (change s).claims = claims) :
    (sys.updateStore pluginStore change).Holds group { h with claims } := by
  refine ⟨?_, holds.plugins, ?_⟩
  · rw [length_updateStore]
    exact holds.present
  · rw [storeAt_updateStore_self holds.present]
    exact changed _ holds.claims

theorem steady_prepareSlot (group : Nat) (sys : System) (rule : Option RuleRef) :
    Steady group sys (sys.prepareSlot rule).1 := by
  unfold prepareSlot
  split
  · exact .refl group sys
  · split
    · exact .refl group sys
    · exact steady_of_eq rfl rfl rfl

theorem steady_connect (group : Nat) (sys : System) (source : SourceConfig) :
    Steady group sys (sys.connect source).1 := by
  unfold connect
  split
  · exact .refl group sys
  · exact .refl group sys
  · split
    · exact .refl group sys
    · exact steady_of_eq rfl rfl rfl

theorem steady_startCommands (group : Nat) (sys : System) (entry : PluginEntry) (state : Nat) :
    Steady group sys (sys.startCommands entry state).1 := by
  have prepared := steady_prepareSlot group sys entry.transform
  unfold startCommands
  split
  · next found =>
    rw [found] at prepared
    exact prepared
  · next found =>
    rw [found] at prepared
    exact prepared

theorem startCommands_result (sys : System) (entry : PluginEntry) (state : Nat) :
    (sys.startCommands entry state).2.toOption = none ∨
      ∃ slot, (sys.startCommands entry state).2 =
        .ok [.run (.ensure entry.path) .nothing, .launch entry state slot] := by
  unfold startCommands
  split
  · exact .inl rfl
  · exact .inr ⟨_, rfl⟩

theorem does_launch (holds : sys.Holds group h) (entry : PluginEntry) (state : Nat)
    (slot : Option Nat) :
    ∃ h', h.Does (.launch entry state slot) (sys.launch group entry state slot).2.toOption h' ∧
      (sys.launch group entry state slot).1.Holds group h' := by
  have connected := steady_connect group sys entry.source
  unfold launch
  split
  · next found =>
    rw [found] at connected
    exact ⟨h, .inl ⟨rfl, rfl⟩, connected.holds h holds⟩
  · next sys' source found =>
    rw [found] at connected
    have spawned : Steady group sys' (sys'.spawn entry state slot source).1 :=
      steady_of_eq rfl rfl rfl
    have held := (connected.trans spawned).holds h holds
    refine ⟨_, .inr ⟨rfl, sys'.nextTicket, rfl⟩, holds_updateGroup held fun g same => ?_⟩
    rw [same]
    rfl

theorem does_stopPlugin (holds : sys.Holds group h) (name : String) (p : Plugin) (timeout : Nat) :
    ∃ h', (match p.worker with
        | none => h.Idle (sys.stopPlugin group name p timeout).2.toOption h'
        | some ticket => h' = h.hold name { p with worker := none } ∧
          ∃ deadline, (sys.stopPlugin group name p timeout).2.toOption =
            some [.awaitExit ticket deadline, .retire name]) ∧
      (sys.stopPlugin group name p timeout).1.Holds group h' := by
  unfold stopPlugin
  cases p.worker with
  | none => exact ⟨h, ⟨rfl, rfl⟩, holds⟩
  | some ticket =>
    have asked := (steady_requestExit group sys ticket).holds h holds
    refine ⟨_, ⟨rfl, _, rfl⟩, holds_updateGroup asked fun g same => ?_⟩
    dsimp only
    rw [same]

theorem does_dismiss (holds : sys.Holds group h) (name : String) (p : Plugin) (timeout : Nat) :
    ∃ h', (h' = h.drop name ∧ ((sys.dismiss group name p timeout).2.toOption = some [] ∨
        ∃ ticket deadline, (sys.dismiss group name p timeout).2.toOption =
          some [.awaitExit ticket deadline])) ∧
      (sys.dismiss group name p timeout).1.Holds group h' := by
  have dropped : (sys.updateGroup group fun g =>
      { g with plugins := g.plugins.erase name }).Holds group (h.drop name) :=
    holds_updateGroup holds fun g same => by rw [same]
  unfold dismiss
  cases p.worker with
  | none => exact ⟨_, ⟨rfl, .inl rfl⟩, dropped⟩
  | some ticket =>
    exact ⟨_, ⟨rfl, .inr ⟨_, _, rfl⟩⟩, (steady_requestExit group _ ticket).holds _ dropped⟩

/-- Every command does what is said of it. -/
theorem does_perform (holds : sys.Holds group h) (command : Command) :
    ∃ h', h.Does command (sys.perform group command).2.toOption h' ∧
      (sys.perform group command).1.Holds group h' := by
  -- The group that the command finds holds the plugins of the holding, so both look up the same.
  obtain ⟨g, found, same⟩ := holds.plugins
  unfold perform
  rw [found]
  dsimp only
  cases command with
  | start name =>
    dsimp only [Holding.Does]
    rw [same]
    cases h.plugins.find? name with
    | none => exact ⟨h, ⟨rfl, rfl⟩, holds⟩
    | some p =>
      dsimp only
      split
      · exact ⟨h, ⟨rfl, rfl⟩, holds⟩
      · refine ⟨h, ⟨rfl, ?_⟩, (steady_startCommands group sys p.entry p.state).holds h holds⟩
        rcases startCommands_result sys p.entry p.state with fails | ⟨slot, goes⟩
        · exact .inl fails
        · exact .inr ⟨slot, by rw [goes]; rfl⟩
  | add entry =>
    have added : Steady group sys { sys with states := sys.states ++ [PluginState.notReady] } :=
      steady_of_eq rfl rfl rfl
    have started := added.trans (steady_startCommands group _ entry sys.states.length)
    have result := startCommands_result { sys with states := sys.states ++ [PluginState.notReady] }
      entry sys.states.length
    dsimp only at started result ⊢
    revert started result
    generalize startCommands _ entry sys.states.length = outcome
    obtain ⟨sys', result'⟩ := outcome
    intro started result
    refine ⟨h, ?_⟩
    cases result' with
    | error e => exact ⟨⟨rfl, .inl rfl⟩, started.holds h holds⟩
    | ok commands =>
      rcases result with fails | ⟨slot, goes⟩
      · cases fails
      · cases goes
        exact ⟨⟨rfl, .inr ⟨_, slot, rfl⟩⟩, started.holds h holds⟩
  | launch entry state slot => exact does_launch holds entry state slot
  | claim name path =>
    have claimed : (sys.updateStore pluginStore (·.claim name path)).Holds group
        (h.claim name path) :=
      holds_updateStore holds fun s same => by rw [← same]; rfl
    exact ⟨_, ⟨rfl, rfl⟩, claimed⟩
  | release name =>
    have released : (sys.updateStore pluginStore (·.release name)).Holds group (h.release name) :=
      holds_updateStore holds fun s same => by rw [← same]; rfl
    exact ⟨_, ⟨rfl, rfl⟩, released⟩
  | releaseAll =>
    have released : (sys.updateStore pluginStore (·.releaseAll)).Holds group
        { h with claims := [] } :=
      holds_updateStore holds fun s same => rfl
    exact ⟨_, ⟨rfl, rfl⟩, released⟩
  | publish =>
    exact ⟨h, ⟨rfl, rfl⟩, holds_regrouped holds fun g => rfl⟩
  | unpublish =>
    exact ⟨h, ⟨rfl, rfl⟩, holds_regrouped holds fun g => rfl⟩
  | enlist =>
    dsimp only
    split
    · exact ⟨h, ⟨rfl, .inl rfl⟩, holds⟩
    · exact ⟨h, ⟨rfl, .inr ⟨_, _, rfl⟩⟩, holds⟩
  | delist =>
    cases g.trigger with
    | none => exact ⟨h, ⟨rfl, .inl rfl⟩, holds⟩
    | some handle =>
      exact ⟨h, ⟨rfl, .inr ⟨_, _, rfl⟩⟩,
        holds_regrouped holds fun g => rfl⟩
  | stop name timeout =>
    dsimp only [Holding.Does]
    rw [same]
    cases h.plugins.find? name with
    | none => exact ⟨h, ⟨rfl, rfl⟩, holds⟩
    | some p => exact does_stopPlugin holds name p timeout
  | dismiss name timeout =>
    dsimp only [Holding.Does]
    rw [same]
    cases h.plugins.find? name with
    | none => exact ⟨h, ⟨rfl, rfl⟩, holds⟩
    | some p => exact does_dismiss holds name p timeout
  | retire name =>
    dsimp only [Holding.Does]
    rw [same]
    cases h.plugins.find? name with
    | none => exact ⟨h, ⟨rfl, rfl⟩, holds⟩
    | some p =>
      have stopped : Steady group sys (sys.setState p.state .stopped) := steady_of_eq rfl rfl rfl
      refine ⟨_, ⟨rfl, rfl⟩, holds_updateGroup (stopped.holds h holds) fun g same => ?_⟩
      dsimp only
      rw [same]
  | refresh entry timeout =>
    refine ⟨h, ⟨rfl, ?_⟩, holds⟩
    rw [same]
    rfl
  | assign entry =>
    dsimp only [Holding.Does]
    rw [same]
    cases h.plugins.find? entry.name with
    | none => exact ⟨h, ⟨rfl, rfl⟩, holds⟩
    | some p =>
      refine ⟨_, ⟨rfl, rfl⟩, holds_updateGroup holds fun g same => ?_⟩
      dsimp only
      rw [same]
  | adopt config =>
    exact ⟨h, ⟨rfl, rfl⟩, holds_regrouped holds fun g => rfl⟩
  | settle registered =>
    dsimp only
    split
    · exact ⟨h, ⟨rfl, rfl⟩, holds_regrouped holds fun g => rfl⟩
    · exact ⟨h, ⟨rfl, rfl⟩, holds⟩
  | report status =>
    exact ⟨h, ⟨rfl, rfl⟩, holds_regrouped holds fun g => rfl⟩
  | run plan followup => exact ⟨h, ⟨rfl, .inr rfl⟩, holds⟩
  | awaitExit ticket deadline => exact ⟨h, ⟨rfl, rfl⟩, holds⟩

theorem steady_advanceErrand (group : Nat) (sys : System) (c : Call) (plan : Plan) :
    Steady group sys (sys.advanceErrand c plan).1 := by
  unfold advanceErrand
  cases c.errand with
  | some errand => exact steady_pollErrand group sys errand
  | none =>
    have taken : Steady group sys sys.takeTicket.1 := steady_of_eq rfl rfl rfl
    exact taken.trans (steady_beginErrand group _ pluginStore _ plan)

/-- What follows an errand leaves the holding alone, and nothing is left to do unless it failed. -/
theorem steady_follow (group : Nat) (sys : System) (place : Nat) (followup : Followup)
    (result : Except Refusal Outcome) :
    Steady group sys (sys.follow place followup result).1 ∧
      ((sys.follow place followup result).2.toOption = none ∨
        (sys.follow place followup result).2.toOption = some []) := by
  unfold follow
  split
  · exact ⟨steady_updateGroup group sys place _ fun g => plugins_check g _, .inr rfl⟩
  · exact ⟨steady_updateGroup group sys place _ fun g => plugins_check g _, .inr rfl⟩
  · exact ⟨steady_updateGroup group sys place _ fun g => rfl, .inr rfl⟩
  · exact ⟨.refl group sys, .inr rfl⟩
  · exact ⟨.refl group sys, .inl rfl⟩
  · exact ⟨.refl group sys, .inl rfl⟩
  · exact ⟨.refl group sys, .inr rfl⟩

end System

end DocStore
