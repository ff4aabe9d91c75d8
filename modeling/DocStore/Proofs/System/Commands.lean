import DocStore.Proofs.System.History
import DocStore.Proofs.System.Meanwhile

/-!
# The commands of a call

A call is carried out one command at a time. What one command can come to is said here once: what is
left of the call, what becomes of the group and of the stores, and what the group notices.

Results:
  * `stepsTo_stepCall`: what carrying out one command can come to;
  * `StepsTo.coherent`: the errand of a call is always that of its first command;
  * `group_perform`, `group_follow`: what commands make of a group beside its plugins;
  * `onErrands_stepCall`: a call sends no worker on an errand.
-/

namespace DocStore

/-! ## One command -/

/-- A claim comes or goes. -/
inductive Store.Claiming : (Store → Store) → Prop
  | claim (plugin : String) (path : Path) : Claiming (·.claim plugin path)
  | release (plugin : String) : Claiming (·.release plugin)
  | releaseAll : Claiming (·.releaseAll)

/-- The command is carried out at once. -/
def Command.Prompt : Command → Prop
  | .run .. | .awaitExit .. => False
  | _ => True

/-- The call with its result. -/
def Call.ended (c : Call) (result : Except PluginError Unit) : Call :=
  { c with agenda := [], errand := none, result := some result }

/-- What is reported on the result of a call. -/
def Call.report (c : Call) : Except PluginError Unit → Option Status
  | .ok () => none
  | .error e => System.failureReport c e

/-- What a command makes of what a group reports and of what its watch knows. -/
def Group.told (g : Group) : Command → Group
  | .publish => { g with active := g.running }
  | .unpublish => { g with active := [], overlap := none }
  | .delist => { g with trigger := none }
  | .adopt config => { g with config }
  | .settle registered =>
    if g.overlap.isNone && (!registered || g.trigger.isSome) then { g with status := ⟨.ok, none⟩ }
    else g
  | .report status => { g with status }
  | _ => g

/-- What follows an errand that is over makes of a group. -/
def Group.followed (g : Group) : Followup → Except Refusal Outcome → Group
  | .checkOverlaps, .ok outcome => g.check (System.rootsOf outcome)
  | .checkOverlaps, .error _ => g.check []
  | .keepHandle, .ok (.handle handle) => { g with trigger := some handle }
  | _, _ => g

/-- An errand as a command sends it: to the store of the plugins, and a reading one ends as soon as it
is admitted. -/
structure Errand.Sent (plan : Plan) (e : Errand) : Prop where
  store : e.store = System.pluginStore
  planned : e.plan = plan
  opening : plan.isWrite = false → e.stage = .opening

/-- The errand that a call is on is that of its first command. -/
def Call.Coherent (c : Call) : Prop :=
  ∀ e, c.errand = some e → ∃ plan followup rest, c.agenda = .run plan followup :: rest ∧ e.Sent plan

theorem Call.Coherent.sent {c : Call} {plan : Plan} {followup : Followup} {rest : List Command}
    (coherent : c.Coherent) (row : c.agenda = .run plan followup :: rest) (e : Errand)
    (under : c.errand = some e) : e.Sent plan := by
  obtain ⟨plan', followup', rest', row', sent⟩ := coherent e under
  rw [row] at row'
  cases row'
  exact sent

/-- What has to wait is still what was sent. -/
theorem Errand.Sent.follows {plan : Plan} {e e' : Errand} (sent : e.Sent plan)
    (follows : e.Follows e') : e'.Sent plan :=
  ⟨follows.store.trans sent.store, follows.plan.trans sent.planned, fun reads =>
    follows.opening (by rw [sent.planned]; exact reads) (sent.opening reads)⟩

namespace System

/-- The result of a call is reported. -/
def reported (sys : System) (c : Call) (result : Except PluginError Unit) : System :=
  match c.report result with
  | some status => sys.updateGroup c.group fun g => { g with status }
  | none => sys

theorem finishCall_eq (sys : System) (c : Call) (result : Except PluginError Unit) :
    sys.finishCall c result = { sys.reported c result with call := some (c.ended result) } := by
  unfold finishCall reported Call.report
  cases result <;> rfl

/-- Go on with what a command comes to, or end with its failure. -/
def goOn (sys : System) (c : Call) (rest : List Command) : CommandResult → System × Call
  | .error e => (sys.reported c (.error e), c.ended (.error e))
  | .ok first => (sys, { c with agenda := first ++ rest, errand := none })

/-- Carry out the first command of a call, or find that there is none left. -/
def stepCall (sys : System) (c : Call) : System × Call :=
  match c.agenda with
  | [] => (sys, c.ended (.ok ()))
  | command :: rest =>
    let c := { c with starting := startingAfter c command }
    match command with
    | .run plan followup =>
      match sys.advanceErrand c plan with
      | (sys, .waiting errand) => (sys, { c with errand := some errand })
      | (sys, .finished result) =>
        let (sys, result) := sys.follow c.group followup result
        sys.goOn c rest result
    | .awaitExit ticket deadline =>
      if sys.isFinished ticket || deadline ≤ sys.now then sys.goOn c rest (.ok []) else (sys, c)
    | command =>
      let (sys, result) := sys.perform c.group command
      sys.goOn c rest result

/-! ## Notes -/

/-- The overlaps that a group reports at present. -/
def overlapOf (sys : System) (group : Nat) : Option String := (sys.groups[group]?).bind (·.overlap)

/-- The overlaps that a group reports, if they are others than before. -/
def noticed (group : Nat) (sys sys' : System) : List (Option String) :=
  if sys'.overlapOf group = sys.overlapOf group then [] else [sys'.overlapOf group]

/-- What a command makes a group notice, by its errand and after it. -/
def noticedBy (group : Nat) (sys : System) (c : Call) : List (Option String) :=
  match c.agenda with
  | .run plan followup :: _ =>
    let between := (sys.advanceErrand
      { c with starting := startingAfter c (.run plan followup) } plan).1
    noticed group sys between ++ noticed group between (sys.stepCall c).1
  | _ => noticed group sys (sys.stepCall c).1

/-- What one command of a call can come to, with what the group notices. -/
inductive StepsTo (group : Nat) (sys : System) (c : Call) :
    List (Option String) → System → Call → Prop
  | ends (row : c.agenda = []) : StepsTo group sys c (noticed group sys sys) sys (c.ended (.ok ()))
  | waits {plan : Plan} {followup : Followup} {rest : List Command} {sys' : System} {errand : Errand}
      (row : c.agenda = .run plan followup :: rest)
      (advanced : sys.advanceErrand c plan = (sys', .waiting errand)) :
      StepsTo group sys c (noticed group sys sys' ++ noticed group sys' sys') sys'
        { c with errand := some errand }
  | runs {plan : Plan} {followup : Followup} {rest : List Command} {mid sys' : System}
      {result : Except Refusal Outcome} {next : CommandResult}
      (row : c.agenda = .run plan followup :: rest)
      (advanced : sys.advanceErrand c plan = (mid, .finished result))
      (followed : mid.follow c.group followup result = (sys', next)) :
      StepsTo group sys c (noticed group sys mid ++ noticed group mid (sys'.goOn c rest next).1)
        (sys'.goOn c rest next).1 (sys'.goOn c rest next).2
  | patient {ticket deadline : Nat} {rest : List Command}
      (row : c.agenda = .awaitExit ticket deadline :: rest) :
      StepsTo group sys c (noticed group sys sys) sys c
  | exits {ticket deadline : Nat} {rest : List Command}
      (row : c.agenda = .awaitExit ticket deadline :: rest) :
      StepsTo group sys c (noticed group sys sys) sys { c with agenda := rest, errand := none }
  | performs {command : Command} {rest : List Command} {sys' : System} {next : CommandResult}
      (row : c.agenda = command :: rest) (prompt : command.Prompt)
      (performed : sys.perform c.group command = (sys', next)) :
      StepsTo group sys c
        (noticed group sys (sys'.goOn { c with starting := startingAfter c command } rest next).1)
        (sys'.goOn { c with starting := startingAfter c command } rest next).1
        (sys'.goOn { c with starting := startingAfter c command } rest next).2

theorem stepsTo_stepCall (group : Nat) (sys : System) (c : Call) :
    StepsTo group sys c (noticedBy group sys c) (sys.stepCall c).1 (sys.stepCall c).2 := by
  obtain ⟨place, purpose, agenda, errand, starting, result⟩ := c
  cases agenda with
  | nil => exact .ends rfl
  | cons command rest =>
    cases command with
    | run plan followup =>
      cases advanced : sys.advanceErrand
          ⟨place, purpose, .run plan followup :: rest, errand, starting, result⟩ plan with
      | mk mid progress =>
        unfold noticedBy stepCall
        dsimp only [startingAfter]
        rw [advanced]
        cases progress with
        | waiting errand => exact .waits rfl advanced
        | finished result => exact .runs rfl advanced rfl
    | awaitExit ticket deadline =>
      unfold noticedBy stepCall
      dsimp only [startingAfter]
      split
      · exact .exits rfl
      · exact .patient rfl
    | _ => exact .performs rfl trivial rfl

variable {sys sys' : System} {c c' : Call} {log : List (Option String)} {group : Nat} {g : Group}

/-! ## Steps of a given command -/

namespace StepsTo

variable {plan : Plan} {followup : Followup} {command : Command} {rest : List Command}

theorem group_eq (steps : StepsTo group sys c log sys' c') : c'.group = c.group := by
  cases steps with
  | @runs _ _ _ _ _ _ next => cases next <;> rfl
  | @performs _ _ _ next => cases next <;> rfl
  | _ => rfl

theorem of_nil (steps : StepsTo group sys c log sys' c') (row : c.agenda = []) :
    log = noticed group sys sys ∧ sys' = sys ∧ c' = c.ended (.ok ()) := by
  cases steps with
  | ends => exact ⟨rfl, rfl, rfl⟩
  | waits row' | runs row' | patient row' | exits row' | performs row' => cases row.symm.trans row'

theorem of_run (steps : StepsTo group sys c log sys' c')
    (row : c.agenda = .run plan followup :: rest) :
    (∃ errand, sys.advanceErrand c plan = (sys', .waiting errand) ∧
      log = noticed group sys sys' ++ noticed group sys' sys' ∧
      c' = { c with errand := some errand }) ∨
    ∃ mid result after next, sys.advanceErrand c plan = (mid, .finished result) ∧
      mid.follow c.group followup result = (after, next) ∧
      log = noticed group sys mid ++ noticed group mid (after.goOn c rest next).1 ∧
      sys' = (after.goOn c rest next).1 ∧ c' = (after.goOn c rest next).2 := by
  cases steps with
  | waits row' advanced =>
    cases row.symm.trans row'
    exact .inl ⟨_, advanced, rfl, rfl⟩
  | runs row' advanced followed =>
    cases row.symm.trans row'
    exact .inr ⟨_, _, _, _, advanced, followed, rfl, rfl, rfl⟩
  | performs row' prompt =>
    cases row.symm.trans row'
    exact prompt.elim
  | ends row' | patient row' | exits row' => cases row.symm.trans row'

theorem of_prompt (steps : StepsTo group sys c log sys' c') (row : c.agenda = command :: rest)
    (prompt : command.Prompt) : ∃ after next, sys.perform c.group command = (after, next) ∧
      log = noticed group sys
        (after.goOn { c with starting := startingAfter c command } rest next).1 ∧
      sys' = (after.goOn { c with starting := startingAfter c command } rest next).1 ∧
      c' = (after.goOn { c with starting := startingAfter c command } rest next).2 := by
  cases steps with
  | performs row' _ performed =>
    cases row.symm.trans row'
    exact ⟨_, _, performed, rfl, rfl, rfl⟩
  | ends row' => cases row.symm.trans row'
  | waits row' | runs row' | patient row' | exits row' =>
    cases row.symm.trans row'
    exact prompt.elim

end StepsTo

/-! ## The errand of a call -/

theorem sent_advanceErrand {plan : Plan} {errand : Errand}
    (sent : ∀ e, c.errand = some e → e.Sent plan)
    (waits : (sys.advanceErrand c plan).2 = .waiting errand) : errand.Sent plan := by
  unfold advanceErrand at waits
  split at waits
  · next e under => exact (sent e under).follows (follows_pollErrand waits)
  · unfold beginErrand at waits
    dsimp only at waits
    exact Errand.Sent.follows ⟨rfl, rfl, fun _ => rfl⟩ (follows_pollErrand waits)

theorem coherent_goOn (sys : System) (c : Call) (rest : List Command) (result : CommandResult) :
    (sys.goOn c rest result).2.Coherent := by
  intro e under
  unfold goOn at under
  split at under <;> cases under

/-- A call is never on another errand than that of its first command. -/
theorem StepsTo.coherent (steps : StepsTo group sys c log sys' c') (coherent : c.Coherent) :
    c'.Coherent := by
  cases steps with
  | ends row => exact fun _ under => by cases under
  | @waits plan followup rest _ errand row advanced =>
    intro e under
    cases under
    have waits : (sys.advanceErrand c plan).2 = .waiting errand := by rw [advanced]
    exact ⟨plan, followup, rest, row, sent_advanceErrand (coherent.sent row) waits⟩
  | runs row advanced followed => exact coherent_goOn _ _ _ _
  | patient row => exact coherent
  | exits row => exact fun _ under => by cases under
  | performs row prompt performed => exact coherent_goOn _ _ _ _

/-! ## What a command makes of a group -/

theorem startCommands_keeps (sys : System) (entry : PluginEntry) (state : Nat) :
    ∃ engine slots, (sys.startCommands entry state).1 = { sys with engine, slots } := by
  have prepared := prepareSlot_keeps sys entry.transform
  unfold startCommands
  split
  · next found => rwa [found] at prepared
  · next found => rwa [found] at prepared

theorem connect_keeps (sys : System) (source : SourceConfig) :
    ∃ feeds, (sys.connect source).1 = { sys with feeds } := by
  unfold connect
  split
  · exact ⟨_, rfl⟩
  · exact ⟨_, rfl⟩
  · split <;> exact ⟨_, rfl⟩

theorem requestExit_keeps (sys : System) (ticket : Nat) :
    ∃ workers timers ready, sys.requestExit ticket = { sys with workers, timers, ready } := by
  unfold requestExit
  split
  · exact ⟨_, _, _, rfl⟩
  · dsimp only
    split <;> exact ⟨_, _, _, rfl⟩

/-- A command changes the plugins of its group, and of the rest what is said of it. -/
theorem group_perform (found : sys.groups[group]? = some g) (command : Command) :
    ∃ plugins, (sys.perform group command).1.groups[group]? =
      some { g.told command with plugins } := by
  have updated (mid : System) (same : mid.groups = sys.groups) (change : Group → Group) :
      (mid.updateGroup group change).groups[group]? = some (change g) := by
    unfold updateGroup
    rw [List.getElem?_modify_eq, same, found]
    rfl
  have started (mid : System) (same : mid.groups = sys.groups) (entry : PluginEntry) (state : Nat) :
      (mid.startCommands entry state).1.groups[group]? = some g := by
    obtain ⟨engine, slots, kept⟩ := startCommands_keeps mid entry state
    rw [kept, ← found, ← same]
  have asked (mid : System) (ticket : Nat) :
      (mid.requestExit ticket).groups = mid.groups := by
    obtain ⟨workers, timers, ready, kept⟩ := requestExit_keeps mid ticket
    rw [kept]
  have untouched : sys.groups[group]? = some { g with plugins := g.plugins } := found
  unfold perform Group.told
  rw [found]
  dsimp only
  cases command with
  | start name =>
    dsimp only
    split
    · exact ⟨_, untouched⟩
    · split
      · exact ⟨_, untouched⟩
      · exact ⟨_, started sys rfl _ _⟩
  | add entry =>
    have begun := started { sys with states := sys.states ++ [PluginState.notReady] } rfl entry
      sys.states.length
    dsimp only
    split
    · next fails =>
      rw [fails] at begun
      exact ⟨_, begun⟩
    · next goes =>
      rw [goes] at begun
      exact ⟨_, begun⟩
  | launch entry state slot =>
    obtain ⟨feeds, kept⟩ := connect_keeps sys entry.source
    unfold launch
    dsimp only
    split
    · next fails =>
      rw [fails] at kept
      dsimp only at kept
      subst kept
      exact ⟨_, untouched⟩
    · next goes =>
      rw [goes] at kept
      dsimp only at kept
      subst kept
      exact ⟨_, updated _ rfl _⟩
  | stop name timeout =>
    dsimp only
    split
    · exact ⟨_, untouched⟩
    · unfold stopPlugin
      split
      · exact ⟨_, untouched⟩
      · exact ⟨_, updated _ (asked sys _) _⟩
  | dismiss name timeout =>
    dsimp only
    split
    · exact ⟨_, untouched⟩
    · have erased := updated sys rfl fun g => { g with plugins := g.plugins.erase name }
      unfold dismiss
      dsimp only
      split
      · exact ⟨_, erased⟩
      · exact ⟨_, by rw [asked]; exact erased⟩
  | retire name =>
    dsimp only
    split
    · exact ⟨_, untouched⟩
    · exact ⟨_, updated (sys.setState _ .stopped) rfl _⟩
  | assign entry =>
    dsimp only
    split
    · exact ⟨_, untouched⟩
    · exact ⟨_, updated _ rfl _⟩
  | enlist =>
    dsimp only
    split <;> exact ⟨_, untouched⟩
  | delist =>
    dsimp only
    split
    · next none => exact ⟨_, by rw [← none]; exact untouched⟩
    · exact ⟨_, updated _ rfl _⟩
  | settle registered =>
    dsimp only
    split
    · exact ⟨_, updated _ rfl _⟩
    · exact ⟨_, untouched⟩
  | publish | unpublish | adopt config | report status => exact ⟨_, updated _ rfl _⟩
  | claim name path | release name | releaseAll | refresh entry timeout | run plan followup
  | awaitExit ticket deadline => exact ⟨_, untouched⟩

/-- Of the stores a command changes claims at most. -/
theorem claiming_perform (sys : System) (group : Nat) (command : Command) :
    (sys.perform group command).1.stores = sys.stores ∨
      ∃ change, Store.Claiming change ∧
        (sys.perform group command).1 = sys.updateStore pluginStore change := by
  have asked (mid : System) (ticket : Nat) :
      (mid.requestExit ticket).stores = mid.stores := by
    obtain ⟨workers, timers, ready, kept⟩ := requestExit_keeps mid ticket
    rw [kept]
  have started (mid : System) (entry : PluginEntry) (state : Nat) :
      (mid.startCommands entry state).1.stores = mid.stores := by
    obtain ⟨engine, slots, kept⟩ := startCommands_keeps mid entry state
    rw [kept]
  unfold perform
  split
  · exact .inl rfl
  · cases command with
    | claim name path => exact .inr ⟨_, .claim name path, rfl⟩
    | release name => exact .inr ⟨_, .release name, rfl⟩
    | releaseAll => exact .inr ⟨_, .releaseAll, rfl⟩
    | start name =>
      dsimp only
      split
      · exact .inl rfl
      · split
        · exact .inl rfl
        · exact .inl (started sys _ _)
    | add entry =>
      have begun := started { sys with states := sys.states ++ [PluginState.notReady] } entry
        sys.states.length
      dsimp only
      split
      · next fails =>
        rw [fails] at begun
        exact .inl begun
      · next goes =>
        rw [goes] at begun
        exact .inl begun
    | launch entry state slot =>
      obtain ⟨feeds, kept⟩ := connect_keeps sys entry.source
      unfold launch
      dsimp only
      split
      · next fails =>
        rw [fails] at kept
        dsimp only at kept
        subst kept
        exact .inl rfl
      · next goes =>
        rw [goes] at kept
        dsimp only at kept
        subst kept
        exact .inl rfl
    | stop name timeout =>
      dsimp only
      split
      · exact .inl rfl
      · unfold stopPlugin
        split
        · exact .inl rfl
        · exact .inl (asked sys _)
    | dismiss name timeout =>
      dsimp only
      split
      · exact .inl rfl
      · unfold dismiss
        dsimp only
        split
        · exact .inl rfl
        · exact .inl (asked _ _)
    | retire name | assign entry | enlist | delist | settle registered =>
      dsimp only
      split <;> exact .inl rfl
    | _ => exact .inl rfl

theorem stores_perform (sys : System) (group : Nat) (command : Command) :
    (sys.perform group command).1.stores = sys.stores ∨
      ∃ change : Store → Store, (∀ s, ∃ claims, change s = { s with claims }) ∧
        (sys.perform group command).1 = sys.updateStore pluginStore change := by
  rcases claiming_perform sys group command with same | ⟨change, claiming, same⟩
  · exact .inl same
  · exact .inr ⟨change, fun s => by cases claiming <;> exact ⟨_, rfl⟩, same⟩

theorem group_follow (found : sys.groups[group]? = some g) (followup : Followup)
    (result : Except Refusal Outcome) :
    (sys.follow group followup result).1.groups[group]? = some (g.followed followup result) := by
  have updated (change : Group → Group) :
      (sys.updateGroup group change).groups[group]? = some (change g) :=
    (group_updateGroup found group change).trans (by rw [if_pos rfl])
  unfold follow Group.followed
  cases followup with
  | checkOverlaps =>
    cases result <;> exact updated _
  | keepHandle =>
    cases result with
    | ok outcome =>
      cases outcome with
      | handle handle => exact updated _
      | _ => exact found
    | error refusal => split <;> first | exact found | contradiction
  | nothing =>
    cases result with
    | ok outcome => exact found
    | error refusal => split <;> first | exact found | contradiction

/-- What follows an errand changes no store. -/
theorem stores_follow (sys : System) (group : Nat) (followup : Followup)
    (result : Except Refusal Outcome) :
    (sys.follow group followup result).1.stores = sys.stores := by
  unfold follow
  split <;> rfl

/-- An errand that went well leaves nothing to do, and so does a look for overlaps in any case. -/
theorem follow_sure {followup : Followup} {result : Except Refusal Outcome}
    (either : followup = .checkOverlaps ∨ ∃ outcome, result = .ok outcome) (group : Nat) :
    (sys.follow group followup result).2 = .ok [] := by
  unfold follow
  rcases either with rfl | ⟨outcome, rfl⟩
  · cases result <;> rfl
  · split <;> first | rfl | contradiction

/-- A failure is reported as the status of the group. -/
theorem group_reported (found : sys.groups[group]? = some g) (place : c.group = group)
    (result : Except PluginError Unit) : (sys.reported c result).groups[group]? =
      some { g with status := (c.report result).getD g.status } := by
  unfold reported
  cases c.report result with
  | none => exact found
  | some status => exact (group_updateGroup found c.group _).trans (by rw [if_pos place]; rfl)

theorem stores_reported (sys : System) (c : Call) (result : Except PluginError Unit) :
    (sys.reported c result).stores = sys.stores := by
  unfold reported
  split <;> rfl

/-! ## Workers -/

theorem onErrands_of_eq (errands : sys.OnErrands) (same : sys'.workers = sys.workers) :
    sys'.OnErrands := by
  unfold OnErrands
  rwa [same]

theorem onErrands_requestExit (errands : sys.OnErrands) (ticket : Nat) :
    (sys.requestExit ticket).OnErrands := by
  unfold requestExit
  split
  · exact errands
  · next w found =>
    have fits : OnErrand { w with exit := true }.phase :=
      errands w (List.mem_of_find?_eq_some found)
    have asked := (turns_putWorker fits).errands errands
    dsimp only
    split
    · exact onErrands_of_eq asked rfl
    · exact asked

/-- A worker that is brought up is due for its first tick. -/
theorem onErrands_launch (errands : sys.OnErrands) (group : Nat) (entry : PluginEntry) (state : Nat)
    (slot : Option Nat) : (sys.launch group entry state slot).1.OnErrands := by
  have connected : (sys.connect entry.source).1.workers = sys.workers := by
    obtain ⟨feeds, kept⟩ := connect_keeps sys entry.source
    rw [kept]
  unfold launch
  split
  · next found =>
    rw [found] at connected
    exact onErrands_of_eq errands connected
  · next found =>
    rw [found] at connected
    intro w present
    rcases List.mem_append.1 present with before | new
    · rw [show _ = _ from connected] at before
      exact errands w before
    · rw [List.mem_singleton.1 new]
      trivial

theorem onErrands_perform (errands : sys.OnErrands) (group : Nat) (command : Command) :
    (sys.perform group command).1.OnErrands := by
  have started (mid : System) (entry : PluginEntry) (state : Nat) :
      (mid.startCommands entry state).1.workers = mid.workers := by
    obtain ⟨engine, slots, kept⟩ := startCommands_keeps mid entry state
    rw [kept]
  unfold perform
  split
  · exact errands
  · cases command with
    | start name =>
      dsimp only
      split
      · exact errands
      · split
        · exact errands
        · exact onErrands_of_eq errands (started sys _ _)
    | add entry =>
      have same := started
        { sys with states := sys.states ++ [PluginState.notReady] } entry sys.states.length
      dsimp only
      split
      · next found =>
        rw [found] at same
        exact onErrands_of_eq errands same
      · next found =>
        rw [found] at same
        exact onErrands_of_eq errands same
    | launch entry state slot => exact onErrands_launch errands group entry state slot
    | stop name timeout =>
      dsimp only
      split
      · exact errands
      · unfold stopPlugin
        split
        · exact errands
        · exact onErrands_of_eq (onErrands_requestExit errands _) rfl
    | dismiss name timeout =>
      dsimp only
      split
      · exact errands
      · unfold dismiss
        dsimp only
        split
        · exact onErrands_of_eq errands rfl
        · have erased : (sys.updateGroup group fun g =>
              { g with plugins := g.plugins.erase name }).OnErrands := errands
          exact onErrands_requestExit erased _
    | enlist | settle registered =>
      dsimp only
      split <;> exact onErrands_of_eq errands rfl
    | delist | retire name | assign entry =>
      dsimp only
      split <;> exact onErrands_of_eq errands rfl
    | _ => exact onErrands_of_eq errands rfl

theorem workers_reported (sys : System) (c : Call) (result : Except PluginError Unit) :
    (sys.reported c result).workers = sys.workers := by
  unfold reported
  split <;> rfl

theorem onErrands_goOn (errands : sys.OnErrands) (c : Call) (rest : List Command)
    (result : CommandResult) : (sys.goOn c rest result).1.OnErrands := by
  cases result with
  | error e => exact onErrands_of_eq errands (workers_reported sys c _)
  | ok first => exact errands

theorem workers_advanceErrand (sys : System) (c : Call) (plan : Plan) :
    (sys.advanceErrand c plan).1.workers = sys.workers := by
  unfold advanceErrand
  split
  · exact workers_pollErrand sys _
  · unfold beginErrand
    exact workers_pollErrand _ _

theorem workers_follow (sys : System) (group : Nat) (followup : Followup)
    (result : Except Refusal Outcome) : (sys.follow group followup result).1.workers = sys.workers := by
  unfold follow
  split <;> rfl

/-- A call sends no worker on an errand. -/
theorem onErrands_stepCall (errands : sys.OnErrands) (c : Call) : (sys.stepCall c).1.OnErrands := by
  have steps := stepsTo_stepCall 0 sys c
  revert steps
  generalize noticedBy 0 sys c = log, (sys.stepCall c).1 = sys', (sys.stepCall c).2 = c'
  intro steps
  cases steps with
  | ends | patient | exits => exact errands
  | @waits plan _ _ _ _ row advanced =>
    have same := workers_advanceErrand sys c plan
    rw [advanced] at same
    exact onErrands_of_eq errands same
  | @runs plan followup _ mid _ result _ row advanced followed =>
    have same := workers_advanceErrand sys c plan
    have after := workers_follow mid c.group followup result
    rw [advanced] at same
    rw [followed] at after
    exact onErrands_goOn (onErrands_of_eq errands (after.trans same)) c _ _
  | @performs command _ _ _ row prompt performed =>
    have done := onErrands_perform errands c.group command
    rw [performed] at done
    exact onErrands_goOn done _ _ _

end System

end DocStore
