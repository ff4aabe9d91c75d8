import DocStore.System.Clock

/-!
# Calls of a group

A group of plugins is started, stopped and reconfigured by calls. A call is a row of commands that
are carried out one after the other; some of them put further commands in front of the rest. It
waits where an errand has to wait for a lock, and where a worker takes time to finish. When a
command fails, the rest is dropped and the failure is reported.

* A plugin starts by preparing its transform, making sure that its path exists, and setting up its
  source; only then is there a worker.
* A reconfiguration stops the plugins that are gone and removes what they stored, before it looks at
  those that are new or changed.

What follows an errand is one step with its end. So no commit comes between reading the records of the
bundles and checking the plugins against them, as one could with threads that run side by side.
-/

namespace DocStore

namespace Command

/-- How many commands a command can come to, itself included. -/
def weight : Command → Nat
  | .start _ => 3
  | .add _ => 4
  | .stop .. => 3
  | .dismiss .. => 2
  | .refresh .. => 9
  | .enlist => 2
  | .delist => 2
  | _ => 1

/-- How long the waits of a command can take together. -/
def patience : Command → Nat
  | .stop _ timeout => timeout
  | .dismiss _ timeout => timeout
  | .refresh _ timeout => timeout
  | _ => 0

end Command

namespace Group

/-- The plugins that run, as their watch sees them. -/
def running (g : Group) : Dict ActivePlugin :=
  g.plugins.filterMap fun (name, p) =>
    if p.worker.isSome then some (name, ⟨p.entry.path, p.slot⟩) else none

/-- The group of a configuration, with nothing started. Its plugins' states are those from `first`
on. -/
def ofConfig (config : PluginConfig) (first stopTimeout : Nat) : Group :=
  { config
    plugins := config.mapIdx fun i (name, entry) => (name, ⟨entry, first + i, none, none⟩)
    active := [], overlap := none, status := ⟨.notReady, none⟩, trigger := none, stopTimeout }

/-- The commands that start every plugin. -/
def startAgenda (g : Group) : List Command :=
  (g.plugins.flatMap fun (name, p) => [.start name, .claim name p.entry.path])
    ++ [.publish, .enlist, .settle false, .run (.read Bundle.recordsPath) .checkOverlaps]

/-- The commands that stop every plugin. -/
def stopAgenda (g : Group) (timeout : Nat) : List Command :=
  (g.plugins.map fun (name, _) => .stop name timeout)
    ++ [.releaseAll, .unpublish, .delist, .report ⟨.notReady, none⟩]

/-- The plugins that a configuration does not name. -/
def removedBy (g : Group) (next : PluginConfig) : List (String × Plugin) :=
  g.plugins.filter fun (name, _) => !next.contains name

/-- The commands that lead from the present configuration to the next. -/
def reconfigureAgenda (g : Group) (next : PluginConfig) : List Command :=
  let removed := g.removedBy next
  let paths := removed.map fun (_, p) => p.entry.path
  (removed.map fun (name, _) => .dismiss name g.stopTimeout)
    ++ [.publish]
    ++ (if paths.isEmpty then [] else [.run (.removeAll paths) .nothing])
    ++ (removed.map fun (name, _) => .release name)
    ++ (next.map fun (_, entry) => .refresh entry g.stopTimeout)
    ++ [.adopt next, .publish, .settle true, .run (.read Bundle.recordsPath) .checkOverlaps]

end Group

namespace System

/-! ## Starting a plugin -/

/-- The slot of a plugin that is being started, its rule prepared. -/
def prepareSlot (sys : System) (rule : Option RuleRef) :
    System × Except PluginError (Option Nat) :=
  match rule with
  | none => (sys, .ok none)
  | some rule =>
    match sys.engine.prepare rule with
    | .error e => (sys, .error e)
    | .ok (engine, transform) =>
      ({ sys with engine, slots := sys.slots ++ [⟨rule, some transform⟩] },
        .ok (some sys.slots.length))

/-- Set up the source of an entry. -/
def connect (sys : System) : SourceConfig → System × Except PluginError Source
  | .file config => (sys, .ok (.file (.new config)))
  | .http config => (sys, .ok (.http (.new config)))
  | .feed config =>
    if config.broken then (sys, .error (.fetch (.other "cannot connect")))
    else
      let feed := (sys.feeds.find? config.feed).getD .empty
      ({ sys with feeds := sys.feeds.insert config.feed feed.connect }, .ok (.feed config))

/-- A worker for a plugin, its first tick due at once. -/
def spawn (sys : System) (entry : PluginEntry) (state : Nat) (slot : Option Nat)
    (source : Source) : System × Nat :=
  let (sys, ticket) := sys.takeTicket
  let worker : Worker :=
    { ticket, path := entry.path, interval := entry.interval.toMillisUp, state, slot, source
      exit := false, phase := .due }
  ({ sys with workers := sys.workers ++ [worker], ready := sys.ready ++ [ticket] }, ticket)

/-! ## Commands -/

/-- What a command comes to: further commands, or a failure. -/
abbrev CommandResult := Except PluginError (List Command)

/-- The commands that start a plugin once its rule is prepared. -/
def startCommands (sys : System) (entry : PluginEntry) (state : Nat) :
    System × CommandResult :=
  match sys.prepareSlot entry.transform with
  | (sys, .error e) => (sys, .error e)
  | (sys, .ok slot) => (sys, .ok [.run (.ensure entry.path) .nothing, .launch entry state slot])

/-- Bring up the worker of a plugin and hold the plugin as running. -/
def launch (sys : System) (group : Nat) (entry : PluginEntry) (state : Nat) (slot : Option Nat) :
    System × CommandResult :=
  match sys.connect entry.source with
  | (sys, .error e) => (sys, .error e)
  | (sys, .ok source) =>
    let (sys, ticket) := sys.spawn entry state slot source
    (sys.updateGroup group fun g =>
      { g with plugins := g.plugins.insert entry.name ⟨entry, state, slot, some ticket⟩ }, .ok [])

/-- Ask the worker of a held plugin to finish; from now on the plugin does not run. -/
def stopPlugin (sys : System) (group : Nat) (name : String) (p : Plugin) (timeout : Nat) :
    System × CommandResult :=
  match p.worker with
  | none => (sys, .ok [])
  | some ticket =>
    let sys := sys.requestExit ticket
    (sys.updateGroup group fun g =>
      { g with plugins := g.plugins.insert name { p with worker := none } },
      .ok [.awaitExit ticket (sys.timeAfter timeout), .retire name])

/-- Take a plugin out of its group and ask its worker to finish. -/
def dismiss (sys : System) (group : Nat) (name : String) (p : Plugin) (timeout : Nat) :
    System × CommandResult :=
  let sys := sys.updateGroup group fun g => { g with plugins := g.plugins.erase name }
  match p.worker with
  | none => (sys, .ok [])
  | some ticket => (sys.requestExit ticket, .ok [.awaitExit ticket (sys.timeAfter timeout)])

/-- The plugin has stopped, whatever its worker still does. -/
def retire (sys : System) (group : Nat) (name : String) (p : Plugin) : System :=
  (sys.setState p.state .stopped).updateGroup group fun g =>
    { g with plugins := g.plugins.insert name { p with slot := none } }

/-- The commands that bring a plugin in line with its next entry. -/
def refreshCommands (held : Option Plugin) (entry : PluginEntry) (timeout : Nat) : List Command :=
  match held with
  | none => [.add entry]
  | some p =>
    if p.entry.sameAs entry then []
    else
      let restart := if p.worker.isSome then [.start entry.name] else []
      [.stop entry.name timeout, .assign entry] ++ restart

/-- Carry out a command of a call that does not have to wait. -/
def perform (sys : System) (group : Nat) (command : Command) : System × CommandResult :=
  match sys.groups[group]? with
  | none => (sys, .ok [])
  | some g =>
    match command with
    | .start name =>
      match g.plugins.find? name with
      | none => (sys, .ok [])
      | some p => if p.worker.isSome then (sys, .ok []) else sys.startCommands p.entry p.state
    | .add entry =>
      let state := sys.states.length
      let sys := { sys with states := sys.states ++ [PluginState.notReady] }
      match sys.startCommands entry state with
      | (sys, .error e) => (sys, .error e)
      | (sys, .ok commands) => (sys, .ok (commands ++ [Command.claim entry.name entry.path]))
    | .launch entry state slot => sys.launch group entry state slot
    | .claim name path => (sys.updateStore pluginStore (·.claim name path), .ok [])
    | .release name => (sys.updateStore pluginStore (·.release name), .ok [])
    | .releaseAll => (sys.updateStore pluginStore (·.releaseAll), .ok [])
    | .publish => (sys.updateGroup group fun g => { g with active := g.running }, .ok [])
    | .unpublish =>
      (sys.updateGroup group fun g => { g with active := [], overlap := none }, .ok [])
    | .enlist =>
      if g.trigger.isSome then (sys, .ok [])
      else (sys, .ok [.run (.register (.overlapWatch group)) .keepHandle])
    | .delist =>
      match g.trigger with
      | none => (sys, .ok [])
      | some handle =>
        (sys.updateGroup group fun g => { g with trigger := none },
          .ok [.run (.unregister handle) .nothing])
    | .stop name timeout =>
      match g.plugins.find? name with
      | none => (sys, .ok [])
      | some p => sys.stopPlugin group name p timeout
    | .dismiss name timeout =>
      match g.plugins.find? name with
      | none => (sys, .ok [])
      | some p => sys.dismiss group name p timeout
    | .retire name =>
      match g.plugins.find? name with
      | none => (sys, .ok [])
      | some p => (sys.retire group name p, .ok [])
    | .refresh entry timeout =>
      (sys, .ok (refreshCommands (g.plugins.find? entry.name) entry timeout))
    | .assign entry =>
      match g.plugins.find? entry.name with
      | none => (sys, .ok [])
      | some p =>
        (sys.updateGroup group fun g =>
          { g with plugins := g.plugins.insert entry.name { p with entry } }, .ok [])
    | .adopt config => (sys.updateGroup group fun g => { g with config }, .ok [])
    | .settle registered =>
      if g.overlap.isNone && (!registered || g.trigger.isSome) then
        (sys.updateGroup group fun g => { g with status := ⟨.ok, none⟩ }, .ok [])
      else (sys, .ok [])
    | .report status => (sys.updateGroup group fun g => { g with status }, .ok [])
    | .run .. => (sys, .ok [])
    | .awaitExit .. => (sys, .ok [])

/-! ## Calls -/

/-- The roots of all bundles, from what was read of their records. -/
def rootsOf : Outcome → Dict (List Path)
  | .value v => Bundle.rootsOf v
  | _ => []

/-- What follows an errand that is over. No commit comes between the two. -/
def follow (sys : System) (group : Nat) (followup : Followup) (result : Except Refusal Outcome) :
    System × CommandResult :=
  match followup, result with
  | .checkOverlaps, .ok outcome => (sys.updateGroup group (·.check (rootsOf outcome)), .ok [])
  | .checkOverlaps, .error _ => (sys.updateGroup group (·.check []), .ok [])
  | .keepHandle, .ok (.handle handle) =>
    (sys.updateGroup group fun g => { g with trigger := some handle }, .ok [])
  | _, .ok _ => (sys, .ok [])
  | _, .error (.store e) => (sys, .error (.store e))
  | _, .error (.bundle (.store e)) => (sys, .error (.store e))
  | _, .error (.bundle _) => (sys, .ok [])

/-- The report on a call that failed. -/
def failureReport (c : Call) (e : PluginError) : Option Status :=
  match c.purpose, c.starting with
  | .start, some name =>
    some ⟨.error, some ("data plugin \"" ++ name ++ "\" failed to start: " ++ e.message)⟩
  | .reconfigure, _ => some ⟨.error, some ("reconfiguration failed: " ++ e.message)⟩
  | _, _ => none

/-- End a call. -/
def finishCall (sys : System) (c : Call) (result : Except PluginError Unit) : System :=
  let sys := match result with
    | .ok () => sys
    | .error e =>
      match failureReport c e with
      | some status => sys.updateGroup c.group fun g => { g with status }
      | none => sys
  { sys with call := some { c with agenda := [], errand := none, result := some result } }

/-- The plugin that a command is about to start. -/
def startingAfter (c : Call) (command : Command) : Option String :=
  match command with
  | .start name => some name
  | .publish => none
  | _ => c.starting

/-- Go on with an errand of a call, or set out on it. -/
def advanceErrand (sys : System) (c : Call) (plan : Plan) : System × Progress :=
  match c.errand with
  | some errand => sys.pollErrand errand
  | none =>
    let (sys, ticket) := sys.takeTicket
    sys.beginErrand pluginStore ticket plan

/-- Carry out commands until the call is over or has to wait, one for each unit of fuel. -/
def pollCallWith : Nat → System → Call → System
  | 0, sys, c => { sys with call := some c }
  | fuel + 1, sys, c =>
    match c.agenda with
    | [] => sys.finishCall c (.ok ())
    | command :: rest =>
      let c := { c with starting := startingAfter c command }
      let go (sys : System) (result : CommandResult) : System :=
        match result with
        | .error e => sys.finishCall c (.error e)
        | .ok first => pollCallWith fuel sys { c with agenda := first ++ rest, errand := none }
      match command with
      | .run plan followup =>
        match sys.advanceErrand c plan with
        | (sys, .waiting errand) => { sys with call := some { c with errand := some errand } }
        | (sys, .finished result) =>
          let (sys, result) := sys.follow c.group followup result
          go sys result
      | .awaitExit ticket deadline =>
        -- Whether the worker has finished or not, nobody waits for it any longer than this.
        if sys.isFinished ticket || deadline ≤ sys.now then go sys (.ok [])
        else { sys with call := some c }
      | command =>
        let (sys, result) := sys.perform c.group command
        go sys result

/-- Go on with a call as far as possible. -/
def pollCall (sys : System) : System :=
  match sys.call with
  | none => sys
  | some c =>
    if c.result.isSome then sys
    else pollCallWith ((c.agenda.map Command.weight).foldl (· + ·) 0 + 1) sys c

/-- The call is over, or there is none. -/
def callIsOver (sys : System) : Bool :=
  match sys.call with
  | some c => c.result.isSome
  | none => true

/-- When a call stops waiting for a worker. -/
def deadline? (sys : System) : Option Nat :=
  match sys.call with
  | some c =>
    match c.agenda with
    | .awaitExit _ deadline :: _ => some deadline
    | _ => none
  | none => none

/-- Let workers go on and time pass until the call is over, or waits for a lock that no worker
holds. Workers and time spend one unit of fuel each turn. At a deadline the call is served before
the workers. -/
def runCallWith : Nat → System → System
  | 0, sys => sys
  | fuel + 1, sys =>
    let sys := sys.pollCall
    if sys.callIsOver then sys
    else if !sys.ready.isEmpty then runCallWith fuel sys.drain
    else
      match sys.deadline? with
      | none => sys
      | some deadline =>
        let next := match sys.nextDue? with
          | some due => min due deadline
          | none => deadline
        runCallWith fuel (sys.moveTo next)

/-- Make a call and see it through. -/
def makeCall (sys : System) (group : Nat) (purpose : Purpose) (agenda : List Command) : System :=
  let patience := (agenda.map Command.patience).foldl (· + ·) 0
  let weight := (agenda.map Command.weight).foldl (· + ·) 0
  runCallWith (2 * (patience + weight) + 4)
    { sys with
      call := some { group, purpose, agenda, errand := none, starting := none, result := none } }

end System

end DocStore
