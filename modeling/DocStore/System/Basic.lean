import DocStore.Plugin.Config
import DocStore.Plugin.Status
import DocStore.Plugin.Transform
import DocStore.System.Errand

/-!
# The running system

Stores, data plugins and a clock. What runs by itself is a worker: one for each started plugin, it
fetches a batch, stores it, and sleeps until its next tick. Plugins are held by a group, which
starts, stops and reconfigures them in calls.

Everything that can be waited for has a ticket: a lock is asked for under a ticket, and a worker is
called by its ticket. Time is counted in milliseconds and passes only when the system is told so.
-/

namespace DocStore

/-! ## Plugins -/

/-- What a plugin is doing. -/
inductive PluginState
  | notReady
  | polling
  | fetching
  | transforming
  | ingesting
  | draining
  | stopped
deriving DecidableEq, Repr, Inhabited

def PluginState.text : PluginState → String
  | .notReady => "not_ready"
  | .polling => "polling"
  | .fetching => "fetching"
  | .transforming => "transforming"
  | .ingesting => "ingesting"
  | .draining => "draining"
  | .stopped => "stopped"

/-- A rule, and the transform prepared from it that is still good. -/
structure TransformSlot where
  rule : RuleRef
  prepared : Option Transform

/-- Where a worker fetches from. -/
inductive Source
  | file (source : FileSource)
  | http (source : HttpSource)
  | feed (config : FeedConfig)
deriving DecidableEq, Repr

/-- What a worker is in the middle of. -/
inductive WorkerPhase
  /-- Its next tick is due. -/
  | due
  /-- A fetch takes a while; then it comes to this. -/
  | fetching (item : FeedItem)
  /-- Files are being read. -/
  | loading
  /-- A batch is to be transformed; what is stored so far is being read. -/
  | reading (batch : Value) (errand : Errand)
  | ingesting (errand : Errand)
  /-- It has its turn, so nothing has to call it. -/
  | running
  | sleeping
  | finished
deriving DecidableEq, Repr

/-- A worker. Its plugin and its transform are named by their places in the rows of states and
slots; `exit` says that it was asked to finish, which it heeds between two ticks. -/
structure Worker where
  ticket : Nat
  path : Path
  interval : Nat
  state : Nat
  slot : Option Nat
  source : Source
  exit : Bool
  phase : WorkerPhase
deriving DecidableEq, Repr

/-- A plugin held by a group; `worker` is there while it runs. -/
structure Plugin where
  entry : PluginEntry
  state : Nat
  slot : Option Nat
  worker : Option Nat
deriving DecidableEq, Repr

/-! ## Groups -/

/-- What the watch of a group knows about a running plugin. -/
structure ActivePlugin where
  path : Path
  slot : Option Nat
deriving DecidableEq, Repr

/-- A group of plugins. `active` and `overlap` are what its watch works with, and `overlap` is the
message reported at present. -/
structure Group where
  config : PluginConfig
  plugins : Dict Plugin
  active : Dict ActivePlugin
  overlap : Option String
  status : Status
  trigger : Option TriggerHandle
  stopTimeout : Nat
deriving DecidableEq, Repr

/-- The component as which a group reports. -/
def Group.component : String := "data"

/-- How long a plugin may take to stop when nothing else is said. -/
def Group.defaultStopTimeout : Nat := 10000

/-- What follows an errand in a call. -/
inductive Followup
  | nothing
  | keepHandle
  | checkOverlaps
deriving DecidableEq, Repr

/-- One command of a call. -/
inductive Command
  /-- Start the held plugin of this name, unless it runs. -/
  | start (name : String)
  /-- Start a plugin that is held once it runs. -/
  | add (entry : PluginEntry)
  /-- Bring up the worker of a plugin whose path is there. -/
  | launch (entry : PluginEntry) (state : Nat) (slot : Option Nat)
  | claim (name : String) (path : Path)
  | release (name : String)
  | releaseAll
  /-- Tell the watch which plugins run. -/
  | publish
  /-- Tell the watch that none runs. -/
  | unpublish
  /-- Register the watch, unless it is. -/
  | enlist
  /-- Unregister the watch, if it is registered. -/
  | delist
  | run (plan : Plan) (followup : Followup)
  /-- Ask the worker of a held plugin to finish, and wait for it. -/
  | stop (name : String) (timeout : Nat)
  /-- Take a plugin out of the group, and stop it. -/
  | dismiss (name : String) (timeout : Nat)
  | awaitExit (ticket : Nat) (deadline : Nat)
  /-- The held plugin of this name has stopped. -/
  | retire (name : String)
  /-- Give the entry to the plugin of its name, which restarts if it ran with another one. -/
  | refresh (entry : PluginEntry) (timeout : Nat)
  | assign (entry : PluginEntry)
  | adopt (config : PluginConfig)
  /-- Report that all is well, unless an overlap is reported; `registered` asks for the watch to be
  registered too. -/
  | settle (registered : Bool)
  | report (status : Status)
deriving DecidableEq, Repr

/-- What a call is for. -/
inductive Purpose
  | start
  | stop
  | reconfigure
deriving DecidableEq, Repr

/-- A call of a group under way: the commands still to be carried out, the errand that the first of
them is on, the plugin being started, and the result once there is one. -/
structure Call where
  group : Nat
  purpose : Purpose
  agenda : List Command
  errand : Option Errand
  starting : Option String
  result : Option (Except PluginError Unit)

/-! ## The system -/

/-- What a trigger is told on a commit: the contents just committed, and the changes. -/
structure Delivery where
  store : Nat
  listener : Listener
  contents : Contents
  announcement : Announcement
deriving DecidableEq, Repr

/-- A timer that calls a worker. -/
structure Timer where
  due : Nat
  ticket : Nat
deriving DecidableEq, Repr

/-- Everything that runs: stores, workers and groups, and the time. -/
structure System where
  now : Nat
  stores : List Store
  nextTicket : Nat
  /-- Workers that can go on, first come first. -/
  ready : List Nat
  timers : List Timer
  workers : List Worker
  states : List PluginState
  slots : List TransformSlot
  engine : Engine
  feeds : Dict Feed
  files : FileTree
  groups : List Group
  call : Option Call
  /-- What the probes among the triggers were told since this was last cleared. -/
  deliveries : List Delivery

namespace System

/-- The place in the row of stores of the store that plugins work with. -/
def pluginStore : Nat := 0

/-- Stores with the given trees, and nothing else. -/
def new (trees : List Value) (engine : Engine) (files : FileTree) : System :=
  { now := 0
    stores := (List.range trees.length).zipWith (fun (i : Nat) tree => Store.new (i + 1) tree) trees
    nextTicket := 1, ready := [], timers := [], workers := [], states := [], slots := []
    engine, feeds := [], files, groups := [], call := none, deliveries := [] }

/-- The store at a place of the row. -/
def store? (sys : System) (place : Nat) : Option Store := sys.stores[place]?

/-- A store of the row. A place outside the row has one without contents. -/
def storeAt (sys : System) (place : Nat) : Store := (sys.stores[place]?).getD (.new 0 .empty)

/-- The worker with a ticket. -/
def worker? (sys : System) (ticket : Nat) : Option Worker :=
  sys.workers.find? (·.ticket = ticket)

/-- The worker is done, or there is none. -/
def isFinished (sys : System) (ticket : Nat) : Bool :=
  match sys.worker? ticket with
  | some w => w.phase = .finished
  | none => true

/-- The worker waits for a lock. -/
def awaitsLock (sys : System) (ticket : Nat) : Bool :=
  match sys.worker? ticket with
  | some w =>
    match w.phase with
    | .reading .. | .ingesting .. => true
    | _ => false
  | none => false

/-- Put a worker back in its place. -/
def putWorker (sys : System) (w : Worker) : System :=
  { sys with workers := sys.workers.map fun other => if other.ticket = w.ticket then w else other }

/-- Say what the plugin at a place of the row of states is doing. -/
def setState (sys : System) (place : Nat) (state : PluginState) : System :=
  { sys with states := sys.states.set place state }

/-- A ticket that nobody has had before. -/
def takeTicket (sys : System) : System × Nat :=
  ({ sys with nextTicket := sys.nextTicket + 1 }, sys.nextTicket)

/-- The longest time that is waited for, in milliseconds: thirty years of 365 days. -/
def longestWait : Nat := 30 * 365 * 86400 * 1000

/-- The time when a delay is over. -/
def timeAfter (sys : System) (delay : Nat) : Nat := sys.now + min delay longestWait

/-- Call a worker when the given time has passed. -/
def setTimer (sys : System) (delay ticket : Nat) : System :=
  { sys with timers := sys.timers ++ [⟨sys.timeAfter delay, ticket⟩] }

/-- Change a store. Workers that are admitted by that can go on. -/
def updateStore (sys : System) (place : Nat) (change : Store → Store) : System :=
  let before := sys.storeAt place
  let after := change before
  let admitted := FairLock.admitted before.state after.state
    ++ FairLock.admitted before.writer after.writer
  { sys with
    stores := sys.stores.set place after
    ready := sys.ready ++ admitted.filter sys.awaitsLock }

/-- Change a group. -/
def updateGroup (sys : System) (place : Nat) (change : Group → Group) : System :=
  { sys with groups := sys.groups.modify place change }

end System

end DocStore
