import DocStore.Store.Truncate
import DocStore.System.Call

/-!
# Sessions

A session works with a running system step by step. It gives names to its transactions and to the
triggers that it registers, and keeps a queue of the jobs that have to wait for a lock.

* A job is tried when its step is made, and again whenever the queue is passed over.
* The queue is passed over from the oldest job to the newest, again and again until nothing more can
  be finished: after each step, and once more after the millisecond that follows it.
-/

namespace DocStore

/-- What waits in the queue: the begin of a transaction, a commit, or an errand. -/
inductive Job
  | opening (name : String) (store ticket : Nat) (write : Bool)
  | committing (store : Nat) (transaction : Transaction)
  | errand (errand : Errand)
deriving DecidableEq, Repr

/-- What comes of a job. -/
inductive JobResult
  | opened (transaction : Transaction)
  | committed
  | errand (result : Except Refusal Outcome)

/-- Why a step cannot be made at all. -/
inductive BadStep
  | noSuchStore
  | noSuchTransaction
  | noSuchHandle
  | nameInUse
  | noPlugins
  | noEngine
deriving DecidableEq, Repr

def BadStep.message : BadStep → String
  | .noSuchStore => "no such store"
  | .noSuchTransaction => "no such transaction"
  | .noSuchHandle => "no such handle"
  | .nameInUse => "transaction name in use"
  | .noPlugins => "no plugins"
  | .noEngine => "no engine"

/-- A session: its system, the open transactions and the trigger handles by name, and the queue with
the steps that started its jobs. -/
structure Session where
  system : System
  transactions : Dict Transaction
  handles : Dict TriggerHandle
  queue : List (Nat × Job)

/-- What a step of a session gives, and the session after it. -/
abbrev Stepped (α : Type) := Session × α

namespace Session

def new (system : System) : Session := ⟨system, [], [], []⟩

/-- The place of a store in the row of stores, if it is there. -/
def storePlace (s : Session) (place : Nat) : Except BadStep Nat :=
  if place < s.system.stores.length then .ok place else .error .noSuchStore

def transaction (s : Session) (name : String) : Except BadStep Transaction :=
  match s.transactions.find? name with
  | some t => .ok t
  | none => .error .noSuchTransaction

/-- The place of the store that a transaction belongs to. -/
def homeOf (s : Session) (t : Transaction) : Nat :=
  s.system.stores.findIdx (·.id = t.store)

/-- Give up a transaction and its name. -/
def drop (s : Session) (name : String) (t : Transaction) : Session :=
  { s with
    system := s.system.updateStore (s.homeOf t) (·.close t)
    transactions := s.transactions.erase name }

/-! ## Jobs -/

/-- What a job does, as far as it can: its result, or what is left to wait for. A transaction that
is admitted under a name in use takes the place of the former one, which is given up. -/
def runJob (s : Session) (job : Job) : Session × Except Job JobResult :=
  match job with
  | .opening name place ticket write =>
    let store := s.system.storeAt place
    let lock := if write then store.writer else store.state
    if lock.isHeldBy ticket then
      let (store, t) := if write then store.openWrite ticket else store.openRead ticket
      let s := { s with system := s.system.updateStore place fun _ => store }
      let s := match s.transactions.find? name with
        | some former => s.drop name former
        | none => s
      ({ s with transactions := s.transactions.insert name t }, .ok (.opened t))
    else (s, .error job)
  | .committing place t =>
    if (s.system.storeAt place).state.isHeldBy t.ticket then
      ({ s with system := s.system.commit place t }, .ok .committed)
    else (s, .error job)
  | .errand e =>
    let (system, progress) := s.system.pollErrand e
    match progress with
    | .waiting e => ({ s with system }, .error (.errand e))
    | .finished result => ({ s with system }, .ok (.errand result))

/-- Try a new job of the step with the given number. One that has to wait goes to the queue. -/
def tryJob (s : Session) (step : Nat) (job : Job) : Session × Option JobResult :=
  match s.runJob job with
  | (s, .ok result) => (s, some result)
  | (s, .error job) => ({ s with queue := s.queue ++ [(step, job)] }, none)

/-- Pass over jobs in order. Gives those that are left and, of the others, the results by step. -/
def passJobs (s : Session) : List (Nat × Job) → Session × List (Nat × Job) × List (Nat × JobResult)
  | [] => (s, [], [])
  | (step, job) :: rest =>
    match s.runJob job with
    | (s, .ok result) =>
      let (s, left, done) := s.passJobs rest
      (s, left, (step, result) :: done)
    | (s, .error job) =>
      let (s, left, done) := s.passJobs rest
      (s, (step, job) :: left, done)

/-- Pass over the queue until nothing more can be finished; each pass spends one unit of fuel. -/
def settleWith : Nat → Session → Session × List (Nat × JobResult)
  | 0, s => (s, [])
  | fuel + 1, s =>
    let (s, left, done) := s.passJobs s.queue
    let s := { s with queue := left }
    if done.isEmpty then (s, [])
    else
      let (s, more) := settleWith fuel s
      (s, done ++ more)

/-- Finish what can be finished of the queue. -/
def settle (s : Session) : Session × List (Nat × JobResult) := settleWith (s.queue.length + 1) s

/-- What every step ends with. -/
def endStep (s : Session) : Session × List (Nat × JobResult) :=
  -- What the step set free goes on before time passes, and what time set free after it.
  let (s, first) := s.settle
  let (s, second) := { s with system := s.system.pass 1 }.settle
  (s, first ++ second)

/-- What the probes were told during the step. -/
def takeDeliveries (s : Session) : Session × List Delivery :=
  ({ s with system := { s.system with deliveries := [] } }, s.system.deliveries)

/-! ## Transactions -/

/-- Begin a transaction under a name. -/
def begin (s : Session) (step place : Nat) (name : String) (write : Bool) :
    Stepped (Except BadStep (Option JobResult)) :=
  if s.transactions.contains name then (s, .error .nameInUse)
  else
    match s.storePlace place with
    | .error e => (s, .error e)
    | .ok place =>
      let (system, ticket) := s.system.takeTicket
      let request := if write then Store.requestWrite else Store.requestRead
      let system := system.updateStore place fun store => request store ticket
      let (s, result) := { s with system }.tryJob step (.opening name place ticket write)
      (s, .ok result)

/-- Commit a transaction at a store. It is gone afterwards, even if the store refuses it. -/
def commit (s : Session) (step place : Nat) (name : String) :
    Stepped (Except BadStep (Except StoreError (Option JobResult))) :=
  match s.transaction name, s.storePlace place with
  | .error e, _ => (s, .error e)
  | _, .error e => (s, .error e)
  | .ok t, .ok place =>
    match (s.system.storeAt place).check t with
    | .error e => (s.drop name t, .ok (.error e))
    | .ok () =>
      if t.isWrite then
        let system := s.system.updateStore place (·.requestCommit t.ticket)
        let s := { s with system, transactions := s.transactions.erase name }
        let (s, result) := s.tryJob step (.committing place t)
        (s, .ok (.ok result))
      else (s.drop name t, .ok (.ok (some .committed)))

/-- Abort a transaction. -/
def abort (s : Session) (name : String) : Stepped (Except BadStep Unit) :=
  match s.transaction name with
  | .error e => (s, .error e)
  | .ok t => (s.drop name t, .ok ())

/-- Ask a store something in a transaction. -/
def ask {α : Type} (s : Session) (place : Nat) (name : String)
    (question : Store → Transaction → α) : Except BadStep α := do
  let t ← s.transaction name
  let place ← s.storePlace place
  pure (question (s.system.storeAt place) t)

/-- What a transaction sees after an edit: the whole tree, unless the store refuses it, and whether
it has changed anything. -/
structure EditReport where
  result : Except StoreError Unit
  tree : Option Value
  hasChanges : Bool

/-- Edit in a transaction. -/
def edit (s : Session) (place : Nat) (name : String) (edits : List Edit) :
    Stepped (Except BadStep EditReport) :=
  match s.transaction name, s.storePlace place with
  | .error e, _ => (s, .error e)
  | _, .error e => (s, .error e)
  | .ok t, .ok place =>
    let store := s.system.storeAt place
    let (t, result) := store.editAll t edits
    ({ s with transactions := s.transactions.insert name t },
      .ok ⟨result, (store.read t .root).toOption, t.hasChanges⟩)

/-! ## Triggers -/

/-- Register a probe under a name. -/
def register (s : Session) (place : Nat) (name handle : String) (watched : List Path) :
    Stepped (Except BadStep (Except StoreError Unit)) :=
  match s.transaction name, s.storePlace place with
  | .error e, _ => (s, .error e)
  | _, .error e => (s, .error e)
  | .ok t, .ok place =>
    match (s.system.storeAt place).register t (.probe handle watched) with
    | .error e => (s, .ok (.error e))
    | .ok (store, registered) =>
      ({ s with
          system := s.system.updateStore place fun _ => store
          handles := s.handles.insert handle registered }, .ok (.ok ()))

/-- Unregister the trigger with a name. -/
def unregister (s : Session) (place : Nat) (name handle : String) :
    Stepped (Except BadStep (Except StoreError Unit)) :=
  match s.transaction name, s.handles.find? handle, s.storePlace place with
  | .error e, _, _ => (s, .error e)
  | _, none, _ => (s, .error .noSuchHandle)
  | _, _, .error e => (s, .error e)
  | .ok t, some registered, .ok place =>
    match (s.system.storeAt place).unregister t registered with
    | .error e => (s, .ok (.error e))
    | .ok store => ({ s with system := s.system.updateStore place fun _ => store }, .ok (.ok ()))

/-! ## Stores -/

/-- Send out an errand. -/
def send (s : Session) (step place : Nat) (plan : Plan) :
    Stepped (Except BadStep (Option JobResult)) :=
  match s.storePlace place with
  | .error e => (s, .error e)
  | .ok place =>
    let (system, ticket) := s.system.takeTicket
    let (system, progress) := system.beginErrand place ticket plan
    match progress with
    | .finished result => ({ s with system }, .ok (some (.errand result)))
    | .waiting e => ({ s with system, queue := s.queue ++ [(step, .errand e)] }, .ok none)

/-- Change a store without a transaction. -/
def change (s : Session) (place : Nat) (f : Store → Store) : Stepped (Except BadStep Store) :=
  match s.storePlace place with
  | .error e => (s, .error e)
  | .ok place =>
    let system := s.system.updateStore place f
    ({ s with system }, .ok (system.storeAt place))

/-! ## Plugins -/

/-- The group that calls are made to: the latest. -/
def group? (s : Session) : Option (Nat × Group) :=
  match s.system.groups.length with
  | 0 => none
  | n + 1 => (s.system.groups[n]?).map (n, ·)

/-- The workers of a group are told to finish: nobody will wait for them. -/
def abandon (system : System) (g : Group) : System :=
  (g.plugins.filterMap (·.2.worker)).foldl System.requestExit system

/-- Hold the plugins of a configuration. The group that was there before is given up; its watch
stays. -/
def holdPlugins (s : Session) (config : PluginConfig) (stopTimeout : Nat) : Session :=
  let first := s.system.states.length
  let group := Group.ofConfig config first stopTimeout
  let states := s.system.states ++ config.map fun _ => .notReady
  let system := match s.group? with
    | some (_, g) => abandon s.system g
    | none => s.system
  { s with system := { system with states, groups := s.system.groups ++ [group] } }

/-- The result of the call that was made last. Nothing while it waits for a lock. -/
def callResult (s : Session) : Option (Except PluginError Unit) :=
  s.system.call.bind (·.result)

/-- Make a call to the present group. -/
def call (s : Session) (purpose : Purpose) (agenda : Group → List Command) :
    Stepped (Except BadStep (Option (Except PluginError Unit))) :=
  match s.group? with
  | none => (s, .error .noPlugins)
  | some (place, g) =>
    let s := { s with system := s.system.makeCall place purpose (agenda g) }
    (s, .ok s.callResult)

/-- Say what a rule does from now on. -/
def defineRule (s : Session) (rule : String) (body : RuleBody) : Stepped (Except BadStep Unit) :=
  match s.system.engine with
  | .absent => (s, .error .noEngine)
  | engine => ({ s with system := { s.system with engine := engine.define rule body } }, .ok ())

def feed (s : Session) (name : String) : Feed := (s.system.feeds.find? name).getD .empty

/-- Push items to a feed. -/
def pushFeed (s : Session) (name : String) (items : List FeedItem) : Session :=
  let feeds := s.system.feeds.insert name ((s.feed name).push items)
  { s with system := { s.system with feeds } }

/-- Change the files that sources and bundles are read from. -/
def changeFiles (s : Session) (f : FileTree → FileTree) : Session :=
  { s with system := { s.system with files := f s.system.files } }

/-- Let time pass. -/
def wait (s : Session) (millis : Nat) : Session := { s with system := s.system.pass millis }

/-! ## Looking at plugins -/

/-- The store that the plugins work on. -/
def pluginStore (s : Session) : Store :=
  s.system.storeAt System.pluginStore

/-- Read the whole tree that plugins work with, unless that would have to wait. -/
def peekTree (s : Session) : Session × Option Value :=
  let (system, ticket) := s.system.takeTicket
  match system.beginErrand System.pluginStore ticket (.read .root) with
  | (system, .finished (.ok (.value v))) => ({ s with system }, some v)
  | (system, .finished _) => ({ s with system }, none)
  | (_, .waiting _) => (s, none)

/-- The names of the configured plugins and of those that the watch knows. -/
def pluginNames (g : Group) : List String :=
  Dict.keys (Dict.ofEntries
    ((g.config.keys ++ g.active.keys).map fun name => (name, ())))

/-- What a held plugin is doing. -/
def stateOf (s : Session) (g : Group) (name : String) : Option PluginState :=
  (g.plugins.find? name).bind fun p => s.system.states[p.state]?

/-- The configured plugins that run. -/
def runningNames (g : Group) : List String :=
  g.config.keys.filter fun name =>
    match g.plugins.find? name with
    | some p => p.worker.isSome
    | none => false

end Session

end DocStore
