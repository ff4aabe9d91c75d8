import DocStore.System.Commit

/-!
# Ticks of a worker

A tick fetches a batch, transforms it if the plugin names a rule, and stores it with a transaction
of its own:

  fetch → [ read what is stored → transform ] → store

A tick that fails anywhere ends there and changes nothing. After a tick the worker heeds a request
to finish, or sleeps for its interval. What a worker does between two waits is one call of
`System.runWorker`.
-/

namespace DocStore.System

/-! ## The end of a tick -/

/-- The worker has acknowledged its end. -/
def finishWorker (sys : System) (w : Worker) : System :=
  (sys.setState w.state .stopped).putWorker { w with phase := .finished }

/-- End a tick: finish if asked to, and else sleep. -/
def endTick (sys : System) (w : Worker) : System :=
  let sys := sys.setState w.state .polling
  if w.exit then sys.finishWorker w
  else (sys.setTimer w.interval w.ticket).putWorker { w with phase := .sleeping }

/-! ## Storing -/

/-- Go on after storing, once that is over. -/
def afterIngest (sys : System) (w : Worker) : Progress → System
  | .waiting errand => sys.putWorker { w with phase := .ingesting errand }
  | .finished _ => sys.endTick w

/-- Store a value at the path of the plugin. -/
def ingest (sys : System) (w : Worker) (value : Value) : System :=
  let sys := sys.setState w.state .ingesting
  let (sys, progress) := sys.beginErrand pluginStore w.ticket (.replace w.path value)
  sys.afterIngest w progress

/-! ## Transforming -/

/-- The transform of a slot, prepared if it has to be. This is one step: no commit comes between
preparing the transform and keeping it in the slot. With threads that run side by side one could, and
the slot would then keep a transform that is stale. -/
def currentTransform (sys : System) (place : Nat) : System × Except PluginError Transform :=
  match sys.slots[place]? with
  | none => (sys, .error (.rule ⟨"", .undefined⟩))
  | some slot =>
    match slot.prepared with
    | some transform => (sys, .ok transform)
    | none =>
      match sys.engine.prepare slot.rule with
      | .error e => (sys, .error e)
      | .ok (engine, transform) =>
        ({ sys with
            engine
            slots := sys.slots.set place { slot with prepared := some transform } },
          .ok transform)

/-- Transform a batch, given what is stored before it, and store the result. -/
def transform (sys : System) (w : Worker) (place : Nat) (batch previous : Value) : System :=
  match sys.currentTransform place with
  | (sys, .error _) => sys.endTick w
  | (sys, .ok transform) =>
    match transform.eval (Transform.input batch previous) with
    | .error _ => sys.endTick w
    | .ok value => sys.ingest w value

/-- What is stored so far; nothing there counts as null. -/
def previousOf : Except Refusal Outcome → Option Value
  | .ok (.value v) => some v
  | .ok _ => none
  | .error (.store e) => if e.isNotFound then some .null else none
  | .error (.bundle _) => none

/-- Go on after reading what is stored, once that is over. -/
def afterRead (sys : System) (w : Worker) (batch : Value) : Progress → System
  | .waiting errand => sys.putWorker { w with phase := .reading batch errand }
  | .finished result =>
    match previousOf result, w.slot with
    | some previous, some place => sys.transform w place batch previous
    | _, _ => sys.endTick w

/-! ## Fetching -/

/-- Go on with a batch. -/
def withBatch (sys : System) (w : Worker) (batch : Value) : System :=
  match w.slot with
  | none => sys.ingest w batch
  | some _ =>
    let sys := sys.setState w.state .transforming
    let (sys, progress) := sys.beginErrand pluginStore w.ticket (.read w.path)
    sys.afterRead w batch progress

/-- Go on after a fetch. -/
def afterFetch (sys : System) (w : Worker) : Except PluginError (Option Value) → System
  | .ok (some batch) => sys.withBatch w batch
  | .ok none => sys.endTick w
  | .error _ => sys.endTick w

/-- Go on with what a feed gave. On a breakdown the worker is gone and its state stays. -/
def afterFeed (sys : System) (w : Worker) (result : FeedResult) : System :=
  match result with
  | .batch value => sys.withBatch w value
  | .nothing => sys.endTick w
  | .failure => sys.endTick w
  | .breakdown => sys.putWorker { w with phase := .finished }

/-- Begin a tick. Reading files lets others go first. -/
def beginTick (sys : System) (w : Worker) : System :=
  let sys := sys.setState w.state .fetching
  match w.source with
  | .file _ =>
    { sys.putWorker { w with phase := .loading } with ready := sys.ready ++ [w.ticket] }
  | .http source => sys.afterFetch w (.error source.unreachable)
  | .feed config =>
    let (feed, item) := ((sys.feeds.find? config.feed).getD .empty).fetch
    let sys := { sys with feeds := sys.feeds.insert config.feed feed }
    if item.delay = 0 then sys.afterFeed w item.result
    else (sys.setTimer item.delay w.ticket).putWorker { w with phase := .fetching item }

/-- Read the files of a worker. -/
def load (sys : System) (w : Worker) : System :=
  match w.source with
  | .file source =>
    let (source, result) := source.fetch sys.files
    sys.afterFetch { w with source := .file source } result
  | _ => sys.endTick w

/-! ## Running -/

/-- Let a worker go on with what it is in the middle of. -/
def runWorker (sys : System) (ticket : Nat) : System :=
  match sys.worker? ticket with
  | none => sys
  | some w =>
    match w.phase with
    | .due => sys.beginTick w
    | .fetching item => sys.afterFeed w item.result
    | .loading => sys.load w
    | .reading batch errand =>
      let (sys, progress) := (sys.putWorker { w with phase := .running }).pollErrand errand
      sys.afterRead w batch progress
    | .ingesting errand =>
      let (sys, progress) := (sys.putWorker { w with phase := .running }).pollErrand errand
      sys.afterIngest w progress
    | .sleeping => if w.exit then sys.finishWorker w else sys.beginTick w
    | .running | .finished => sys

/-- Ask a worker to finish. One that sleeps is called at once. -/
def requestExit (sys : System) (ticket : Nat) : System :=
  match sys.worker? ticket with
  | none => sys
  | some w =>
    let sys := sys.putWorker { w with exit := true }
    if w.phase = .sleeping ∧ !w.exit then
      { sys with
        timers := sys.timers.filter (·.ticket ≠ ticket)
        ready := sys.ready ++ [ticket] }
    else sys

end DocStore.System
