import DocStore.Proofs.System.Storing

/-!
# What becomes of a batch

A plugin fetches from files or from a web server. Its source remembers what it reported last, and as
long as that stays the same a fetch says that there is nothing new. The batch itself is in the hands
of the tick that received it: it is transformed, if the plugin names a rule, and stored.

A worker has a log of what its fetches reported and of what became of the batches. What a web server
answers may be anything, and comes at any time after the request.

Results:
  * `done_withBatch`: a tick that has a batch stores what it makes of it, loses it, or still has it;
  * `done_runWorker`, `done_takeAnswer`: what a turn of the worker adds to its log, and what it leaves.
-/

namespace DocStore

/-! ## Logs -/

/-- The source has a mark of what it reported last, so that it can find that nothing has changed. -/
def Source.remembers : Source → Bool
  | .file s => s.last.isSome
  | .http s => s.entityTag.isSome
  | .feed _ => false

/-- What happens to the batches of a worker. -/
inductive BatchEvent
  /-- A fetch gave a batch, and left the source like this. -/
  | reported (batch : Value) (source : Source)
  /-- A fetch found that nothing has changed since the last batch. -/
  | unchanged
  /-- A transform was evaluated on the batch, given what was stored before. -/
  | transformed (transform : Transform) (previous : Value)
  /-- What was made of the batch was committed. -/
  | stored (value : Value)
  /-- The tick is over, and nothing was stored. -/
  | lost

namespace BatchEvent

def isUnchanged : BatchEvent → Bool
  | .unchanged => true
  | _ => false

theorem eq_of_isUnchanged {e : BatchEvent} (same : e.isUnchanged = true) : e = .unchanged := by
  cases e with
  | unchanged => rfl
  | _ => cases same

end BatchEvent

/-- What became of a batch. -/
inductive Fate
  | pending
  | stored (value : Value)
  | lost
deriving DecidableEq

/-- A batch, the source after the fetch that gave it, the transform that was evaluated on it, with
what was stored before, and what became of it. -/
structure Report where
  batch : Value
  source : Source
  through : Option (Transform × Value)
  fate : Fate

namespace Report

/-- Note an event: the last report, and what became of it so far. -/
def note : Option Report → BatchEvent → Option Report
  | _, .reported batch source => some ⟨batch, source, none, .pending⟩
  | some r, .transformed transform previous => some { r with through := some (transform, previous) }
  | some r, .stored value => some { r with fate := .stored value }
  | some r, .lost => some { r with fate := .lost }
  | last, _ => last

/-- The last report of a log. -/
def last (log : List BatchEvent) : Option Report := log.foldl note none

theorem last_append (log events : List BatchEvent) :
    last (log ++ events) = events.foldl note (last log) :=
  List.foldl_append

end Report

/-- The value is the batch, or what the transform made of it. -/
def Report.Makes (slot : Option Nat) (r : Report) (value : Value) : Prop :=
  match slot with
  | none => value = r.batch
  | some _ => ∃ transform previous, r.through = some (transform, previous) ∧
      transform.eval (Transform.input r.batch previous) = .ok value

/-- The tick that received the batch is over, and what it stored was made of the batch. -/
def Report.Over (slot : Option Nat) (r : Report) : Prop :=
  match r.fate with
  | .pending => False
  | .stored value => r.Makes slot value
  | .lost => True

namespace System

/-! ## What the turn of a worker adds to its log

These follow the functions of a tick, one by one. -/

def afterIngestLog (value : Value) : Progress → List BatchEvent
  | .waiting _ => []
  | .finished (.ok _) => [.stored value]
  | .finished (.error _) => [.lost]

def ingestLog (sys : System) (w : Worker) (value : Value) : List BatchEvent :=
  let sys := sys.setState w.state .ingesting
  afterIngestLog value (sys.beginErrand pluginStore w.ticket (.replace w.path value)).2

def transformLog (sys : System) (w : Worker) (place : Nat) (batch previous : Value) :
    List BatchEvent :=
  match sys.currentTransform place with
  | (_, .error _) => [.lost]
  | (sys, .ok transform) =>
    match transform.eval (Transform.input batch previous) with
    | .error _ => [.lost]
    | .ok value => .transformed transform previous :: sys.ingestLog w value

def afterReadLog (sys : System) (w : Worker) (batch : Value) : Progress → List BatchEvent
  | .waiting _ => []
  | .finished result =>
    match previousOf result, w.slot with
    | some previous, some place => sys.transformLog w place batch previous
    | _, _ => [.lost]

def withBatchLog (sys : System) (w : Worker) (batch : Value) : List BatchEvent :=
  match w.slot with
  | none => sys.ingestLog w batch
  | some _ =>
    let sys := sys.setState w.state .transforming
    let (sys, progress) := sys.beginErrand pluginStore w.ticket (.read w.path)
    sys.afterReadLog w batch progress

/-- A fetch that fails is not logged, and neither is an answer that nothing has changed to a request
that did not say since when. -/
def afterFetchLog (sys : System) (w : Worker) : Except PluginError (Option Value) → List BatchEvent
  | .ok (some batch) => .reported batch w.source :: sys.withBatchLog w batch
  | .ok none => if w.source.remembers then [.unchanged] else []
  | .error _ => []

def loadLog (sys : System) (w : Worker) : List BatchEvent :=
  match w.source with
  | .file source =>
    let (source, result) := source.fetch sys.files
    sys.afterFetchLog { w with source := .file source } result
  | _ => []

def turnLog (sys : System) (ticket : Nat) : List BatchEvent :=
  match sys.worker? ticket with
  | none => []
  | some w =>
    match w.phase with
    | .loading => sys.loadLog w
    | .reading batch errand =>
      let (sys, progress) := (sys.putWorker { w with phase := .running }).pollErrand errand
      sys.afterReadLog w batch progress
    | .ingesting errand =>
      match errand.plan with
      | .replace _ value =>
        afterIngestLog value ((sys.putWorker { w with phase := .running }).pollErrand errand).2
      | _ => []
    | _ => []

/-! ## A web server

A worker with a web source sends a request, and others go on until the answer comes. -/

/-- A tick sends a request. -/
def sendRequest (sys : System) (w : Worker) : System :=
  (sys.setState w.state .fetching).putWorker { w with phase := .loading }

/-- The tick goes on with the answer. -/
def takeAnswer (sys : System) (w : Worker) (source : HttpSource) (a : HttpAnswer) : System :=
  let (source, result) := source.receive a
  sys.afterFetch { w with source := .http source } result

def takeAnswerLog (sys : System) (w : Worker) (source : HttpSource) (a : HttpAnswer) :
    List BatchEvent :=
  let (source, result) := source.receive a
  sys.afterFetchLog { w with source := .http source } result

/-! ## Turns of a worker -/

/-- What a worker does between two waits, with what that adds to its log. -/
inductive Turn (ticket : Nat) (sys : System) : List BatchEvent → System → Prop
  | run : Turn ticket sys (sys.turnLog ticket) (sys.runWorker ticket)
  | send (w : Worker) (source : HttpSource) (found : sys.worker? ticket = some w)
      (web : w.source = .http source) (idle : w.phase = .due ∨ w.phase = .sleeping) :
      Turn ticket sys [] (sys.sendRequest w)
  | answer (w : Worker) (source : HttpSource) (a : HttpAnswer)
      (found : sys.worker? ticket = some w) (web : w.source = .http source)
      (asked : w.phase = .loading) :
      Turn ticket sys (sys.takeAnswerLog w source a) (sys.takeAnswer w source a)

/-- The source of a plugin that has just been started. -/
def IsNew : Source → Prop
  | .file s => s.last = none
  | .http s => s.entityTag = none
  | .feed _ => False

/-! ## What a worker knows of its last batch -/

/-- The source as it was left by the last report. -/
def sourceAfter (w₀ : Worker) (last : Option Report) : Source :=
  match last with
  | none => w₀.source
  | some r => r.source

/-- What a worker is in the middle of fits its last report. -/
def Fits (w₀ : Worker) (last : Option Report) : WorkerPhase → Prop
  | .reading batch _ => ∃ r, last = some r ∧ r.batch = batch ∧ r.fate = .pending
  | .ingesting e => ∃ r value, last = some r ∧ r.fate = .pending ∧ r.Makes w₀.slot value ∧
      e.Puts w₀.path value
  | .fetching _ => False
  | _ => ∀ r, last = some r → r.Over w₀.slot

/-- The worker works for the plugin that `w₀` was brought up for. -/
structure WorksFor (w₀ w : Worker) : Prop where
  ticket : w.ticket = w₀.ticket
  path : w.path = w₀.path
  slot : w.slot = w₀.slot
  pulls : ∀ config, w.source ≠ .feed config

/-- The worker is there, with the source that the last report left. -/
structure Carries (w₀ : Worker) (last : Option Report) (sys : System) (w : Worker) : Prop where
  found : sys.worker? w₀.ticket = some w
  works : WorksFor w₀ w
  source : w.source = sourceAfter w₀ last
  fits : Fits w₀ last w.phase

/-- The worker has its turn, and the batch of its last report in its hands. -/
structure HasBatch (w₀ : Worker) (r : Report) (sys : System) (w : Worker) : Prop where
  present : (sys.worker? w₀.ticket).isSome = true
  inside : pluginStore < sys.stores.length
  works : WorksFor w₀ w
  source : w.source = r.source
  pending : r.fate = .pending

/-- What a turn leaves that adds some events to the log. -/
structure Done (w₀ : Worker) (last : Option Report) (events : List BatchEvent) (sys : System) :
    Prop where
  carries : ∃ w, Carries w₀ (events.foldl Report.note last) sys w
  stored : ∀ value, .stored value ∈ events →
    (sys.storeAt pluginStore).contents.get? w₀.path = some value
  unchanged : .unchanged ∈ events → events = [.unchanged] ∧ ∃ r, last = some r ∧ r.Over w₀.slot

variable {w₀ w : Worker} {last : Option Report} {r : Report} {log : List BatchEvent}
  {sys sys' : System} {value : Value}

theorem carries_putWorker (present : (sys.worker? w₀.ticket).isSome = true) (works : WorksFor w₀ w)
    (source : w.source = sourceAfter w₀ last) (fits : Fits w₀ last w.phase) :
    Carries w₀ last (sys.putWorker w) w := by
  refine ⟨?_, works, source, fits⟩
  rw [← works.ticket] at present ⊢
  exact worker?_putWorker_self present

/-- A worker stays while others act. -/
theorem present_of_goes {acts : Nat → Prop} {ticket : Nat} (goes : Goes acts sys sys')
    (others : ¬ acts ticket) (present : (sys.worker? ticket).isSome = true) :
    (sys'.worker? ticket).isSome = true := by
  obtain ⟨old, found⟩ := Option.isSome_iff_exists.1 present
  obtain ⟨exit, still⟩ := goes.keeps_worker others found
  rw [still]
  rfl

theorem WorksFor.withPhase (works : WorksFor w₀ w) (phase : WorkerPhase) :
    WorksFor w₀ { w with phase } :=
  ⟨works.ticket, works.path, works.slot, works.pulls⟩

/-- At the end of a tick the worker is done with its last batch. -/
theorem carries_endTick (present : (sys.worker? w₀.ticket).isSome = true) (works : WorksFor w₀ w)
    (source : w.source = sourceAfter w₀ last) (settled : ∀ r, last = some r → r.Over w₀.slot) :
    ∃ w', Carries w₀ last (sys.endTick w) w' := by
  unfold endTick
  dsimp only
  split
  · unfold finishWorker
    exact ⟨_, carries_putWorker present (works.withPhase .finished) source settled⟩
  · exact ⟨_, carries_putWorker present (works.withPhase .sleeping) source settled⟩

theorem stores_endTick (sys : System) (w : Worker) : (sys.endTick w).stores = sys.stores := by
  unfold endTick
  dsimp only
  split <;> rfl

/-- The log stays as it is. -/
theorem Carries.done (carries : Carries w₀ last sys w) : Done w₀ last [] sys :=
  ⟨⟨w, carries⟩, by simp, by simp⟩

/-- A tick that has nothing to do with a batch adds nothing to the log. -/
theorem done_endTick (present : (sys.worker? w₀.ticket).isSome = true) (works : WorksFor w₀ w)
    (source : w.source = sourceAfter w₀ last) (settled : ∀ r, last = some r → r.Over w₀.slot) :
    Done w₀ last [] (sys.endTick w) := by
  obtain ⟨w', carries⟩ := carries_endTick present works source settled
  exact carries.done

/-- Something is noted about the batch before the rest of the turn. -/
theorem Done.after {e : BatchEvent} {events : List BatchEvent} (done : Done w₀ (some r) events sys)
    (noted : Report.note last e = some r) (pending : r.fate = .pending)
    (unstored : ∀ value, e ≠ .stored value) (changed : e ≠ .unchanged) :
    Done w₀ last (e :: events) sys := by
  refine ⟨?_, ?_, ?_⟩
  · rw [List.foldl_cons, noted]
    exact done.carries
  · intro value stored
    rcases List.mem_cons.1 stored with same | later
    · exact absurd same.symm (unstored value)
    · exact done.stored value later
  · intro unchanged
    rcases List.mem_cons.1 unchanged with same | later
    · exact absurd same.symm changed
    · obtain ⟨-, r', same, settled⟩ := done.unchanged later
      cases same
      unfold Report.Over at settled
      rw [pending] at settled
      cases settled

/-- The worker still has its batch when others have done something. -/
theorem HasBatch.goes (has : HasBatch w₀ r sys w) (goes : Goes (· ≠ w₀.ticket) sys sys') :
    HasBatch w₀ r sys' w := by
  refine { has with present := present_of_goes goes (fun ne => ne rfl) has.present, inside := ?_ }
  rw [goes.keeps_stores]
  exact has.inside

theorem HasBatch.withState (has : HasBatch w₀ r sys w) (place : Nat) (state : PluginState) :
    HasBatch w₀ r (sys.setState place state) w :=
  has.goes (.aside rfl rfl rfl)

theorem HasBatch.through (has : HasBatch w₀ r sys w) (transform : Transform) (previous : Value) :
    HasBatch w₀ { r with through := some (transform, previous) } sys w :=
  ⟨has.present, has.inside, has.works, has.source, has.pending⟩

/-- The worker waits for a lock, and keeps the batch. -/
theorem HasBatch.waits (has : HasBatch w₀ r sys w) {phase : WorkerPhase}
    (fits : Fits w₀ (some r) phase) : Done w₀ (some r) [] (sys.putWorker { w with phase }) := by
  have kept : w.source = sourceAfter w₀ (some r) := has.source
  have put : Carries w₀ (some r) (sys.putWorker { w with phase }) { w with phase } :=
    carries_putWorker has.present (has.works.withPhase phase) kept fits
  exact put.done

/-- A tick that fails loses its batch. -/
theorem done_lost (has : HasBatch w₀ r sys w) : Done w₀ (some r) [.lost] (sys.endTick w) := by
  refine ⟨carries_endTick has.present has.works has.source ?_, by simp, by simp⟩
  intro r same
  cases same
  trivial

theorem done_stored (has : HasBatch w₀ r sys w) (makes : r.Makes w₀.slot value)
    (stands : (sys.storeAt pluginStore).contents.get? w₀.path = some value) :
    Done w₀ (some r) [.stored value] (sys.endTick w) := by
  refine ⟨carries_endTick has.present has.works has.source ?_, ?_, by simp⟩
  · intro r same
    cases same
    exact makes
  · intro other stored
    cases List.mem_singleton.1 stored
    rw [storeAt_of_stores (stores_endTick sys w)]
    exact stands

theorem done_afterIngest {progress : Progress} (has : HasBatch w₀ r sys w)
    (makes : r.Makes w₀.slot value) (arrives : Arrives w₀.path value (sys, progress)) :
    Done w₀ (some r) (afterIngestLog value progress) (sys.afterIngest w progress) := by
  cases progress with
  | waiting e =>
    have fits : Fits w₀ (some r) (.ingesting e) := ⟨r, value, rfl, has.pending, makes, arrives⟩
    exact has.waits fits
  | finished result =>
    cases result with
    | error refusal => exact done_lost has
    | ok outcome => exact done_stored has makes arrives

theorem done_ingest (has : HasBatch w₀ r sys w) (makes : r.Makes w₀.slot value) :
    Done w₀ (some r) (sys.ingestLog w value) (sys.ingest w value) := by
  have ready := has.withState w.state .ingesting
  have begun := ready.goes (goes_beginErrand _ pluginStore w.ticket (.replace w.path value))
  have arrives := @beginErrand_arrives _ w.path value ready.inside w.ticket
  unfold ingest ingestLog
  dsimp only
  rw [has.works.path] at arrives begun ⊢
  exact done_afterIngest begun makes arrives

theorem done_transform {place : Nat} {previous : Value} (has : HasBatch w₀ r sys w)
    (slot : w.slot = some place) :
    Done w₀ (some r) (sys.transformLog w place r.batch previous)
      (sys.transform w place r.batch previous) := by
  have taken := has.goes (.of_move (.take place))
  unfold transform transformLog
  revert taken
  generalize sys.currentTransform place = result
  obtain ⟨sys', result⟩ := result
  intro taken
  cases result with
  | error e => exact done_lost taken
  | ok transform =>
    dsimp only
    cases evaluated : transform.eval (Transform.input r.batch previous) with
    | error e => exact done_lost taken
    | ok value =>
      have makes : ({ r with through := some (transform, previous) } : Report).Makes w₀.slot value := by
        rw [← has.works.slot, slot]
        exact ⟨transform, previous, rfl, evaluated⟩
      have done := done_ingest (taken.through transform previous) makes
      exact done.after rfl has.pending (by simp) (by simp)

theorem done_afterRead {progress : Progress} (has : HasBatch w₀ r sys w) :
    Done w₀ (some r) (sys.afterReadLog w r.batch progress) (sys.afterRead w r.batch progress) := by
  cases progress with
  | waiting e =>
    have fits : Fits w₀ (some r) (.reading r.batch e) := ⟨r, rfl, rfl, has.pending⟩
    exact has.waits fits
  | finished result =>
    unfold afterRead afterReadLog
    dsimp only
    cases previousOf result with
    | none => exact done_lost has
    | some previous =>
      cases slot : w.slot with
      | none => exact done_lost has
      | some place => exact done_transform has slot

theorem done_withBatch (has : HasBatch w₀ r sys w) :
    Done w₀ (some r) (sys.withBatchLog w r.batch) (sys.withBatch w r.batch) := by
  unfold withBatch withBatchLog
  cases slot : w.slot with
  | none =>
    refine done_ingest has ?_
    rw [← has.works.slot, slot]
    show r.batch = r.batch
    rfl
  | some place =>
    have ready := has.withState w.state .transforming
    exact done_afterRead (ready.goes (goes_beginErrand _ pluginStore w.ticket (.read w.path)))

/-- A source that has just been set up remembers nothing. -/
theorem remembers_of_isNew {source : Source} (new : IsNew source) : source.remembers = false := by
  cases source with
  | file s => exact Option.isSome_eq_false_iff.2 (Option.isNone_iff_eq_none.2 new)
  | http s => exact Option.isSome_eq_false_iff.2 (Option.isNone_iff_eq_none.2 new)
  | feed config => cases new

/-- What a tick does after a fetch that changed the source only if it gave a batch. -/
theorem done_afterFetch {result : Except PluginError (Option Value)}
    (present : (sys.worker? w₀.ticket).isSome = true) (works : WorksFor w₀ w)
    (inside : pluginStore < sys.stores.length) (settled : ∀ r, last = some r → r.Over w₀.slot)
    (new : IsNew w₀.source)
    (kept : (∀ batch, result ≠ .ok (some batch)) → w.source = sourceAfter w₀ last) :
    Done w₀ last (sys.afterFetchLog w result) (sys.afterFetch w result) := by
  cases result with
  | error e => exact done_endTick present works (kept (by simp)) settled
  | ok found =>
    cases found with
    | some batch =>
      have has : HasBatch w₀ ⟨batch, w.source, none, .pending⟩ sys w :=
        ⟨present, inside, works, rfl, rfl⟩
      exact (done_withBatch has).after rfl rfl (by simp) (by simp)
    | none =>
      have source := kept (by simp)
      unfold afterFetchLog
      dsimp only
      split
      · next remembers =>
        refine ⟨carries_endTick present works source settled, by simp, ?_⟩
        intro _
        refine ⟨rfl, ?_⟩
        cases reported : last with
        | some r => exact ⟨r, rfl, settled r reported⟩
        | none =>
          rw [source, reported, sourceAfter, remembers_of_isNew new] at remembers
          cases remembers
      · exact done_endTick present works source settled

/-! ## What a turn adds -/

theorem Carries.present (carries : Carries w₀ last sys w) :
    (sys.worker? w₀.ticket).isSome = true := by
  rw [carries.found]
  rfl

theorem done_load (carries : Carries w₀ last sys w) (inside : pluginStore < sys.stores.length)
    (settled : ∀ r, last = some r → r.Over w₀.slot) (new : IsNew w₀.source) :
    Done w₀ last (sys.loadLog w) (sys.load w) := by
  have works := carries.works
  have source := carries.source
  unfold load loadLog
  cases from_ : w.source with
  | feed config => exact absurd from_ (works.pulls config)
  | http s => exact done_endTick carries.present works source settled
  | file s =>
    rw [from_] at source
    dsimp only
    have reads : WorksFor w₀ { w with source := .file (s.fetch sys.files).1 } :=
      ⟨works.ticket, works.path, works.slot, by simp⟩
    refine done_afterFetch carries.present reads inside settled new ?_
    rw [← source]
    unfold FileSource.fetch
    split
    · simp
    · split <;> simp

/-- A tick that begins has nothing to do with a batch yet. -/
theorem done_beginTick (carries : Carries w₀ last sys w)
    (settled : ∀ r, last = some r → r.Over w₀.slot) : Done w₀ last [] (sys.beginTick w) := by
  have works := carries.works
  have source := carries.source
  unfold beginTick
  dsimp only
  split
  · have loads : Carries w₀ last
        ((sys.setState w.state .fetching).putWorker { w with phase := .loading })
        { w with phase := .loading } :=
      carries_putWorker carries.present (works.withPhase .loading) source settled
    have waits : Carries w₀ last
        { (sys.setState w.state .fetching).putWorker { w with phase := .loading } with
          ready := (sys.setState w.state .fetching).ready ++ [w.ticket] }
        { w with phase := .loading } :=
      ⟨loads.found, loads.works, loads.source, loads.fits⟩
    exact waits.done
  · have present : ((sys.setState w.state .fetching).worker? w₀.ticket).isSome = true :=
      carries.present
    exact done_endTick present works source settled
  · next config feeds => exact absurd feeds (works.pulls config)

/-- The worker goes on with an errand for its batch. -/
theorem Carries.polled (carries : Carries w₀ (some r) sys w) (pending : r.fate = .pending)
    (inside : pluginStore < sys.stores.length) (e : Errand) :
    HasBatch w₀ r ((sys.putWorker { w with phase := .running }).pollErrand e).1 w := by
  have ticket : ({ w with phase := .running } : Worker).ticket = w₀.ticket := carries.works.ticket
  have present := carries.present
  rw [← ticket] at present
  have running : HasBatch w₀ r (sys.putWorker { w with phase := .running }) w := by
    refine ⟨?_, inside, carries.works, carries.source, pending⟩
    rw [← ticket, worker?_putWorker_self present]
    rfl
  exact running.goes (goes_pollErrand _ e)

/-- What a turn of the worker adds to its log, and what it leaves. -/
theorem done_runWorker (carries : Carries w₀ last sys w) (inside : pluginStore < sys.stores.length)
    (new : IsNew w₀.source) :
    Done w₀ last (sys.turnLog w₀.ticket) (sys.runWorker w₀.ticket) := by
  have works := carries.works
  have source := carries.source
  have fits := carries.fits
  unfold runWorker turnLog
  rw [carries.found]
  dsimp only
  cases phase : w.phase with
  | due =>
    rw [phase] at fits
    exact done_beginTick carries fits
  | fetching item =>
    rw [phase] at fits
    cases fits
  | loading =>
    rw [phase] at fits
    exact done_load carries inside fits new
  | reading batch e =>
    rw [phase] at fits
    obtain ⟨r, rfl, rfl, pending⟩ := fits
    exact done_afterRead (carries.polled pending inside e)
  | ingesting e =>
    rw [phase] at fits
    obtain ⟨r, value, rfl, pending, makes, puts⟩ := fits
    have arrives := @pollErrand_arrives (sys.putWorker { w with phase := .running }) _ _ _ puts inside
    dsimp only
    rw [puts.plan]
    exact done_afterIngest (carries.polled pending inside e) makes arrives
  | running => exact carries.done
  | sleeping =>
    rw [phase] at fits
    dsimp only
    split
    · have finished : Carries w₀ last (sys.finishWorker w) { w with phase := .finished } :=
        carries_putWorker carries.present (works.withPhase .finished) source fits
      exact finished.done
    · exact done_beginTick carries fits
  | finished => exact carries.done

theorem done_takeAnswer {s : HttpSource} (carries : Carries w₀ last sys w)
    (inside : pluginStore < sys.stores.length) (new : IsNew w₀.source) (web : w.source = .http s)
    (asked : w.phase = .loading) (a : HttpAnswer) :
    Done w₀ last (sys.takeAnswerLog w s a) (sys.takeAnswer w s a) := by
  have works := carries.works
  have source := carries.source
  have settled := carries.fits
  rw [asked] at settled
  unfold takeAnswer takeAnswerLog
  dsimp only
  have reads : WorksFor w₀ { w with source := .http (s.receive a).1 } :=
    ⟨works.ticket, works.path, works.slot, by simp⟩
  refine done_afterFetch carries.present reads inside settled new ?_
  rw [← source, web]
  unfold HttpSource.receive
  split
  · simp
  · split
    · simp
    · split <;> simp

theorem done_turn {events : List BatchEvent} (carries : Carries w₀ last sys w)
    (inside : pluginStore < sys.stores.length) (new : IsNew w₀.source)
    (turn : Turn w₀.ticket sys events sys') : Done w₀ last events sys' := by
  cases turn with
  | run => exact done_runWorker carries inside new
  | send w' source found web idle =>
    cases carries.found.symm.trans found
    have settled : ∀ r, last = some r → r.Over w₀.slot := by
      have fits := carries.fits
      rcases idle with due | sleeping
      · rwa [due] at fits
      · rwa [sleeping] at fits
    have sent : Carries w₀ last (sys.sendRequest w) { w with phase := .loading } :=
      carries_putWorker carries.present (carries.works.withPhase .loading) carries.source settled
    exact sent.done
  | answer w' source a found web asked =>
    cases carries.found.symm.trans found
    exact done_takeAnswer carries inside new web asked a

end System

end DocStore
