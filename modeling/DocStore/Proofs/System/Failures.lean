import DocStore.Proofs.System.Batches
import DocStore.Proofs.System.Courses

/-!
# Operations and ticks that fail

A tick of a worker fetches, reads what is stored so far, prepares and evaluates a transform, and stores
the result. It takes several turns of the worker, and each turn is classified by how it ends. Only a
turn that ends with something stored commits, and after a turn that fails the tick is over; so a tick
that fails has left no trace in any of its turns. The same holds of the operations that work in a write
transaction of their own.

Results:
  * `leaves_runWorker`, `leaves_takes`: what a turn of a worker leaves, by how it ends;
  * `Tick.leaves`: what the turns of a tick leave;
  * `untraced_of_failure`: an operation or a tick that fails, over all its steps.
-/

namespace DocStore

namespace System

variable {sys sys' : System} {e : Errand} {w : Worker} {ticket place : Nat} {plan : Plan}

/-! ## How the turn of a worker ends -/

/-- Where a tick fails. -/
inductive Stage
  | fetch
  | previous
  | prepare
  | evaluate
  | ingest
deriving DecidableEq, Repr

/-- How the turn of a worker ends. -/
inductive TurnEnd
  /-- In the middle of a tick, or the worker has nothing to go on with. -/
  | waits
  /-- Between two ticks, without anything to store. -/
  | idle
  | failed (stage : Stage)
  | stored
deriving DecidableEq, Repr

/-! These follow the functions of a tick, one by one. -/

def afterIngestEnd : Progress → TurnEnd
  | .waiting _ => .waits
  | .finished (.ok _) => .stored
  | .finished (.error _) => .failed .ingest

def ingestEnd (sys : System) (w : Worker) (value : Value) : TurnEnd :=
  let sys := sys.setState w.state .ingesting
  afterIngestEnd (sys.beginErrand pluginStore w.ticket (.replace w.path value)).2

def transformEnd (sys : System) (w : Worker) (place : Nat) (batch previous : Value) : TurnEnd :=
  match sys.currentTransform place with
  | (_, .error _) => .failed .prepare
  | (sys, .ok transform) =>
    match transform.eval (Transform.input batch previous) with
    | .error _ => .failed .evaluate
    | .ok value => sys.ingestEnd w value

def afterReadEnd (sys : System) (w : Worker) (batch : Value) : Progress → TurnEnd
  | .waiting _ => .waits
  | .finished result =>
    match previousOf result, w.slot with
    | some previous, some place => sys.transformEnd w place batch previous
    | _, _ => .failed .previous

def withBatchEnd (sys : System) (w : Worker) (batch : Value) : TurnEnd :=
  match w.slot with
  | none => sys.ingestEnd w batch
  | some _ =>
    let sys := sys.setState w.state .transforming
    let (sys, progress) := sys.beginErrand pluginStore w.ticket (.read w.path)
    sys.afterReadEnd w batch progress

def afterFetchEnd (sys : System) (w : Worker) : Except PluginError (Option Value) → TurnEnd
  | .ok (some batch) => sys.withBatchEnd w batch
  | .ok none => .idle
  | .error _ => .failed .fetch

def afterFeedEnd (sys : System) (w : Worker) : FeedResult → TurnEnd
  | .batch value => sys.withBatchEnd w value
  | .nothing => .idle
  | .failure | .breakdown => .failed .fetch

def beginTickEnd (sys : System) (w : Worker) : TurnEnd :=
  let sys := sys.setState w.state .fetching
  match w.source with
  | .file _ => .waits
  | .http source => sys.afterFetchEnd w (.error source.unreachable)
  | .feed config =>
    let (feed, item) := ((sys.feeds.find? config.feed).getD .empty).fetch
    let sys := { sys with feeds := sys.feeds.insert config.feed feed }
    if item.delay = 0 then sys.afterFeedEnd w item.result else .waits

def loadEnd (sys : System) (w : Worker) : TurnEnd :=
  match w.source with
  | .file source =>
    let (source, result) := source.fetch sys.files
    sys.afterFetchEnd { w with source := .file source } result
  | _ => .idle

def turnEnd (sys : System) (w : Worker) : TurnEnd :=
  match w.phase with
  | .due => sys.beginTickEnd w
  | .fetching item => sys.afterFeedEnd w item.result
  | .loading => sys.loadEnd w
  | .reading batch errand =>
    let (sys, progress) := (sys.putWorker { w with phase := .running }).pollErrand errand
    sys.afterReadEnd w batch progress
  | .ingesting errand =>
    afterIngestEnd ((sys.putWorker { w with phase := .running }).pollErrand errand).2
  | .sleeping => if w.exit then .idle else sys.beginTickEnd w
  | .running | .finished => .waits

def takeAnswerEnd (sys : System) (w : Worker) (source : HttpSource) (a : HttpAnswer) : TurnEnd :=
  let (source, result) := source.receive a
  sys.afterFetchEnd { w with source := .http source } result

/-- What a worker does between two waits, with how that ends. -/
inductive Takes (ticket : Nat) (sys : System) : TurnEnd → System → Prop
  | run (w : Worker) (found : sys.worker? ticket = some w) :
      Takes ticket sys (sys.turnEnd w) (sys.runWorker ticket)
  | send (w : Worker) (source : HttpSource) (found : sys.worker? ticket = some w)
      (web : w.source = .http source) (idle : w.phase = .due ∨ w.phase = .sleeping) :
      Takes ticket sys .waits (sys.sendRequest w)
  | answer (w : Worker) (source : HttpSource) (a : HttpAnswer)
      (found : sys.worker? ticket = some w) (web : w.source = .http source)
      (asked : w.phase = .loading) :
      Takes ticket sys (sys.takeAnswerEnd w source a) (sys.takeAnswer w source a)

/-! ## What a turn leaves -/

/-- The errand that a worker is on is one of those that ticks send out: it reads, and has not been
admitted yet, or it stores. -/
def OnErrand : WorkerPhase → Prop
  | .reading _ e => e.plan.isPlain = true ∧ e.plan.isWrite = false ∧ e.stage = .opening
  | .ingesting e => e.plan.isPlain = true ∧ e.plan.isWrite = true
  | _ => True

/-- The worker is in no tick. -/
def BetweenTicks (phase : WorkerPhase) : Prop := phase = .sleeping ∨ phase = .finished

/-- What a turn of a worker leaves that ends in some way. -/
structure Leaves (ticket : Nat) (sys : System) (fin : TurnEnd) (sys' : System) : Prop where
  untraced : fin ≠ .stored → Untraced sys sys'
  worker : ∃ w, sys'.worker? ticket = some w ∧ OnErrand w.phase ∧
    (fin ≠ .waits → BetweenTicks w.phase)

/-- Something was done before, and left no trace. -/
theorem Leaves.after {mid : System} {fin : TurnEnd} (leaves : Leaves ticket mid fin sys')
    (before : Untraced sys mid) : Leaves ticket sys fin sys' :=
  { leaves with untraced := fun unstored => before.trans (leaves.untraced unstored) }

/-- The turn ends with the worker put back in its place. -/
theorem leaves_putWorker {fin : TurnEnd} {phase : WorkerPhase}
    (present : (sys.worker? w.ticket).isSome = true) (fits : OnErrand phase)
    (rests : fin ≠ .waits → BetweenTicks phase) :
    Leaves w.ticket sys fin (sys.putWorker { w with phase }) := by
  refine ⟨fun _ => .aside rfl rfl rfl rfl, { w with phase }, ?_, fits, rests⟩
  exact worker?_putWorker_self (w := { w with phase }) present

/-- At the end of a tick, however that came. -/
theorem leaves_endTick (fin : TurnEnd) (present : (sys.worker? w.ticket).isSome = true) :
    Leaves w.ticket sys fin (sys.endTick w) := by
  have polling : Untraced sys (sys.setState w.state .polling) := .aside rfl rfl rfl rfl
  unfold endTick
  dsimp only
  split
  · have stopped : Untraced (sys.setState w.state .polling)
        ((sys.setState w.state .polling).setState w.state .stopped) := .aside rfl rfl rfl rfl
    refine Leaves.after ?_ (polling.trans stopped)
    exact leaves_putWorker present trivial fun _ => .inr rfl
  · have timed : Untraced (sys.setState w.state .polling)
        ((sys.setState w.state .polling).setTimer w.interval w.ticket) := .aside rfl rfl rfl rfl
    refine Leaves.after ?_ (polling.trans timed)
    exact leaves_putWorker present trivial fun _ => .inl rfl

/-- An errand of a worker has gone on: what it left, and what it still waits for. -/
structure Advances (plan : Plan) (sys sys' : System) (progress : Progress) : Prop where
  untraced : (∀ outcome, progress = .finished (.ok outcome) → plan.isWrite = false) →
    Untraced sys sys'
  waits : ∀ e, progress = .waiting e →
    e.plan = plan ∧ (plan.isWrite = false → e.stage = .opening)

theorem advances_pollErrand (plain : e.plan.isPlain = true)
    (opening : e.plan.isWrite = false → e.stage = .opening) :
    Advances e.plan sys (sys.pollErrand e).1 (sys.pollErrand e).2 := by
  refine ⟨fun uncommitted => untraced_pollErrand plain uncommitted opening, fun e' waits => ?_⟩
  have follows := follows_pollErrand waits
  exact ⟨follows.plan, fun reads => follows.opening reads (opening reads)⟩

theorem advances_beginErrand (plain : plan.isPlain = true) :
    Advances plan sys (sys.beginErrand place ticket plan).1
      (sys.beginErrand place ticket plan).2 := by
  refine ⟨fun uncommitted => untraced_beginErrand plain uncommitted, fun e' waits => ?_⟩
  have follows := follows_pollErrand waits
  exact ⟨follows.plan, fun reads => follows.opening reads rfl⟩

section Turns

variable {mid : System} {progress : Progress} {value batch previous : Value}

theorem leaves_afterIngest (present : (sys'.worker? w.ticket).isSome = true)
    (advances : Advances plan sys sys' progress) (plain : plan.isPlain = true)
    (writes : plan.isWrite = true) :
    Leaves w.ticket sys (afterIngestEnd progress) (sys'.afterIngest w progress) := by
  cases progress with
  | waiting e =>
    obtain ⟨same, -⟩ := advances.waits e rfl
    have fits : OnErrand (.ingesting e) := by
      show e.plan.isPlain = true ∧ e.plan.isWrite = true
      rw [same]
      exact ⟨plain, writes⟩
    have put : Leaves w.ticket sys' .waits (sys'.putWorker { w with phase := .ingesting e }) :=
      leaves_putWorker present fits fun going => absurd rfl going
    exact put.after (advances.untraced (by simp))
  | finished result =>
    cases result with
    | error refusal =>
      exact (leaves_endTick (.failed .ingest) present).after (advances.untraced (by simp))
    | ok outcome =>
      have rest := leaves_endTick .stored present
      exact ⟨fun unstored => absurd rfl unstored, rest.worker⟩

theorem leaves_ingest (present : (sys.worker? w.ticket).isSome = true) :
    Leaves w.ticket sys (sys.ingestEnd w value) (sys.ingest w value) := by
  have set : Untraced sys (sys.setState w.state .ingesting) := .aside rfl rfl rfl rfl
  have present : ((sys.setState w.state .ingesting).worker? w.ticket).isSome = true := present
  have begun : Goes (· ≠ w.ticket) _ _ := goes_beginErrand (sys.setState w.state .ingesting)
    pluginStore w.ticket (.replace w.path value)
  unfold ingest ingestEnd
  dsimp only
  refine Leaves.after ?_ set
  exact leaves_afterIngest (present_of_goes begun (fun other => other rfl) present)
    (advances_beginErrand rfl) rfl rfl

/-- Preparing a transform fills an empty slot, and changes no other. -/
theorem untraced_currentTransform (sys : System) (place : Nat) :
    Untraced sys (sys.currentTransform place).1 := by
  unfold currentTransform
  split
  · exact .refl sys
  · next slot found =>
    split
    · exact .refl sys
    · next empty =>
      split
      · exact .refl sys
      · refine ⟨fun _ => ⟨rfl, rfl, rfl⟩, rfl, rfl, fun other transform prepared => ?_⟩
        -- The slot that was filled held no transform before.
        have ne : place ≠ other := by
          rintro rfl
          unfold prepared? at prepared
          rw [found, Option.bind_some, empty] at prepared
          cases prepared
        unfold prepared? at prepared ⊢
        dsimp only
        rwa [List.getElem?_set_ne ne]

theorem leaves_transform (present : (sys.worker? w.ticket).isSome = true) :
    Leaves w.ticket sys (sys.transformEnd w place batch previous)
      (sys.transform w place batch previous) := by
  have taken := untraced_currentTransform sys place
  have workers : ((sys.currentTransform place).1.worker? w.ticket).isSome = true := by
    obtain ⟨engine, slots, same⟩ := currentTransform_keeps sys place
    rw [same]
    exact present
  unfold transform transformEnd
  revert taken workers
  generalize sys.currentTransform place = current
  obtain ⟨mid, current⟩ := current
  intro taken present
  cases current with
  | error e => exact (leaves_endTick (.failed .prepare) present).after taken
  | ok transform =>
    dsimp only
    cases transform.eval (Transform.input batch previous) with
    | error e => exact (leaves_endTick (.failed .evaluate) present).after taken
    | ok value => exact (leaves_ingest present).after taken

theorem leaves_afterRead (present : (mid.worker? w.ticket).isSome = true)
    (advances : Advances plan sys mid progress) (plain : plan.isPlain = true)
    (reads : plan.isWrite = false) :
    Leaves w.ticket sys (mid.afterReadEnd w batch progress) (mid.afterRead w batch progress) := by
  have read : Untraced sys mid := advances.untraced fun _ _ => reads
  cases progress with
  | waiting e =>
    obtain ⟨same, opening⟩ := advances.waits e rfl
    have fits : OnErrand (.reading batch e) := by
      show e.plan.isPlain = true ∧ e.plan.isWrite = false ∧ e.stage = .opening
      rw [same]
      exact ⟨plain, reads, opening reads⟩
    have put : Leaves w.ticket mid .waits (mid.putWorker { w with phase := .reading batch e }) :=
      leaves_putWorker present fits fun going => absurd rfl going
    exact put.after read
  | finished result =>
    unfold afterRead afterReadEnd
    dsimp only
    cases previousOf result with
    | none => exact (leaves_endTick (.failed .previous) present).after read
    | some previous =>
      cases w.slot with
      | none => exact (leaves_endTick (.failed .previous) present).after read
      | some place => exact (leaves_transform present).after read

theorem leaves_withBatch (present : (sys.worker? w.ticket).isSome = true) :
    Leaves w.ticket sys (sys.withBatchEnd w batch) (sys.withBatch w batch) := by
  unfold withBatch withBatchEnd
  cases w.slot with
  | none => exact leaves_ingest present
  | some place =>
    have set : Untraced sys (sys.setState w.state .transforming) := .aside rfl rfl rfl rfl
    have present : ((sys.setState w.state .transforming).worker? w.ticket).isSome = true := present
    have begun : Goes (· ≠ w.ticket) _ _ := goes_beginErrand (sys.setState w.state .transforming)
      pluginStore w.ticket (.read w.path)
    dsimp only
    refine Leaves.after ?_ set
    exact leaves_afterRead (present_of_goes begun (fun other => other rfl) present)
      (advances_beginErrand rfl) rfl rfl

theorem leaves_afterFetch (result : Except PluginError (Option Value))
    (present : (sys.worker? w.ticket).isSome = true) :
    Leaves w.ticket sys (sys.afterFetchEnd w result) (sys.afterFetch w result) := by
  cases result with
  | error e => exact leaves_endTick (.failed .fetch) present
  | ok found =>
    cases found with
    | none => exact leaves_endTick .idle present
    | some batch => exact leaves_withBatch present

theorem leaves_afterFeed (result : FeedResult) (present : (sys.worker? w.ticket).isSome = true) :
    Leaves w.ticket sys (sys.afterFeedEnd w result) (sys.afterFeed w result) := by
  cases result with
  | batch value => exact leaves_withBatch present
  | nothing => exact leaves_endTick .idle present
  | failure => exact leaves_endTick (.failed .fetch) present
  | breakdown => exact leaves_putWorker present trivial fun _ => .inr rfl

theorem leaves_beginTick (present : (sys.worker? w.ticket).isSome = true) :
    Leaves w.ticket sys (sys.beginTickEnd w) (sys.beginTick w) := by
  have set : Untraced sys (sys.setState w.state .fetching) := .aside rfl rfl rfl rfl
  unfold beginTick beginTickEnd
  dsimp only
  cases w.source with
  | file source =>
    have put : Leaves w.ticket (sys.setState w.state .fetching) .waits
        ((sys.setState w.state .fetching).putWorker
          { w with source := .file source, phase := .loading }) :=
      leaves_putWorker (w := { w with source := .file source }) present trivial
        fun going => absurd rfl going
    obtain ⟨loading, found, fits⟩ := put.worker
    exact ⟨fun _ => .aside rfl rfl rfl rfl, loading, found, fits⟩
  | http source =>
    refine Leaves.after ?_ set
    exact leaves_afterFetch _ present
  | feed config =>
    -- Whatever item the feed gives, and whatever is left in it.
    have tick (feeds : Dict Feed) (item : FeedItem) : Leaves w.ticket sys
        (if item.delay = 0 then
          ({ sys.setState w.state .fetching with feeds } : System).afterFeedEnd w item.result
        else .waits)
        (if item.delay = 0 then
          ({ sys.setState w.state .fetching with feeds } : System).afterFeed w item.result
        else (({ sys.setState w.state .fetching with feeds } : System).setTimer item.delay
          w.ticket).putWorker { w with source := .feed config, phase := .fetching item }) := by
      split
      · have fetched : Untraced sys { sys.setState w.state .fetching with feeds } :=
          .aside rfl rfl rfl rfl
        refine Leaves.after ?_ fetched
        exact leaves_afterFeed item.result present
      · have timed : Untraced sys (({ sys.setState w.state .fetching with feeds } : System).setTimer
            item.delay w.ticket) := .aside rfl rfl rfl rfl
        refine Leaves.after ?_ timed
        exact leaves_putWorker (w := { w with source := .feed config }) present trivial
          fun going => absurd rfl going
    exact tick _ _

theorem leaves_load (present : (sys.worker? w.ticket).isSome = true) :
    Leaves w.ticket sys (sys.loadEnd w) (sys.load w) := by
  unfold load loadEnd
  cases w.source with
  | file source =>
    exact leaves_afterFetch (w := { w with source := .file (source.fetch sys.files).1 }) _ present
  | http source => exact leaves_endTick .idle present
  | feed config => exact leaves_endTick .idle present

/-- Whatever a worker is in the middle of. -/
theorem leaves_runWorker (found : sys.worker? ticket = some w) (fits : OnErrand w.phase) :
    Leaves ticket sys (sys.turnEnd w) (sys.runWorker ticket) := by
  have mine : w.ticket = ticket := ticket_of_found found
  subst mine
  have present : (sys.worker? w.ticket).isSome = true := by
    rw [found]
    rfl
  have busy : ((sys.putWorker { w with phase := .running }).worker? w.ticket).isSome = true := by
    rw [worker?_putWorker_self (w := { w with phase := .running }) present]
    rfl
  have running : Untraced sys (sys.putWorker { w with phase := .running }) := .aside rfl rfl rfl rfl
  unfold runWorker turnEnd
  rw [found]
  dsimp only
  cases phase : w.phase with
  | due => exact leaves_beginTick present
  | fetching item => exact leaves_afterFeed item.result present
  | loading => exact leaves_load present
  | reading batch e =>
    rw [phase] at fits
    obtain ⟨plain, reads, opening⟩ := fits
    have polled : Goes (· ≠ w.ticket) _ _ :=
      goes_pollErrand (sys.putWorker { w with phase := .running }) e
    refine Leaves.after ?_ running
    exact leaves_afterRead (present_of_goes polled (fun other => other rfl) busy)
      (advances_pollErrand plain fun _ => opening) plain reads
  | ingesting e =>
    rw [phase] at fits
    obtain ⟨plain, writes⟩ := fits
    have polled : Goes (· ≠ w.ticket) _ _ :=
      goes_pollErrand (sys.putWorker { w with phase := .running }) e
    -- Only of errands that read it is asked that they were not admitted yet.
    have never : e.plan.isWrite = false → e.stage = .opening := fun reads => by
      rw [writes] at reads
      cases reads
    refine Leaves.after ?_ running
    exact leaves_afterIngest (present_of_goes polled (fun other => other rfl) busy)
      (advances_pollErrand plain never) plain writes
  | running => exact ⟨fun _ => .refl sys, w, found, fits, fun going => absurd rfl going⟩
  | sleeping =>
    dsimp only
    split
    · have stopped : Untraced sys (sys.setState w.state .stopped) := .aside rfl rfl rfl rfl
      refine Leaves.after ?_ stopped
      exact leaves_putWorker present trivial fun _ => .inr rfl
    · exact leaves_beginTick present
  | finished => exact ⟨fun _ => .refl sys, w, found, fits, fun going => absurd rfl going⟩

/-- A turn leaves no trace unless it ends with something stored. -/
theorem leaves_takes {fin : TurnEnd} (takes : Takes ticket sys fin sys')
    (fits : ∀ w, sys.worker? ticket = some w → OnErrand w.phase) : Leaves ticket sys fin sys' := by
  cases takes with
  | run w found => exact leaves_runWorker found (fits w found)
  | send w source found web idle =>
    have mine : w.ticket = ticket := ticket_of_found found
    subst mine
    have present : (sys.worker? w.ticket).isSome = true := by
      rw [found]
      rfl
    have set : Untraced sys (sys.setState w.state .fetching) := .aside rfl rfl rfl rfl
    refine Leaves.after ?_ set
    exact leaves_putWorker present trivial fun going => absurd rfl going
  | answer w source a found web asked =>
    have mine : w.ticket = ticket := ticket_of_found found
    subst mine
    have present : (sys.worker? w.ticket).isSome = true := by
      rw [found]
      rfl
    exact leaves_afterFetch (w := { w with source := .http (source.receive a).1 }) _ present

end Turns

/-! ## Ticks -/

/-- A tick of a worker: its own turns, each with the system before and after, the system at present,
and how the last turn ended. Between two turns others do what they like, but the worker stays as it
is; they may ask it to finish. -/
inductive Tick (ticket : Nat) : List (System × System) → System → TurnEnd → Prop
  | first {sys sys' : System} {w : Worker} {fin : TurnEnd} (found : sys.worker? ticket = some w)
      (idle : w.phase = .due ∨ w.phase = .sleeping) (takes : Takes ticket sys fin sys') :
      Tick ticket [(sys, sys')] sys' fin
  | others {turns : List (System × System)} {sys sys' : System} (tick : Tick ticket turns sys .waits)
      (kept : ∀ w, sys.worker? ticket = some w → ∃ exit, sys'.worker? ticket = some { w with exit }) :
      Tick ticket turns sys' .waits
  | next {turns : List (System × System)} {sys sys' : System} {fin : TurnEnd}
      (tick : Tick ticket turns sys .waits) (takes : Takes ticket sys fin sys') :
      Tick ticket (turns ++ [(sys, sys')]) sys' fin

theorem Tick.leaves {turns : List (System × System)} {fin : TurnEnd}
    (tick : Tick ticket turns sys fin) :
    (fin ≠ .stored → ∀ turn ∈ turns, Untraced turn.1 turn.2) ∧
      ∃ w, sys.worker? ticket = some w ∧ OnErrand w.phase ∧ (fin ≠ .waits → BetweenTicks w.phase) := by
  induction tick with
  | first found idle takes =>
    have leaves := leaves_takes takes fun w' found' => by
      cases found.symm.trans found'
      rcases idle with due | sleeping
      · rw [due]
        trivial
      · rw [sleeping]
        trivial
    refine ⟨fun unstored turn mem => ?_, leaves.worker⟩
    cases List.mem_singleton.1 mem
    exact leaves.untraced unstored
  | others _ kept ih =>
    obtain ⟨untraced, w, found, fits, -⟩ := ih
    obtain ⟨exit, still⟩ := kept w found
    exact ⟨untraced, { w with exit }, still, fits, fun going => absurd rfl going⟩
  | next _ takes ih =>
    obtain ⟨untraced, w, found, fits, -⟩ := ih
    have leaves := leaves_takes takes fun w' found' => by
      cases found.symm.trans found'
      exact fits
    refine ⟨fun unstored turn mem => ?_, leaves.worker⟩
    rcases List.mem_append.1 mem with earlier | now
    · exact untraced (by simp) turn earlier
    · cases List.mem_singleton.1 now
      exact leaves.untraced unstored

/-! ## Failures -/

/-- An operation that returns an error has left no trace in any of its steps, and with the last of
them the writer lock has gone to the next in line. A tick that fails has left no trace in any of its
turns, and it is over. -/
theorem untraced_of_failure :
    (∀ (place ticket : Nat) (op : Operation) (steps : List (System × System)) (sys : System)
        (refusal : Refusal), Course place ticket op steps sys (.finished (.error refusal)) →
      (∀ step ∈ steps, Untraced step.1 step.2) ∧
      ∀ step, steps.getLast? = some step → FairLock.PassedOn ticket
        (step.1.storeAt place).writer (step.2.storeAt place).writer) ∧
    (∀ (ticket : Nat) (turns : List (System × System)) (sys : System) (stage : Stage),
        Tick ticket turns sys (.failed stage) →
      (∀ turn ∈ turns, Untraced turn.1 turn.2) ∧
      ∃ w, sys.worker? ticket = some w ∧ BetweenTicks w.phase) := by
  constructor
  · intro place ticket op steps sys refusal course
    exact course.clean
  · intro ticket turns sys stage tick
    obtain ⟨untraced, w, found, -, rests⟩ := tick.leaves
    exact ⟨untraced (by simp), w, found, rests (by simp)⟩

/-- A store with one value, and a worker that is to fetch from a feed whose next item fails. -/
def Samples.failing : System :=
  { System.new [.object [("a", .int 1)]] .absent .empty with
    nextTicket := 2
    workers := [⟨1, .root, 5, 0, none, .feed ⟨"f", false⟩, false, .due⟩]
    feeds := [("f", ⟨[⟨0, .failure⟩], 1, 0⟩)] }

/-- Somebody removes the root, which is refused, and the worker has its turn. -/
theorem untraced_removal_and_fetch :
    Course 0 2 (.writeOne .remove .root .null)
        [(Samples.failing, (Samples.failing.beginErrand 0 2 (.patch .remove .root .null)).1)]
        (Samples.failing.beginErrand 0 2 (.patch .remove .root .null)).1
        (.finished (.error (.store (.writeConflict .root .removesRoot)))) ∧
      Untraced Samples.failing (Samples.failing.beginErrand 0 2 (.patch .remove .root .null)).1 ∧
      Tick 1 [(Samples.failing, Samples.failing.runWorker 1)] (Samples.failing.runWorker 1)
        (.failed .fetch) ∧
      Untraced Samples.failing (Samples.failing.runWorker 1) := by
  have refused : (Samples.failing.beginErrand 0 2 (.patch .remove .root .null)).2 =
      .finished (.error (.store (.writeConflict .root .removesRoot))) := rfl
  have course : Course 0 2 (.writeOne .remove .root .null) _ _ _ := .setOut Samples.failing rfl
  rw [refused] at course
  have found : Samples.failing.worker? 1 =
      some ⟨1, .root, 5, 0, none, .feed ⟨"f", false⟩, false, .due⟩ := rfl
  have takes := Takes.run _ found
  have failed : Samples.failing.turnEnd ⟨1, .root, 5, 0, none, .feed ⟨"f", false⟩, false, .due⟩ =
      .failed .fetch := rfl
  rw [failed] at takes
  have tick : Tick 1 _ _ (.failed .fetch) := .first rfl (.inl rfl) takes
  refine ⟨course, ?_, tick, ?_⟩
  · exact (untraced_of_failure.1 0 2 _ _ _ _ course).1 _ List.mem_cons_self
  · exact (untraced_of_failure.2 1 _ _ .fetch tick).1 _ List.mem_cons_self

end System

end DocStore
