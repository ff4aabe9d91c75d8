import DocStore.Proofs.System.Batches
import DocStore.Proofs.System.History

/-!
# Batches that are lost

A source remembers a batch as soon as the fetch is over, whatever the tick makes of it. So when a tick
fails after its fetch, the batch is lost: the next fetch says that there is nothing new.

Results:
  * `Life.carries`: what the worker knows of its last batch at any time;
  * `snapshot_stored_iff`: when there is nothing new, the last batch was stored exactly if it was not
    lost, and the worker goes on from it in the same way;
  * `life_launch`, `goesOn_pass`, `goesOn_makeCall`: a plugin that is launched has such a run, and all
    that happens in the system is part of it.
-/

namespace DocStore

namespace System

/-! ## Runs -/

/-- A run of a worker with its log: it was brought up as `w₀`, and takes its turns while others do
whatever they like. -/
inductive Life (w₀ : Worker) : List BatchEvent → System → Prop
  | start {sys : System} (present : pluginStore < sys.stores.length)
      (found : sys.worker? w₀.ticket = some w₀) (due : w₀.phase = .due) (new : IsNew w₀.source) :
      Life w₀ [] sys
  | turn {log events : List BatchEvent} {sys sys' : System} (before : Life w₀ log sys)
      (turn : Turn w₀.ticket sys events sys') : Life w₀ (log ++ events) sys'
  | others {log : List BatchEvent} {sys sys' : System} (before : Life w₀ log sys)
      (goes : Goes (· ≠ w₀.ticket) sys sys') : Life w₀ log sys'

variable {w₀ w : Worker} {r : Report} {log : List BatchEvent} {sys sys' : System} {value : Value}

theorem Turn.keeps_stores {ticket : Nat} {events : List BatchEvent}
    (turn : Turn ticket sys events sys') : sys'.stores.length = sys.stores.length := by
  cases turn with
  | run => exact (goes_runWorker sys ticket).keeps_stores
  | send => rfl
  | answer w source a =>
    have goes := @goes_afterFetch (fun _ => True) { w with source := .http (source.receive a).1 } sys
      trivial (source.receive a).2
    exact goes.keeps_stores

theorem Life.inside (life : Life w₀ log sys) : pluginStore < sys.stores.length := by
  induction life with
  | start present => exact present
  | turn _ turn ih =>
    rw [turn.keeps_stores]
    exact ih
  | others _ goes ih =>
    rw [goes.keeps_stores]
    exact ih

theorem Life.new (life : Life w₀ log sys) : IsNew w₀.source := by
  induction life with
  | start _ _ _ new => exact new
  | turn _ _ ih => exact ih
  | others _ _ ih => exact ih

/-- At any time the worker has the source that the last report left, and what it is in the middle of
fits that report. -/
theorem Life.carries (life : Life w₀ log sys) : ∃ w, Carries w₀ (Report.last log) sys w := by
  induction life with
  | start _ found due new =>
    refine ⟨w₀, found, ⟨rfl, rfl, rfl, ?_⟩, rfl, ?_⟩
    · intro config feeds
      rw [feeds] at new
      exact new
    · rw [due]
      show ∀ r : Report, none = some r → r.Over w₀.slot
      simp
  | turn before turn ih =>
    obtain ⟨w, carries⟩ := ih
    have done := done_turn carries before.inside before.new turn
    rw [Report.last_append]
    exact done.carries
  | others _ goes ih =>
    obtain ⟨w, carries⟩ := ih
    obtain ⟨exit, found⟩ := goes.keeps_worker (fun ne => ne rfl) carries.found
    have works := carries.works
    exact ⟨_, found, ⟨works.ticket, works.path, works.slot, works.pulls⟩, carries.source, carries.fits⟩

/-- When there is nothing new, there was a report, and the tick that received it is over. -/
theorem Life.settled (life : Life w₀ log sys) {before after : List BatchEvent}
    (row : log = before ++ .unchanged :: after) :
    ∃ r, Report.last before = some r ∧ r.Over w₀.slot := by
  induction life generalizing after with
  | start => simp at row
  | others _ _ ih => exact ih row
  | @turn log events sys sys' life turn ih =>
    obtain ⟨w, carries⟩ := life.carries
    have done := done_turn carries life.inside life.new turn
    rcases List.append_eq_append_iff.1 row with ⟨rest, rfl, split⟩ | ⟨rest, rfl, split⟩
    · -- The event is one of this turn, and then it is the only one.
      obtain ⟨alone, settled⟩ := done.unchanged (by rw [split]; simp)
      rw [alone] at split
      cases rest with
      | nil =>
        rw [List.append_nil]
        exact settled
      | cons e rest => simp at split
    · cases rest with
      | nil =>
        rw [List.nil_append] at split
        obtain ⟨-, settled⟩ := done.unchanged (by rw [← split]; simp)
        rw [List.append_nil] at settled
        exact settled
      | cons e rest =>
        rw [List.cons_append, List.cons.injEq] at split
        obtain ⟨rfl, -⟩ := split
        exact ih rfl

/-- When a fetch finds that there is nothing new, the last batch was stored, transformed if the plugin
names a rule, exactly if it was not lost. What is said to be stored stands at the path of the plugin
when the turn is over. And whatever became of the last batch, the source is as its report left it. -/
theorem snapshot_stored_iff (life : Life w₀ log sys) :
    (∀ before after, log = before ++ .unchanged :: after →
      ∃ r, Report.last before = some r ∧
        ((∃ value, r.fate = .stored value ∧ r.Makes w₀.slot value) ↔ r.fate ≠ .lost)) ∧
    (∀ events sys' value, Turn w₀.ticket sys events sys' → .stored value ∈ events →
      (sys'.storeAt pluginStore).contents.get? w₀.path = some value) ∧
    ∃ w, sys.worker? w₀.ticket = some w ∧ w.source = sourceAfter w₀ (Report.last log) := by
  obtain ⟨w, carries⟩ := life.carries
  refine ⟨?_, ?_, w, carries.found, carries.source⟩
  · intro before after row
    obtain ⟨r, reported, settled⟩ := life.settled row
    refine ⟨r, reported, ?_⟩
    unfold Report.Over at settled
    cases fate : r.fate with
    | pending =>
      rw [fate] at settled
      cases settled
    | stored value =>
      rw [fate] at settled
      constructor
      · intro _ never
        cases never
      · intro _
        exact ⟨value, rfl, settled⟩
    | lost =>
      constructor
      · rintro ⟨value, never, -⟩
        cases never
      · intro kept
        exact absurd rfl kept
  · intro events sys' value turn stored
    exact (done_turn carries life.inside life.new turn).stored value stored

/-! ## Everything that happens is part of a run -/

/-- The source that is set up for a plugin is new, unless it is a feed. -/
theorem connect_new {config : SourceConfig} (pulls : ∀ feed, config ≠ .feed feed) (sys : System) :
    ∃ source, sys.connect config = (sys, .ok source) ∧ IsNew source := by
  cases config with
  | file config => exact ⟨.file (.new config), rfl, rfl⟩
  | http config => exact ⟨.http (.new config), rfl, rfl⟩
  | feed config => exact absurd rfl (pulls config)

/-- The run of a worker begins when a plugin is launched, under a ticket that nobody has. -/
theorem life_launch {entry : PluginEntry} (inside : pluginStore < sys.stores.length)
    (free : sys.worker? sys.nextTicket = none) (pulls : ∀ feed, entry.source ≠ .feed feed)
    (group state : Nat) (slot : Option Nat) :
    ∃ w₀, w₀.path = entry.path ∧ w₀.slot = slot ∧
      Life w₀ [] (sys.launch group entry state slot).1 := by
  obtain ⟨source, connected, new⟩ := connect_new pulls sys
  refine ⟨{ ticket := sys.nextTicket, path := entry.path, interval := entry.interval.toMillisUp,
            state, slot, source, exit := false, phase := .due }, rfl, rfl, ?_⟩
  unfold launch
  rw [connected]
  refine .start inside ?_ rfl new
  unfold worker? at free
  unfold spawn takeTicket updateGroup worker?
  dsimp only
  rw [List.find?_append, free]
  simp

/-- Whatever a worker has done before, it may be that it comes from one system to the other. -/
def GoesOn (w₀ : Worker) (sys sys' : System) : Prop :=
  ∀ log, Life w₀ log sys → ∃ more, Life w₀ (log ++ more) sys'

namespace GoesOn

theorem of_goes (goes : Goes (· ≠ w₀.ticket) sys sys') : GoesOn w₀ sys sys' := by
  intro log life
  refine ⟨[], ?_⟩
  rw [List.append_nil]
  exact life.others goes

theorem refl (sys : System) : GoesOn w₀ sys sys := of_goes (.refl sys)

theorem trans {a b c : System} (first : GoesOn w₀ a b) (second : GoesOn w₀ b c) :
    GoesOn w₀ a c := by
  intro log life
  obtain ⟨more, life⟩ := first log life
  obtain ⟨rest, life⟩ := second _ life
  refine ⟨more ++ rest, ?_⟩
  rw [← List.append_assoc]
  exact life

end GoesOn

theorem goesOn_runWorker (sys : System) (ticket : Nat) : GoesOn w₀ sys (sys.runWorker ticket) := by
  by_cases mine : ticket = w₀.ticket
  · rw [mine]
    exact fun log life => ⟨_, life.turn .run⟩
  · exact .of_goes ((goes_runWorker sys ticket).mono fun _ same => same ▸ mine)

theorem goesOn_drainWith (fuel : Nat) (sys : System) : GoesOn w₀ sys (drainWith fuel sys) := by
  induction fuel generalizing sys with
  | zero => exact .refl sys
  | succ fuel ih =>
    unfold drainWith
    split
    · exact .refl sys
    · next ticket rest _ =>
      have popped : GoesOn w₀ sys { sys with ready := rest } := .of_goes (.aside rfl rfl rfl)
      exact (popped.trans (goesOn_runWorker _ ticket)).trans (ih _)

theorem goesOn_moveTo (sys : System) (time : Nat) : GoesOn w₀ sys (sys.moveTo time) :=
  .of_goes (goes_moveTo sys time)

theorem goesOn_passTo (time fuel : Nat) (sys : System) : GoesOn w₀ sys (passTo time fuel sys) := by
  induction fuel generalizing sys with
  | zero => exact goesOn_moveTo sys time
  | succ fuel ih =>
    have drained : GoesOn w₀ sys sys.drain := goesOn_drainWith _ sys
    unfold passTo
    dsimp only
    split
    · exact drained.trans (goesOn_moveTo _ time)
    · split
      · exact (drained.trans (goesOn_moveTo _ _)).trans (ih _)
      · exact drained.trans (goesOn_moveTo _ time)

/-- Passing time is part of a run. -/
theorem goesOn_pass (sys : System) (millis : Nat) : GoesOn w₀ sys (sys.pass millis) :=
  goesOn_passTo _ _ sys

theorem goesOn_runCallWith (fuel : Nat) (sys : System) : GoesOn w₀ sys (runCallWith fuel sys) := by
  induction fuel generalizing sys with
  | zero => exact .refl sys
  | succ fuel ih =>
    have polled : GoesOn w₀ sys sys.pollCall := .of_goes (goes_pollCall sys)
    unfold runCallWith
    dsimp only
    split
    · exact polled
    · split
      · exact (polled.trans (goesOn_drainWith _ _)).trans (ih _)
      · split
        · exact polled
        · exact (polled.trans (goesOn_moveTo _ _)).trans (ih _)

/-- So is a call of any group, whatever comes of it. -/
theorem goesOn_makeCall (sys : System) (group : Nat) (purpose : Purpose) (agenda : List Command) :
    GoesOn w₀ sys (sys.makeCall group purpose agenda) := by
  have made (c : Call) : GoesOn w₀ sys { sys with call := some c } := .of_goes (.aside rfl rfl rfl)
  unfold makeCall
  exact (made _).trans (goesOn_runCallWith _ _)

/-! ## Two plugins -/

namespace Polling

/-- One store without data, a file with the number one, and a group that holds a plugin `x`. -/
def fresh (engine : Engine) (plugin : Value) : System :=
  ((Session.new (System.new [.empty] engine (.dir [("f.json", .file (some "1"))]))).holdPlugins
    (((PluginConfig.validate .builtin (.object [("x", plugin)])).toOption).getD []) 5).system

/-- The plugin takes the file through a rule that fails. -/
def reading : System :=
  OneFeed.after
    (fresh (.rules [("data.t", fun _ => .error (.fetch (.other "boom")))] 0)
      (.object [("path", .string "/f.json"), ("rego_transform", .string "data.t"),
        ("type", .string "file")]))
    .start Group.startAgenda

/-- The plugin takes a document from the web. -/
def asking : System :=
  OneFeed.after
    (fresh .absent (.object [("type", .string "http"), ("url", .string "http://h/d")]))
    .start Group.startAgenda

/-- The worker that was brought up for the plugin. -/
def worker (slot : Option Nat) (source : Source) (phase : WorkerPhase) : Worker :=
  { ticket := 2, path := ⟨["x"], by decide⟩, interval := 30000, state := 0, slot, source
    exit := false, phase }

def file : Source := .file (.new ⟨"/f.json", none⟩)

def site : HttpConfig :=
  ⟨⟨"http", "", none, .domain "h", none, ["d"], none, none⟩, [], ⟨10, 0⟩⟩

/-- The log and the system after a number of turns. -/
def played (sys : System) : Nat → List BatchEvent × System
  | 0 => ([], sys)
  | n + 1 => ((played sys n).1 ++ (played sys n).2.turnLog 2, (played sys n).2.runWorker 2)

theorem life_played (ticket : w₀.ticket = 2) (life : Life w₀ [] sys) (n : Nat) :
    Life w₀ (played sys n).1 (played sys n).2 := by
  induction n with
  | zero => exact life
  | succ n ih =>
    have turn := ih.turn .run
    rw [ticket] at turn
    exact turn

theorem life_reading : Life (worker (some 0) file .due) [] reading :=
  .start (by decide +kernel) (by decide +kernel) rfl rfl

theorem life_asking : Life (worker none (.http (.new site)) .due) [] asking :=
  .start (by decide +kernel) (by decide +kernel) rfl rfl

/-- A request, and the answer to it with nothing in between. -/
theorem life_exchange {s : HttpSource} (life : Life w₀ log sys)
    (found : sys.worker? w₀.ticket = some w) (web : w.source = .http s)
    (idle : w.phase = .due ∨ w.phase = .sleeping) (a : HttpAnswer) :
    Life w₀ (log ++ (sys.sendRequest w).takeAnswerLog { w with phase := .loading } s a)
      ((sys.sendRequest w).takeAnswer { w with phase := .loading } s a) := by
  have sent := life.turn (.send w s found web idle)
  rw [List.append_nil] at sent
  have ticket := ticket_of_found found
  have waits : (sys.sendRequest w).worker? w₀.ticket = some { w with phase := .loading } := by
    have present : (sys.worker? w.ticket).isSome = true := by
      rw [ticket, found]
      rfl
    rw [← ticket]
    exact @worker?_putWorker_self (sys.setState w.state .fetching) { w with phase := .loading } present
  exact sent.turn (.answer { w with phase := .loading } s a waits web rfl)

/-- What the server answers first. -/
def document : HttpAnswer := ⟨200, some "v1", "1"⟩

def notModified : HttpAnswer := ⟨304, none, ""⟩

/-- The log and the system after the first answer. -/
def answered : List BatchEvent × System :=
  let sent := asking.sendRequest (worker none (.http (.new site)) .due)
  let w := worker none (.http (.new site)) .loading
  (sent.takeAnswerLog w (.new site) document, sent.takeAnswer w (.new site) document)

end Polling

/-- A rule fails on a batch. The next fetch finds that there is nothing new, and at the path of the
plugin stands what stood there before. -/
theorem lost_after_failure :
    ∃ before sys, Life (Polling.worker (some 0) Polling.file .due) (before ++ [.unchanged]) sys ∧
      (Report.last before).map (·.fate) = some .lost ∧
      (sys.storeAt pluginStore).contents.get? ⟨["x"], by decide⟩ = some .empty := by
  have life := Polling.life_played rfl Polling.life_reading 3
  obtain ⟨w, carries⟩ := life.carries
  have done := done_turn carries life.inside life.new .run
  have fetched : ((Polling.played Polling.reading 3).2.turnLog 2).any (·.isUnchanged) = true := by
    decide +kernel
  obtain ⟨e, present, same⟩ := List.any_eq_true.1 fetched
  cases BatchEvent.eq_of_isUnchanged same
  obtain ⟨alone, -⟩ := done.unchanged present
  have next := life.turn .run
  rw [alone] at next
  exact ⟨_, _, next, by decide +kernel, by decide +kernel⟩

/-- A web server gives a document once, and then says that it has not changed. -/
theorem stored_after_answer :
    ∃ before sys r, Life (Polling.worker none (.http (.new Polling.site)) .due)
        (before ++ [.unchanged]) sys ∧
      Report.last before = some r ∧ ∃ value, r.fate = .stored value ∧ r.Makes none value := by
  have first : Life (Polling.worker none (.http (.new Polling.site)) .due) Polling.answered.1
      Polling.answered.2 :=
    @Polling.life_exchange _ (Polling.worker none (.http (.new Polling.site)) .due) _ _ _
      Polling.life_asking (by decide +kernel) rfl (.inl rfl) Polling.document
  have second : Life _ (Polling.answered.1 ++ [.unchanged]) _ :=
    @Polling.life_exchange _ (Polling.worker none (.http ⟨Polling.site, some "v1"⟩) .sleeping) _ _ _
      first (by decide +kernel) rfl (.inr rfl) Polling.notModified
  obtain ⟨r, reported, kept⟩ := (snapshot_stored_iff second).1 _ [] rfl
  have fate : (Report.last Polling.answered.1).map (·.fate) = some (.stored (.int 1)) := by
    decide +kernel
  rw [reported, Option.map_some, Option.some.injEq] at fate
  refine ⟨_, _, r, second, reported, kept.2 ?_⟩
  rw [fate]
  simp

end System

end DocStore
