import DocStore.Proofs.Bundle.Records
import DocStore.Proofs.System.Agreement
import DocStore.Proofs.System.Remaining

/-!
# What the status says of overlaps

A group that was started tells by its status which roots of bundles overlap the paths of its running
plugins. After a start or a reconfiguration that came to its end, and whatever is committed then, the
status tells the truth, with one exception. A call that failed leaves its report in the status, and the
group forgets that it has done so: it reports overlaps again only when they are others than those that
it noticed before the failure.

Results:
  * `mem_overlaps_iff`, `overlaps_inOrder`: which overlaps there are, and in what order they are told;
  * `service_reports`: what holds of the report between the calls of a group;
  * `status_of_overlaps`: what the status says;
  * `untold_after_failure`: a failed reconfiguration makes the next one hide an overlap.
-/

namespace DocStore

/-! ## Overlaps -/

/-- A root of a bundle that overlaps the path of a plugin. -/
structure Overlap where
  plugin : String
  path : Path
  bundle : String
  root : Path
deriving DecidableEq

namespace Overlap

def text (o : Overlap) : String :=
  "data plugin \"" ++ o.plugin ++ "\" path " ++ o.path.text ++ " overlaps bundle \"" ++ o.bundle
    ++ "\" root " ++ o.root.text

/-- Plugins stand in the order of their names, and for each of them bundles do. -/
def Precedes (o o' : Overlap) : Prop :=
  o.plugin < o'.plugin ∨ (o.plugin = o'.plugin ∧ (o.bundle < o'.bundle ∨ o.bundle = o'.bundle))

end Overlap

/-- The overlaps of running plugins with the roots recorded in some data: for each plugin and each
bundle, its roots in the order of the manifest. -/
def Group.overlaps (g : Group) (data : Value) : List Overlap :=
  g.running.flatMap fun (name, plugin) =>
    (Bundle.rootsIn data).flatMap fun (bundle, roots) =>
      (roots.filter (·.overlaps plugin.path)).map fun root => ⟨name, plugin.path, bundle, root⟩

/-- The status that tells of all overlaps, or that there are none. -/
def Status.ofOverlaps : List Overlap → Status
  | [] => ⟨.ok, none⟩
  | overlaps => ⟨.error, some ("; ".intercalate (overlaps.map Overlap.text))⟩

namespace Group

variable {g : Group} {data : Value}

/-- An overlap is one of a running plugin and of a root that is recorded for a bundle. -/
theorem mem_overlaps_iff {o : Overlap} : o ∈ g.overlaps data ↔
    (∃ p, (o.plugin, p) ∈ g.plugins ∧ p.worker.isSome = true ∧ p.entry.path = o.path) ∧
      ∃ roots, (o.bundle, roots) ∈ Bundle.rootsIn data ∧ o.root ∈ roots ∧
        o.root.overlaps o.path = true := by
  unfold overlaps running
  simp only [List.mem_flatMap, List.mem_filterMap, List.mem_map, List.mem_filter]
  constructor
  · rintro ⟨⟨name, active⟩, ⟨⟨name', p⟩, held, shown⟩, ⟨bundle, roots⟩, recorded, root,
      ⟨within, overlaps⟩, rfl⟩
    dsimp only at shown overlaps
    split at shown
    · next runs =>
      cases shown
      exact ⟨⟨p, held, runs, rfl⟩, roots, recorded, within, overlaps⟩
    · cases shown
  · rintro ⟨⟨p, held, runs, path⟩, roots, recorded, within, overlaps⟩
    refine ⟨(o.plugin, ⟨p.entry.path, p.slot⟩), ⟨(o.plugin, p), held, if_pos runs⟩,
      (o.bundle, roots), recorded, o.root, ⟨within, ?_⟩, ?_⟩
    · rw [path]
      exact overlaps
    · rw [path]

theorem conflicts_eq (g : Group) (data : Value) :
    conflicts g.running (Bundle.rootsIn data) = (g.overlaps data).map Overlap.text := by
  unfold conflicts overlaps
  simp only [List.map_flatMap, List.map_map]
  rfl

theorem finding_eq (g : Group) (data : Value) : finding g.running (Bundle.rootsIn data) =
    (Status.ofOverlaps (g.overlaps data)).message := by
  unfold finding
  rw [conflicts_eq]
  cases g.overlaps data <;> rfl

/-- Overlaps are told in the order of the names of plugins and bundles. -/
theorem overlaps_inOrder (plugins : g.plugins.Ordered) (ordered : data.Ordered) :
    (g.overlaps data).Pairwise Overlap.Precedes := by
  have running : g.running.Ordered := plugins.filterMap fun entry shown isShown => by
    dsimp only at isShown
    split at isShown
    · cases isShown
      rfl
    · cases isShown
  unfold overlaps
  refine List.pairwise_flatMap.2 ⟨fun active _ => ?_, running.imp fun before o isO o' isO' => ?_⟩
  · -- Of one plugin the overlaps stand bundle by bundle.
    refine List.pairwise_flatMap.2 ⟨fun recorded _ => ?_,
      (Bundle.ordered_rootsIn ordered).imp fun before o isO o' isO' => ?_⟩
    · exact List.pairwise_map.2 (List.pairwise_of_forall fun _ _ => .inr ⟨rfl, .inr rfl⟩)
    · obtain ⟨root, -, rfl⟩ := List.mem_map.1 isO
      obtain ⟨root', -, rfl⟩ := List.mem_map.1 isO'
      exact .inr ⟨rfl, .inl before⟩
  · obtain ⟨bundle, -, isO⟩ := List.mem_flatMap.1 isO
    obtain ⟨bundle', -, isO'⟩ := List.mem_flatMap.1 isO'
    obtain ⟨root, -, rfl⟩ := List.mem_map.1 isO
    obtain ⟨root', -, rfl⟩ := List.mem_map.1 isO'
    exact .inl before

end Group

/-! ## The account of a group -/

/-- What the log of a group in service says of its calls. -/
structure Account where
  /-- A start has come to its end, and no stop was made since. -/
  started : Bool
  /-- The last start or reconfiguration has come to its end. -/
  succeeded : Bool
  /-- The report of the last call that failed, unless the group has noticed something since. -/
  standing : Option Status

namespace Account

def note (a : Account) : Note → Account
  | .noticed _ => { a with standing := none }
  | .returned made =>
    let a := { a with standing := made.report.or a.standing }
    match made.request with
    | .start => { a with started := a.started || made.result.isOk, succeeded := made.result.isOk }
    | .stop _ => { a with started := false }
    | .reconfigure _ => { a with succeeded := made.result.isOk }

def of (notes : List Note) : Account := notes.foldl note ⟨false, false, none⟩

theorem of_noticed (notes : List Note) (log : List (Option String)) :
    of (notes ++ log.map .noticed) = { of notes with standing := heard (of notes).standing log } := by
  unfold of
  rw [List.foldl_append]
  generalize List.foldl note _ notes = a
  induction log generalizing a with
  | nil => rfl
  | cons overlap rest ih =>
    rw [List.map_cons, List.foldl_cons, ih]
    -- The first note has cleared what stood, and whatever follows leaves it so.
    show Account.mk _ _ (heard none rest) = Account.mk _ _ none
    unfold heard
    rw [ite_self]
    rfl

theorem of_returned (notes : List Note) (log : List (Option String)) (made : Made) :
    of (notes ++ log.map .noticed ++ [.returned made]) =
      { of notes with standing := heard (of notes).standing log }.note (.returned made) := by
  rw [← of_noticed]
  unfold of
  rw [List.foldl_append]
  rfl

variable (notes : List Note) (log : List (Option String)) (result : Except PluginError Unit)
  (report : Option Status) (before after : Books)

theorem of_start : of (notes ++ log.map .noticed ++
      [.returned ⟨.start, result, report, before, after⟩]) =
    { started := (of notes).started || result.isOk
      succeeded := result.isOk
      standing := report.or (heard (of notes).standing log) } :=
  of_returned notes log _

theorem of_reconfigure (next : PluginConfig) : of (notes ++ log.map .noticed ++
      [.returned ⟨.reconfigure next, result, report, before, after⟩]) =
    { started := (of notes).started
      succeeded := result.isOk
      standing := report.or (heard (of notes).standing log) } :=
  of_returned notes log _

end Account

namespace Request

variable {a : Account} {b b' : Books} {g : Group}

/-- If the call comes to its end, its group counts as started. -/
def begins (a : Account) : Request → Prop
  | .start => True
  | .stop _ => False
  | .reconfigure _ => a.started = true

/-- Whatever the call comes to, its group counts as started. -/
def keeps (a : Account) : Request → Prop
  | .stop _ => False
  | _ => a.started = true

theorem begins_of_keeps (request : Request) (keeps : request.keeps a) : request.begins a := by
  cases request with
  | start => trivial
  | stop timeout => exact keeps.elim
  | reconfigure next => exact keeps

theorem active_of_tells (request : Request) (begins : request.begins a)
    (tells : Tells (request.agenda g) b true b') : b'.active = b'.running := by
  cases request with
  | start => exact active_startAgenda tells
  | stop timeout => exact begins.elim
  | reconfigure next => exact active_reconfigureAgenda tells

end Request

namespace System

variable {r : Registry} {group : Nat} {start sys sys' : System} {g g' : Group} {c : Call}
  {notes : List Note} {a : Account} {log : List (Option String)} {request : Request}

/-! ## Between calls -/

/-- What holds of the report of a group between its calls. -/
structure Reported (sys : System) (group : Nat) (a : Account) (g : Group) : Prop where
  minds : sys.Minds group g a.standing
  enlisted : a.started = true → g.trigger.isSome = true
  told : a.started = true → a.succeeded = true → g.active = g.running ∧ g.Calm ∧
    g.Accurate (sys.storeAt pluginStore).contents.data

theorem reported_new {config : PluginConfig} {first stopTimeout : Nat}
    (present : pluginStore < sys.stores.length)
    (held : sys.groups[group]? = some (Group.ofConfig config first stopTimeout))
    (unwatched : ∀ place, sys.watches place group = false) :
    sys.Reported group ⟨false, false, none⟩ (Group.ofConfig config first stopTimeout) where
  minds := ⟨present, held, fun place _ => unwatched place, fun never => (by cases never),
    fun _ never => by cases never⟩
  enlisted never := by cases never
  told never := by cases never

theorem Reported.beside (reported : sys.Reported group a g) (beside : Beside quietly sys sys') :
    ∃ g', sys'.Reported group { a with standing := heard a.standing (noticed group sys sys') } g' := by
  obtain ⟨g', minds, spared⟩ := reported.minds.beside beside
  refine ⟨g', minds, fun started => ?_, fun started succeeded => ?_⟩
  · rw [spared.trigger]
    exact reported.enlisted started
  · obtain ⟨active, calm, accurate⟩ := reported.told started succeeded
    refine ⟨?_, spared.calm calm, spared.accurate (reported.enlisted started) accurate⟩
    unfold Group.running
    rw [spared.active, spared.plugins]
    exact active

/-! ## Calls -/

theorem tracks_placed (reported : sys.Reported group a g) (request : Request) :
    sys.Tracks group (request.keeps a) (request.begins a) (request.call group g) a.standing g := by
  refine ⟨rfl, fun e never => (by cases never), registering_of_none rfl, reported.minds,
    fun keeps => ?_, fun _ => ?_, fun _ never => by cases never⟩
  · cases request with
    | stop timeout => exact keeps.elim
    | _ => exact reported.enlisted keeps
  · cases request with
    | start => exact remains_startAgenda group _ _ g
    | stop timeout => exact remains_stopAgenda id _ g timeout
    | reconfigure next => exact remains_reconfigureAgenda reported.enlisted _ next

/-- What a call that is over has made of the report, and the account that says so. -/
theorem Reported.call {b before after : Books} {result : Except PluginError Unit}
    (reported : sys.Reported group a g) (keeps : sys.Keeps group b)
    (proceeds : Proceeds group sys (request.call group g) log sys' c)
    (ended : c.result = some result) :
    ∃ g', sys'.Reported group ({ a with standing := heard a.standing log }.note
      (.returned ⟨request, result, c.report result, before, after⟩)) g' := by
  obtain ⟨g', tracks⟩ :=
    tracks_proceeds request.begins_of_keeps (tracks_placed reported request) proceeds
  obtain ⟨b', keeps', tells⟩ := tells_of_proceeds keeps proceeds ended
  have minds := tracks.minds
  have standing : c.standing (heard a.standing log) =
      (c.report result).or (heard a.standing log) := by
    unfold Call.standing
    rw [ended]
  rw [standing] at minds
  -- The report is about the plugins that the watch knows. That they are those that run, the books tell.
  have active (ok : result.isOk = true) (begins : request.begins a) : g'.active = g'.running := by
    rw [ok] at tells
    obtain ⟨g₁, found, active⟩ := keeps'.active
    obtain ⟨g₂, held, plugins⟩ := keeps'.holds.plugins
    cases minds.found.symm.trans found
    cases found.symm.trans held
    rw [active, Holding.running_of_plugins plugins]
    exact request.active_of_tells begins tells
  have told (ok : result.isOk = true) (begins : request.begins a) :
      g'.active = g'.running ∧ g'.Calm ∧ g'.Accurate (sys'.storeAt pluginStore).contents.data :=
    ⟨active ok begins, (tracks.ended result ended ok begins).2⟩
  cases request with
  | start =>
    refine ⟨g', minds, fun started => ?_, fun _ ok => told ok trivial⟩
    rcases (Bool.or_eq_true _ _).mp started with before | ok
    · exact tracks.kept before
    · exact (tracks.ended result ended ok trivial).1
  | stop timeout => exact ⟨g', minds, fun never => (by cases never), fun never => by cases never⟩
  | reconfigure next =>
    exact ⟨g', minds, fun started => tracks.kept started, fun started ok => told ok started⟩

theorem service_reports (service : Service r group start notes sys) :
    ∃ g, sys.Reported group (.of notes) g := by
  induction service with
  | new present validated held unwatched => exact ⟨_, reported_new present held unwatched⟩
  | beside _ beside ih =>
    obtain ⟨g, reported⟩ := ih
    rw [Account.of_noticed]
    exact reported.beside beside
  | call service held valid proceeds ended ih =>
    obtain ⟨g, reported⟩ := ih
    obtain ⟨b, keeps, -⟩ := service_keeps service
    cases held.symm.trans reported.minds.found
    rw [Account.of_returned]
    exact reported.call keeps proceeds ended

/-- Once a group is started and its last start or reconfiguration has come to its end, its status tells
of all overlaps in the order of names, or that there are none. Where there are some, the report of a call
that failed stands instead of them, unless the group has noticed others since. -/
theorem status_of_overlaps (service : Service r group start notes sys)
    (found : sys.groups[group]? = some g) (started : (Account.of notes).started = true)
    (succeeded : (Account.of notes).succeeded = true) :
    ((sys.storeAt pluginStore).contents.data.Ordered →
      (g.overlaps (sys.storeAt pluginStore).contents.data).Pairwise Overlap.Precedes) ∧
    g.status = if g.overlaps (sys.storeAt pluginStore).contents.data = [] then ⟨.ok, none⟩
      else (Account.of notes).standing.getD
        (.ofOverlaps (g.overlaps (sys.storeAt pluginStore).contents.data)) := by
  obtain ⟨b, keeps, neat⟩ := service_keeps service
  obtain ⟨g₁, held, plugins⟩ := keeps.holds.plugins
  cases found.symm.trans held
  refine ⟨Group.overlaps_inOrder (by rw [plugins]; exact neat.ordered), ?_⟩
  obtain ⟨g₂, reported⟩ := service_reports service
  cases found.symm.trans reported.minds.found
  obtain ⟨active, calm, accurate⟩ := reported.told started succeeded
  unfold Group.Accurate at accurate
  rw [active, Group.finding_eq] at accurate
  cases listed : g.overlaps (sys.storeAt pluginStore).contents.data with
  | nil =>
    rw [listed] at accurate
    rw [if_pos rfl]
    exact calm accurate
  | cons first rest =>
    rw [listed] at accurate
    rw [if_neg (List.cons_ne_nil _ _)]
    exact reported.minds.explained _ accurate

/-! ## A report that stays -/

namespace Shadowed

/-- A bundle `b` has the root at which the plugin `x` stores. -/
def tree : Value :=
  .object [("system", .object [("bundles", .object [("b", .object [("manifest",
    .object [("roots", .array [.string "x"])])])])])]

/-- The plugin `x` as it is, and another one that cannot connect to its feed. -/
def withBroken : Value :=
  .object [("x", .object [("feed", .string "a"), ("type", .string "mock")]),
    ("y", .object [("broken", .bool true), ("feed", .string "b"), ("type", .string "mock")])]

def begun : System := OneGroup.started tree (OneFeed.takesFrom "a")

def failed : System :=
  OneFeed.after begun .reconfigure (·.reconfigureAgenda (OneFeed.configOf withBroken))

/-- The group was told to go on as before. -/
def again : System :=
  OneFeed.after failed .reconfigure (·.reconfigureAgenda (OneFeed.configOf (OneFeed.takesFrom "a")))

theorem accepted : (PluginConfig.validate OneFeed.kinds (OneFeed.takesFrom "a")).isOk = true := by
  decide +kernel

theorem service_begun : begun.OnErrands ∧ ∃ (more : List (Option String)) (report : Option Status),
    Service OneFeed.kinds 0 (OneGroup.fresh tree (OneFeed.takesFrom "a")) ([] ++ more.map .noticed ++
      [.returned ⟨.start, .ok (), report, (OneGroup.fresh tree (OneFeed.takesFrom "a")).books 0,
        begun.books 0⟩]) begun := by
  have ended : begun.call.bind (·.result) = some (.ok ()) := by decide +kernel
  exact OneGroup.service_started accepted ended

end Shadowed

/-- The status after a start that found an overlap. -/
theorem overlap_told_after_start : ∃ notes sys g,
    Service OneFeed.kinds 0 (OneGroup.fresh Shadowed.tree (OneFeed.takesFrom "a")) notes sys ∧
      sys.groups[0]? = some g ∧ (Account.of notes).started = true ∧
      (Account.of notes).succeeded = true ∧
      g.overlaps (sys.storeAt pluginStore).contents.data ≠ [] ∧
      g.status = (Account.of notes).standing.getD
        (.ofOverlaps (g.overlaps (sys.storeAt pluginStore).contents.data)) := by
  obtain ⟨-, more, report, service⟩ := Shadowed.service_begun
  have held : (Shadowed.begun.groups[0]?).isSome = true := by decide +kernel
  have overlapped : (Shadowed.begun.groups[0]?).map (fun g => decide
      (g.overlaps (Shadowed.begun.storeAt pluginStore).contents.data = [])) = some false := by
    decide +kernel
  obtain ⟨g, found⟩ := Option.isSome_iff_exists.1 held
  rw [found, Option.map_some, Option.some_inj, decide_eq_false_iff_not] at overlapped
  have account := Account.of_start [] more (.ok ()) report
    ((OneGroup.fresh Shadowed.tree (OneFeed.takesFrom "a")).books 0) (Shadowed.begun.books 0)
  have started := congrArg Account.started account
  have succeeded := congrArg Account.succeeded account
  have told := (status_of_overlaps service found started succeeded).2
  rw [if_neg overlapped] at told
  exact ⟨_, _, g, service, found, started, succeeded, overlapped, told⟩

/-- A reconfiguration failed, and the next one, which came to its end, has left the report of that in
the status although there is an overlap. -/
theorem untold_after_failure : ∃ notes sys g,
    Service OneFeed.kinds 0 (OneGroup.fresh Shadowed.tree (OneFeed.takesFrom "a")) notes sys ∧
      sys.groups[0]? = some g ∧ (Account.of notes).started = true ∧
      (Account.of notes).succeeded = true ∧
      g.status ≠ .ofOverlaps (g.overlaps (sys.storeAt pluginStore).contents.data) := by
  obtain ⟨errands, more, report, service⟩ := Shadowed.service_begun
  have held : (Shadowed.begun.groups[0]?).isSome = true := by decide +kernel
  have accepted : (PluginConfig.validate OneFeed.kinds Shadowed.withBroken).isOk = true := by
    decide +kernel
  -- The plugin that is added cannot connect, and the report of that takes the place of the overlap.
  have valid : (Request.reconfigure (OneFeed.configOf Shadowed.withBroken)).Valid OneFeed.kinds :=
    ⟨_, OneFeed.validated accepted⟩
  have failed : Shadowed.failed.call.bind (·.result) =
      some (.error (.fetch (.other "cannot connect"))) := by decide +kernel
  obtain ⟨errands, more', report', service⟩ :=
    OneGroup.service_after service errands held valid failed
  have valid : (Request.reconfigure (OneFeed.configOf (OneFeed.takesFrom "a"))).Valid OneFeed.kinds :=
    ⟨_, OneFeed.validated Shadowed.accepted⟩
  have held : (Shadowed.failed.groups[0]?).isSome = true := by decide +kernel
  have ended : Shadowed.again.call.bind (·.result) = some (.ok ()) := by decide +kernel
  obtain ⟨-, more'', report'', service⟩ :=
    OneGroup.service_after service errands held valid ended
  -- The last look found the overlap that the group had noticed before, and did not report it again.
  have untold : (Shadowed.again.groups[0]?).map (fun g => decide (g.status =
      .ofOverlaps (g.overlaps (Shadowed.again.storeAt pluginStore).contents.data))) =
        some false := by decide +kernel
  obtain ⟨g, found, wrong⟩ := Option.map_eq_some_iff.1 untold
  refine ⟨_, _, g, service, found, ?_, ?_, of_decide_eq_false wrong⟩
  · rw [Account.of_reconfigure, Account.of_reconfigure, Account.of_start]
    rfl
  · rw [Account.of_reconfigure]
    rfl

end System

end DocStore
