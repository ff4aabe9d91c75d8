import DocStore.Proofs.System.Reconfigure
import DocStore.Proofs.System.Serving
import DocStore.Proofs.System.Start
import DocStore.Session.Basic

/-!
# Reconfigurations after any history

A group is started, stopped and reconfigured again and again, and any of these calls may fail. What
always holds of a started group is that it is `Tidy`. That is enough to say what a reconfiguration
that succeeds leaves: what the next configuration says, exactly if the plugins that stay ran before
the call, and nobody had a claim but the plugins that were held or are named next.

* A plugin whose restart failed is held with its next entry and does not run. A later
  reconfiguration restarts only what ran, so it succeeds and leaves that plugin stopped.
* When the removal of what the former plugins stored fails, their claims stay, and nobody who looks
  at the held plugins afterwards will give them up.

Results:
  * `History.orderly`: what holds of a group at any time, and of a started one;
  * `reconfigure_converges_iff`: when a reconfiguration leaves what it should;
  * `converged_of_start`, `converged_of_reconfigure`: as long as no call fails, it does.
-/

namespace DocStore

namespace System

variable {r : Registry} {group : Nat} {started : Bool} {sys sys' : System} {h : Holding}

/-- What a group holds, and what is claimed in the store of the plugins. -/
def holding (sys : System) (group : Nat) : Holding :=
  ⟨((sys.groups[group]?).map (·.plugins)).getD [], (sys.storeAt pluginStore).claims⟩

theorem Holds.holding (holds : sys.Holds group h) : sys.holding group = h := by
  obtain ⟨g, found, same⟩ := holds.plugins
  unfold System.holding
  rw [found, holds.claims, Option.map_some, Option.getD_some, same]

/-! ## Histories -/

/-- A system in which a group was made for a validated configuration, and then started, stopped and
reconfigured in any order, with any results, while everything else went on. `started` says whether
the group has been started and not stopped since. A reconfiguration compares entries by how they were
written, so no known kind tells apart what was written alike. -/
inductive History (r : Registry) (group : Nat) : Bool → System → Prop
  | new {sys : System} {raw : Value} {config : PluginConfig} {first stopTimeout : Nat} :
      r.Uniform → pluginStore < sys.stores.length → PluginConfig.validate r raw = .ok config →
      sys.groups[group]? = some (Group.ofConfig config first stopTimeout) →
      History r group false sys
  | start {sys sys' : System} {started : Bool} {result : Except PluginError Unit} :
      History r group started sys → Called sys group .start Group.startAgenda result sys' →
      History r group (started || result.isOk) sys'
  | stop {sys sys' : System} {started : Bool} {timeout : Nat} {result : Except PluginError Unit} :
      History r group started sys →
      Called sys group .stop (·.stopAgenda timeout) result sys' → History r group false sys'
  | reconfigure {sys sys' : System} {started : Bool} {raw : Value} {next : PluginConfig}
      {result : Except PluginError Unit} :
      History r group started sys → PluginConfig.validate r raw = .ok next →
      Called sys group .reconfigure (·.reconfigureAgenda next) result sys' →
      History r group started sys'
  | steady {sys sys' : System} {started : Bool} :
      History r group started sys → Steady group sys sys' → History r group started sys'

/-! ## What always holds -/

theorem History.uniform (history : History r group started sys) : r.Uniform := by
  induction history with
  | new uniform => exact uniform
  | start _ _ ih | stop _ _ ih | reconfigure _ _ _ ih | steady _ _ ih => exact ih

/-- What holds of a group at any time, and of a started group. -/
structure Orderly (r : Registry) (group : Nat) (started : Bool) (sys : System) (h : Holding) :
    Prop where
  holds : sys.Holds group h
  neat : h.Neat r
  tidy : started = true → h.Tidy r

theorem keys_ofConfig (config : PluginConfig) (first stopTimeout : Nat) :
    Dict.keys (Group.ofConfig config first stopTimeout).plugins = config.keys := by
  refine List.ext_getElem? fun i => ?_
  unfold Dict.keys Group.ofConfig
  dsimp only
  rw [List.getElem?_map, List.getElem?_map, List.getElem?_mapIdx, Option.map_map]
  rfl

theorem ordered_ofConfig {config : PluginConfig} (ordered : Dict.Ordered config)
    (first stopTimeout : Nat) : Dict.Ordered (Group.ofConfig config first stopTimeout).plugins := by
  have ascending := List.pairwise_map.2 ordered
  rw [← Dict.keys, ← keys_ofConfig config first stopTimeout] at ascending
  exact List.pairwise_map.1 ascending

theorem entry_of_ofConfig {config : PluginConfig} {first stopTimeout : Nat} {name : String}
    {p : Plugin} (held : (Group.ofConfig config first stopTimeout).plugins.find? name = some p) :
    (name, p.entry) ∈ config ∧ p.worker = none := by
  obtain ⟨i, inside, same⟩ := List.mem_mapIdx.1 (Dict.mem_of_find? held)
  cases same
  exact ⟨List.getElem_mem inside, rfl⟩

theorem orderly_ofConfig {raw : Value} {config : PluginConfig} {first stopTimeout : Nat}
    (present : pluginStore < sys.stores.length) (validated : PluginConfig.validate r raw = .ok config)
    (new : sys.groups[group]? = some (Group.ofConfig config first stopTimeout)) :
    ∃ h, Orderly r group false sys h := by
  have sound := PluginConfig.sound_of_validate validated
  refine ⟨⟨_, _⟩, ⟨present, ⟨_, new, rfl⟩, rfl⟩, ⟨ordered_ofConfig sound.ordered _ _,
    fun name p held => ?_⟩, fun never => ?_⟩
  · obtain ⟨listed, -⟩ := entry_of_ofConfig held
    exact ⟨sound.named _ _ listed, sound.valid _ _ listed⟩
  · cases never

theorem valid_startAgenda (g : Group) : ∀ c ∈ g.startAgenda, c.Valid r := by
  refine List.forall_mem_append.2 ⟨fun c present => ?_, by simp [Command.Valid]⟩
  obtain ⟨⟨name, p⟩, -, row⟩ := List.mem_flatMap.1 present
  rcases List.mem_pair.1 row with rfl | rfl <;> trivial

theorem valid_stopAgenda (g : Group) (timeout : Nat) :
    ∀ c ∈ g.stopAgenda timeout, c.Valid r := by
  refine List.forall_mem_append.2 ⟨fun c present => ?_, by simp [Command.Valid]⟩
  obtain ⟨⟨name, p⟩, -, rfl⟩ := List.mem_map.1 present
  trivial

theorem valid_reconfigureAgenda (g : Group) {next : PluginConfig} (sound : next.Sound r) :
    ∀ c ∈ g.reconfigureAgenda next, c.Valid r := by
  refine List.forall_mem_append.2 ⟨List.forall_mem_append.2 ⟨List.forall_mem_append.2
    ⟨List.forall_mem_append.2 ⟨List.forall_mem_append.2 ⟨fun c present => ?_, ?_⟩, ?_⟩,
      fun c present => ?_⟩, fun c present => ?_⟩, ?_⟩
  · obtain ⟨⟨name, p⟩, -, rfl⟩ := List.mem_map.1 present
    trivial
  · simp [Command.Valid]
  · split <;> simp [Command.Valid]
  · obtain ⟨⟨name, p⟩, -, rfl⟩ := List.mem_map.1 present
    trivial
  · obtain ⟨⟨name, entry⟩, listed, rfl⟩ := List.mem_map.1 present
    exact sound.valid name entry listed
  · simp [Command.Valid]

/-- A started group is tidy, however it came about. -/
theorem History.orderly (history : History r group started sys) :
    ∃ h, Orderly r group started sys h := by
  -- A start makes a group tidy, a stop takes that away, and the other calls leave it as it is.
  induction history with
  | new _ present validated new => exact orderly_ofConfig present validated new
  | @start sys sys' started result _ called ih =>
    obtain ⟨h, orderly⟩ := ih
    obtain ⟨g, h', same, held, runs⟩ := runs_of_called orderly.holds called
    have neat := Holding.runs_neat runs orderly.neat (valid_startAgenda g)
    have begun := Holding.runs_startAgenda orderly.neat same runs
    refine ⟨h', held, neat, fun either => begun.tidy neat ?_⟩
    rcases Bool.or_eq_true_iff.1 either with before | ended
    · exact .inl (orderly.tidy before)
    · exact .inr ended
  | @stop sys sys' started timeout result _ called ih =>
    obtain ⟨h, orderly⟩ := ih
    obtain ⟨g, h', -, held, runs⟩ := runs_of_called orderly.holds called
    exact ⟨h', held, Holding.runs_neat runs orderly.neat (valid_stopAgenda g timeout),
      fun never => by cases never⟩
  | @reconfigure sys sys' started raw next result history validated called ih =>
    obtain ⟨h, orderly⟩ := ih
    have sound := PluginConfig.sound_of_validate validated
    obtain ⟨g, h', same, held, runs⟩ := runs_of_called orderly.holds called
    refine ⟨h', held, ?_, fun begun => ?_⟩
    · exact Holding.runs_neat runs orderly.neat (valid_reconfigureAgenda g sound)
    · exact (Holding.runs_reconfigure history.uniform (orderly.tidy begun) sound same runs).1
  | steady _ quiet ih =>
    obtain ⟨h, orderly⟩ := ih
    exact ⟨h, quiet.holds h orderly.holds, orderly.neat, orderly.tidy⟩

/-! ## Convergence -/

theorem find?_ofConfig {config : PluginConfig} (sound : config.Sound r)
    (first stopTimeout : Nat) (name : String) :
    ((Group.ofConfig config first stopTimeout).plugins.find? name).map (·.entry) =
      config.find? name := by
  cases held : (Group.ofConfig config first stopTimeout).plugins.find? name with
  | none =>
    rw [Dict.find?_eq_none_iff, keys_ofConfig, ← Dict.find?_eq_none_iff] at held
    rw [held]
    rfl
  | some p => exact (sound.find?_iff.2 (entry_of_ofConfig held).1).symm

/-- A group that is started leaves what its configuration says. -/
theorem converged_of_start {raw : Value} {config : PluginConfig} {first stopTimeout : Nat}
    (present : pluginStore < sys.stores.length) (validated : PluginConfig.validate r raw = .ok config)
    (new : sys.groups[group]? = some (Group.ofConfig config first stopTimeout))
    (unclaimed : (sys.storeAt pluginStore).claims = [])
    (called : Called sys group .start Group.startAgenda (.ok ()) sys') :
    (sys'.holding group).Converged config := by
  have sound := PluginConfig.sound_of_validate validated
  obtain ⟨h, orderly⟩ := orderly_ofConfig present validated new
  have was := orderly.holds.holding
  obtain ⟨g, h', same, held, runs⟩ := runs_of_called orderly.holds called
  have begun := Holding.runs_startAgenda orderly.neat same runs
  have entries (name : String) :
      (h'.plugins.find? name).map (·.entry) = config.find? name := by
    rw [begun.entries name, ← was, ← find?_ofConfig sound first stopTimeout name]
    unfold System.holding
    rw [new]
    rfl
  rw [held.holding]
  refine ⟨fun name entry found => ?_, fun name q found => ?_, fun name path => ⟨fun owned => ?_, ?_⟩⟩
  · rw [← entries name] at found
    obtain ⟨q, given, rfl⟩ := Option.map_eq_some_iff.1 found
    exact ⟨q, given, (begun.running rfl name q given).1, .refl q.entry⟩
  · have named := entries name
    rw [found, Option.map_some] at named
    exact Holding.contains_of_find? named.symm
  · rcases begun.claims name with before | ⟨q, given, claimed⟩
    · rw [before, ← was] at owned
      unfold System.holding at owned
      rw [unclaimed] at owned
      cases owned
    · rw [claimed] at owned
      refine ⟨q.entry, ?_, Option.some.inj owned⟩
      rw [← entries name, given]
      rfl
  · rintro ⟨entry, found, rfl⟩
    rw [← entries name] at found
    obtain ⟨q, given, rfl⟩ := Option.map_eq_some_iff.1 found
    exact (begun.running rfl name q given).2

/-- What a reconfiguration of a started group that succeeds has made of what it held. -/
theorem History.reconfigured {raw : Value} {next : PluginConfig}
    (history : History r group true sys) (validated : PluginConfig.validate r raw = .ok next)
    (called : Called sys group .reconfigure (·.reconfigureAgenda next) (.ok ()) sys') :
    (sys'.holding group).Tidy r ∧ (sys.holding group).Reconfigured next (sys'.holding group) := by
  obtain ⟨h, orderly⟩ := history.orderly
  have sound := PluginConfig.sound_of_validate validated
  obtain ⟨g, h', same, held, runs⟩ := runs_of_called orderly.holds called
  obtain ⟨tidy, reconfigured⟩ :=
    Holding.runs_reconfigure history.uniform (orderly.tidy rfl) sound same runs
  rw [held.holding, orderly.holds.holding]
  exact ⟨tidy, reconfigured rfl⟩

/-- A reconfiguration that succeeds leaves what the next configuration says, exactly if the plugins
that stay ran before it and nobody had a claim but the plugins that were held or are named next. -/
theorem reconfigure_converges_iff {raw : Value} {next : PluginConfig}
    (history : History r group true sys) (validated : PluginConfig.validate r raw = .ok next)
    (called : Called sys group .reconfigure (·.reconfigureAgenda next) (.ok ()) sys') :
    (sys'.holding group).Converged next ↔ (sys.holding group).Recoverable next := by
  obtain ⟨tidy, reconfigured⟩ := history.reconfigured validated called
  have sound := PluginConfig.sound_of_validate validated
  exact reconfigured.converged_iff sound tidy

/-- From what a configuration says, a reconfiguration that succeeds leads to what the next one
says. -/
theorem converged_of_reconfigure {raw : Value} {config next : PluginConfig}
    (history : History r group true sys) (converged : (sys.holding group).Converged config)
    (validated : PluginConfig.validate r raw = .ok next)
    (called : Called sys group .reconfigure (·.reconfigureAgenda next) (.ok ()) sys') :
    (sys'.holding group).Converged next := by
  obtain ⟨tidy, reconfigured⟩ := history.reconfigured validated called
  have sound := PluginConfig.sound_of_validate validated
  exact (reconfigured.converged_iff sound tidy).2 (converged.recoverable next)

/-! ## A feed that cannot be connected to -/

namespace OneFeed

/-- Feeds are the only kind of source, under the name that tests give them. -/
def kinds : Registry := [("mock", .feed)]

/-- A plugin `x` that takes from a feed. -/
def takesFrom (feed : String) : Value :=
  .object [("x", .object [("feed", .string feed), ("type", .string "mock")])]

/-- The same plugin with a feed that cannot be connected to. -/
def cannotConnect : Value :=
  .object [("x", .object
    [("broken", .bool true), ("feed", .string "a"), ("type", .string "mock")])]

def configOf (raw : Value) : PluginConfig := ((PluginConfig.validate kinds raw).toOption).getD []

/-- One store without data, and a group that holds the plugin. -/
def fresh : System :=
  ((Session.new (System.new [.empty] .absent .empty)).holdPlugins
    (configOf (takesFrom "a")) 5).system

/-- The system after a call of the group. -/
def after (sys : System) (purpose : Purpose) (agenda : Group → List Command) : System :=
  sys.makeCall 0 purpose (agenda ((sys.groups[0]?).getD (Group.ofConfig [] 0 0)))

theorem called_after {purpose : Purpose} {agenda : Group → List Command}
    {result : Except PluginError Unit} (held : (sys.groups[0]?).isSome = true)
    (ended : (after sys purpose agenda).call.bind (·.result) = some result) :
    Called sys 0 purpose agenda result (after sys purpose agenda) := by
  obtain ⟨g, found⟩ := Option.isSome_iff_exists.1 held
  unfold after at ended ⊢
  rw [found] at ended ⊢
  exact called_makeCall found ended

def begun : System := after fresh .start Group.startAgenda

/-- The group was told to take from a feed that it cannot connect to. -/
def failed : System :=
  after begun .reconfigure (·.reconfigureAgenda (configOf cannotConnect))

/-- The group was then told to take from another feed. -/
def repaired : System :=
  after failed .reconfigure (·.reconfigureAgenda (configOf (takesFrom "b")))

/-- Without a failure in between. -/
def changed : System :=
  after begun .reconfigure (·.reconfigureAgenda (configOf (takesFrom "b")))

theorem validated {raw : Value} (accepted : (PluginConfig.validate kinds raw).isOk = true) :
    PluginConfig.validate kinds raw = .ok (configOf raw) := by
  unfold configOf
  cases ok : PluginConfig.validate kinds raw with
  | ok config => rfl
  | error e =>
    rw [ok] at accepted
    cases accepted

theorem uniform_kinds : kinds.Uniform := by
  intro name kind known
  cases List.mem_singleton.1 (Dict.mem_of_find? known)
  exact SourceKind.uniform_feed

theorem called_begun : Called fresh 0 .start Group.startAgenda (.ok ()) begun :=
  called_after rfl (by decide +kernel)

theorem history_begun : History kinds 0 true begun :=
  (History.new uniform_kinds (by decide) (validated (by decide +kernel)) rfl).start called_begun

theorem called_failed : Called begun 0 .reconfigure
    (·.reconfigureAgenda (configOf cannotConnect))
    (.error (.fetch (.other "cannot connect"))) failed :=
  called_after (by decide +kernel) (by decide +kernel)

end OneFeed

/-- A reconfiguration that succeeds after one that failed, and leaves the plugin stopped. -/
theorem stopped_after_success :
    History OneFeed.kinds 0 true OneFeed.failed ∧
      PluginConfig.validate OneFeed.kinds (OneFeed.takesFrom "b") =
        .ok (OneFeed.configOf (OneFeed.takesFrom "b")) ∧
      Called OneFeed.failed 0 .reconfigure
        (·.reconfigureAgenda (OneFeed.configOf (OneFeed.takesFrom "b"))) (.ok ())
        OneFeed.repaired ∧
      ¬ (OneFeed.repaired.holding 0).Converged (OneFeed.configOf (OneFeed.takesFrom "b")) := by
  refine ⟨OneFeed.history_begun.reconfigure (OneFeed.validated (by decide +kernel))
      OneFeed.called_failed,
    OneFeed.validated (by decide +kernel),
    OneFeed.called_after (by decide +kernel) (by decide +kernel), ?_⟩
  intro converged
  have listed : ((OneFeed.configOf (OneFeed.takesFrom "b")).find? "x").isSome = true := by
    decide +kernel
  obtain ⟨entry, found⟩ := Option.isSome_iff_exists.1 listed
  obtain ⟨p, held, running, -⟩ := converged.running "x" entry found
  have stopped : ((OneFeed.repaired.holding 0).plugins.find? "x").map (·.worker.isSome) =
      some false := by decide +kernel
  rw [held, Option.map_some, running] at stopped
  cases stopped

/-- Without a failure the reconfiguration leaves what it should. -/
theorem converged_after_success :
    Called OneFeed.begun 0 .reconfigure
        (·.reconfigureAgenda (OneFeed.configOf (OneFeed.takesFrom "b"))) (.ok ())
        OneFeed.changed ∧
      (OneFeed.changed.holding 0).Converged (OneFeed.configOf (OneFeed.takesFrom "b")) := by
  have validated := @OneFeed.validated (OneFeed.takesFrom "b") (by decide +kernel)
  have called : Called OneFeed.begun 0 .reconfigure
      (·.reconfigureAgenda (OneFeed.configOf (OneFeed.takesFrom "b"))) (.ok ())
      OneFeed.changed := OneFeed.called_after (by decide +kernel) (by decide +kernel)
  have before := converged_of_start (by decide) (OneFeed.validated (by decide +kernel)) rfl rfl
    OneFeed.called_begun
  refine ⟨called, ?_⟩
  exact (reconfigure_converges_iff OneFeed.history_begun validated called).2 (before.recoverable _)

end System

end DocStore
