import DocStore.Proofs.System.Reports

/-!
# Commands that leave the report alone

Most commands of a call have no say in what their group reports of overlaps. They bring plugins up and
down, tell the watch, and register it; only what they commit may be noticed. Such a command keeps a
group minding its watch, and comes to further commands of its kind.

Results:
  * `mild_perform`: what such a command comes to;
  * `mild_stepsTo`: a step of a call whose first command is one of them.
-/

namespace DocStore

namespace Command

/-- The command leaves the report on overlaps alone. -/
def Mild (group : Nat) : Command → Prop
  | .settle _ | .unpublish | .delist | .report _ => False
  | .run plan followup => (plan.isPlain = true ∧ followup = .nothing) ∨
    (plan = .register (.overlapWatch group) ∧ followup = .keepHandle)
  | _ => True

/-- After the command the group has a handle of its watch, or what it comes to gives it one. -/
def Enlists (group : Nat) (command : Command) : Prop :=
  command = .enlist ∨ command = .run (.register (.overlapWatch group)) .keepHandle

end Command

/-- The report that stands once a call has its result. -/
def Call.standing (c : Call) (standing : Option Status) : Option Status :=
  match c.result with
  | none => standing
  | some result => (c.report result).or standing

namespace System

variable {sys sys' : System} {group : Nat} {g : Group} {c c' : Call} {standing : Option Status}
  {command : Command}

/-! ## Commands -/

/-- A plugin that is started comes to such commands. -/
theorem mild_startCommands {entry : PluginEntry} {state : Nat} {row : List Command}
    (comes : (sys.startCommands entry state).2 = .ok row) : ∀ c ∈ row, c.Mild group := by
  rcases startCommands_result sys entry state with fails | ⟨slot, goes⟩
  · rw [comes] at fails
    cases fails
  · cases comes.symm.trans goes
    simp [Command.Mild, Plan.isPlain]

theorem mild_perform (found : sys.groups[group]? = some g) (mild : command.Mild group)
    (prompt : command.Prompt) {row : List Command}
    (comes : (sys.perform group command).2 = .ok row) :
    (∀ c ∈ row, c.Mild group) ∧
      (command = .enlist → g.trigger.isSome = true ∨ ∃ c ∈ row, c.Enlists group) := by
  have nothing (same : (.ok [] : CommandResult) = .ok row) : ∀ c ∈ row, c.Mild group := by
    cases same
    exact fun _ never => by cases never
  unfold perform at comes
  rw [found] at comes
  cases command with
  | enlist =>
    dsimp only at comes
    split at comes
    · next enlisted => exact ⟨nothing comes, fun _ => .inl enlisted⟩
    · cases comes
      exact ⟨by simp [Command.Mild], fun _ => .inr ⟨_, List.mem_singleton_self _, .inr rfl⟩⟩
  | start name =>
    refine ⟨?_, fun never => by cases never⟩
    dsimp only at comes
    split at comes
    · exact nothing comes
    · split at comes
      · exact nothing comes
      · exact mild_startCommands comes
  | add entry =>
    refine ⟨?_, fun never => by cases never⟩
    dsimp only at comes
    split at comes
    · cases comes
    · next goes =>
      cases comes
      have first : ∀ c ∈ _, Command.Mild group c := mild_startCommands (by rw [goes])
      exact List.forall_mem_append.2 ⟨first, by simp [Command.Mild]⟩
  | launch entry state slot =>
    refine ⟨?_, fun never => by cases never⟩
    dsimp only at comes
    unfold launch at comes
    split at comes
    · cases comes
    · exact nothing comes
  | stop name timeout =>
    refine ⟨?_, fun never => by cases never⟩
    dsimp only at comes
    split at comes
    · exact nothing comes
    · unfold stopPlugin at comes
      split at comes
      · exact nothing comes
      · cases comes
        simp [Command.Mild]
  | dismiss name timeout =>
    refine ⟨?_, fun never => by cases never⟩
    dsimp only at comes
    split at comes
    · exact nothing comes
    · unfold dismiss at comes
      dsimp only at comes
      split at comes
      · exact nothing comes
      · cases comes
        simp [Command.Mild]
  | refresh entry timeout =>
    refine ⟨?_, fun never => by cases never⟩
    cases comes
    exact forall_refreshCommands (fun _ => trivial) trivial trivial trivial
  | retire name | assign entry =>
    refine ⟨?_, fun never => by cases never⟩
    dsimp only at comes
    split at comes <;> exact nothing comes
  | claim name path | release name | releaseAll | publish | adopt config =>
    exact ⟨nothing comes, fun never => by cases never⟩
  | run plan followup | awaitExit ticket deadline => exact prompt.elim
  | _ => exact mild.elim

/-- What such a command makes of a group. -/
theorem told_mild (mild : command.Mild group) : (g.told command).overlap = g.overlap ∧
    (g.told command).status = g.status ∧ (g.told command).trigger = g.trigger := by
  cases command <;> first | exact ⟨rfl, rfl, rfl⟩ | exact mild.elim

theorem watches_perform (sys : System) (group : Nat) (command : Command) (place other : Nat) :
    (sys.perform group command).1.watches place other = sys.watches place other := by
  rcases stores_perform sys group command with same | ⟨change, kept, same⟩
  · exact watches_of_triggers (by rw [storeAt_of_stores same])
  · rw [same]
    refine watches_updateStore (fun id => ?_) place
    obtain ⟨claims, changed⟩ := kept (sys.storeAt pluginStore)
    rw [changed]

theorem length_perform (sys : System) (group : Nat) (command : Command) :
    (sys.perform group command).1.stores.length = sys.stores.length := by
  rcases stores_perform sys group command with same | ⟨change, kept, same⟩
  · rw [same]
  · rw [same, length_updateStore]

/-! ## Errands -/

/-- Triggers come, and only with the plugins. -/
structure Growing (place : Nat) (s s' : Store) : Prop where
  away : place ≠ pluginStore → s'.triggers = s.triggers
  stays : ∀ trigger ∈ s.triggers, trigger ∈ s'.triggers

theorem allows_growing : Allows Growing where
  aside aside := ⟨fun _ => aside.triggers, fun trigger present => by rwa [aside.triggers]⟩
  trans first next := ⟨fun away => (next.away away).trans (first.away away),
    fun trigger present => next.stays trigger (first.stays trigger present)⟩

theorem permits_growing {plan : Plan} {listener : Listener}
    (either : plan.isPlain = true ∨ plan = .register listener) : Permits Growing pluginStore plan := by
  rcases either with plain | rfl
  · exact permits_plain allows_growing plain
  · intro s s' t t' outcome ok
    unfold Plan.perform at ok
    dsimp only at ok
    split at ok
    · next registered =>
      cases ok
      obtain ⟨draft, -, added⟩ := bind_ok registered
      cases added
      exact ⟨fun away => absurd rfl away, fun trigger present => List.mem_append_left _ present⟩
    · cases ok

theorem watched_beside (beside : Beside Growing sys sys') : Watched group sys sys' := by
  refine ⟨fun place away => watches_away (fun _ _ grows => grows.away away) beside group, ?_⟩
  cases beside with
  | aside _ stores groups =>
    exact fun watched => (watches_of_triggers (by rw [storeAt_of_stores stores])).trans watched
  | store place change kept =>
    intro watched
    obtain ⟨id, present⟩ := watches_iff.1 watched
    refine watches_iff.2 ⟨id, ?_⟩
    by_cases here : place = pluginStore
    · subst here
      by_cases inside : pluginStore < sys.stores.length
      · rw [storeAt_updateStore_self inside]
        exact kept.stays _ present
      · rw [storeAt_of_stores (stores_updateStore_absent inside change)]
        exact present
    · rw [storeAt_updateStore_ne here]
      exact present
  | commit place t => exact fun watched => (watches_commit sys place t pluginStore group).trans watched

theorem watched_besides (row : Besides Growing sys sys') : Watched group sys sys' := by
  induction row with
  | refl => exact watched_of_eq fun _ => rfl
  | tail _ beside ih =>
    have after : Watched group _ _ := watched_beside beside
    exact ⟨fun place away => (after.away place away).trans (ih.away place away),
      fun watched => after.stays (ih.stays watched)⟩

/-- An errand of such a command, however far it comes. -/
theorem Minds.advanceErrand {plan : Plan} {listener : Listener} (minds : sys.Minds group g standing)
    (either : plan.isPlain = true ∨ plan = .register listener)
    (sent : ∀ e, c.errand = some e → e.Sent plan) :
    ∃ g', (sys.advanceErrand c plan).1.Minds group g'
      (heard standing (noticed group sys (sys.advanceErrand c plan).1)) ∧
        g'.trigger = g.trigger := by
  have watched : Watched group sys (sys.advanceErrand c plan).1 :=
    watched_besides (besides_advanceErrand allows_growing (permits_growing either) sent)
  have length := length_advanceErrand sys sent
  rcases glances_advanceErrand group sys c plan g minds.found with found | ⟨bundles, found⟩
  · exact ⟨g, minds.moves length watched found (.inl ⟨rfl, rfl⟩) id, rfl⟩
  · have kept := Group.check_trigger (g := g) bundles
    exact ⟨g.check bundles, minds.moves length watched found (Group.check_reports bundles)
      (by rw [kept]; exact id), kept⟩

/-! ## Steps -/

/-- If a call is on registering the watch of its group and waits to commit, it has registered it. -/
def Registering (group : Nat) (sys : System) (c : Call) : Prop :=
  ∀ e, c.errand = some e → e.plan = .register (.overlapWatch group) → Enrolling group sys e

theorem registering_of_none (idle : c.errand = none) : Registering group sys c := by
  intro e under
  rw [idle] at under
  cases under

/-- What a step leaves whose command leaves the report alone: the call goes on with such commands in
front of the rest, or it has failed. -/
structure Prepares (group : Nat) (g : Group) (command : Command) (rest : List Command) (sys' : System)
    (c' : Call) (standing : Option Status) (g' : Group) : Prop where
  minds : sys'.Minds group g' (c'.standing standing)
  trigger : g.trigger.isSome = true → g'.trigger.isSome = true
  registering : Registering group sys' c'
  goesOn : c'.result = none → ∃ first, c'.agenda = first ++ rest ∧ (∀ c ∈ first, c.Mild group) ∧
    (command.Enlists group → g'.trigger.isSome = true ∨ ∃ c ∈ first, c.Enlists group)
  fails : ∀ result, c'.result = some result → result.isOk = false

theorem goOn_reported {rest : List Command} {e : PluginError} (minds : sys.Minds group g standing)
    (place : c.group = group) :
    (sys.goOn c rest (.error e)).1.Minds group
      { g with status := (c.report (.error e)).getD g.status }
      ((c.report (.error e)).or standing) := by
  have same (place : Nat) : (sys.reported c (.error e)).watches place group =
      sys.watches place group :=
    watches_of_triggers (by rw [storeAt_of_stores (stores_reported sys c _)])
  refine ⟨?_, group_reported minds.found place _, fun other away => ?_, fun enlisted => ?_, ?_⟩
  · show pluginStore < (sys.reported c (.error e)).stores.length
    rw [stores_reported]
    exact minds.present
  · exact (same other).trans (minds.away other away)
  · exact (same pluginStore).trans (minds.enlisted enlisted)
  · intro message known
    have explained := minds.explained message known
    cases c.report (.error e) with
    | none => exact explained
    | some status => rfl

/-- The failure of a call is nothing that its group notices about overlaps. -/
theorem noticed_goOn {before : System} {rest : List Command} (next : CommandResult)
    (found : sys.groups[group]? = some g) (place : c.group = group) :
    noticed group before (sys.goOn c rest next).1 = noticed group before sys := by
  have overlap : (sys.goOn c rest next).1.overlapOf group = sys.overlapOf group := by
    cases next with
    | error e =>
      show (sys.reported c (.error e)).overlapOf group = _
      unfold overlapOf
      rw [group_reported found place, found]
      rfl
    | ok first => rfl
  unfold noticed
  rw [overlap]

/-- A call goes on after such a command, or ends with its failure. -/
theorem prepares_goOn {g₀ : Group} {rest : List Command} {next : CommandResult}
    (minds : sys.Minds group g standing) (place : c.group = group) (unfinished : c.result = none)
    (trigger : g₀.trigger.isSome = true → g.trigger.isSome = true)
    (comes : ∀ first, next = .ok first → (∀ c ∈ first, c.Mild group) ∧
      (command.Enlists group → g.trigger.isSome = true ∨ ∃ c ∈ first, c.Enlists group)) :
    ∃ g', Prepares group g₀ command rest (sys.goOn c rest next).1 (sys.goOn c rest next).2
      standing g' := by
  cases next with
  | error e =>
    refine ⟨_, goOn_reported minds place, trigger, registering_of_none rfl,
      fun never => (by cases never), fun result same => ?_⟩
    cases same
    rfl
  | ok first =>
    obtain ⟨mild, enlists⟩ := comes first rfl
    refine ⟨g, ?_, trigger, registering_of_none rfl, fun _ => ⟨first, rfl, mild, enlists⟩,
      fun result same => ?_⟩
    · have open' : (sys.goOn c rest (.ok first)).2.result = none := unfinished
      unfold Call.standing
      rw [open']
      exact minds
    · cases unfinished.symm.trans same

theorem standing_of_unfinished (unfinished : c.result = none) : c.standing standing = standing := by
  unfold Call.standing
  rw [unfinished]

/-- An errand of such a command that has to wait, or is over. -/
theorem mild_errand {plan : Plan} {followup : Followup} (minds : sys.Minds group g standing)
    (coherent : ∀ e, c.errand = some e → e.Sent plan) (registering : Registering group sys c)
    (mild : (Command.run plan followup).Mild group) :
    (∃ g', (sys.advanceErrand c plan).1.Minds group g'
        (heard standing (noticed group sys (sys.advanceErrand c plan).1)) ∧
      g'.trigger = g.trigger) ∧
    (plan = .register (.overlapWatch group) → Enrolls group (sys.advanceErrand c plan)) := by
  constructor
  · have either : plan.isPlain = true ∨ plan = .register (.overlapWatch group) :=
      mild.imp And.left And.left
    exact minds.advanceErrand either coherent
  · rintro rfl
    exact advanceErrand_enrolls minds.present fun e under =>
      registering e under (coherent e under).planned

theorem noticed_self (group : Nat) (sys : System) : noticed group sys sys = [] := if_pos rfl

/-- What follows an errand of such a command. -/
theorem mild_follow {plan : Plan} {followup : Followup} {result : Except Refusal Outcome}
    (minds : sys.Minds group g standing) (mild : (Command.run plan followup).Mild group)
    (enrolls : plan = .register (.overlapWatch group) → Enrolls group (sys, .finished result)) :
    ∃ g', (sys.follow group followup result).1.Minds group g'
        (heard standing (noticed group sys (sys.follow group followup result).1)) ∧
      (g.trigger.isSome = true → g'.trigger.isSome = true) ∧
      ((Command.run plan followup).Enlists group → g'.trigger.isSome = true) := by
  have found := group_follow minds.found followup result
  have same := stores_follow sys group followup result
  have watches (place : Nat) : (sys.follow group followup result).1.watches place group =
      sys.watches place group := watches_of_triggers (by rw [storeAt_of_stores same])
  -- Only the registration of the watch changes the group, and then the watch is there already.
  rcases mild with ⟨plain, rfl⟩ | ⟨rfl, rfl⟩
  · refine ⟨g, minds.regroups same found (.inl ⟨rfl, rfl⟩) id, id, ?_⟩
    rintro (never | never) <;> cases never
  · obtain ⟨watched, handle, rfl⟩ := enrolls rfl
    refine ⟨{ g with trigger := some handle }, ⟨?_, found, fun place away => ?_, fun _ => ?_, ?_⟩,
      fun _ => rfl, fun _ => rfl⟩
    · rw [same]
      exact minds.present
    · exact (watches place).trans (minds.away place away)
    · exact (watches pluginStore).trans watched
    · exact explained_heard (g := g) (.inl ⟨rfl, rfl⟩) minds.explained minds.found found

theorem mild_stepsTo {rest : List Command} {log : List (Option String)}
    (minds : sys.Minds group g standing) (place : c.group = group) (unfinished : c.result = none)
    (coherent : c.Coherent) (registering : Registering group sys c) (row : c.agenda = command :: rest)
    (mild : command.Mild group) (steps : StepsTo group sys c log sys' c') :
    ∃ g', Prepares group g command rest sys' c' (heard standing log) g' := by
  -- A step that leaves the command where it is.
  have stays {mid : System} {d : Call} {g' : Group} {log : List (Option String)}
      (minds' : mid.Minds group g' (heard standing log)) (agenda : d.agenda = c.agenda)
      (open' : d.result = none) (trigger : g.trigger.isSome = true → g'.trigger.isSome = true)
      (registering' : Registering group mid d) :
      Prepares group g command rest mid d (heard standing log) g' := by
    refine ⟨?_, trigger, registering', fun _ => ⟨[command], agenda.trans row, ?_, ?_⟩, ?_⟩
    · rw [standing_of_unfinished open']
      exact minds'
    · exact List.forall_mem_singleton.2 mild
    · exact fun enlists => .inr ⟨command, List.mem_singleton_self _, enlists⟩
    · intro result ended
      cases open'.symm.trans ended
  cases steps with
  | ends row' => cases row.symm.trans row'
  | @waits plan followup _ _ errand row' advanced =>
    cases row.symm.trans row'
    obtain ⟨⟨g', minds', kept⟩, enrolls⟩ := mild_errand minds (coherent.sent row) registering mild
    have sent : errand.Sent plan := sent_advanceErrand (coherent.sent row) (by rw [advanced])
    rw [advanced] at minds' enrolls
    refine ⟨g', stays ?_ rfl unfinished (by rw [kept]; exact id) fun e under registers => ?_⟩
    · rw [noticed_self, List.append_nil]
      exact minds'
    · cases under
      exact enrolls (sent.planned.symm.trans registers)
  | @runs plan followup _ mid after result next row' advanced followed =>
    cases row.symm.trans row'
    obtain ⟨⟨g', minds', kept⟩, enrolls⟩ := mild_errand minds (coherent.sent row) registering mild
    rw [advanced] at minds' enrolls
    obtain ⟨g'', minds'', trigger, enlisted⟩ := mild_follow minds' mild enrolls
    -- What follows an errand puts no command in front of the rest.
    have nothing := (steady_follow group mid group followup result).2
    rw [place] at followed
    rw [followed] at minds'' nothing
    rw [noticed_goOn next minds''.found place, heard_append]
    refine prepares_goOn minds'' place unfinished ?_ fun first same => ?_
    · rw [← kept]
      exact trigger
    · rw [same] at nothing
      rcases nothing with never | none
      · cases never
      · cases none
        exact ⟨fun _ never => (by cases never), fun enlists => .inl (enlisted enlists)⟩
  | patient row' =>
    refine ⟨g, stays ?_ rfl unfinished id registering⟩
    rw [noticed_self]
    exact minds
  | @exits ticket deadline _ row' =>
    cases row.symm.trans row'
    have open' : ({ c with agenda := rest, errand := none } : Call).result = none := unfinished
    refine ⟨g, ?_, id, registering_of_none rfl, fun _ => ⟨[], rfl, fun _ never => (by cases never),
      fun enlists => ?_⟩, fun result ended => ?_⟩
    · rw [standing_of_unfinished open', noticed_self]
      exact minds
    · rcases enlists with never | never <;> cases never
    · cases open'.symm.trans ended
  | @performs _ _ after next row' prompt performed =>
    cases row.symm.trans row'
    rw [place] at performed
    obtain ⟨plugins, found⟩ := group_perform minds.found command
    obtain ⟨overlap, status, trigger⟩ := told_mild (g := g) mild
    have minds' := minds.moves (length_perform sys group command)
      (watched_of_eq fun other => watches_perform sys group command other group) found
      (.inl ⟨overlap, status⟩) (by rw [show _ = _ from trigger]; exact id)
    have comes (first : List Command) : (sys.perform group command).2 = .ok first → _ :=
      mild_perform minds.found mild prompt
    rw [performed] at minds' comes
    rw [noticed_goOn (c := { c with starting := startingAfter c command }) next minds'.found place]
    refine prepares_goOn minds' place unfinished (by rw [show _ = _ from trigger]; exact id)
      fun first same => ?_
    obtain ⟨milds, enlists⟩ := comes first same
    refine ⟨milds, fun either => ?_⟩
    rcases either with enlist | run
    · rcases enlists enlist with before | later
      · exact .inl (trigger ▸ before)
      · exact .inr later
    · rw [run] at prompt
      exact prompt.elim

end System

end DocStore
