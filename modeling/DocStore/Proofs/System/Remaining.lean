import DocStore.Proofs.System.Books
import DocStore.Proofs.System.Preparing
import DocStore.Proofs.System.Proceeding

/-!
# What remains of a call

What a group reports in the course of a call can be told from what remains of it. A start and a
reconfiguration see to the watch, report that all is well unless there are overlaps, and look for
overlaps at last. A stop forgets them before it reports that nothing is ready.

Results:
  * `tracks_stepsTo`, `tracks_proceeds`: what remains of a call, and what the group reports by then;
  * `remains_startAgenda`, `remains_stopAgenda`, `remains_reconfigureAgenda`: calls before their first
    command.
-/

namespace DocStore

/-- Read the records of bundles and look for overlaps. -/
def Command.look : Command := .run (.read Bundle.recordsPath) .checkOverlaps

/-- What remains of a call, with what holds of its group by then. When it is over and has `begun` the
group, the group has a handle of its watch, and it reports the overlaps with the roots in its data. -/
inductive Remains (group : Nat) (begun : Prop) (data : Value) (g : Group) : List Command → Prop
  | preparing {front : List Command} {registered : Bool} (mild : ∀ c ∈ front, c.Mild group)
      (due : begun → g.trigger.isSome = true ∨ ∃ c ∈ front, c.Enlists group) :
      Remains group begun data g (front ++ [.settle registered, .look])
  | settled (due : begun → g.trigger.isSome = true ∧ g.Calm) : Remains group begun data g [.look]
  | looked (due : begun → g.trigger.isSome = true ∧ g.Calm ∧ g.Accurate data) :
      Remains group begun data g []
  | stopping {front : List Command} {status : Status} (never : ¬ begun)
      (mild : ∀ c ∈ front, c.Mild group) :
      Remains group begun data g (front ++ [.unpublish, .delist, .report status])
  | silenced {status : Status} (never : ¬ begun) (cleared : g.Cleared) :
      Remains group begun data g [.delist, .report status]
  | delisted {handle : TriggerHandle} {status : Status} (never : ¬ begun) (cleared : g.Cleared)
      (unlisted : g.trigger = none) :
      Remains group begun data g [.run (.unregister handle) .nothing, .report status]
  | reporting {status : Status} (never : ¬ begun) (cleared : g.Cleared) :
      Remains group begun data g [.report status]

namespace Group

variable {g : Group} {registered : Bool}

/-! ## Commands that report -/

theorem settle_reports (g : Group) (registered : Bool) :
    g.Reports (g.told (.settle registered)) := by
  unfold told
  dsimp only
  split
  · next quiet =>
    rw [Bool.and_eq_true, Option.isNone_iff_eq_none] at quiet
    exact .inr (.inr quiet.1)
  · exact .inl ⟨rfl, rfl⟩

theorem settle_trigger : (g.told (.settle registered)).trigger = g.trigger := by
  unfold told
  dsimp only
  split <;> rfl

/-- With a watch a group that reports no overlaps reports that all is well. -/
theorem settle_calm (enlisted : g.trigger.isSome = true) : (g.told (.settle registered)).Calm := by
  unfold told
  dsimp only
  split
  · exact fun _ => rfl
  · next loud =>
    intro none
    rw [enlisted, Bool.or_true, Bool.and_true, none] at loud
    exact absurd rfl loud

end Group

namespace System

variable {sys sys' : System} {group : Nat} {g g' : Group} {c c' : Call} {standing : Option Status}
  {log : List (Option String)} {command : Command} {first rest : List Command} {begun enlisted : Prop}

theorem registering_of_agenda (coherent : c.Coherent)
    (other : ∀ followup rest, c.agenda ≠ .run (.register (.overlapWatch group)) followup :: rest) :
    Registering group sys c := by
  intro e under registers
  obtain ⟨plan, followup, rest, row, sent⟩ := coherent e under
  rw [← sent.planned, registers] at row
  exact absurd row (other followup rest)

/-! ## One step -/

/-- A command that is carried out at once and cannot fail. -/
theorem prompt_stepsTo (minds : sys.Minds group g standing) (place : c.group = group)
    (unfinished : c.result = none) (row : c.agenda = command :: rest) (prompt : command.Prompt)
    (comes : (sys.perform group command).2 = .ok first) (reports : g.Reports (g.told command))
    (trigger : (g.told command).trigger.isSome = true → g.trigger.isSome = true)
    (steps : StepsTo group sys c log sys' c') :
    ∃ plugins, sys'.Minds group { g.told command with plugins } (heard standing log) ∧
      c'.result = none ∧ c'.agenda = first ++ rest := by
  obtain ⟨after, next, performed, rfl, rfl, rfl⟩ := steps.of_prompt row prompt
  obtain ⟨plugins, found⟩ := group_perform minds.found command
  have minds' := minds.moves (length_perform sys group command)
    (watched_of_eq fun other => watches_perform sys group command other group) found reports trigger
  rw [place] at performed
  rw [performed] at minds' comes
  cases comes
  exact ⟨plugins, minds', unfinished, rfl⟩

/-- The look at the end of a call. -/
theorem look_stepsTo (minds : sys.Minds group g standing) (place : c.group = group)
    (unfinished : c.result = none) (coherent : c.Coherent) (row : c.agenda = [.look])
    (steps : StepsTo group sys c log sys' c') : c'.result = none ∧
      ((sys'.Minds group g (heard standing log) ∧ c'.agenda = [.look]) ∨
        ∃ g', sys'.Minds group g' (heard standing log) ∧ c'.agenda = [] ∧ g'.trigger = g.trigger ∧
          (g.Calm → g'.Calm) ∧ g'.Accurate (sys'.storeAt pluginStore).contents.data) := by
  have sent := coherent.sent row
  obtain ⟨untraced, finds⟩ := advanceErrand_looks sys sent
  have asked := minds.moves (length_advanceErrand sys sent)
    (watched_of_eq fun place => watches_of_triggers (untraced.stores place).triggers)
    (by rw [untraced.groups]; exact minds.found) (.inl ⟨rfl, rfl⟩) id
  rcases steps.of_run row with ⟨errand, advanced, rfl, rfl⟩ |
    ⟨mid, result, after, next, advanced, followed, rfl, rfl, rfl⟩
  · rw [advanced] at asked
    rw [noticed_self, List.append_nil]
    exact ⟨unfinished, .inl ⟨asked, row⟩⟩
  · rw [advanced] at untraced finds asked
    -- What the look has read is what is committed, and the check compares the plugins with that.
    have looked := group_follow asked.found .checkOverlaps result
    have stores := stores_follow mid group .checkOverlaps result
    have sure : (mid.follow group .checkOverlaps result).2 = .ok [] := follow_sure (.inl rfl) group
    rw [place] at followed
    rw [finds result rfl, followed] at looked
    rw [followed] at stores sure
    cases sure
    have later := asked.regroups stores looked (Group.check_reports _)
      (by rw [Group.check_trigger]; exact id)
    rw [← heard_append] at later
    refine ⟨unfinished, .inr ⟨_, later, rfl, Group.check_trigger _, fun calm => calm.check _, ?_⟩⟩
    show Group.Accurate _ (after.storeAt pluginStore).contents.data
    rw [storeAt_of_stores stores, (untraced.stores pluginStore).contents]
    exact Group.check_accurate _

/-- Unregistering the watch of a group that has given up its handle. -/
theorem minds_unregister {plan : Plan} (minds : sys.Minds group g standing) (cleared : g.Cleared)
    (unlisted : g.trigger = none) (sent : ∀ e, c.errand = some e → e.Sent plan) :
    ∃ g', (sys.advanceErrand c plan).1.Minds group g'
      (heard standing (noticed group sys (sys.advanceErrand c plan).1)) ∧
        g'.Cleared ∧ g'.trigger = none := by
  have row : Besides Locally sys (sys.advanceErrand c plan).1 :=
    besides_advanceErrand allows_locally (permits_locally plan) sent
  have length := length_advanceErrand sys sent
  -- A trigger goes, so the watch may be gone afterwards; but there is no handle of it any more.
  have moved {g' : Group} (found : (sys.advanceErrand c plan).1.groups[group]? = some g')
      (reports : g.Reports g') (unlisted' : g'.trigger = none) :
      (sys.advanceErrand c plan).1.Minds group g'
        (heard standing (noticed group sys (sys.advanceErrand c plan).1)) := by
    refine ⟨by rw [length]; exact minds.present, found, fun place away => ?_, fun enlisted => ?_,
      explained_heard reports minds.explained minds.found found⟩
    · rw [watches_besides (fun _ _ kept => kept.triggers away) row]
      exact minds.away place away
    · rw [unlisted'] at enlisted
      cases enlisted
  rcases glances_advanceErrand group sys c plan g minds.found with found | ⟨bundles, found⟩
  · exact ⟨g, moved found (.inl ⟨rfl, rfl⟩) unlisted, cleared, unlisted⟩
  · have unlisted' := (Group.check_trigger (g := g) bundles).trans unlisted
    exact ⟨_, moved found (Group.check_reports bundles) unlisted', cleared.check bundles, unlisted'⟩

theorem unregister_stepsTo {handle : TriggerHandle} (minds : sys.Minds group g standing)
    (cleared : g.Cleared) (unlisted : g.trigger = none) (place : c.group = group)
    (unfinished : c.result = none) (coherent : c.Coherent)
    (row : c.agenda = .run (.unregister handle) .nothing :: rest)
    (steps : StepsTo group sys c log sys' c') :
    ∃ g', sys'.Minds group g' (c'.standing (heard standing log)) ∧ Registering group sys' c' ∧
      (c'.result = none → g'.Cleared ∧ g'.trigger = none ∧
        (c'.agenda = c.agenda ∨ c'.agenda = rest)) := by
  have coherent' := steps.coherent coherent
  obtain ⟨g', asked, cleared', unlisted'⟩ := minds_unregister minds cleared unlisted (coherent.sent row)
  rcases steps.of_run row with ⟨errand, advanced, rfl, rfl⟩ |
    ⟨mid, result, after, next, advanced, followed, rfl, rfl, rfl⟩
  · rw [advanced] at asked
    rw [noticed_self, List.append_nil]
    refine ⟨g', ?_, registering_of_agenda coherent' (by simp [row]),
      fun _ => ⟨cleared', unlisted', .inl rfl⟩⟩
    have open' : ({ c with errand := some errand } : Call).result = none := unfinished
    rw [standing_of_unfinished open']
    exact asked
  · rw [advanced] at asked
    have found := group_follow asked.found .nothing result
    have stores := stores_follow mid group .nothing result
    have nothing := (steady_follow group mid group .nothing result).2
    rw [place] at followed
    rw [followed] at found stores nothing
    have later := asked.regroups stores found (.inl ⟨rfl, rfl⟩) id
    rw [noticed_goOn next later.found place, heard_append]
    cases next with
    | error e =>
      exact ⟨_, goOn_reported later place, registering_of_none rfl, fun never => by cases never⟩
    | ok first =>
      rcases nothing with never | none
      · cases never
      · cases none
        have open' : (after.goOn c rest (.ok [])).2.result = Option.none := unfinished
        refine ⟨_, ?_, registering_of_none rfl, fun _ => ⟨cleared', unlisted', .inr rfl⟩⟩
        rw [standing_of_unfinished open']
        exact later

/-! ## Calls -/

/-- A call of a group that may have been `enlisted` before, and that has `begun` the group if it comes
to its end. -/
structure Tracks (sys : System) (group : Nat) (enlisted begun : Prop) (c : Call)
    (standing : Option Status) (g : Group) : Prop where
  place : c.group = group
  coherent : c.Coherent
  registering : Registering group sys c
  minds : sys.Minds group g (c.standing standing)
  kept : enlisted → g.trigger.isSome = true
  remains : c.result = none → Remains group begun (sys.storeAt pluginStore).contents.data g c.agenda
  ended : ∀ result, c.result = some result → result.isOk = true → begun →
    g.trigger.isSome = true ∧ g.Calm ∧ g.Accurate (sys.storeAt pluginStore).contents.data

section Steps

variable (tracks : sys.Tracks group enlisted begun c standing g) (unfinished : c.result = none)
  (steps : StepsTo group sys c log sys' c')

include tracks steps in
/-- A step after which the call goes on, and not with a registration. -/
theorem Tracks.goesOn (open' : c'.result = none) (minds : sys'.Minds group g' (heard standing log))
    (other : ∀ followup rest, c'.agenda ≠ .run (.register (.overlapWatch group)) followup :: rest)
    (kept : enlisted → g'.trigger.isSome = true)
    (remains : Remains group begun (sys'.storeAt pluginStore).contents.data g' c'.agenda) :
    sys'.Tracks group enlisted begun c' (heard standing log) g' where
  place := steps.group_eq.trans tracks.place
  coherent := steps.coherent tracks.coherent
  registering := registering_of_agenda (steps.coherent tracks.coherent) other
  minds := by
    rw [standing_of_unfinished open']
    exact minds
  kept := kept
  remains _ := remains
  ended result ended := by cases open'.symm.trans ended

include tracks unfinished in
theorem Tracks.minds_now : sys.Minds group g standing := by
  have minds := tracks.minds
  rwa [standing_of_unfinished unfinished] at minds

include tracks unfinished steps

/-- A command that leaves the report alone. -/
theorem tracks_mild (row : c.agenda = command :: rest) (mild : command.Mild group)
    (back : ∀ data (g' : Group) first, (∀ c ∈ first, Command.Mild group c) →
      (g.trigger.isSome = true → g'.trigger.isSome = true) →
      (command.Enlists group → g'.trigger.isSome = true ∨ ∃ c ∈ first, Command.Enlists group c) →
      Remains group begun data g' (first ++ rest)) :
    ∃ g', sys'.Tracks group enlisted begun c' (heard standing log) g' := by
  obtain ⟨g', prepares⟩ := mild_stepsTo (tracks.minds_now unfinished) tracks.place unfinished
    tracks.coherent tracks.registering row mild steps
  refine ⟨g', steps.group_eq.trans tracks.place, steps.coherent tracks.coherent,
    prepares.registering, prepares.minds, fun before => prepares.trigger (tracks.kept before),
    fun open' => ?_, fun result ended ok => ?_⟩
  · obtain ⟨first, agenda, milds, enlists⟩ := prepares.goesOn open'
    rw [agenda]
    exact back _ g' first milds prepares.trigger enlists
  · rw [prepares.fails result ended] at ok
    cases ok

/-- A command that is carried out at once and cannot fail. -/
theorem tracks_prompt (row : c.agenda = command :: rest) (prompt : command.Prompt)
    (comes : (sys.perform group command).2 = .ok first) (reports : g.Reports (g.told command))
    (trigger : (g.told command).trigger.isSome = true → g.trigger.isSome = true)
    (kept : enlisted → (g.told command).trigger.isSome = true)
    (other : ∀ followup more,
      first ++ rest ≠ .run (.register (.overlapWatch group)) followup :: more)
    (remains : ∀ data plugins,
      Remains group begun data { g.told command with plugins } (first ++ rest)) :
    ∃ g', sys'.Tracks group enlisted begun c' (heard standing log) g' := by
  obtain ⟨plugins, minds, open', agenda⟩ := prompt_stepsTo (tracks.minds_now unfinished)
    tracks.place unfinished row prompt comes reports trigger steps
  refine ⟨_, tracks.goesOn steps open' minds (by rw [agenda]; exact other) kept ?_⟩
  rw [agenda]
  exact remains _ plugins

theorem tracks_settle {registered : Bool} (row : c.agenda = [.settle registered, .look])
    (due : begun → g.trigger.isSome = true) :
    ∃ g', sys'.Tracks group enlisted begun c' (heard standing log) g' := by
  have comes : (sys.perform group (.settle registered)).2 = .ok [] := by
    unfold perform
    rw [(tracks.minds_now unfinished).found]
    dsimp only
    split <;> rfl
  have trigger : (g.told (.settle registered)).trigger.isSome = g.trigger.isSome :=
    congrArg Option.isSome Group.settle_trigger
  refine tracks_prompt tracks unfinished steps row trivial comes (g.settle_reports registered)
    (by rw [trigger]; exact id) (by rw [trigger]; exact tracks.kept) (by simp [Command.look])
    fun data plugins => .settled fun begun => ⟨?_, Group.settle_calm (due begun)⟩
  exact trigger.trans (due begun)

theorem tracks_look (row : c.agenda = [.look])
    (due : begun → g.trigger.isSome = true ∧ g.Calm) :
    ∃ g', sys'.Tracks group enlisted begun c' (heard standing log) g' := by
  obtain ⟨open', ⟨minds, agenda⟩ | ⟨g', minds, agenda, trigger, calm, accurate⟩⟩ :=
    look_stepsTo (tracks.minds_now unfinished) tracks.place unfinished tracks.coherent row steps
  · refine ⟨g, tracks.goesOn steps open' minds (by simp [agenda, Command.look]) tracks.kept ?_⟩
    rw [agenda]
    exact .settled due
  · refine ⟨g', tracks.goesOn steps open' minds (by simp [agenda]) ?_ ?_⟩
    · rw [trigger]
      exact tracks.kept
    · rw [agenda]
      refine .looked fun begun => ⟨?_, calm (due begun).2, accurate⟩
      rw [trigger]
      exact (due begun).1

/-- The call has carried out its last command. -/
theorem tracks_ended (row : c.agenda = [])
    (due : begun → g.trigger.isSome = true ∧ g.Calm ∧
      g.Accurate (sys.storeAt pluginStore).contents.data) :
    sys'.Tracks group enlisted begun c' (heard standing log) g := by
  obtain ⟨rfl, rfl, rfl⟩ := steps.of_nil row
  rw [noticed_self]
  exact ⟨tracks.place, fun e never => (by cases never), registering_of_none rfl,
    tracks.minds_now unfinished, tracks.kept, fun never => (by cases never), fun _ _ _ => due⟩

variable (silent : enlisted → False) (never : ¬ begun)

include silent never

theorem tracks_unpublish {status : Status} (row : c.agenda = [.unpublish, .delist, .report status]) :
    ∃ g', sys'.Tracks group enlisted begun c' (heard standing log) g' := by
  have comes : (sys.perform group .unpublish).2 = .ok [] := by
    unfold perform
    rw [(tracks.minds_now unfinished).found]
  exact tracks_prompt tracks unfinished steps row trivial comes (.inr (.inr rfl)) id
    (fun before => (silent before).elim) (by simp) fun _ _ => .silenced never ⟨rfl, rfl⟩

theorem tracks_delist {status : Status} (row : c.agenda = [.delist, .report status])
    (cleared : g.Cleared) :
    ∃ g', sys'.Tracks group enlisted begun c' (heard standing log) g' := by
  have delists {first : List Command} (comes : (sys.perform group .delist).2 = .ok first)
      (other) (remains) : ∃ g', sys'.Tracks group enlisted begun c' (heard standing log) g' :=
    tracks_prompt tracks unfinished steps row trivial comes (.inl ⟨rfl, rfl⟩)
      (fun never => (by cases never)) (fun before => (silent before).elim) other remains
  have found := (tracks.minds_now unfinished).found
  cases held : g.trigger with
  | none =>
    have comes : (sys.perform group .delist).2 = .ok [] := by
      unfold perform
      rw [found]
      dsimp only
      rw [held]
    exact delists comes (by simp) fun _ _ => .reporting never ⟨cleared.active, cleared.overlap⟩
  | some handle =>
    have comes : (sys.perform group .delist).2 = .ok [.run (.unregister handle) .nothing] := by
      unfold perform
      rw [found]
      dsimp only
      rw [held]
    exact delists comes (by simp) fun _ _ =>
      .delisted never ⟨cleared.active, cleared.overlap⟩ rfl

theorem tracks_unregister {handle : TriggerHandle} {status : Status}
    (row : c.agenda = [.run (.unregister handle) .nothing, .report status]) (cleared : g.Cleared)
    (unlisted : g.trigger = none) :
    ∃ g', sys'.Tracks group enlisted begun c' (heard standing log) g' := by
  obtain ⟨g', minds, registering, left⟩ := unregister_stepsTo (tracks.minds_now unfinished) cleared
    unlisted tracks.place unfinished tracks.coherent row steps
  refine ⟨g', steps.group_eq.trans tracks.place, steps.coherent tracks.coherent, registering, minds,
    fun before => (silent before).elim, fun open' => ?_, fun _ _ _ begun => absurd begun never⟩
  obtain ⟨cleared', unlisted', same | rest⟩ := left open'
  · rw [same, row]
    exact .delisted never cleared' unlisted'
  · rw [rest]
    exact .reporting never cleared'

theorem tracks_report {status : Status} (row : c.agenda = [.report status]) (cleared : g.Cleared) :
    ∃ g', sys'.Tracks group enlisted begun c' (heard standing log) g' := by
  have comes : (sys.perform group (.report status)).2 = .ok [] := by
    unfold perform
    rw [(tracks.minds_now unfinished).found]
  exact tracks_prompt tracks unfinished steps row trivial comes (.inr (.inr cleared.overlap)) id
    (fun before => (silent before).elim) (by simp) fun _ _ => .looked fun begun => absurd begun never

end Steps

theorem tracks_stepsTo (only : enlisted → begun)
    (tracks : sys.Tracks group enlisted begun c standing g) (unfinished : c.result = none)
    (steps : StepsTo group sys c log sys' c') :
    ∃ g', sys'.Tracks group enlisted begun c' (heard standing log) g' := by
  have remains := tracks.remains unfinished
  have silent (never : ¬ begun) (before : enlisted) : False := never (only before)
  generalize row : c.agenda = agenda at remains
  -- Each case goes on to the next one, when it has no command left that leaves the report alone.
  cases remains with
  | @preparing front registered mild due =>
    cases front with
    | nil =>
      refine tracks_settle tracks unfinished steps row fun begun => ?_
      rcases due begun with enlisted | ⟨_, never, -⟩
      · exact enlisted
      · cases never
    | cons command more =>
      rw [List.forall_mem_cons] at mild
      refine tracks_mild tracks unfinished steps row mild.1 fun data g' first milds kept enlists => ?_
      have due' (begun : begun) :
          g'.trigger.isSome = true ∨ ∃ c ∈ first ++ more, c.Enlists group := by
        -- The command that sees to the watch is this one, or stands behind it.
        rcases due begun with before | ⟨c, present, enlist⟩
        · exact .inl (kept before)
        · rcases List.mem_cons.1 present with rfl | later
          · rcases enlists enlist with now | ⟨c, within, enlist⟩
            · exact .inl now
            · exact .inr ⟨c, List.mem_append_left _ within, enlist⟩
          · exact .inr ⟨c, List.mem_append_right _ later, enlist⟩
      have later : Remains group begun data g' ((first ++ more) ++ [.settle registered, .look]) :=
        .preparing (List.forall_mem_append.2 ⟨milds, mild.2⟩) due'
      rwa [List.append_assoc] at later
  | settled due => exact tracks_look tracks unfinished steps row due
  | looked due => exact ⟨g, tracks_ended tracks unfinished steps row due⟩
  | @stopping front status never mild =>
    cases front with
    | nil => exact tracks_unpublish tracks unfinished steps (silent never) never row
    | cons command more =>
      rw [List.forall_mem_cons] at mild
      refine tracks_mild tracks unfinished steps row mild.1 fun data g' first milds _ _ => ?_
      have later :
          Remains group begun data g' ((first ++ more) ++ [.unpublish, .delist, .report status]) :=
        .stopping never (List.forall_mem_append.2 ⟨milds, mild.2⟩)
      rwa [List.append_assoc] at later
  | silenced never cleared =>
    exact tracks_delist tracks unfinished steps (silent never) never row cleared
  | delisted never cleared unlisted =>
    exact tracks_unregister tracks unfinished steps (silent never) never row cleared unlisted
  | reporting never cleared =>
    exact tracks_report tracks unfinished steps (silent never) never row cleared

/-! ## What goes on beside a call -/

theorem remains_spared {row : List Command} (spared : Spared sys sys' g g')
    (remains : Remains group begun (sys.storeAt pluginStore).contents.data g row) :
    Remains group begun (sys'.storeAt pluginStore).contents.data g' row := by
  have trigger := spared.trigger
  cases remains with
  | preparing mild due => exact .preparing mild fun begun => by rw [trigger]; exact due begun
  | settled due =>
    exact .settled fun begun => ⟨by rw [trigger]; exact (due begun).1, spared.calm (due begun).2⟩
  | looked due =>
    refine .looked fun begun => ?_
    obtain ⟨enlisted, calm, accurate⟩ := due begun
    exact ⟨by rw [trigger]; exact enlisted, spared.calm calm, spared.accurate enlisted accurate⟩
  | stopping never mild => exact .stopping never mild
  | silenced never cleared => exact .silenced never (spared.cleared cleared)
  | delisted never cleared unlisted =>
    exact .delisted never (spared.cleared cleared) (trigger.trans unlisted)
  | reporting never cleared => exact .reporting never (spared.cleared cleared)

theorem tracks_beside (tracks : sys.Tracks group enlisted begun c standing g)
    (unfinished : c.result = none) (beside : Beside quietly sys sys') :
    ∃ g', sys'.Tracks group enlisted begun c (heard standing (noticed group sys sys')) g' := by
  obtain ⟨g', minds, spared⟩ := (tracks.minds_now unfinished).beside beside
  refine ⟨g', tracks.place, tracks.coherent, fun e under registers => ?_, ?_, ?_,
    fun _ => remains_spared spared (tracks.remains unfinished), fun result ended => ?_⟩
  · obtain ⟨sent, done⟩ := tracks.registering e under registers
    refine ⟨sent, fun t outcome closing => ?_⟩
    rw [watches_beside beside]
    exact done t outcome closing
  · rw [standing_of_unfinished unfinished]
    exact minds
  · rw [spared.trigger]
    exact tracks.kept
  · cases unfinished.symm.trans ended

/-- However far a call proceeds, and whatever goes on beside it. -/
theorem tracks_proceeds (only : enlisted → begun)
    (tracks : sys.Tracks group enlisted begun c standing g)
    (proceeds : Proceeds group sys c log sys' c') :
    ∃ g', sys'.Tracks group enlisted begun c' (heard standing log) g' := by
  induction proceeds with
  | here => exact ⟨g, tracks⟩
  | step _ unfinished ih =>
    obtain ⟨g', later⟩ := ih
    rw [heard_append]
    exact tracks_stepsTo only later unfinished (stepsTo_stepCall group _ _)
  | beside _ unfinished beside ih =>
    obtain ⟨g', later⟩ := ih
    rw [heard_append]
    exact tracks_beside later unfinished beside

/-! ## Calls before their first command -/

theorem remains_startAgenda (group : Nat) (begun : Prop) (data : Value) (g : Group) :
    Remains group begun data g g.startAgenda := by
  unfold Group.startAgenda
  -- All commands before `settle` leave the report alone, and the last of them sees to the watch.
  generalize brings : List.flatMap _ g.plugins = front
  have mild : ∀ c ∈ front ++ [.publish, .enlist], Command.Mild group c := by
    refine List.forall_mem_append.2 ⟨fun c present => ?_, by simp [Command.Mild]⟩
    subst brings
    obtain ⟨⟨name, p⟩, -, row⟩ := List.mem_flatMap.1 present
    rcases List.mem_pair.1 row with rfl | rfl <;> trivial
  have remains : Remains group begun data g (_ ++ [.settle false, .look]) :=
    .preparing mild fun _ => .inr ⟨.enlist, by simp, .inl rfl⟩
  rwa [List.append_assoc] at remains

theorem remains_stopAgenda (never : ¬ begun) (data : Value) (g : Group) (timeout : Nat) :
    Remains group begun data g (g.stopAgenda timeout) := by
  unfold Group.stopAgenda
  generalize stops : List.map _ g.plugins = front
  have mild : ∀ c ∈ front ++ [.releaseAll], Command.Mild group c := by
    refine List.forall_mem_append.2 ⟨fun c present => ?_, by simp [Command.Mild]⟩
    subst stops
    obtain ⟨_, -, rfl⟩ := List.mem_map.1 present
    trivial
  have remains : Remains group begun data g (_ ++ [.unpublish, .delist, .report ⟨.notReady, none⟩]) :=
    .stopping never mild
  rwa [List.append_assoc] at remains

theorem remains_reconfigureAgenda (due : begun → g.trigger.isSome = true) (data : Value)
    (next : PluginConfig) : Remains group begun data g (g.reconfigureAgenda next) := by
  have amends : ∀ c ∈ g.amends next, Command.Mild group c := by
    unfold Group.amends
    simp only [List.forall_mem_append, List.forall_mem_map]
    refine ⟨?_, fun _ _ => trivial, fun _ _ => trivial⟩
    split
    · exact fun _ never => by cases never
    · exact List.forall_mem_singleton.2 (.inl ⟨rfl, rfl⟩)
  have mild : ∀ c ∈ ((g.removedBy next).map (·.1)).map (Command.dismiss · g.stopTimeout) ++
      .publish :: (g.amends next ++ [.adopt next, .publish]), Command.Mild group c := by
    refine List.forall_mem_append.2 ⟨List.forall_mem_map.2 fun _ _ => trivial, ?_⟩
    refine List.forall_mem_cons.2 ⟨trivial, List.forall_mem_append.2 ⟨amends, ?_⟩⟩
    simp [Command.Mild]
  have remains : Remains group begun data g (_ ++ [.settle true, .look]) :=
    .preparing mild fun begun => .inl (due begun)
  rw [List.append_assoc, List.cons_append, List.append_assoc] at remains
  rw [Group.reconfigureAgenda_amends]
  exact remains

end System

end DocStore
