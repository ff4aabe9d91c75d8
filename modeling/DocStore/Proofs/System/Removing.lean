import DocStore.Proofs.System.Departure

/-!
# A reconfiguration removes what is gone

A call that reconfigures a group goes through three stretches. It takes the plugins out that are not in the
next configuration, one by one, and waits for the worker of each. Then it is on the errand that removes
their paths. After that errand they are gone and so are their paths, and whatever else the call does, it
does later.

Results:
  * `removing_step`: each step keeps to the three stretches;
  * `run_removes`: a reconfiguration comes to a moment when a removed plugin has departed, and nothing is
    left at its path unless the removal itself has failed.
-/

namespace DocStore

/-- The commands that take plugins out of a group and remove their paths, and those behind them. -/
def clearance (names : List String) (timeout : Nat) (paths : List Path) (back : List Command) :
    List Command :=
  (names.map fun name => .dismiss name timeout) ++
    .publish :: .run (.removeAll paths) .nothing :: back

/-- A reconfiguration that removes a plugin begins with a clearance. -/
theorem Group.clearance_of_removed {g : Group} {next : PluginConfig} {name : String} {p : Plugin}
    (held : g.plugins.find? name = some p) (unnamed : next.contains name = false) :
    ∃ names paths back, g.reconfigureAgenda next = clearance names g.stopTimeout paths back ∧
      name ∈ names ∧ p.entry.path ∈ paths ∧ ∀ c ∈ back, c.Plain := by
  have removed : (name, p) ∈ g.removedBy next :=
    List.mem_filter.2 ⟨Dict.mem_of_find? held, by simp [unnamed]⟩
  have path : p.entry.path ∈ (g.removedBy next).map (·.2.entry.path) :=
    List.mem_map.2 ⟨(name, p), removed, rfl⟩
  have some : ((g.removedBy next).map (·.2.entry.path)).isEmpty = false := by
    rw [List.isEmpty_eq_false_iff]
    exact List.ne_nil_of_mem path
  refine ⟨(g.removedBy next).map (·.1), (g.removedBy next).map (·.2.entry.path),
    ((g.removedBy next).map (·.1)).map Command.release ++
      ((next.map (·.2)).map (Command.refresh · g.stopTimeout) ++
        [.adopt next, .publish, .settle true, .run (.read Bundle.recordsPath) .checkOverlaps]),
    ?_, List.mem_map.2 ⟨(name, p), removed, rfl⟩, path, ?_⟩
  · rw [Holding.reconfigureAgenda_eq]
    have cut {row : List Command} : (if ((g.removedBy next).map (·.2.entry.path)).isEmpty then [] else
        row) = row := by rw [some]; rfl
    exact congrArg (fun row => _ ++ Command.publish :: (row ++ _)) cut
  · refine List.forall_mem_append.2 ⟨?_, List.forall_mem_append.2 ⟨?_, by simp [Command.Plain]⟩⟩
    · exact List.forall_mem_map.2 fun _ _ => trivial
    · exact List.forall_mem_map.2 fun _ _ => trivial

namespace Traffic

open DocStore.System

/-- No calls are made. -/
def Alone (_ : System) (_ : Call) : Prop := False

/-- The call has failed. -/
def Failed (τ : Traffic) : Prop :=
  ∃ c e, τ.system.call = some c ∧ c.result = some (.error e)

/-- How far a reconfiguration has come with a plugin that it removes. `earlier` is what had happened when
it was made, and `log` what has happened since. -/
inductive Removing (earlier : List WorkEvent) (start : Traffic) (place : Nat) (name : String) (p : Plugin)
    (log : List WorkEvent) (τ : Traffic) : Prop
  /-- Plugins are still being taken out. -/
  | takesOut (c : Call) (waits : List Command) (names : List String) (timeout : Nat) (paths : List Path)
      (back : List Command) (called : τ.system.call = some c) (unfinished : c.result = none)
      (here : c.group = place) (row : c.agenda = waits ++ clearance names timeout paths back)
      (waiting : waits = [] ∨ ∃ ticket deadline, waits = [.awaitExit ticket deadline])
      (listed : p.entry.path ∈ paths) (plain : ∀ command ∈ back, command.Plain)
      (still : (name ∈ names ∧ τ.system.held? place name = some p) ∨
        Gone τ.system p.state τ.system.agenda)
  /-- The paths are being removed. -/
  | clears (c : Call) (paths : List Path) (back : List Command) (called : τ.system.call = some c)
      (unfinished : c.result = none) (row : c.agenda = .run (.removeAll paths) .nothing :: back)
      (listed : p.entry.path ∈ paths) (plain : ∀ command ∈ back, command.Plain)
      (gone : Gone τ.system p.state τ.system.agenda)
      (undertakes : ∀ e, c.errand = some e → Undertakes (fun _ after =>
        after.get? p.entry.path = none) (.removeAll paths) τ.system e)
  | cleared (before after : List WorkEvent) (mid : Traffic) (split : log = before ++ after)
      (sofar : Run Alone start before mid) (later : Run Alone mid after τ)
      (nothing : (mid.system.storeAt pluginStore).contents.get? p.entry.path = none ∨ mid.Failed)
      (departed : Departed (earlier ++ before) p.state mid)

variable {earlier log events : List WorkEvent} {start τ τ' : Traffic} {place : Nat} {name : String}
  {p : Plugin} {c : Call}

/-- What a removal of paths may lead to, as far as one of them is concerned. -/
theorem stages_removal {path : Path} {paths : List Path} (listed : path ∈ paths) :
    Plan.Stages (fun _ after => after.get? path = none) (.removeAll paths) :=
  (Store.stages_removeAll paths).mono fun _ _ both => both.1 path listed

theorem agenda_of_call (called : τ.system.call = some c) : τ.system.agenda = c.agenda := by
  unfold agenda
  rw [called]
  rfl

theorem proceed_of_step {sys mid : System} {d : Call} (goes : sys.stepCall c = (mid, d)) :
    sys.proceed c = { mid with call := some d } := by
  unfold proceed
  rw [goes]

/-- A plugin is taken out of the group. -/
theorem gone_of_posts {sys sys' : System} {row : List Command} (roster : Roster sys)
    (held : sys.held? place name = some p) (posts : Posts place name none sys sys')
    (unlaunched : ∀ entry slot, .launch entry p.state slot ∉ row) : Gone sys' p.state row := by
  refine ⟨posts.states.symm ▸ roster.state place name p held, fun place' name' q found same => ?_,
    unlaunched⟩
  rw [posts.held] at found
  split at found
  · cases found
  · next there => exact there (roster.distinct place name p place' name' q held found same)

/-- Nothing in a clearance brings up a worker. -/
theorem unlaunched_clearance {waits : List Command} {entry : PluginEntry} {state : Nat}
    {slot : Option Nat} {left : List String} {timeout : Nat} {paths : List Path} {back : List Command}
    (waiting : waits = [] ∨ ∃ ticket deadline, waits = [.awaitExit ticket deadline])
    (plain : ∀ command ∈ back, command.Plain) :
    .launch entry state slot ∉ waits ++ clearance left timeout paths back := by
  intro mem
  rcases List.mem_append.1 mem with wait | mem
  · rcases waiting with rfl | ⟨ticket, deadline, rfl⟩
    · cases wait
    · simp at wait
  · unfold clearance at mem
    rcases List.mem_append.1 mem with dismissal | mem
    · simp at dismissal
    · rcases List.mem_cons.1 mem with never | mem
      · cases never
      · rcases List.mem_cons.1 mem with never | mem
        · cases never
        · exact plain _ mem

section Step

variable {s : Store} {σ : Schedule} {sys : System} {d : Call} {waits back : List Command}
  {names : List String} {timeout : Nat} {paths : List Path}

/-- The stretch in which plugins are taken out goes on. -/
theorem Removing.stays (goes : τ.system.stepCall c = (sys, d)) (unfinished : d.result = none)
    (here : d.group = place) (row : d.agenda = waits ++ clearance names timeout paths back)
    (waiting : waits = [] ∨ ∃ ticket deadline, waits = [.awaitExit ticket deadline])
    (listed : p.entry.path ∈ paths) (plain : ∀ command ∈ back, command.Plain)
    (still : (name ∈ names ∧ sys.held? place name = some p) ∨ Gone sys p.state d.agenda) :
    Removing earlier start place name p log (τ.go (τ.system.proceed c)) := by
  rw [proceed_of_step goes]
  exact .takesOut d waits names timeout paths back rfl unfinished here row waiting listed plain
    (still.imp_right fun gone => gone.keep rfl (Nat.le_refl _) gone.unlaunched)

/-- One command of the stretch in which plugins are taken out. -/
theorem removing_takesOut (roster : Roster τ.system) (unfinished : c.result = none)
    (here : c.group = place) (row : c.agenda = waits ++ clearance names timeout paths back)
    (waiting : waits = [] ∨ ∃ ticket deadline, waits = [.awaitExit ticket deadline])
    (listed : p.entry.path ∈ paths) (plain : ∀ command ∈ back, command.Plain)
    (still : (name ∈ names ∧ τ.system.held? place name = some p) ∨ Gone τ.system p.state c.agenda) :
    Removing earlier start place name p log (τ.go (τ.system.proceed c)) := by
  have stepped (gone : Gone τ.system p.state c.agenda) := gone.stepCall
  rcases waiting with rfl | ⟨ticket, deadline, rfl⟩
  · cases names with
    | nil =>
      -- Nobody is left to be taken out, and the plugins that run are published.
      have gone := stepped (still.resolve_left fun listed => by cases listed.1)
      obtain ⟨mid, next, manages, goes⟩ := stepCall_prompt τ.system row trivial
      rw [goes] at gone
      cases manages with
      | fails _ starting => exact starting.elim
      | idles inert =>
        rw [proceed_of_step goes]
        exact .clears _ paths back rfl unfinished rfl listed plain
          (gone.keep rfl (Nat.le_refl _) gone.unlaunched) nofun
      | claims _ claiming => cases claiming
    | cons first names =>
      obtain ⟨mid, next, manages, goes⟩ := stepCall_prompt τ.system row trivial
      rw [here] at manages
      -- The plugin is the one that is taken out, or it is as it was.
      have posted {first' : List Command} (posts : Posts place first none τ.system mid)
          (waiting : first' = [] ∨ ∃ ticket deadline, first' = [.awaitExit ticket deadline])
          (gone : Gone τ.system p.state c.agenda →
            Gone mid p.state (first' ++ clearance names timeout paths back)) :
          (name ∈ names ∧ mid.held? place name = some p) ∨
            Gone mid p.state (first' ++ clearance names timeout paths back) := by
        rcases still with ⟨mem, held⟩ | before
        · by_cases mine : name = first
          · subst mine
            exact .inr (gone_of_posts roster held posts fun entry slot =>
              unlaunched_clearance waiting plain)
          · refine .inl ⟨List.mem_of_ne_of_mem mine mem, ?_⟩
            rw [posts.held, if_neg fun both => mine both.2, held]
        · exact .inr (gone before)
      have goneOn (before : Gone τ.system p.state c.agenda) := stepped before
      rw [goes] at goneOn
      cases manages with
      | fails _ starting => exact starting.elim
      | idles inert unheld =>
        refine .stays goes unfinished here rfl (.inl rfl) listed plain ?_
        refine still.imp (fun both => ?_) goneOn
        have other : name ≠ first := by
          rintro rfl
          cases both.2.symm.trans (unheld _ _ rfl)
        refine ⟨List.mem_of_ne_of_mem other both.1, ?_⟩
        rw [held?_of_rosters inert.rosters, both.2]
      | claims _ claiming => cases claiming
      | drops held stopped posts =>
        exact .stays goes unfinished here rfl (.inl rfl) listed plain
          (posted posts (.inl rfl) goneOn)
      | @dismisses _ _ ticket deadline q _ held runs posts =>
        exact .stays goes unfinished here rfl (.inr ⟨ticket, deadline, rfl⟩) listed plain
          (posted posts (.inr ⟨ticket, deadline, rfl⟩) goneOn)
  · rcases stepCall_wait τ.system row with ⟨goes, -⟩ | ⟨goes, -⟩
    · refine .stays goes unfinished here rfl (.inl rfl) listed plain (still.imp_right fun gone => ?_)
      have after := stepped gone
      rwa [goes] at after
    · exact .stays goes unfinished here row (.inr ⟨ticket, deadline, rfl⟩) listed plain still

/-- One step of the errand that removes paths. When it is over, the plugin has departed and its path is
empty. -/
theorem removing_clears (present : pluginStore < τ.system.stores.length)
    (unfinished : c.result = none) (row : c.agenda = .run (.removeAll paths) .nothing :: back)
    (listed : p.entry.path ∈ paths) (plain : ∀ command ∈ back, command.Plain)
    (gone : Gone τ.system p.state c.agenda)
    (undertakes : ∀ e, c.errand = some e → Undertakes (fun _ after =>
      after.get? p.entry.path = none) (.removeAll paths) τ.system e)
    (sofar : Run Alone start log (τ.go (τ.system.proceed c)))
    (answers : Answers (earlier ++ log) (τ.go (τ.system.proceed c))) :
    Removing earlier start place name p log (τ.go (τ.system.proceed c)) := by
  have undertaken := undertaken_advanceErrand present (stages_removal listed) undertakes
  have stepped := gone.stepCall
  rcases stepCall_run τ.system row with ⟨mid, e, advanced, goes⟩ | ⟨mid, result, advanced, goes⟩
  · rw [advanced] at undertaken
    rw [goes] at stepped
    rw [proceed_of_step goes]
    refine .clears _ paths back rfl unfinished row listed plain
      (stepped.keep rfl (Nat.le_refl _) stepped.unlaunched) fun e' on => ?_
    cases on
    obtain ⟨sent, staged⟩ := (undertaken.waits e rfl).1
    exact ⟨sent, fun t outcome closing => (staged t outcome closing).congr rfl⟩
  · rw [advanced] at undertaken
    -- The plugin has departed, however the errand ended.
    have ends {sys : System} {d : Call} (goes : τ.system.stepCall c = (sys, d))
        (plain' : ∀ command ∈ d.agenda, command.Plain)
        (nothing : (sys.storeAt pluginStore).contents.get? p.entry.path = none ∨
          (τ.go (τ.system.proceed c)).Failed) :
        Removing earlier start place name p log (τ.go (τ.system.proceed c)) := by
      have same := proceed_of_step goes
      have row' : (τ.go (τ.system.proceed c)).system.agenda = d.agenda := by
        rw [same]
        rfl
      refine .cleared log [] _ (List.append_nil log).symm sofar .none (nothing.imp_left fun none => ?_)
        (answers.departed ?_ ?_)
      · show ((τ.system.proceed c).storeAt pluginStore).contents.get? p.entry.path = _
        rw [same]
        exact none
      · rw [row']
        rw [goes] at stepped
        show Gone (τ.system.proceed c) p.state d.agenda
        rw [same]
        exact stepped.keep rfl (Nat.le_refl _) stepped.unlaunched
      · rintro ticket ⟨deadline, rest, waits⟩
        exact plain' _ (row'.symm.trans waits ▸ List.mem_cons_self)
    cases result with
    | error refusal =>
      obtain ⟨⟨error, rfl⟩, -⟩ := undertaken.fails refusal rfl
      have failed : (τ.go (τ.system.proceed c)).Failed := by
        refine ⟨(τ.system.stepCall c).2, .store error, rfl, ?_⟩
        rw [goes]
        rfl
      exact ends goes (fun _ never => by cases never) (.inr failed)
    | ok outcome => exact ends goes plain (.inl (undertaken.ends outcome rfl))

/-- Whatever the next step is, the reconfiguration keeps to its stretches. -/
theorem removing_step (removing : Removing earlier start place name p log τ)
    (answers : Answers (earlier ++ log) τ) (ticketed : Ticketed τ)
    (scheduled : Scheduled s pluginStore τ σ) (present : pluginStore < τ.system.stores.length)
    (sofar : Run Alone start log τ) (step : Step Alone τ events τ') :
    Removing earlier start place name p (log ++ events) τ' := by
  have asked : Step Asked τ events τ' := step.mono fun _ _ never => never.elim
  have gone (before : Gone τ.system p.state τ.system.agenda) := gone_step before ticketed asked
  have open' {c : Call} (called : τ.system.call = some c) (unfinished : c.result = none)
      (idle : τ.system.callIsOver = true) : False := by
    unfold callIsOver at idle
    rw [called] at idle
    dsimp only at idle
    rw [unfinished] at idle
    cases idle
  cases removing with
  | takesOut c waits names timeout paths back called unfinished here row waiting listed plain still =>
    cases step with
    | other other =>
      obtain ⟨rosters, -, -, call⟩ := other_keeps ticketed other
      refine .takesOut c waits names timeout paths back (call.trans called) unfinished here row waiting
        listed plain (still.imp (fun both => ⟨both.1, ?_⟩) gone)
      rw [held?_of_rosters rosters, both.2]
    | hold _ idle => exact (open' called unfinished idle).elim
    | call _ _ may => exact may.elim
    | proceed called' =>
      cases called.symm.trans called'
      rw [agenda_of_call called] at still
      exact removing_takesOut answers.accounted.toRoster unfinished here row waiting listed plain still
  | clears c paths back called unfinished row listed plain before undertakes =>
    cases step with
    | other other =>
      obtain ⟨rosters, -, -, call⟩ := other_keeps ticketed other
      exact .clears c paths back (call.trans called) unfinished row listed plain (gone before)
        fun e on => undertakes_other scheduled ticketed present other called on (undertakes e on)
    | hold _ idle => exact (open' called unfinished idle).elim
    | call _ _ may => exact may.elim
    | @proceed c' called' unfinished' =>
      cases called.symm.trans called'
      rw [agenda_of_call called] at before
      have after := answers.step ticketed asked
      rw [List.append_assoc] at after
      exact removing_clears present unfinished row listed plain before undertakes
        (sofar.step (.proceed called unfinished')) after
  | cleared before after mid split first later nothing departed =>
    refine .cleared before (after ++ events) mid ?_ first (later.step step) nothing departed
    rw [split, List.append_assoc]

end Step

/-! ## The whole call -/

section Whole

variable {trees : List Value} {engine : Engine} {files : FileTree} {next : PluginConfig} {g : Group}

/-- A reconfiguration of the group has just been made. -/
def reconfiguring (τ : Traffic) (place : Nat) (g : Group) (next : PluginConfig) : Traffic :=
  τ.go { τ.system with call := some ((Request.reconfigure next).call place g) }

/-- Before a reconfiguration ends it comes to a moment when a plugin that it removes has departed. Nothing
is left at its path then, unless the removal of the paths is what made the call fail. -/
theorem run_removes (stores : 0 < trees.length)
    (before : Run Asked (of (System.new trees engine files)) earlier τ)
    (idle : τ.system.callIsOver = true) (found : τ.system.groups[place]? = some g)
    (held : g.plugins.find? name = some p) (unnamed : next.contains name = false)
    (run : Run Alone (τ.reconfiguring place g next) log τ') (called : τ'.system.call = some c)
    (ended : c.result.isSome = true) :
    ∃ first later mid, log = first ++ later ∧ Run Alone (τ.reconfiguring place g next) first mid ∧
      Run Alone mid later τ' ∧
      ((mid.system.storeAt pluginStore).contents.get? p.entry.path = none ∨ mid.Failed) ∧
      Departed (earlier ++ first) p.state mid := by
  have made : Run Asked (of (System.new trees engine files)) earlier (τ.reconfiguring place g next) := by
    have step := before.step (.call ((Request.reconfigure next).call place g) idle
      (plain_agenda (.reconfigure next) g) ⟨rfl, rfl⟩)
    rwa [List.append_nil] at step
  have start : Removing earlier (τ.reconfiguring place g next) place name p []
      (τ.reconfiguring place g next) := by
    obtain ⟨names, paths, back, row, named, listed, plain⟩ := Group.clearance_of_removed held unnamed
    refine .takesOut _ [] names g.stopTimeout paths back rfl rfl rfl row (.inl rfl) listed plain
      (.inl ⟨named, ?_⟩)
    exact (held?_of_group found name).trans held
  have removing : Removing earlier (τ.reconfiguring place g next) place name p log τ' := by
    clear called
    induction run with
    | none => exact start
    | @step log events τ τ' sofar step ih =>
      have whole := made.trans (sofar.mono fun _ _ never => never.elim)
      obtain ⟨present, σ, scheduled⟩ := whole.scheduled stores
      exact removing_step ih whole.answers (whole.ticketed (ticketed_new trees engine files)) scheduled
        present sofar step
  cases removing with
  | takesOut c' _ _ _ _ _ called' unfinished =>
    cases called.symm.trans called'
    rw [unfinished] at ended
    cases ended
  | clears c' _ _ called' unfinished =>
    cases called.symm.trans called'
    rw [unfinished] at ended
    cases ended
  | cleared first later mid split sofar rest nothing departed =>
    exact ⟨first, later, mid, split, sofar, rest, nothing, departed⟩

end Whole

end Traffic

end DocStore
