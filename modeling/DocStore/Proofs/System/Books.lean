import DocStore.Proofs.System.History

/-!
# The books of a group

Three maps say which plugins run and what paths they own: the plugins themselves, what the watch of
their group knows, and the claims of the store. Calls write them at different places. A start and a
reconfiguration that come to their end leave them in agreement, and a stop does in any case. One that
fails leaves the watch with what it was told last: nothing new by a start, and by a reconfiguration the
running plugins without those that are gone.

Results:
  * `Tells.split`, `Tells.runs`, `Tells.sure`, `Tells.active_eq`: rows of commands;
  * `tells_stopAgenda`, `tells_startAgenda`, `tells_reconfigureAgenda`: what each call leaves;
  * `active_startAgenda`, `active_reconfigureAgenda`: after a call that comes to its end the watch knows
    what runs.
-/

namespace DocStore

/-! ## Three maps -/

/-- The path of a plugin, if it runs. -/
def Plugin.ownPath? (p : Plugin) : Option Path := if p.worker.isSome then some p.entry.path else none

namespace Holding

/-- The path of the running plugin of a name. -/
def runningPath? (h : Holding) (name : String) : Option Path :=
  (h.plugins.find? name).bind (·.ownPath?)

/-- The running plugins, as a watch sees them. -/
def running (h : Holding) : Dict ActivePlugin :=
  h.plugins.filterMap fun (name, p) =>
    if p.worker.isSome then some (name, ⟨p.entry.path, p.slot⟩) else none

/-- Under a name the path is claimed of the plugin that runs, and none if none runs. -/
def Even (h : Holding) (name : String) : Prop := h.claims.find? name = h.runningPath? name

end Holding

/-- What a group holds and claims, and what its watch knows to run. -/
structure Books extends Holding where
  active : Dict ActivePlugin

namespace Books

/-- The path that the watch knows under a name. -/
def activePath? (b : Books) (name : String) : Option Path := (b.active.find? name).map (·.path)

/-- The running plugins with their paths, what the watch knows, and the claims are the same. -/
structure Agree (b : Books) : Prop where
  active : ∀ name, b.activePath? name = b.runningPath? name
  claims : ∀ name, b.Even name

end Books

variable {h h' : Holding} {g : Group} {name : String} {timeout : Nat} {r : Registry}
  {next : PluginConfig}

theorem Holding.running_of_plugins (same : g.plugins = h.plugins) : g.running = h.running := by
  unfold Group.running Holding.running
  rw [same]

/-- What a watch is told under a name. -/
theorem Holding.path_running (ordered : h.plugins.Ordered) (name : String) :
    (h.running.find? name).map (·.path) = h.runningPath? name := by
  unfold Holding.running Holding.runningPath?
  generalize h.plugins = plugins at ordered
  induction plugins with
  | nil => rfl
  | cons entry rest ih =>
    obtain ⟨key, p⟩ := entry
    have new := ordered.head_not_mem
    have later := ih ordered.tail
    unfold Plugin.ownPath? at later ⊢
    rw [List.filterMap_cons, Dict.find?_cons]
    by_cases runs : p.worker.isSome = true
    · simp only [runs, if_true, Dict.find?_cons]
      by_cases here : key = name
      · simp [here, runs]
      · simp only [here, if_false]
        exact later
    · simp only [runs, Bool.false_eq_true, if_false]
      by_cases here : key = name
      · subst here
        rw [if_pos rfl, later, Dict.find?_eq_none_iff.2 new]
        simp [runs]
      · rw [if_neg here]
        exact later

theorem Holding.runningPath?_of_find? {other : Holding}
    (same : h'.plugins.find? name = other.plugins.find? name) :
    h'.runningPath? name = other.runningPath? name := by
  unfold Holding.runningPath?
  rw [same]

/-! ## Commands -/

namespace Command

/-- The watch is told nothing. -/
def Discreet : Command → Prop
  | .publish | .unpublish => False
  | _ => True

/-- Neither the command fails nor what it comes to. -/
def Sure : Command → Prop
  | .publish | .enlist | .settle _ | .adopt _ | .run (.register _) _ | .run _ .checkOverlaps => True
  | _ => False

end Command

/-- What the watch knows after a command. -/
def Books.activeAfter (b : Books) : Command → Dict ActivePlugin
  | .publish => b.running
  | .unpublish => []
  | _ => b.active

/-- What a command makes of the books. -/
structure Books.Does (b : Books) (c : Command) (next : Option (List Command)) (b' : Books) :
    Prop where
  holding : b.toHolding.Does c next b'.toHolding
  active : b'.active = b.activeAfter c
  sure : c.Sure → ∃ row, next = some row ∧ ∀ c ∈ row, c.Sure

/-- What a row of commands makes of the books, with whether it comes to its end. -/
inductive Tells : List Command → Books → Bool → Books → Prop
  | done (b : Books) : Tells [] b true b
  | failed {c : Command} {rest : List Command} {b b' : Books} :
      b.Does c none b' → Tells (c :: rest) b false b'
  | went {c : Command} {first rest : List Command} {b mid b' : Books} {ok : Bool} :
      b.Does c (some first) mid → Tells (first ++ rest) mid ok b' → Tells (c :: rest) b ok b'

/-- What is put in front of the rest tells the watch nothing. -/
theorem Holding.Does.discreet {c : Command} {row : List Command} (does : h.Does c (some row) h') :
    ∀ c ∈ row, c.Discreet := by
  have none : ∀ c ∈ ([] : List Command), c.Discreet := fun _ never => by cases never
  have idle (idle : h.Idle (some row) h') : ∀ c ∈ row, c.Discreet := by
    cases idle.2
    exact none
  cases c with
  | start name =>
    dsimp only [Does] at does
    split at does
    · exact idle does
    · split at does
      · exact idle does
      · obtain ⟨-, never | ⟨slot, comes⟩⟩ := does
        · cases never
        · cases comes
          simp [Command.Discreet]
  | add entry =>
    obtain ⟨-, never | ⟨state, slot, comes⟩⟩ := does
    · cases never
    · cases comes
      simp [Command.Discreet]
  | launch entry state slot =>
    obtain ⟨never, -⟩ | ⟨comes, -⟩ := does
    · cases never
    · cases comes
      exact none
  | stop name timeout =>
    dsimp only [Does] at does
    split at does
    · exact idle does
    · split at does
      · exact idle does
      · obtain ⟨-, deadline, comes⟩ := does
        cases comes
        simp [Command.Discreet]
  | dismiss name timeout =>
    dsimp only [Does] at does
    split at does
    · exact idle does
    · obtain ⟨-, comes | ⟨ticket, deadline, comes⟩⟩ := does
      · cases comes
        exact none
      · cases comes
        simp [Command.Discreet]
  | refresh entry timeout =>
    obtain ⟨-, comes⟩ := does
    cases comes
    exact System.forall_refreshCommands (fun _ => trivial) trivial trivial trivial
  | retire name | assign entry =>
    dsimp only [Does] at does
    split at does
    · exact idle does
    · cases does.1
      exact none
  | enlist | delist =>
    obtain ⟨-, comes | ⟨plan, followup, comes⟩⟩ := does
    · cases comes
      exact none
    · cases comes
      simp [Command.Discreet]
  | run plan followup =>
    obtain ⟨-, never | comes⟩ := does
    · cases never
    · cases comes
      exact none
  | claim name path | release name | releaseAll =>
    cases does.1
    exact none
  | publish | unpublish | adopt config | settle registered | report status
  | awaitExit ticket deadline => exact idle does

/-! ## Rows of commands -/

namespace Tells

variable {b mid b' : Books} {c : Command} {agenda front back rest : List Command} {ok : Bool}

theorem runs (tells : Tells agenda b ok b') : Runs agenda b.toHolding ok b'.toHolding := by
  induction tells with
  | done b => exact .done _
  | failed fails => exact .failed fails.holding
  | went does _ ih => exact .went does.holding ih

theorem of_cons (tells : Tells (c :: rest) b ok b') :
    (ok = false ∧ b.Does c none b') ∨
      ∃ first mid, b.Does c (some first) mid ∧ Tells (first ++ rest) mid ok b' := by
  cases tells with
  | failed fails => exact .inl ⟨rfl, fails⟩
  | went does more => exact .inr ⟨_, _, does, more⟩

/-- A row that is carried out has carried out its first part, and then the rest unless that failed. -/
theorem split (tells : Tells (front ++ back) b ok b') :
    (∃ mid, Tells front b true mid ∧ Tells back mid ok b') ∨ (ok = false ∧ Tells front b false b') := by
  generalize row : front ++ back = agenda at tells
  induction tells generalizing front with
  | done b =>
    obtain ⟨rfl, rfl⟩ := List.append_eq_nil_iff.1 row
    exact .inl ⟨b, .done b, .done b⟩
  | @failed c rest b b' fails =>
    cases front with
    | nil =>
      cases row
      exact .inl ⟨b, .done b, .failed fails⟩
    | cons c' front =>
      cases row
      exact .inr ⟨rfl, .failed fails⟩
  | @went c first rest b mid b' ok does more ih =>
    cases front with
    | nil =>
      cases row
      exact .inl ⟨b, .done b, .went does more⟩
    | cons c' front =>
      cases row
      rcases ih (List.append_assoc first front back) with ⟨later, told, left⟩ | ⟨ended, told⟩
      · exact .inl ⟨later, .went does told, left⟩
      · exact .inr ⟨ended, .went does told⟩

/-- A row that tells the watch nothing leaves what it knows. -/
theorem active_eq (tells : Tells agenda b ok b') (discreet : ∀ c ∈ agenda, c.Discreet) :
    b'.active = b.active := by
  have kept {b : Books} {c : Command} (quiet : c.Discreet) : b.activeAfter c = b.active := by
    cases c <;> first | rfl | exact quiet.elim
  induction tells with
  | done b => rfl
  | failed fails => exact fails.active.trans (kept (discreet _ List.mem_cons_self))
  | went does _ ih =>
    rw [ih fun c present => ?_, does.active, kept (discreet _ List.mem_cons_self)]
    rcases List.mem_append.1 present with first | later
    · exact does.holding.discreet c first
    · exact discreet c (List.mem_cons_of_mem _ later)

/-- A row of commands that never fail comes to its end. -/
theorem sure (tells : Tells agenda b ok b') (sure : ∀ c ∈ agenda, c.Sure) : ok = true := by
  induction tells with
  | done b => rfl
  | failed fails =>
    obtain ⟨row, never, -⟩ := fails.sure (sure _ List.mem_cons_self)
    cases never
  | went does _ ih =>
    obtain ⟨row, comes, all⟩ := does.sure (sure _ List.mem_cons_self)
    cases comes
    exact ih fun c present => (List.mem_append.1 present).elim (all c)
      fun later => sure c (List.mem_cons_of_mem _ later)

/-- A row that starts with telling the watch. -/
theorem of_publish (tells : Tells (.publish :: rest) b ok b') :
    Tells rest { b with active := b.running } ok b' := by
  rcases tells.of_cons with ⟨-, fails⟩ | ⟨first, mid, does, more⟩
  · cases fails.holding.2
  · obtain ⟨same, comes⟩ := does.holding
    cases comes
    obtain ⟨holding, active⟩ := mid
    cases same
    cases does.active
    exact more

end Tells

/-! ## Stopping -/

namespace Holding

variable {names : List String} {ok : Bool} {mid : Holding}

theorem runningPath?_of_absent (absent : h.plugins.find? name = none) :
    h.runningPath? name = none := by
  unfold runningPath?
  rw [absent]
  rfl

theorem runningPath?_of_held {p : Plugin} (held : h.plugins.find? name = some p) :
    h.runningPath? name = p.ownPath? := by
  unfold runningPath?
  rw [held]
  rfl

theorem ownPath?_of_stopped {p : Plugin} (stopped : p.worker = none) : p.ownPath? = none := by
  unfold Plugin.ownPath?
  rw [stopped]
  rfl

theorem ownPath?_of_runs {p : Plugin} (runs : p.worker.isSome = true) :
    p.ownPath? = some p.entry.path :=
  if_pos runs

theorem runs_stop_at (runs : Runs [.stop name timeout] h ok h') :
    ok = true ∧ ∀ other, other = name ∨ h.runningPath? other = none →
      h'.runningPath? other = none := by
  cases found : h.plugins.find? name with
  | none =>
    have idle := runs.of_idle fun next mid does => by
      dsimp only [Does] at does
      rw [found] at does
      exact does
    obtain ⟨rfl, rfl⟩ := idle.of_nil
    refine ⟨rfl, fun other either => either.elim (fun here => ?_) id⟩
    rw [here]
    exact runningPath?_of_absent found
  | some p =>
    obtain ⟨rfl, q, -, stopped, changed⟩ := runs_stop found runs
    refine ⟨rfl, fun other either => ?_⟩
    by_cases here : other = name
    · rw [here, runningPath?_of_held changed.held, ownPath?_of_stopped stopped]
    · rw [runningPath?_of_find? (changed.others other here)]
      exact either.resolve_left here

/-- Stopping never fails, and nothing that is stopped runs again. -/
theorem runs_stops (runs : Runs (names.map (Command.stop · timeout)) h ok h') :
    ok = true ∧ ∀ name, name ∈ names ∨ h.runningPath? name = none →
      h'.runningPath? name = none := by
  induction names generalizing h with
  | nil =>
    obtain ⟨rfl, rfl⟩ := runs.of_nil
    exact ⟨rfl, fun name either => either.resolve_left List.not_mem_nil⟩
  | cons name rest ih =>
    rcases runs.split_cons with ⟨mid, ran, runs⟩ | ⟨rfl, ran⟩
    · obtain ⟨-, first⟩ := runs_stop_at ran
      obtain ⟨rfl, later⟩ := ih runs
      refine ⟨rfl, fun other either => later other ?_⟩
      rw [List.mem_cons, or_assoc] at either
      rcases either with here | within | before
      · exact .inr (first other (.inl here))
      · exact .inl within
      · exact .inr (first other (.inr before))
    · cases (runs_stop_at ran).1

end Holding

section Calls

variable {b b' : Books} {ok : Bool}

/-- After a stop nothing runs, nothing is claimed, and the watch knows so. -/
theorem tells_stopAgenda (same : g.plugins = b.plugins)
    (tells : Tells (g.stopAgenda timeout) b ok b') :
    b'.Agree ∧ ∀ name, b'.runningPath? name = none := by
  have agenda : g.stopAgenda timeout = b.plugins.keys.map (Command.stop · timeout) ++
      [.releaseAll, .unpublish, .delist, .report ⟨.notReady, none⟩] := by
    unfold Group.stopAgenda Dict.keys
    rw [same, List.map_map]
    rfl
  rw [agenda] at tells
  rcases tells.split with ⟨stopped, stops, tells⟩ | ⟨rfl, stops⟩
  · obtain ⟨-, idle⟩ := Holding.runs_stops stops.runs
    have still (name : String) : stopped.runningPath? name = none := by
      refine idle name ?_
      by_cases held : name ∈ b.plugins.keys
      · exact .inl held
      · exact .inr (Holding.runningPath?_of_absent (Dict.find?_eq_none_iff.2 held))
    -- The claims go, then what the watch knows; the other commands are about neither.
    rcases tells.of_cons with ⟨-, fails⟩ | ⟨first, released, does, tells⟩
    · cases fails.holding.1
    · obtain ⟨comes, holding⟩ := does.holding
      cases comes
      rcases tells.of_cons with ⟨-, fails⟩ | ⟨first, silent, does, tells⟩
      · cases fails.holding.2
      · obtain ⟨kept, comes⟩ := does.holding
        cases comes
        have last : b'.toHolding = silent.toHolding := tells.runs.quiet (by simp [Command.Quiet])
        have active : b'.active = [] :=
          (tells.active_eq (by simp [Command.Discreet])).trans does.active
        have held : b'.toHolding = { stopped.toHolding with claims := [] } :=
          last.trans (kept.trans holding)
        have none (name : String) : b'.runningPath? name = none := by
          rw [held]
          exact still name
        refine ⟨⟨fun name => ?_, fun name => ?_⟩, none⟩
        · unfold Books.activePath?
          rw [active, none]
          rfl
        · unfold Holding.Even
          rw [none, held]
          rfl
  · cases (Holding.runs_stops stops.runs).1

/-! ## Starting -/

/-- A watch that is told is told what runs. -/
theorem active_of_publish {rest : List Command} (quiet : ∀ c ∈ rest, c.Quiet)
    (discreet : ∀ c ∈ rest, c.Discreet) (tells : Tells (.publish :: rest) b ok b') :
    b'.toHolding = b.toHolding ∧ b'.active = b'.running := by
  have later := tells.of_publish
  have held : b'.toHolding = b.toHolding := later.runs.quiet quiet
  have active : b'.active = b.running := later.active_eq discreet
  exact ⟨held, by rw [active, ← held]⟩

/-- A watch that knows what runs knows every path. -/
theorem Books.activePath?_of_running (ordered : b.plugins.Ordered) (active : b.active = b.running)
    (name : String) : b.activePath? name = b.runningPath? name := by
  unfold activePath?
  rw [active]
  exact Holding.path_running ordered name

/-- After a start that comes to its end the watch knows what runs. -/
theorem active_startAgenda (tells : Tells g.startAgenda b true b') : b'.active = b'.running := by
  unfold Group.startAgenda at tells
  rcases tells.split with ⟨mid, -, tells⟩ | ⟨never, -⟩
  · exact (active_of_publish (by simp [Command.Quiet]) (by simp [Command.Discreet]) tells).2
  · cases never

/-- A start that comes to its end keeps the books in agreement; one that fails has told the watch
nothing. -/
theorem tells_startAgenda (neat : b.toHolding.Neat r) (same : g.plugins = b.plugins)
    (tells : Tells g.startAgenda b ok b') :
    (ok = true → b.Agree → b'.Agree) ∧ (ok = false → b'.active = b.active) := by
  have started := Holding.runs_startAgenda neat same tells.runs
  have neat' := Holding.runs_neat tells.runs neat (System.valid_startAgenda g)
  have brings : ∀ c ∈ g.plugins.flatMap fun (name, p) =>
      [Command.start name, .claim name p.entry.path], c.Discreet := by
    intro c present
    obtain ⟨⟨name, p⟩, -, row⟩ := List.mem_flatMap.1 present
    rcases List.mem_pair.1 row with rfl | rfl <;> trivial
  unfold Group.startAgenda at tells
  rcases tells.split with ⟨mid, -, tells⟩ | ⟨rfl, failed⟩
  · have ended := tells.sure (by simp [Command.Sure])
    obtain ⟨-, active⟩ := active_of_publish (by simp [Command.Quiet]) (by simp [Command.Discreet]) tells
    have known := Books.activePath?_of_running neat'.ordered active
    refine ⟨fun _ agree => ⟨known, fun name => ?_⟩, fun never => ?_⟩
    · -- A plugin that is held runs now, and one that is not held was not held before.
      unfold Holding.Even
      cases held : b'.plugins.find? name with
      | some q =>
        obtain ⟨runs, claimed⟩ := started.running ended name q held
        rw [claimed, Holding.runningPath?_of_held held, Holding.ownPath?_of_runs runs]
      | none =>
        have before := started.entries name
        rw [held, Option.map_none, eq_comm, Option.map_eq_none_iff] at before
        rw [Holding.runningPath?_of_absent held]
        rcases started.claims name with kept | ⟨q, found, -⟩
        · rw [kept, agree.claims name, Holding.runningPath?_of_absent before]
        · rw [held] at found
          cases found
    · rw [ended] at never
      cases never
  · exact ⟨fun never => (by cases never), fun _ => failed.active_eq brings⟩

/-! ## Reconfiguring -/

/-- A plugin that is brought in line keeps its claim if it runs. -/
theorem Holding.runs_refresh_even {entry : PluginEntry} (neat : h.Neat r) (valid : entry.Valid r)
    (even : h.Even entry.name) (runs : Runs [.refresh entry timeout] h true h') :
    Holding.Beside [entry.name] h h' ∧ h'.Even entry.name := by
  rcases runs.of_cons with ⟨never, -⟩ | ⟨first, mid, ⟨rfl, row⟩, more⟩
  · cases never
  · cases row
    rw [List.append_nil] at more
    unfold System.refreshCommands at more
    cases found : mid.plugins.find? entry.name with
    | none =>
      rw [found] at more
      rcases runs_add more with ⟨never, -⟩ | ⟨-, q, rfl, running, rfl⟩
      · cases never
      · refine ⟨beside_added mid q.entry.name q q.entry.path, ?_⟩
        have held : ((mid.hold q.entry.name q).claim q.entry.name q.entry.path).plugins.find?
            q.entry.name = some q := (changed_hold mid q.entry.name q).held
        unfold Even
        rw [runningPath?_of_held held, ownPath?_of_runs running]
        exact Dict.find?_insert_self _ _ _
    | some p =>
      rw [found] at more
      dsimp only at more
      split at more
      · obtain ⟨-, rfl⟩ := more.of_nil
        exact ⟨.refl _ _, even⟩
      · -- A restart leaves the claim, so the path must not change with the entry: the name decides it.
        obtain ⟨q, given, changed, alike⟩ := runs_restart found more
        have fits := neat.fits entry.name p found
        refine ⟨changed.beside, ?_⟩
        unfold Even at even ⊢
        rw [runningPath?_of_held found] at even
        rw [changed.claims, even, runningPath?_of_held changed.held]
        unfold Plugin.ownPath?
        rw [given, fits.valid.path_eq valid fits.named, Bool.eq_iff_iff.2 (alike rfl)]

theorem Holding.runs_refreshes_even {entries : List PluginEntry} (neat : h.Neat r)
    (valid : ∀ entry ∈ entries, entry.Valid r) (even : ∀ name, h.Even name)
    (runs : Runs (entries.map (Command.refresh · timeout)) h true h') : ∀ name, h'.Even name := by
  induction entries generalizing h with
  | nil =>
    obtain ⟨-, rfl⟩ := runs.of_nil
    exact even
  | cons entry rest ih =>
    rcases runs.split_cons with ⟨mid, ran, runs⟩ | ⟨never, -⟩
    · have valid' := valid entry List.mem_cons_self
      obtain ⟨beside, here⟩ := runs_refresh_even neat valid' (even entry.name) ran
      have neat' := runs_neat ran neat (by simpa [Command.Valid] using valid')
      refine ih neat' (fun other later => valid other (List.mem_cons_of_mem _ later)) ?_ runs
      intro name
      by_cases same : name = entry.name
      · rw [same]
        exact here
      · have out : name ∉ [entry.name] := List.not_mem_cons_of_ne_of_not_mem same List.not_mem_nil
        unfold Even
        rw [beside.claims name out, runningPath?_of_find? (beside.plugins name out)]
        exact even name
    · cases never

/-- When the plugins that are gone and their claims are, the rest is as even as before. -/
theorem Holding.even_of_reduced {released : Holding} (same : g.plugins = h.plugins)
    (reduced : Holding.Reduced next h released)
    (cleared : Holding.Cleared ((g.removedBy next).map (·.1)) h.claims released.claims)
    (even : ∀ name, h.Even name) (name : String) : released.Even name := by
  unfold Even at even ⊢
  cases named : next.contains name with
  | true =>
    rw [runningPath?_of_find? (reduced.named name named), ← even name]
    refine cleared.kept name ?_
    rw [mem_removedBy same, named]
    exact fun never => Bool.noConfusion never.2
  | false =>
    rw [runningPath?_of_absent (reduced.gone name named)]
    by_cases held : h.plugins.find? name = none
    · rw [cleared.kept name, even name, runningPath?_of_absent held]
      rw [mem_removedBy same]
      exact fun never => never.1 held
    · exact cleared.gone name ((mem_removedBy same).2 ⟨held, named⟩)

/-- What a reconfiguration does after it has told its watch which plugins are gone. -/
def Group.amends (g : Group) (next : PluginConfig) : List Command :=
  (if ((g.removedBy next).map fun (_, p) => p.entry.path).isEmpty then [] else
    [.run (.removeAll ((g.removedBy next).map fun (_, p) => p.entry.path)) .nothing]) ++
  (((g.removedBy next).map (·.1)).map Command.release ++
    (next.map (·.2)).map (Command.refresh · g.stopTimeout))

theorem Group.reconfigureAgenda_amends (g : Group) (next : PluginConfig) : g.reconfigureAgenda next =
    ((g.removedBy next).map (·.1)).map (Command.dismiss · g.stopTimeout) ++ (.publish ::
      (g.amends next ++ [.adopt next, .publish, .settle true,
        .run (.read Bundle.recordsPath) .checkOverlaps])) := by
  unfold Group.amends
  rw [Holding.reconfigureAgenda_eq, List.append_assoc, List.append_assoc]

theorem discreet_amends (g : Group) (next : PluginConfig) : ∀ c ∈ g.amends next, c.Discreet := by
  intro c present
  rcases List.mem_append.1 present with removal | later
  · split at removal
    · cases removal
    · rw [List.mem_singleton.1 removal]
      trivial
  · rcases List.mem_append.1 later with releases | refreshes
    · obtain ⟨name, -, rfl⟩ := List.mem_map.1 releases
      trivial
    · obtain ⟨entry, -, rfl⟩ := List.mem_map.1 refreshes
      trivial

/-- When that comes to its end, every plugin that runs has its claim if it was so before. -/
theorem Holding.runs_amends {taken given : Holding} (neat : taken.Neat r) (sound : next.Sound r)
    (same : g.plugins = h.plugins) (even : ∀ name, h.Even name)
    (reduced : Holding.Reduced next h taken) (claims : taken.claims = h.claims)
    (runs : Runs (g.amends next) taken true given) : ∀ name, given.Even name := by
  have valid : ∀ entry ∈ next.map (·.2), entry.Valid r := by
    intro entry present
    obtain ⟨⟨name, other⟩, listed, rfl⟩ := List.mem_map.1 present
    exact sound.valid name other listed
  rcases runs_removal runs with ⟨never, -⟩ | runs
  · cases never
  · rcases runs.split with ⟨released, releases, runs⟩ | ⟨never, -⟩
    · obtain ⟨-, cleared, plugins⟩ := runs_releases releases
      rw [claims] at cleared
      have reduced' : Reduced next h released :=
        ⟨fun name named => by rw [plugins]; exact reduced.named name named,
          fun name unnamed => by rw [plugins]; exact reduced.gone name unnamed⟩
      have neat' : released.Neat r :=
        ⟨by rw [plugins]; exact neat.ordered, by rw [plugins]; exact neat.fits⟩
      exact runs_refreshes_even neat' valid (even_of_reduced same reduced' cleared even) runs
    · cases never

/-- A reconfiguration that comes to its end keeps the books in agreement; one that fails has told the
watch of the plugins that ran before and stay. -/
theorem tells_reconfigureAgenda (neat : b.toHolding.Neat r) (sound : next.Sound r)
    (same : g.plugins = b.plugins) (tells : Tells (g.reconfigureAgenda next) b ok b') :
    (ok = true → b.Agree → b'.Agree) ∧
      (ok = false → ∀ name, b'.activePath? name =
        if next.contains name then b.runningPath? name else none) := by
  have neat' := Holding.runs_neat tells.runs neat (System.valid_reconfigureAgenda g sound)
  rw [Group.reconfigureAgenda_amends] at tells
  rcases tells.split with ⟨taken, takes, tells⟩ | ⟨rfl, takes⟩
  · obtain ⟨-, cleared, claims⟩ := Holding.runs_dismisses takes.runs
    have reduced := Holding.reduced_of_cleared same cleared
    have neatTaken := Holding.runs_neat takes.runs neat (by
      intro c present
      obtain ⟨name, -, rfl⟩ := List.mem_map.1 present
      trivial)
    rcases tells.of_publish.split with ⟨given, gives, told⟩ | ⟨rfl, fails⟩
    · -- Everything was brought in line, and what is left never fails.
      have ended := told.sure (by simp [Command.Sure])
      refine ⟨fun _ agree => ?_, fun never => by rw [ended] at never; cases never⟩
      have even := Holding.runs_amends neatTaken sound same agree.claims reduced claims gives.runs
      rcases told.of_cons with ⟨-, fails⟩ | ⟨first, adopted, does, told⟩
      · cases fails.holding.2
      · obtain ⟨kept, comes⟩ := does.holding
        cases comes
        obtain ⟨held, active⟩ := active_of_publish (by simp [Command.Quiet])
          (by simp [Command.Discreet]) told
        refine ⟨Books.activePath?_of_running neat'.ordered active, fun name => ?_⟩
        rw [held, kept]
        exact even name
    · -- What failed came after the watch was told that some plugins are gone.
      refine ⟨fun never => (by cases never), fun _ name => ?_⟩
      have active : b'.active = taken.running := fails.active_eq (discreet_amends g next)
      unfold Books.activePath?
      rw [active, Holding.path_running neatTaken.ordered]
      cases named : next.contains name with
      | true => exact Holding.runningPath?_of_find? (reduced.named name named)
      | false => exact Holding.runningPath?_of_absent (reduced.gone name named)
  · cases (Holding.runs_dismisses takes.runs).1

/-- After a reconfiguration that comes to its end the watch knows what runs. -/
theorem active_reconfigureAgenda (tells : Tells (g.reconfigureAgenda next) b true b') :
    b'.active = b'.running := by
  unfold Group.reconfigureAgenda at tells
  rcases tells.split with ⟨mid, -, tells⟩ | ⟨never, -⟩
  · rcases tells.of_cons with ⟨never, -⟩ | ⟨first, adopted, does, tells⟩
    · cases never
    · cases does.holding.2
      exact (active_of_publish (by simp [Command.Quiet]) (by simp [Command.Discreet]) tells).2
  · cases never

end Calls

end DocStore
