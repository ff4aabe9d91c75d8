import DocStore.Proofs.System.Commands

/-!
# Who is held, and who works

Groups hold plugins, and a plugin that runs names its worker. Only the commands of calls change that. What
one of them can make of the plugins and of the workers is said here once, with the commands that it
comes to.

Results:
  * `held?_updateGroup`, `rosters_updateGroup`: what a change of a group makes of the plugins held;
  * `worker?_requestExit`: who is asked to finish is otherwise as before;
  * `manages_perform`: what carrying out a command can come to.
-/

namespace DocStore

/-- The command can be asked for. Others only come of these. -/
def Command.Plain : Command → Prop
  | .add _ | .launch .. | .awaitExit .. => False
  | _ => True

/-- The command has to do with bringing up a worker. No other fails. -/
def Command.Starting : Command → Prop
  | .start _ | .add _ | .launch .. => True
  | _ => False

/-- What a command makes of claims. -/
def Command.claiming? : Command → Option (Store → Store)
  | .claim name path => some (·.claim name path)
  | .release name => some (·.release name)
  | .releaseAll => some (·.releaseAll)
  | _ => none

namespace System

variable {sys sys' mid : System} {place group ticket : Nat} {name : String} {p : Plugin} {g : Group}

/-! ## Plugins -/

/-- What the groups hold. -/
def rosters (sys : System) : List (Dict Plugin) := sys.groups.map (·.plugins)

/-- The plugin that a group holds under a name. -/
def held? (sys : System) (place : Nat) (name : String) : Option Plugin :=
  (sys.rosters[place]?).bind (·.find? name)

/-- Every group holds its plugins in the order of their names. -/
def Filed (sys : System) : Prop := ∀ plugins ∈ sys.rosters, Dict.Ordered plugins

theorem held?_of_rosters (same : sys'.rosters = sys.rosters) (place : Nat) (name : String) :
    sys'.held? place name = sys.held? place name := by
  unfold held?
  rw [same]

theorem held?_of_group (found : sys.groups[place]? = some g) (name : String) :
    sys.held? place name = g.plugins.find? name := by
  unfold held? rosters
  rw [List.getElem?_map, found]
  rfl

theorem group_of_held (held : sys.held? place name = some p) :
    ∃ g, sys.groups[place]? = some g ∧ g.plugins.find? name = some p := by
  unfold held? rosters at held
  rw [List.getElem?_map] at held
  obtain ⟨plugins, row, found⟩ := Option.bind_eq_some_iff.1 held
  obtain ⟨g, group, rfl⟩ := Option.map_eq_some_iff.1 row
  exact ⟨g, group, found⟩

theorem held?_of_absent (absent : sys.groups[place]? = none) (name : String) :
    sys.held? place name = none := by
  unfold held? rosters
  rw [List.getElem?_map, absent]
  rfl

theorem held?_updateGroup (found : sys.groups[group]? = some g) (change : Group → Group)
    (place : Nat) (name : String) : (sys.updateGroup group change).held? place name =
      if place = group then (change g).plugins.find? name else sys.held? place name := by
  unfold held? rosters updateGroup
  dsimp only
  rw [List.getElem?_map]
  by_cases here : place = group
  · subst here
    rw [if_pos rfl, List.getElem?_modify_eq, found]
    rfl
  · rw [if_neg here, List.getElem?_modify_ne _ _ (Ne.symm here), List.getElem?_map]

theorem filed_updateGroup {change : Group → Group}
    (keeps : ∀ g, Dict.Ordered g.plugins → Dict.Ordered (change g).plugins) (filed : sys.Filed)
    (group : Nat) : (sys.updateGroup group change).Filed := by
  intro plugins mem
  obtain ⟨g', present, rfl⟩ := List.mem_map.1 mem
  obtain ⟨i, row⟩ := List.mem_iff_getElem?.1 present
  unfold updateGroup at row
  dsimp only at row
  by_cases here : group = i
  · subst here
    rw [List.getElem?_modify_eq] at row
    obtain ⟨g, found, rfl⟩ := Option.map_eq_some_iff.1 row
    exact keeps g (filed _ (List.mem_map_of_mem (List.mem_of_getElem? found)))
  · rw [List.getElem?_modify_ne _ _ here] at row
    exact filed _ (List.mem_map_of_mem (List.mem_of_getElem? row))

theorem rosters_updateGroup {change : Group → Group} (kept : ∀ g, (change g).plugins = g.plugins)
    (sys : System) (group : Nat) : (sys.updateGroup group change).rosters = sys.rosters := by
  unfold rosters updateGroup
  dsimp only
  refine List.ext_getElem? fun i => ?_
  rw [List.getElem?_map, List.getElem?_map]
  by_cases here : group = i
  · subst here
    rw [List.getElem?_modify_eq]
    cases sys.groups[group]? with
    | none => rfl
    | some g => exact congrArg some (kept g)
  · rw [List.getElem?_modify_ne _ _ here]

/-! ## Workers -/

/-- A worker was asked to finish, if there is one. -/
def AsksExit (ticket : Nat) (sys sys' : System) : Prop :=
  ∀ other, sys'.worker? other =
    if other = ticket then (sys.worker? ticket).map fun w => { w with exit := true }
    else sys.worker? other

theorem worker?_requestExit (sys : System) (ticket : Nat) : AsksExit ticket sys (sys.requestExit ticket) := by
  intro other
  unfold requestExit
  split
  · next absent =>
    by_cases same : other = ticket
    · subst same
      rw [if_pos rfl, absent]
      rfl
    · rw [if_neg same]
  · next w found =>
    have mine : w.ticket = ticket := ticket_of_found found
    have put : (sys.putWorker { w with exit := true }).worker? other =
        if other = ticket then (sys.worker? ticket).map fun w => { w with exit := true }
        else sys.worker? other := by
      by_cases same : other = ticket
      · subst same
        have present : (sys.worker? w.ticket).isSome = true := by
          rw [mine, found]
          rfl
        have self := @worker?_putWorker_self sys { w with exit := true } present
        rw [if_pos rfl, found, ← mine]
        exact self
      · have ne : w.ticket ≠ other := fun is => same (is.symm.trans mine)
        rw [if_neg same]
        exact @worker?_putWorker_ne sys { w with exit := true } other ne
    dsimp only
    split
    · exact put
    · exact put

/-! ## What a command can come to -/

/-- Nothing becomes of stores, plugins and workers. There may be more states and slots. -/
structure Inert (sys sys' : System) : Prop where
  stores : sys'.stores = sys.stores
  rosters : sys'.rosters = sys.rosters
  workers : sys'.workers = sys.workers
  nextTicket : sys'.nextTicket = sys.nextTicket
  states : sys.states.length ≤ sys'.states.length
  slots : sys.slots <+: sys'.slots

theorem Inert.refl (sys : System) : Inert sys sys :=
  ⟨rfl, rfl, rfl, rfl, Nat.le_refl _, List.prefix_refl _⟩

/-- Under one name something else is held, or nothing any more. -/
structure Posts (place : Nat) (name : String) (post : Option Plugin) (sys sys' : System) : Prop where
  stores : sys'.stores = sys.stores
  slots : sys'.slots = sys.slots
  states : sys'.states.length = sys.states.length
  held : ∀ place' name', sys'.held? place' name' =
    if place' = place ∧ name' = name then post else sys.held? place' name'
  filed : sys.Filed → sys'.Filed

theorem Posts.self {post : Option Plugin} (posts : Posts place name post sys sys') :
    sys'.held? place name = post := by
  rw [posts.held, if_pos ⟨rfl, rfl⟩]

/-- What a command makes of plugins and workers, and the commands that it comes to. -/
inductive Manages (place : Nat) (sys : System) : Command → CommandResult → System → Prop
  | fails {command : Command} {e : PluginError} {sys' : System} (inert : Inert sys sys')
      (starting : command.Starting) : Manages place sys command (.error e) sys'
  | idles {command : Command} {sys' : System} (inert : Inert sys sys')
      (gone : ∀ name timeout, command = .dismiss name timeout → sys.held? place name = none) :
      Manages place sys command (.ok []) sys'
  | enlists (group : Nat) : Manages place sys .enlist
      (.ok [.run (.register (.overlapWatch group)) .keepHandle]) sys
  | delists {sys' : System} (handle : TriggerHandle) (inert : Inert sys sys') :
      Manages place sys .delist (.ok [.run (.unregister handle) .nothing]) sys'
  | claims {command : Command} (change : Store → Store) (claiming : command.claiming? = some change) :
      Manages place sys command (.ok []) (sys.updateStore pluginStore change)
  | starts {name : String} {p : Plugin} {slot : Option Nat} {sys' : System}
      (held : sys.held? place name = some p) (stopped : p.worker = none) (inert : Inert sys sys') :
      Manages place sys (.start name)
        (.ok [.run (.ensure p.entry.path) .nothing, .launch p.entry p.state slot]) sys'
  | adds {entry : PluginEntry} {slot : Option Nat} {sys' : System} (inert : Inert sys sys')
      (fresh : sys.states.length < sys'.states.length) :
      Manages place sys (.add entry) (.ok [.run (.ensure entry.path) .nothing,
        .launch entry sys.states.length slot, .claim entry.name entry.path]) sys'
  | launches {entry : PluginEntry} {state : Nat} {slot : Option Nat} {w : Worker} {sys' : System}
      (posts : Posts place entry.name (some ⟨entry, state, slot, some sys.nextTicket⟩) sys sys')
      (new : w.ticket = sys.nextTicket ∧ w.state = state ∧ w.phase = .due)
      (workers : sys'.workers = sys.workers ++ [w]) (tickets : sys'.nextTicket = sys.nextTicket + 1) :
      Manages place sys (.launch entry state slot) (.ok []) sys'
  | stops {name : String} {timeout ticket deadline : Nat} {p : Plugin} {sys' : System}
      (held : sys.held? place name = some p) (runs : p.worker = some ticket)
      (posts : Posts place name (some { p with worker := none }) sys sys')
      (asks : AsksExit ticket sys sys') (tickets : sys'.nextTicket = sys.nextTicket) :
      Manages place sys (.stop name timeout) (.ok [.awaitExit ticket deadline, .retire name]) sys'
  | drops {name : String} {timeout : Nat} {p : Plugin} {sys' : System}
      (held : sys.held? place name = some p) (stopped : p.worker = none)
      (posts : Posts place name none sys sys') (workers : sys'.workers = sys.workers)
      (tickets : sys'.nextTicket = sys.nextTicket) :
      Manages place sys (.dismiss name timeout) (.ok []) sys'
  | dismisses {name : String} {timeout ticket deadline : Nat} {p : Plugin} {sys' : System}
      (held : sys.held? place name = some p) (runs : p.worker = some ticket)
      (posts : Posts place name none sys sys') (asks : AsksExit ticket sys sys')
      (tickets : sys'.nextTicket = sys.nextTicket) :
      Manages place sys (.dismiss name timeout) (.ok [.awaitExit ticket deadline]) sys'
  | retires {name : String} {p : Plugin} {sys' : System} (held : sys.held? place name = some p)
      (posts : Posts place name (some { p with slot := none }) sys sys')
      (workers : sys'.workers = sys.workers) (tickets : sys'.nextTicket = sys.nextTicket) :
      Manages place sys (.retire name) (.ok []) sys'
  | refreshes (entry : PluginEntry) (timeout : Nat) : Manages place sys (.refresh entry timeout)
      (.ok (refreshCommands (sys.held? place entry.name) entry timeout)) sys
  | assigns {entry : PluginEntry} {p : Plugin} {sys' : System}
      (held : sys.held? place entry.name = some p)
      (posts : Posts place entry.name (some { p with entry }) sys sys')
      (workers : sys'.workers = sys.workers) (tickets : sys'.nextTicket = sys.nextTicket) :
      Manages place sys (.assign entry) (.ok []) sys'

theorem inert_updateGroup {change : Group → Group} (kept : ∀ g, (change g).plugins = g.plugins)
    (sys : System) (group : Nat) : Inert sys (sys.updateGroup group change) :=
  ⟨rfl, rosters_updateGroup kept sys group, rfl, rfl, Nat.le_refl _, List.prefix_refl _⟩

theorem posts_updateGroup (found : sys.groups[place]? = some g) {change : Group → Group}
    {post : Option Plugin} (mine : (change g).plugins.find? name = post)
    (others : ∀ other, other ≠ name → (change g).plugins.find? other = g.plugins.find? other)
    (keeps : ∀ g, Dict.Ordered g.plugins → Dict.Ordered (change g).plugins) :
    Posts place name post sys (sys.updateGroup place change) := by
  refine ⟨rfl, rfl, rfl, fun place' name' => ?_, fun filed => filed_updateGroup keeps filed place⟩
  rw [held?_updateGroup found]
  by_cases here : place' = place
  · subst here
    rw [if_pos rfl]
    by_cases same : name' = name
    · subst same
      rw [if_pos ⟨rfl, rfl⟩, mine]
    · rw [if_neg fun both => same both.2, others name' same, held?_of_group found]
  · rw [if_neg here, if_neg fun both => here both.1]

theorem posts_insert (found : sys.groups[place]? = some g) (name : String) (p : Plugin) :
    Posts place name (some p) sys
      (sys.updateGroup place fun g => { g with plugins := g.plugins.insert name p }) :=
  posts_updateGroup found (Dict.find?_insert_self _ _ _) (fun _ ne => Dict.find?_insert_ne _ _ ne)
    fun _ ordered => ordered.insert _ _

theorem posts_erase (found : sys.groups[place]? = some g) (name : String) :
    Posts place name none sys
      (sys.updateGroup place fun g => { g with plugins := g.plugins.erase name }) :=
  posts_updateGroup found (Dict.find?_erase_self _ _) (fun _ ne => Dict.find?_erase_ne _ ne)
    fun _ ordered => ordered.erase _

theorem inert_startCommands (sys : System) (entry : PluginEntry) (state : Nat) :
    Inert sys (sys.startCommands entry state).1 := by
  have prepared (rule : Option RuleRef) : Inert sys (sys.prepareSlot rule).1 := by
    unfold prepareSlot
    split
    · exact .refl sys
    · split
      · exact .refl sys
      · exact ⟨rfl, rfl, rfl, rfl, Nat.le_refl _, List.prefix_append _ _⟩
  have slot := prepared entry.transform
  unfold startCommands
  split
  · next found => rwa [found] at slot
  · next found => rwa [found] at slot

theorem manages_launch (found : sys.groups[place]? = some g) (entry : PluginEntry) (state : Nat)
    (slot : Option Nat) : Manages place sys (.launch entry state slot)
      (sys.launch place entry state slot).2 (sys.launch place entry state slot).1 := by
  obtain ⟨feeds, connected⟩ := connect_keeps sys entry.source
  unfold launch
  split
  · next failed =>
    rw [failed] at connected
    dsimp only at connected ⊢
    subst connected
    exact .fails ⟨rfl, rfl, rfl, rfl, Nat.le_refl _, List.prefix_refl _⟩ trivial
  · next mid source goes =>
    rw [goes] at connected
    dsimp only at connected ⊢
    subst connected
    have still : ({ sys with feeds } : System).groups[place]? = some g := found
    obtain ⟨stores, slots, states, held, filed⟩ := posts_insert still entry.name
      ⟨entry, state, slot, some sys.nextTicket⟩
    exact .launches ⟨stores, slots, states, held, filed⟩ ⟨rfl, rfl, rfl⟩ rfl rfl

theorem manages_stopPlugin (found : sys.groups[place]? = some g)
    (held : sys.held? place name = some p) (timeout : Nat) : Manages place sys (.stop name timeout)
      (sys.stopPlugin place name p timeout).2 (sys.stopPlugin place name p timeout).1 := by
  unfold stopPlugin
  split
  · exact .idles (.refl sys) fun _ _ never => by cases never
  · next ticket runs =>
    obtain ⟨_, _, _, same⟩ := requestExit_keeps sys ticket
    have still : (sys.requestExit ticket).groups[place]? = some g := by
      rw [same]
      exact found
    obtain ⟨stores, slots, states, posts, filed⟩ := posts_insert still name { p with worker := none }
    have rosters : (sys.requestExit ticket).rosters = sys.rosters := by rw [same]; rfl
    have posts' : Posts place name (some { p with worker := none }) sys
        ((sys.requestExit ticket).updateGroup place fun g =>
          { g with plugins := g.plugins.insert name { p with worker := none } }) := by
      refine ⟨stores.trans (by rw [same]), slots.trans (by rw [same]), states.trans (by rw [same]),
        fun place' name' => ?_, fun before => filed ?_⟩
      · rw [posts, held?_of_rosters rosters]
      · unfold Filed
        rwa [rosters]
    have tickets : (sys.requestExit ticket).nextTicket = sys.nextTicket := by rw [same]
    exact .stops held runs posts' (worker?_requestExit sys ticket) tickets

theorem manages_dismiss (found : sys.groups[place]? = some g)
    (held : sys.held? place name = some p) (timeout : Nat) : Manages place sys (.dismiss name timeout)
      (sys.dismiss place name p timeout).2 (sys.dismiss place name p timeout).1 := by
  have dropped := posts_erase found name
  unfold dismiss
  dsimp only
  split
  · next stopped => exact .drops held stopped dropped rfl rfl
  · next ticket runs =>
    have asks := worker?_requestExit
      (sys.updateGroup place fun g => { g with plugins := g.plugins.erase name }) ticket
    revert asks
    obtain ⟨_, _, _, same⟩ := requestExit_keeps
      (sys.updateGroup place fun g => { g with plugins := g.plugins.erase name }) ticket
    rw [same]
    intro asks
    exact .dismisses held runs
      ⟨dropped.stores, dropped.slots, dropped.states, dropped.held, dropped.filed⟩ asks rfl

/-- Whatever the command is. -/
theorem manages_perform (sys : System) (place : Nat) (command : Command) :
    Manages place sys command (sys.perform place command).2 (sys.perform place command).1 := by
  have idle {command : Command} (other : ∀ name timeout, command ≠ .dismiss name timeout) :
      Manages place sys command (.ok []) sys :=
    .idles (.refl sys) fun name timeout same => absurd same (other name timeout)
  have told {command : Command} {change : Group → Group}
      (kept : ∀ g, (change g).plugins = g.plugins)
      (other : ∀ name timeout, command ≠ .dismiss name timeout) :
      Manages place sys command (.ok []) (sys.updateGroup place change) :=
    .idles (inert_updateGroup kept sys place) fun name timeout same => absurd same (other name timeout)
  unfold perform
  split
  · next absent => exact .idles (.refl sys) fun name _ _ => held?_of_absent absent name
  · next g found =>
    have heldHere (name : String) := held?_of_group found name
    cases command with
    | start name =>
      dsimp only
      split
      · exact idle nofun
      · next p here =>
        split
        · exact idle nofun
        · next stopped =>
          have inert := inert_startCommands sys p.entry p.state
          have goes := startCommands_result sys p.entry p.state
          revert inert goes
          generalize sys.startCommands p.entry p.state = begun
          obtain ⟨mid, result⟩ := begun
          intro inert goes
          cases result with
          | error e => exact .fails inert trivial
          | ok row =>
            rcases goes with never | ⟨slot, same⟩
            · cases never
            · cases same
              have stopped : p.worker = none := by simpa using stopped
              exact .starts ((heldHere name).trans here) stopped inert
    | add entry =>
      have inert := inert_startCommands { sys with states := sys.states ++ [PluginState.notReady] }
        entry sys.states.length
      have goes := startCommands_result { sys with states := sys.states ++ [PluginState.notReady] }
        entry sys.states.length
      dsimp only
      revert inert goes
      generalize ({ sys with states := sys.states ++ [PluginState.notReady] } : System).startCommands
        entry sys.states.length = begun
      obtain ⟨mid, result⟩ := begun
      intro inert goes
      have longer : sys.states.length < mid.states.length :=
        Nat.lt_of_lt_of_le (by simp) inert.states
      have grown : Inert sys mid := ⟨inert.stores, inert.rosters, inert.workers, inert.nextTicket,
        Nat.le_of_lt longer, inert.slots⟩
      cases result with
      | error e => exact .fails grown trivial
      | ok row =>
        rcases goes with never | ⟨slot, same⟩
        · cases never
        · cases same
          exact .adds grown longer
    | launch entry state slot => exact manages_launch found entry state slot
    | claim name path => exact .claims (·.claim name path) rfl
    | release name => exact .claims (·.release name) rfl
    | releaseAll => exact .claims (·.releaseAll) rfl
    | publish | unpublish | adopt config | report status => exact told (fun _ => rfl) nofun
    | enlist =>
      dsimp only
      split
      · exact idle nofun
      · exact .enlists place
    | delist =>
      dsimp only
      split
      · exact idle nofun
      · next handle _ =>
        have kept (g : Group) : { g with trigger := none }.plugins = g.plugins := rfl
        exact .delists handle (inert_updateGroup kept sys place)
    | stop name timeout =>
      dsimp only
      split
      · exact idle nofun
      · next p here => exact manages_stopPlugin found ((heldHere name).trans here) timeout
    | dismiss name timeout =>
      dsimp only
      split
      · next absent =>
        refine .idles (.refl sys) fun name' _ same => ?_
        cases same
        exact (heldHere name).trans absent
      · next p here => exact manages_dismiss found ((heldHere name).trans here) timeout
    | retire name =>
      dsimp only
      split
      · exact idle nofun
      · next p here =>
        have still : (sys.setState p.state .stopped).groups[place]? = some g := found
        obtain ⟨stores, slots, states, held, filed⟩ := posts_insert still name { p with slot := none }
        exact .retires ((heldHere name).trans here)
          ⟨stores, slots, states.trans List.length_set, held, filed⟩ rfl rfl
    | refresh entry timeout =>
      dsimp only
      rw [← heldHere entry.name]
      exact .refreshes entry timeout
    | assign entry =>
      dsimp only
      split
      · exact idle nofun
      · next p here =>
        exact .assigns ((heldHere entry.name).trans here) (posts_insert found _ _) rfl rfl
    | settle registered =>
      dsimp only
      split
      · exact told (fun _ => rfl) nofun
      · exact idle nofun
    | run plan followup | awaitExit ticket deadline => exact idle nofun

end System

end DocStore
