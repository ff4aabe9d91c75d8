import DocStore.Proofs.System.Accounts

/-!
# Where the plugins of a group are

Validation refuses a configuration in which the paths of two plugins overlap. A group takes the plugins out
that its next configuration does not name before it gives a place to any other. So the plugins that it holds
never overlap, also when a call has failed halfway.

Results:
  * `Sited.manages`: a command leaves the plugins of its group apart;
  * `Run.sites`: so they are whatever goes on.
-/

namespace DocStore

/-- The path of the entry is the one that its name stands for. -/
def PluginEntry.Located (entry : PluginEntry) : Prop := Path.ofDotted entry.name = .ok entry.path

/-- An entry that the command may give to a plugin has one of these names, and the path of its name. -/
def Command.Within (names : List String) : Command → Prop
  | .refresh entry _ | .add entry | .launch entry _ _ | .assign entry =>
    entry.name ∈ names ∧ entry.Located
  | _ => True

namespace System

variable {sys sys' : System} {place : Nat} {names : List String} {row rest first : List Command}
  {command : Command} {result : CommandResult}

/-! ## Rosters in order -/

theorem Manages.filed (manages : Manages place sys command result sys') (filed : sys.Filed) :
    sys'.Filed := by
  have inertly (inert : Inert sys sys') : sys'.Filed := by
    unfold Filed
    rwa [inert.rosters]
  cases manages with
  | fails inert | idles inert | delists _ inert | starts _ _ inert | adds inert => exact inertly inert
  | enlists | refreshes => exact filed
  | claims => exact filed
  | launches posts | stops _ _ posts | drops _ _ posts | dismisses _ _ posts | retires _ posts
  | assigns _ posts => exact posts.filed filed

/-- Nothing becomes of what other groups hold. -/
theorem Manages.elsewhere (manages : Manages place sys command result sys') {other : Nat}
    (ne : other ≠ place) (name : String) : sys'.held? other name = sys.held? other name := by
  have posted {post : Option Plugin} {name' : String} (posts : Posts place name' post sys sys') :
      sys'.held? other name = sys.held? other name := by
    rw [posts.held, if_neg fun both => ne both.1]
  cases manages with
  | fails inert | idles inert | delists _ inert | starts _ _ inert | adds inert =>
    exact held?_of_rosters inert.rosters other name
  | enlists | refreshes | claims => rfl
  | launches posts | stops _ _ posts | drops _ _ posts | dismisses _ _ posts | retires _ posts
  | assigns _ posts => exact posted posts

/-! ## Plugins that are apart -/

/-- The plugins that a group holds have some of these names, and the paths of their names. -/
def HeldWithin (sys : System) (place : Nat) (names : List String) : Prop :=
  ∀ name p, sys.held? place name = some p → name ∈ names ∧ p.entry.Located

/-- The plugins of a group are apart, and so are those that a call may still give a place to. -/
inductive Sited (sys : System) (place : Nat) : List Command → Prop
  | settled {row : List Command} (names : List String) (spread : PluginConfig.Spread names)
      (held : sys.HeldWithin place names) (within : ∀ c ∈ row, c.Within names) : Sited sys place row
  /-- Plugins that others may overlap are taken out first. -/
  | leaving {rest : List Command} (waits : List Command) (now next out : List String) (timeout : Nat)
      (spread : PluginConfig.Spread now) (apart : PluginConfig.Spread next)
      (held : sys.HeldWithin place now)
      (waiting : waits = [] ∨ ∃ ticket deadline, waits = [.awaitExit ticket deadline])
      (stay : ∀ name p, sys.held? place name = some p → name ∈ out ∨ name ∈ next)
      (within : ∀ c ∈ rest, c.Within next) :
      Sited sys place (waits ++ (out.map (.dismiss · timeout) ++ rest))

namespace HeldWithin

theorem keep (within : sys.HeldWithin place names)
    (held : ∀ name, sys'.held? place name = sys.held? place name) : sys'.HeldWithin place names :=
  fun name p found => within name p ((held name).symm.trans found)

/-- What is posted is there, or it was there before. -/
theorem posts {name : String} {post : Option Plugin} (within : sys.HeldWithin place names)
    (posts : Posts place name post sys sys')
    (fits : ∀ p, post = some p → name ∈ names ∧ p.entry.Located) : sys'.HeldWithin place names := by
  intro other p found
  rw [posts.held] at found
  split at found
  · next here =>
    rw [here.2]
    exact fits p found
  · exact within other p found

/-- Two plugins of a group do not overlap. -/
theorem apart (within : sys.HeldWithin place names) (spread : PluginConfig.Spread names)
    (named : ∀ name p, sys.held? place name = some p → p.entry.name = name) {a b : String}
    {p q : Plugin} (one : sys.held? place a = some p) (other : sys.held? place b = some q)
    (ne : a ≠ b) : p.entry.path.overlaps q.entry.path = false := by
  obtain ⟨memA, locatedA⟩ := within a p one
  obtain ⟨memB, locatedB⟩ := within b q other
  unfold PluginEntry.Located at locatedA locatedB
  rw [named a p one] at locatedA
  rw [named b q other] at locatedB
  exact spread a memA b memB ne _ _ locatedA locatedB

end HeldWithin

namespace Sited

theorem keep (sited : Sited sys place row)
    (held : ∀ name, sys'.held? place name = sys.held? place name) : Sited sys' place row := by
  cases sited with
  | settled names spread within row => exact .settled names spread (within.keep held) row
  | leaving waits now next out timeout spread apart within waiting stay row =>
    exact .leaving waits now next out timeout spread apart (within.keep held) waiting
      (fun name p found => stay name p ((held name).symm.trans found)) row

/-- When nobody is to be taken out, all that is held and all that may come are apart. -/
theorem settle (sited : Sited sys place row)
    (other : ∀ c ∈ row.head?, ∀ name timeout ticket deadline,
      c ≠ .dismiss name timeout ∧ c ≠ .awaitExit ticket deadline) :
    ∃ names, PluginConfig.Spread names ∧ sys.HeldWithin place names ∧ ∀ c ∈ row, c.Within names := by
  cases sited with
  | settled names spread within row => exact ⟨names, spread, within, row⟩
  | leaving _ now next out timeout spread apart within waiting stay rest =>
    rcases waiting with rfl | ⟨ticket, deadline, rfl⟩
    · cases out with
      | nil =>
        refine ⟨next, apart, fun name p found => ⟨?_, (within name p found).2⟩, rest⟩
        exact (stay name p found).resolve_left fun never => by cases never
      | cons name out => exact absurd rfl (other _ rfl name timeout 0 0).1
    · exact absurd rfl (other _ rfl "" 0 ticket deadline).2

/-- Nothing is left to be carried out. -/
theorem idle (sited : Sited sys place []) :
    ∃ names, PluginConfig.Spread names ∧ sys.HeldWithin place names := by
  obtain ⟨names, spread, within, -⟩ := sited.settle fun c never => by cases never
  exact ⟨names, spread, within⟩

theorem nothing (sited : Sited sys place row) : Sited sys place [] := by
  cases sited with
  | settled names spread within => exact .settled names spread within fun _ never => by cases never
  | leaving _ now _ _ _ spread _ within => exact .settled now spread within fun _ never => by cases never

/-- A wait is over. -/
theorem of_wait {ticket deadline : Nat} (sited : Sited sys place (.awaitExit ticket deadline :: rest)) :
    Sited sys place rest := by
  generalize same : Command.awaitExit ticket deadline :: rest = row at sited
  cases sited with
  | settled names spread within all =>
    subst same
    exact .settled names spread within fun c mem => all c (List.mem_cons_of_mem _ mem)
  | leaving _ now next out timeout spread apart within waiting stay all =>
    rcases waiting with rfl | ⟨_, _, rfl⟩
    · cases out with
      | nil =>
        rw [List.nil_append, List.map_nil, List.nil_append] at same
        subst same
        refine .leaving [] now next [] timeout spread apart within (.inl rfl) stay
          fun c mem => all c (List.mem_cons_of_mem _ mem)
      | cons => cases same
    · cases same
      exact .leaving [] now next out timeout spread apart within (.inl rfl) stay all

/-- An errand is over. -/
theorem of_run {plan : Plan} {followup : Followup}
    (sited : Sited sys place (.run plan followup :: rest)) : Sited sys place rest := by
  obtain ⟨names, spread, within, all⟩ := sited.settle fun c mem name timeout ticket deadline => by
    cases mem
    exact ⟨nofun, nofun⟩
  exact .settled names spread within fun c mem => all c (List.mem_cons_of_mem _ mem)

end Sited

section Manages

variable (named : ∀ name p, sys.held? place name = some p → p.entry.name = name)

include named

/-- What a command posts was allowed, and what it comes to is allowed. -/
theorem Manages.within (manages : Manages place sys command (.ok first) sys')
    (held : sys.HeldWithin place names) (within : command.Within names) :
    sys'.HeldWithin place names ∧ ∀ c ∈ first, c.Within names := by
  have nothing : ∀ c ∈ ([] : List Command), c.Within names := fun _ never => by cases never
  have quiet (inert : Inert sys sys') : sys'.HeldWithin place names :=
    held.keep (held?_of_rosters inert.rosters place)
  cases manages with
  | idles inert => exact ⟨quiet inert, nothing⟩
  | delists _ inert => exact ⟨quiet inert, List.forall_mem_singleton.2 trivial⟩
  | enlists => exact ⟨held, List.forall_mem_singleton.2 trivial⟩
  | claims => exact ⟨held, nothing⟩
  | @starts name p slot _ there _ inert =>
    refine ⟨quiet inert, List.forall_mem_cons.2 ⟨trivial, List.forall_mem_singleton.2 ?_⟩⟩
    obtain ⟨mem, located⟩ := held name p there
    rw [← named name p there] at mem
    exact ⟨mem, located⟩
  | adds inert =>
    exact ⟨quiet inert, List.forall_mem_cons.2 ⟨trivial, List.forall_mem_cons.2 ⟨within,
      List.forall_mem_singleton.2 trivial⟩⟩⟩
  | launches posts =>
    refine ⟨held.posts posts fun q posted => ?_, nothing⟩
    cases posted
    exact within
  | @stops name _ _ _ p _ there _ posts =>
    refine ⟨held.posts posts fun q posted => ?_,
      List.forall_mem_cons.2 ⟨trivial, List.forall_mem_singleton.2 trivial⟩⟩
    cases posted
    exact held name p there
  | drops _ _ posts => exact ⟨held.posts posts (fun _ never => by cases never), nothing⟩
  | dismisses _ _ posts =>
    exact ⟨held.posts posts (fun _ never => by cases never), List.forall_mem_singleton.2 trivial⟩
  | @retires name p _ there posts =>
    refine ⟨held.posts posts fun q posted => ?_, nothing⟩
    cases posted
    exact held name p there
  | refreshes entry timeout => exact ⟨held, forall_refreshCommands (fun _ => within) trivial within trivial⟩
  | assigns _ posts =>
    refine ⟨held.posts posts fun q posted => ?_, nothing⟩
    cases posted
    exact within

theorem Sited.of_within {names : List String} (spread : PluginConfig.Spread names)
    (held : sys.HeldWithin place names) (within : ∀ c ∈ command :: rest, c.Within names)
    (manages : Manages place sys command (.ok first) sys') : Sited sys' place (first ++ rest) := by
  obtain ⟨here, front⟩ := manages.within named held (within command List.mem_cons_self)
  exact .settled names spread here
    (List.forall_mem_append.2 ⟨front, fun c mem => within c (List.mem_cons_of_mem _ mem)⟩)

/-- A command leaves the plugins of its group apart. -/
theorem Sited.manages (sited : Sited sys place (command :: rest)) (prompt : command.Prompt)
    (manages : Manages place sys command (.ok first) sys') : Sited sys' place (first ++ rest) := by
  generalize same : command :: rest = row at sited
  cases sited with
  | settled names spread held within =>
    subst same
    exact .of_within named spread held within manages
  | leaving _ now next out timeout spread apart held waiting stay within =>
    rcases waiting with rfl | ⟨_, _, rfl⟩
    · cases out with
      | nil =>
        rw [List.nil_append, List.map_nil, List.nil_append] at same
        subst same
        have here : sys.HeldWithin place next := fun name p found =>
          ⟨(stay name p found).resolve_left (fun never => by cases never), (held name p found).2⟩
        exact .of_within named apart here within manages
      | cons name out =>
        cases same
        -- Whoever is left to be taken out is another one.
        have posted (posts : Posts place name none sys sys') : sys'.HeldWithin place now ∧
            ∀ other p, sys'.held? place other = some p → other ∈ out ∨ other ∈ next := by
          refine ⟨held.posts posts (fun _ never => by cases never), fun other p found => ?_⟩
          rw [posts.held] at found
          split at found
          · cases found
          · next there =>
            refine (stay other p found).imp_left fun mem => ?_
            exact List.mem_of_ne_of_mem (fun same => there ⟨rfl, same⟩) mem
        cases manages with
        | idles inert gone =>
          have kept := held?_of_rosters inert.rosters place
          refine .leaving [] now next out timeout spread apart (held.keep kept) (.inl rfl)
            (fun other p found => ?_) within
          rw [kept] at found
          refine (stay other p found).imp_left fun mem => List.mem_of_ne_of_mem ?_ mem
          rintro rfl
          cases found.symm.trans (gone _ _ rfl)
        | claims _ claiming => cases claiming
        | drops _ _ posts =>
          obtain ⟨held, stay⟩ := posted posts
          exact .leaving [] now next out timeout spread apart held (.inl rfl) stay within
        | @dismisses _ _ ticket deadline _ _ _ _ posts =>
          obtain ⟨held, stay⟩ := posted posts
          exact .leaving [.awaitExit ticket deadline] now next out timeout spread apart held
            (.inr ⟨ticket, deadline, rfl⟩) stay within
    · cases same
      exact prompt.elim

end Manages

/-! ## Steps of calls -/

section Proceed

variable {c : Call}

theorem filed_stepCall (filed : sys.Filed) (c : Call) : (sys.stepCall c).1.Filed := by
  have same {a b : System} (rosters : b.rosters = a.rosters) (filed : a.Filed) : b.Filed := by
    unfold Filed
    rwa [rosters]
  exact stepCall_keeps (P := fun sys _ => sys.Filed) filed
    (fun _ _ _ undisturbed => same undisturbed.rosters) (fun _ _ => id) (fun _ _ _ _ => id)
    (fun _ _ _ => id) (fun _ _ _ _ _ manages => manages.filed) fun _ _ inert => same inert.rosters

theorem held?_stepCall {place : Nat} (ne : place ≠ c.group) (name : String) :
    (sys.stepCall c).1.held? place name = sys.held? place name := by
  refine stepCall_keeps (P := fun mid _ => mid.held? place name = sys.held? place name) rfl
    (fun _ _ _ undisturbed => (held?_of_rosters undisturbed.rosters place name).trans) (fun _ _ => id)
    (fun _ _ _ _ => id) (fun _ _ _ => id) (fun _ _ _ _ _ manages _ => manages.elsewhere ne name)
    fun _ _ inert => (held?_of_rosters inert.rosters place name).trans

theorem Sited.stepCall (sited : Sited sys c.group c.agenda)
    (named : ∀ name p, sys.held? c.group name = some p → p.entry.name = name) :
    Sited (sys.stepCall c).1 c.group (sys.stepCall c).2.agenda :=
  stepCall_keeps (P := fun sys row => Sited sys c.group row) sited
    (fun _ _ _ undisturbed sited => sited.keep (held?_of_rosters undisturbed.rosters c.group))
    (fun _ _ sited => sited.nothing) (fun _ _ _ _ sited => sited.of_run)
    (fun _ _ _ sited => sited.of_wait)
    (fun _ _ _ _ prompt manages sited => sited.manages named prompt manages)
    fun _ _ inert sited => sited.keep (held?_of_rosters inert.rosters c.group)

end Proceed

/-! ## Calls that are made -/

section Made

variable {r : Registry} {next : PluginConfig} {g : Group}

/-- The entries of a validated configuration have its names. -/
theorem within_of_sound (sound : next.Sound r) {name : String} {entry : PluginEntry}
    (listed : (name, entry) ∈ next) : entry.name ∈ next.keys ∧ entry.Located := by
  refine ⟨?_, (sound.valid name entry listed).path⟩
  rw [sound.named name entry listed]
  exact List.mem_map_of_mem listed

/-- A group whose plugins are apart is asked for something. -/
theorem Sited.call (sited : Sited sys place []) (found : sys.groups[place]? = some g)
    {request : Request} (valid : request.Valid r) : Sited sys place (request.agenda g) := by
  obtain ⟨names, spread, held⟩ := sited.idle
  cases request with
  | start =>
    refine .settled names spread held ?_
    show ∀ command ∈ g.startAgenda, _
    unfold Group.startAgenda
    refine List.forall_mem_append.2 ⟨fun command mem => ?_, by simp [Command.Within]⟩
    obtain ⟨_, -, mem⟩ := List.mem_flatMap.1 mem
    rcases List.mem_pair.1 mem with rfl | rfl <;> trivial
  | stop timeout =>
    refine .settled names spread held ?_
    show ∀ command ∈ g.stopAgenda timeout, _
    unfold Group.stopAgenda
    exact List.forall_mem_append.2 ⟨List.forall_mem_map.2 fun _ _ => trivial, by simp [Command.Within]⟩
  | reconfigure next =>
    obtain ⟨raw, validated⟩ := valid
    have sound := PluginConfig.sound_of_validate validated
    show Sited sys place (g.reconfigureAgenda next)
    rw [Holding.reconfigureAgenda_eq]
    refine .leaving [] names next.keys ((g.removedBy next).map (·.1)) g.stopTimeout spread
      (PluginConfig.spread_of_validate validated) held (.inl rfl) (fun name p here => ?_) ?_
    · -- Whoever is not in the next configuration is among those that are taken out.
      cases named : next.contains name with
      | true =>
        obtain ⟨entry, listed⟩ := Option.isSome_iff_exists.1 named
        exact .inr (List.mem_map_of_mem (Dict.mem_of_find? listed))
      | false =>
        have found := (held?_of_group found name).symm.trans here
        exact .inl (List.mem_map_of_mem
          (List.mem_filter.2 ⟨Dict.mem_of_find? found, by simp [named]⟩))
    · refine List.forall_mem_cons.2 ⟨trivial, List.forall_mem_append.2 ⟨?_, List.forall_mem_append.2 ⟨?_,
        List.forall_mem_append.2 ⟨?_, by simp [Command.Within]⟩⟩⟩⟩
      · split <;> simp [Command.Within]
      · exact List.forall_mem_map.2 fun _ _ => trivial
      · refine List.forall_mem_map.2 fun entry mem => ?_
        obtain ⟨⟨name, entry⟩, listed, rfl⟩ := List.mem_map.1 mem
        exact within_of_sound sound listed

end Made

end System

namespace Traffic

open DocStore.System

variable {r : Registry} {τ τ' : Traffic} {log events : List WorkEvent}

/-- The plugins of every group are in order, and apart. -/
structure Sites (τ : Traffic) : Prop where
  filed : τ.system.Filed
  sited : ∀ place, Sited τ.system place (if place = τ.system.callee then τ.system.agenda else [])

theorem Sites.idle (sites : Sites τ) (nothing : τ.system.agenda = []) (place : Nat) :
    Sited τ.system place [] := by
  have sited := sites.sited place
  rw [nothing, ite_self] at sited
  exact sited

theorem Sites.keep (sites : Sites τ) (rosters : τ'.system.rosters = τ.system.rosters)
    (call : τ'.system.call = τ.system.call) : Sites τ' := by
  refine ⟨?_, fun place => ?_⟩
  · unfold Filed
    rw [rosters]
    exact sites.filed
  · have row : τ'.system.agenda = τ.system.agenda := by unfold agenda; rw [call]
    have callee : τ'.system.callee = τ.system.callee := by unfold System.callee; rw [call]
    rw [row, callee]
    exact (sites.sited place).keep (held?_of_rosters rosters place)

/-- A group is held, of a configuration that was validated. -/
theorem Sites.hold {raw : Value} {config : PluginConfig} (sites : Sites τ)
    (nothing : τ.system.agenda = []) (validated : PluginConfig.validate r raw = .ok config)
    (stopTimeout : Nat) : Sites (τ.go (τ.system.hold config stopTimeout)) := by
  have sound := PluginConfig.sound_of_validate validated
  have row : (τ.system.hold config stopTimeout).agenda = [] := by
    rw [← nothing]
    unfold agenda
    rw [(hold_keeps τ.system config stopTimeout).2]
  refine ⟨fun plugins mem => ?_, fun place => ?_⟩
  · obtain ⟨g, present, rfl⟩ := List.mem_map.1 mem
    rcases List.mem_append.1 present with old | new
    · exact sites.filed _ (List.mem_map_of_mem old)
    · rw [List.mem_singleton.1 new]
      exact ordered_ofConfig sound.ordered _ _
  · show Sited (τ.system.hold config stopTimeout) place
      (if place = _ then (τ.system.hold config stopTimeout).agenda else [])
    rw [row, ite_self]
    by_cases new : place = τ.system.groups.length
    · refine .settled config.keys (PluginConfig.spread_of_validate validated) (fun name p held => ?_)
        fun _ never => by cases never
      rw [held?_hold, if_pos new] at held
      obtain ⟨i, entry, listed, rfl⟩ := state_of_ofConfig config stopTimeout held
      have mem := List.mem_of_getElem? listed
      exact ⟨List.mem_map_of_mem mem, (within_of_sound sound mem).2⟩
    · refine (sites.idle nothing place).keep fun name => ?_
      rw [held?_hold, if_neg new]

theorem Sites.step (sites : Sites τ) (answers : Answers log τ) (ticketed : Ticketed τ)
    (step : Step (Requested r) τ events τ') : Sites τ' := by
  cases step with
  | other other =>
    obtain ⟨rosters, -, -, call⟩ := other_keeps ticketed other
    exact sites.keep rosters call
  | hold stopTimeout idle validated => exact sites.hold (answers.idle idle) validated stopTimeout
  | call c idle requested new =>
    obtain ⟨place, g, request, found, valid, rfl⟩ := requested
    have nothing := answers.idle idle
    refine ⟨sites.filed, fun other => ?_⟩
    have sited : Sited τ.system other (if other = place then request.agenda g else []) := by
      split
      · next same =>
        subst same
        exact (sites.idle nothing other).call found valid
      · exact sites.idle nothing other
    exact sited.keep fun _ => rfl
  | @proceed c called unfinished =>
    have before (place : Nat) :
        Sited τ.system place (if place = c.group then c.agenda else []) := by
      have sited := sites.sited place
      unfold agenda callee at sited
      rwa [called] at sited
    refine ⟨filed_stepCall sites.filed c, fun place => ?_⟩
    have group : (τ.system.stepCall c).2.group = c.group := (stepsTo_stepCall 0 τ.system c).group_eq
    show Sited (τ.system.proceed c) place
      (if place = (τ.system.stepCall c).2.group then (τ.system.stepCall c).2.agenda else [])
    rw [group]
    have sited : Sited (τ.system.stepCall c).1 place
        (if place = c.group then (τ.system.stepCall c).2.agenda else []) := by
      split
      · next same =>
        subst same
        have here := before c.group
        rw [if_pos rfl] at here
        exact here.stepCall (answers.accounted.named c.group)
      · next other =>
        have there := before place
        rw [if_neg other] at there
        exact there.keep (held?_stepCall other)
    exact sited.keep fun _ => rfl

theorem Run.sites {trees : List Value} {engine : Engine} {files : FileTree}
    (run : Run (Requested r) (of (System.new trees engine files)) log τ) : Sites τ := by
  induction run with
  | none =>
    refine ⟨fun _ never => (by cases never), fun place => ?_⟩
    have nothing : (of (System.new trees engine files)).system.agenda = [] := rfl
    rw [nothing, ite_self]
    refine .settled [] (List.forall_mem_nil _) (fun name p held => ?_) (List.forall_mem_nil _)
    obtain ⟨g, never, -⟩ := group_of_held held
    cases never
  | step before step ih =>
    have asked := before.mono fun _ _ requested => requested.asked
    exact ih.step asked.answers (before.ticketed (ticketed_new trees engine files)) step

end Traffic

end DocStore
