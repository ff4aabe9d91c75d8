import DocStore.Proofs.System.Plays
import DocStore.Proofs.System.Removing
import DocStore.Proofs.System.Sites

/-!
# Plugins that a reconfiguration leaves alone

A plugin whose entry is written in the next configuration as it was is left alone. The commands of the call
are about other plugins, whose paths are apart from its own: they ask other workers to finish, prepare other
transforms, and claim and release under other names. What the call commits, it stages for the paths of
others, and what is removed with them are objects above those paths that are left empty.

Results:
  * `Keeping.stepCall`: the call stays away from the plugin;
  * `intact_stepCall`: a command changes nothing of the plugin;
  * `reconfigure_spares`: so a reconfiguration leaves it alone, whatever goes on beside it and whatever
    comes of the call.
-/

namespace DocStore

/-- Nothing at or below a path has changed. -/
def Untouched (path : Path) (before after : Contents) : Prop :=
  ∀ q, q.hasPrefix path = true → after.get? q = before.get? q

/-- The errand is about other places. -/
def Plan.Spares (path : Path) : Plan → Prop
  | .read _ => True
  | .ensure other => other.overlaps path = false
  | .removeAll others => ∀ other ∈ others, other.overlaps path = false
  | _ => False

/-- The command is not about the plugin of this name, or its entry is to stay as it is written. -/
def Command.Spares (name : String) (p : Plugin) : Command → Prop
  | .start other | .stop other _ | .dismiss other _ | .retire other | .release other
  | .claim other _ => other ≠ name
  | .add entry | .launch entry _ _ | .assign entry =>
    entry.name ≠ name ∧ entry.path.overlaps p.entry.path = false
  | .refresh entry _ => (entry.name ≠ name ∧ entry.path.overlaps p.entry.path = false) ∨
      entry.name = name ∧ p.entry.sameAs entry = true
  | .run plan _ => plan.Spares p.entry.path
  | .releaseAll | .enlist | .delist => False
  | .publish | .unpublish | .awaitExit .. | .adopt _ | .settle _ | .report _ => True

/-- What is apart from a path is apart from all below it. -/
theorem Path.overlaps_below {other path q : Path} (apart : other.overlaps path = false)
    (below : q.hasPrefix path = true) : q.overlaps other = false := by
  rw [Path.overlaps_eq_false_iff] at apart ⊢
  exact (apart.below (Path.hasPrefix_iff_leads.1 below)).symm

/-- A writing errand that is about other places stages nothing else. -/
theorem Plan.Spares.stages {plan : Plan} {path : Path} (spares : plan.Spares path)
    (writes : plan.isWrite = true) : plan.Stages (Untouched path) := by
  cases plan with
  | ensure other =>
    exact (Store.stages_ensure other).mono fun before after same q below =>
      same q (Path.overlaps_below spares below)
  | removeAll others =>
    exact (Store.stages_removeAll others).mono fun before after both q below =>
      both.2 q fun other mem => Path.overlaps_below (spares other mem) below
  | read => cases writes
  | _ => exact spares.elim

theorem Plan.Spares.plain {plan : Plan} {path : Path} (spares : plan.Spares path) :
    plan.isPlain = true := by
  cases plan with
  | read | ensure | removeAll => rfl
  | _ => exact spares.elim

namespace System

variable {sys sys' mid : System} {place : Nat} {name : String} {p : Plugin} {command : Command}
  {row rest first : List Command} {result : CommandResult} {c : Call} {plan : Plan}

/-! ## Staying away from a plugin -/

/-- A plugin is held, the others of its group are apart from it, and no command to come is about it. -/
structure Keeping (place : Nat) (name : String) (p : Plugin) (sys : System) (row : List Command) :
    Prop where
  held : sys.held? place name = some p
  apart : ∀ other q, sys.held? place other = some q → other ≠ name →
    q.entry.path.overlaps p.entry.path = false
  spares : ∀ c ∈ row, c.Spares name p

namespace Keeping

theorem keep {row' : List Command} (keeping : Keeping place name p sys row)
    (rosters : sys'.rosters = sys.rosters) (spares : ∀ c ∈ row', c.Spares name p) :
    Keeping place name p sys' row' := by
  refine ⟨(held?_of_rosters rosters place name).trans keeping.held, fun other q held => ?_, spares⟩
  exact keeping.apart other q ((held?_of_rosters rosters place other).symm.trans held)

theorem posts {other : String} {post : Option Plugin} {row' : List Command}
    (keeping : Keeping place name p sys row) (posts : Posts place other post sys sys')
    (ne : other ≠ name) (fits : ∀ q, post = some q → q.entry.path.overlaps p.entry.path = false)
    (spares : ∀ c ∈ row', c.Spares name p) : Keeping place name p sys' row' := by
  refine ⟨?_, fun other' q held ne' => ?_, spares⟩
  · rw [posts.held, if_neg fun both => ne both.2.symm]
    exact keeping.held
  · rw [posts.held] at held
    split at held
    · exact fits q held
    · exact keeping.apart other' q held ne'

end Keeping

theorem spares_refreshCommands {entry : PluginEntry} (timeout : Nat)
    (spares : (Command.refresh entry timeout).Spares name p) (held : sys.held? place name = some p) :
    ∀ c ∈ refreshCommands (sys.held? place entry.name) entry timeout, c.Spares name p := by
  rcases spares with ⟨ne, apart⟩ | ⟨same, written⟩
  · exact forall_refreshCommands (fun _ => ⟨ne, apart⟩) ne ⟨ne, apart⟩ ne
  · -- The entry is written as before, and nothing is to be done.
    rw [same, held]
    unfold refreshCommands
    dsimp only
    rw [if_pos written]
    exact fun _ never => by cases never

/-- A command that is not about the plugin comes to none that is. -/
theorem Manages.keeping (manages : Manages place sys command (.ok first) sys') (roster : Roster sys)
    (keeping : Keeping place name p sys (command :: rest)) :
    Keeping place name p sys' (first ++ rest) := by
  have spares : command.Spares name p := keeping.spares command List.mem_cons_self
  have behind : ∀ c ∈ rest, c.Spares name p := fun c mem =>
    keeping.spares c (List.mem_cons_of_mem _ mem)
  have front {row : List Command} (here : ∀ c ∈ row, c.Spares name p) :
      ∀ c ∈ row ++ rest, c.Spares name p := List.forall_mem_append.2 ⟨here, behind⟩
  cases manages with
  | idles inert => exact keeping.keep inert.rosters behind
  | enlists | delists => exact spares.elim
  | claims => exact keeping.keep rfl behind
  | @starts other q slot _ held _ inert =>
    have apart := keeping.apart other q held spares
    refine keeping.keep inert.rosters (front (List.forall_mem_cons.2 ⟨apart,
      List.forall_mem_singleton.2 ⟨?_, apart⟩⟩))
    rw [roster.named place other q held]
    exact spares
  | adds inert =>
    exact keeping.keep inert.rosters (front (List.forall_mem_cons.2 ⟨spares.2,
      List.forall_mem_cons.2 ⟨spares, List.forall_mem_singleton.2 spares.1⟩⟩))
  | launches posts =>
    refine keeping.posts posts spares.1 (fun q posted => ?_) behind
    cases posted
    exact spares.2
  | @stops other _ _ _ q _ held _ posts =>
    refine keeping.posts posts spares (fun q' posted => ?_) (front (List.forall_mem_cons.2 ⟨trivial,
      List.forall_mem_singleton.2 spares⟩))
    cases posted
    exact keeping.apart other q held spares
  | drops _ _ posts => exact keeping.posts posts spares (fun _ never => by cases never) behind
  | dismisses _ _ posts =>
    refine keeping.posts posts spares (fun q never => ?_) (front (List.forall_mem_singleton.2 trivial))
    cases never
  | @retires other q _ held posts =>
    refine keeping.posts posts spares (fun q' posted => ?_) behind
    cases posted
    exact keeping.apart other q held spares
  | refreshes entry timeout =>
    exact keeping.keep rfl (front (spares_refreshCommands timeout spares keeping.held))
  | assigns _ posts =>
    refine keeping.posts posts spares.1 (fun q' posted => ?_) behind
    cases posted
    exact spares.2

/-- The call stays away from the plugin. -/
theorem Keeping.stepCall (keeping : Keeping c.group name p sys c.agenda) (roster : Roster sys) :
    Keeping c.group name p (sys.stepCall c).1 (sys.stepCall c).2.agenda :=
  stepCall_keeps (P := Keeping c.group name p) keeping
    (fun _ _ _ undisturbed keeping => keeping.keep undisturbed.rosters keeping.spares)
    (fun _ _ keeping => keeping.keep rfl fun _ never => by cases never)
    (fun _ _ _ _ keeping => keeping.keep rfl fun c mem => keeping.spares c (List.mem_cons_of_mem _ mem))
    (fun _ _ _ keeping => keeping.keep rfl fun c mem => keeping.spares c (List.mem_cons_of_mem _ mem))
    (fun _ _ _ _ _ manages => manages.keeping roster)
    fun _ _ inert keeping => keeping.keep inert.rosters keeping.spares

/-! ## What is left alone -/

/-- Nothing of a plugin has changed: its worker with its source, the transforms that there are, what is
claimed under its name, and what is at its path or below it. -/
structure Intact (name : String) (p : Plugin) (sys sys' : System) : Prop where
  worker : ∀ ticket, p.worker = some ticket → sys'.worker? ticket = sys.worker? ticket
  slots : sys.slots <+: sys'.slots
  claim : (sys'.storeAt pluginStore).claims.find? name = (sys.storeAt pluginStore).claims.find? name
  untouched : Untouched p.entry.path (sys.storeAt pluginStore).contents
    (sys'.storeAt pluginStore).contents

namespace Intact

theorem trans (first : Intact name p sys mid) (next : Intact name p mid sys') :
    Intact name p sys sys' :=
  ⟨fun ticket runs => (next.worker ticket runs).trans (first.worker ticket runs),
    first.slots.trans next.slots, next.claim.trans first.claim,
    fun q below => (next.untouched q below).trans (first.untouched q below)⟩

/-- Nothing has become of stores and workers, and transforms at most came to those that there are. -/
theorem of_same (stores : sys'.stores = sys.stores) (workers : sys'.workers = sys.workers)
    (slots : sys.slots <+: sys'.slots) : Intact name p sys sys' := by
  refine ⟨fun ticket _ => worker?_of_workers workers ticket, slots, ?_, fun q _ => ?_⟩
  · rw [storeAt_of_stores stores]
  · rw [storeAt_of_stores stores]

/-- Something is posted that has to do with other workers. -/
theorem of_posts {other : String} {post : Option Plugin} (posts : Posts place other post sys sys')
    (worker : ∀ ticket, p.worker = some ticket → sys'.worker? ticket = sys.worker? ticket) :
    Intact name p sys sys' := by
  refine ⟨worker, posts.slots ▸ List.prefix_refl _, ?_, fun q _ => ?_⟩
  · rw [storeAt_of_stores posts.stores]
  · rw [storeAt_of_stores posts.stores]

end Intact

/-- Of a plugin of another name it is another worker that is asked to finish. -/
theorem Roster.other_worker (roster : Roster sys) {other : String} {q : Plugin} {ticket asked : Nat}
    (held : sys.held? place name = some p) (runs : p.worker = some ticket)
    (held' : sys.held? place other = some q) (runs' : q.worker = some asked) (ne : other ≠ name) :
    ticket ≠ asked := by
  rintro rfl
  obtain ⟨w, found, same⟩ := roster.runs place name p ticket held runs
  obtain ⟨w', found', same'⟩ := roster.runs place other q ticket held' runs'
  cases found.symm.trans found'
  exact ne (roster.distinct place name p place other q held held' (same'.symm.trans same)).2

/-- A command that is not about the plugin changes nothing of it. -/
theorem Manages.intact (manages : Manages place sys command result sys') (roster : Roster sys)
    (held : sys.held? place name = some p) (spares : command.Spares name p) :
    Intact name p sys sys' := by
  have asked {other : String} {q : Plugin} {asked : Nat} (held' : sys.held? place other = some q)
      (runs' : q.worker = some asked) (ne : other ≠ name) (asks : AsksExit asked sys sys') (ticket : Nat)
      (runs : p.worker = some ticket) : sys'.worker? ticket = sys.worker? ticket := by
    rw [asks ticket, if_neg (roster.other_worker held runs held' runs' ne)]
  cases manages with
  | fails inert | idles inert | delists _ inert | starts _ _ inert | adds inert =>
    exact .of_same inert.stores inert.workers inert.slots
  | enlists | refreshes => exact .of_same rfl rfl (List.prefix_refl _)
  | claims change claiming =>
    have kept : (change (sys.storeAt pluginStore)).claims.find? name =
          (sys.storeAt pluginStore).claims.find? name ∧
        (change (sys.storeAt pluginStore)).contents = (sys.storeAt pluginStore).contents := by
      cases command with
      | claim other path =>
        cases claiming
        exact ⟨Dict.find?_insert_ne _ _ (Ne.symm spares), rfl⟩
      | release other =>
        cases claiming
        exact ⟨Dict.find?_erase_ne _ (Ne.symm spares), rfl⟩
      | releaseAll => exact spares.elim
      | _ => cases claiming
    by_cases present : pluginStore < sys.stores.length
    · have put : (sys.updateStore pluginStore change).storeAt pluginStore =
          change (sys.storeAt pluginStore) := storeAt_updateStore_self present change
      refine ⟨fun _ _ => rfl, List.prefix_refl _, ?_, fun q _ => ?_⟩
      · rw [put, kept.1]
      · rw [put, kept.2]
    · exact .of_same (stores_updateStore_absent present change) rfl (List.prefix_refl _)
  | launches posts new workers =>
    refine .of_posts posts fun ticket runs => ?_
    obtain ⟨w, found, -⟩ := roster.runs place name p ticket held runs
    rw [worker?_append workers, found]
    rfl
  | stops held' runs' posts asks => exact .of_posts posts (asked held' runs' spares asks)
  | dismisses held' runs' posts asks => exact .of_posts posts (asked held' runs' spares asks)
  | drops _ _ posts workers | retires _ posts workers | assigns _ posts workers =>
    exact .of_posts posts fun ticket _ => worker?_of_workers workers ticket

/-! ## Errands about other places -/

/-- A reading errand leaves stores and transforms as they are. -/
theorem reading_advanceErrand (sys : System) (plain : plan.isPlain = true) (reads : plan.isWrite = false)
    (sent : ∀ e, c.errand = some e → e.Sent plan) :
    (sys.advanceErrand c plan).1.slots = sys.slots ∧
      ∀ place, (sys.storeAt place).Aside ((sys.advanceErrand c plan).1.storeAt place) := by
  have slots (mid : System) (e : Errand) (sent : e.Sent plan) : (mid.pollErrand e).1.slots = mid.slots := by
    unfold pollErrand
    dsimp only
    rw [sent.opening reads]
    have turn (lock : Bool) :
        (if lock then mid.performErrand e else (mid, .waiting e)).1.slots = mid.slots := by
      cases lock with
      | false => rfl
      | true =>
        rw [if_pos rfl]
        unfold performErrand
        dsimp only
        rw [sent.planned, reads]
        split <;> rfl
    exact turn _
  unfold advanceErrand
  cases under : c.errand with
  | some e =>
    have mine := sent e under
    have polled : Untraced sys (sys.pollErrand e).1 :=
      untraced_pollErrand (by rw [mine.planned]; exact plain)
        (fun _ _ => by rw [mine.planned]; exact reads) fun _ => mine.opening reads
    exact ⟨slots sys e mine, polled.stores⟩
  | none =>
    have begun : Untraced sys.takeTicket.1
        (sys.takeTicket.1.beginErrand pluginStore sys.takeTicket.2 plan).1 :=
      untraced_beginErrand plain fun _ _ => reads
    exact ⟨slots _ _ ⟨rfl, rfl, fun _ => rfl⟩, begun.stores⟩

/-- The writing errand that a call is on is about other places. -/
def Considers (path : Path) (sys : System) (errand : Option Errand) : Prop :=
  ∀ e, errand = some e → e.plan.isWrite = true → Undertakes (Untouched path) e.plan sys e

/-- An errand about other places changes nothing of a plugin. -/
theorem intact_advanceErrand (name : String) (present : pluginStore < sys.stores.length)
    (spares : plan.Spares p.entry.path) (sent : ∀ e, c.errand = some e → e.Sent plan)
    (considers : Considers p.entry.path sys c.errand) :
    Intact name p sys (sys.advanceErrand c plan).1 ∧
      ∀ e, (sys.advanceErrand c plan).2 = .waiting e →
        Considers p.entry.path (sys.advanceErrand c plan).1 (some e) := by
  have workers := workers_advanceErrand sys c plan
  have staff (ticket : Nat) (_ : p.worker = some ticket) := worker?_of_workers workers ticket
  cases writes : plan.isWrite with
  | false =>
    obtain ⟨slots, aside⟩ := reading_advanceErrand sys spares.plain writes sent
    refine ⟨⟨staff, slots ▸ List.prefix_refl _, ?_, fun q _ => ?_⟩, fun e waits e' same write => ?_⟩
    · rw [(aside pluginStore).claims]
    · rw [(aside pluginStore).contents]
    · cases same
      rw [(sent_advanceErrand sent waits).planned, writes] at write
      cases write
  | true =>
    have undertaken := undertaken_advanceErrand present (spares.stages writes) fun e under => by
      have planned := (sent e under).planned
      have undertakes := considers e under (by rw [planned]; exact writes)
      rwa [planned] at undertakes
    obtain ⟨slots, claims, waits, fails, ends⟩ := undertaken
    refine ⟨⟨staff, slots ▸ List.prefix_refl _, by rw [claims], ?_⟩, fun e waiting e' same _ => ?_⟩
    · cases progress : (sys.advanceErrand c plan).2 with
      | waiting e =>
        intro q _
        rw [(waits e progress).2]
      | finished result =>
        cases result with
        | ok outcome => exact ends outcome progress
        | error refusal =>
          intro q _
          rw [(fails refusal progress).2]
    · cases same
      have undertakes := (waits e waiting).1
      rw [undertakes.sent.planned]
      exact undertakes

theorem intact_follow (group : Nat) (followup : Followup) (result : Except Refusal Outcome) :
    Intact name p sys (sys.follow group followup result).1 := by
  refine .of_same (stores_follow sys group followup result) (workers_follow sys group followup result) ?_
  unfold follow
  split <;> exact List.prefix_refl _

theorem intact_goOn (d : Call) (rest : List Command) (next : CommandResult) :
    Intact name p sys (sys.goOn d rest next).1 := by
  refine .of_same (Traffic.stores_goOn sys d rest next).1 (workers_goOn sys d rest next) ?_
  unfold System.goOn
  cases next with
  | ok first => exact List.prefix_refl _
  | error e =>
    unfold reported
    dsimp only
    split <;> exact List.prefix_refl _

/-- One step of a call that stays away from a plugin changes nothing of it. -/
theorem intact_stepCall (present : pluginStore < sys.stores.length) (roster : Roster sys)
    (keeping : Keeping c.group name p sys c.agenda) (coherent : c.Coherent)
    (considers : Considers p.entry.path sys c.errand) :
    Intact name p sys (sys.stepCall c).1 ∧
      Considers p.entry.path (sys.stepCall c).1 (sys.stepCall c).2.errand := by
  have same : Intact name p sys sys := .of_same rfl rfl (List.prefix_refl _)
  have goes {mid : System} {d : Call} {rest : List Command} {next : CommandResult}
      (goes : sys.stepCall c = mid.goOn d rest next) (intact : Intact name p sys mid) :
      Intact name p sys (sys.stepCall c).1 ∧
        Considers p.entry.path (sys.stepCall c).1 (sys.stepCall c).2.errand := by
    rw [goes]
    refine ⟨intact.trans (intact_goOn d rest next), fun e on => ?_⟩
    rw [(Traffic.stores_goOn mid d rest next).2] at on
    cases on
  cases row : c.agenda with
  | nil =>
    unfold stepCall
    rw [row]
    exact ⟨same, nofun⟩
  | cons command rest =>
    have spares : command.Spares name p := keeping.spares command (row ▸ List.mem_cons_self)
    by_cases isPrompt : command.Prompt
    · obtain ⟨mid, next, manages, after⟩ := stepCall_prompt sys row isPrompt
      exact goes after (manages.intact roster keeping.held spares)
    · cases command with
      | run plan followup =>
        obtain ⟨intact, waits⟩ := intact_advanceErrand name present spares
          (coherent.sent row) considers
        rcases stepCall_run sys row with ⟨mid, e, advanced, after⟩ | ⟨mid, result, advanced, after⟩
        · rw [advanced] at intact waits
          rw [after]
          exact ⟨intact, waits e rfl⟩
        · rw [advanced] at intact
          exact goes after (intact.trans (intact_follow c.group followup result))
      | awaitExit ticket deadline =>
        rcases stepCall_wait sys row with ⟨after, -⟩ | ⟨after, -⟩
        · rw [after]
          exact ⟨same, nofun⟩
        · rw [after]
          exact ⟨same, considers⟩
      | _ => exact absurd trivial isPrompt

/-! ## Plugins that stay as they are written -/

section Stays

variable {r : Registry} {raw : Value} {names : List String} {next : PluginConfig} {g : Group}
  {entry : PluginEntry} {other : String}

/-- Whoever is removed has another name, and is held with its path. -/
theorem removed_apart {q : Plugin} (filed : sys.Filed) (roster : Roster sys)
    (spread : PluginConfig.Spread names) (within : sys.HeldWithin place names)
    (found : sys.groups[place]? = some g) (here : sys.held? place name = some p)
    (listed : next.find? name = some entry) (removed : (other, q) ∈ g.removedBy next) :
    other ≠ name ∧ q.entry.path.overlaps p.entry.path = false := by
  obtain ⟨present, out⟩ := List.mem_filter.1 removed
  have ne : other ≠ name := by
    rintro rfl
    have left : (!next.contains other) = true := out
    unfold Dict.contains at left
    rw [listed] at left
    cases left
  have ordered : Dict.Ordered g.plugins :=
    filed g.plugins (List.mem_map_of_mem (List.mem_of_getElem? found))
  have there : sys.held? place other = some q :=
    (held?_of_group found other).trans (ordered.find?_of_mem present)
  exact ⟨ne, within.apart spread (roster.named place) there here ne⟩

/-- Whoever is given a place has another name and a path apart, or is the plugin as it is written. -/
theorem refresh_spares {e : PluginEntry} (named : p.entry.name = name) (located : p.entry.Located)
    (validated : PluginConfig.validate r raw = .ok next) (listed : next.find? name = some entry)
    (written : p.entry.sameAs entry = true) (present : (other, e) ∈ next) (timeout : Nat) :
    (Command.refresh e timeout).Spares name p := by
  have sound := PluginConfig.sound_of_validate validated
  have same : e.name = other := sound.named other e present
  by_cases mine : other = name
  · subst mine
    cases (sound.ordered.find?_of_mem present).symm.trans listed
    exact .inr ⟨same, written⟩
  · have theirs : Path.ofDotted other = .ok e.path := same ▸ (sound.valid other e present).path
    unfold PluginEntry.Located at located
    rw [named] at located
    have spread := PluginConfig.spread_of_validate validated
    exact .inl ⟨same ▸ mine, spread other (List.mem_map_of_mem present) name
      (List.mem_map_of_mem (Dict.mem_of_find? listed)) mine _ _ theirs located⟩

/-- A reconfiguration is about none of the plugins that stay as they are written. -/
theorem keeping_reconfigureAgenda (filed : sys.Filed) (sited : Sited sys place []) (roster : Roster sys)
    (found : sys.groups[place]? = some g) (validated : PluginConfig.validate r raw = .ok next)
    (held : g.plugins.find? name = some p) (listed : next.find? name = some entry)
    (written : p.entry.sameAs entry = true) :
    Keeping place name p sys (g.reconfigureAgenda next) := by
  obtain ⟨names, spread, within⟩ := sited.idle
  have named := roster.named place
  have here : sys.held? place name = some p := (held?_of_group found name).trans held
  have removed {other : String} {q : Plugin} (mem : (other, q) ∈ g.removedBy next) :=
    removed_apart filed roster spread within found here listed mem
  refine ⟨here, fun other q there ne => within.apart spread named there here ne, ?_⟩
  rw [Holding.reconfigureAgenda_eq]
  refine List.forall_mem_append.2 ⟨?_, List.forall_mem_cons.2 ⟨trivial, List.forall_mem_append.2 ⟨?_,
    List.forall_mem_append.2 ⟨?_, List.forall_mem_append.2 ⟨?_, ?_⟩⟩⟩⟩⟩
  · refine List.forall_mem_map.2 fun other mem => ?_
    obtain ⟨⟨other, q⟩, present, rfl⟩ := List.mem_map.1 mem
    exact (removed present).1
  · split
    · exact List.forall_mem_nil _
    · refine List.forall_mem_singleton.2 fun path mem => ?_
      obtain ⟨⟨other, q⟩, present, rfl⟩ := List.mem_map.1 mem
      exact (removed present).2
  · refine List.forall_mem_map.2 fun other mem => ?_
    obtain ⟨⟨other, q⟩, present, rfl⟩ := List.mem_map.1 mem
    exact (removed present).1
  · refine List.forall_mem_map.2 fun e mem => ?_
    obtain ⟨⟨other, e⟩, present, rfl⟩ := List.mem_map.1 mem
    exact refresh_spares (named name p here) (within name p here).2 validated listed written present _
  · exact List.forall_mem_cons.2 ⟨trivial, List.forall_mem_cons.2 ⟨trivial, List.forall_mem_cons.2 ⟨
      trivial, List.forall_mem_singleton.2 trivial⟩⟩⟩

end Stays

end System

namespace Traffic

open DocStore.System

variable {r : Registry} {τ τ' : Traffic} {s : Store} {σ : Schedule} {earlier log events : List WorkEvent}
  {place : Nat} {name : String} {p : Plugin} {trees : List Value} {engine : Engine} {files : FileTree}

/-- A call that stays away from a plugin is under way, or it is over. The plugin is held. -/
inductive Sparing (place : Nat) (name : String) (p : Plugin) (τ : Traffic) : Prop
  | goesOn (c : Call) (called : τ.system.call = some c) (unfinished : c.result = none)
      (here : c.group = place) (keeping : Keeping place name p τ.system c.agenda)
      (considers : Considers p.entry.path τ.system c.errand)
  | ended (c : Call) (called : τ.system.call = some c) (result : c.result.isSome = true)
      (held : τ.system.held? place name = some p)

theorem Sparing.held (sparing : Sparing place name p τ) : τ.system.held? place name = some p := by
  cases sparing with
  | goesOn _ _ _ _ keeping => exact keeping.held
  | ended _ _ _ held => exact held

theorem sparing_step (sparing : Sparing place name p τ) (answers : Answers log τ)
    (ticketed : Ticketed τ) (scheduled : Scheduled s pluginStore τ σ)
    (present : pluginStore < τ.system.stores.length) (step : Step Alone τ events τ') :
    Sparing place name p τ' := by
  cases sparing with
  | goesOn c called unfinished here keeping considers =>
    cases step with
    | other other =>
      obtain ⟨rosters, -, -, call⟩ := other_keeps ticketed other
      refine .goesOn c (call.trans called) unfinished here (keeping.keep rosters keeping.spares)
        fun e on write => ?_
      exact undertakes_other scheduled ticketed present other called on (considers e on write)
    | hold _ idle =>
      unfold callIsOver at idle
      rw [called] at idle
      dsimp only at idle
      rw [unfinished] at idle
      cases idle
    | call _ _ may => exact may.elim
    | proceed called' =>
      cases called.symm.trans called'
      subst here
      have after := keeping.stepCall answers.accounted.toRoster
      obtain ⟨-, considers⟩ := intact_stepCall present answers.accounted.toRoster keeping
        (ticketed.call c called).1 considers
      cases result : (τ.system.stepCall c).2.result with
      | none =>
        refine .goesOn _ rfl result (stepsTo_stepCall 0 τ.system c).group_eq
          (after.keep rfl after.spares) fun e on write => ?_
        exact ⟨(considers e on write).sent, (considers e on write).staged⟩
      | some result' => exact .ended _ rfl (by rw [result]; rfl) after.held
  | ended c called result held =>
    cases step with
    | other other =>
      obtain ⟨rosters, -, -, call⟩ := other_keeps ticketed other
      exact .ended c (call.trans called) result ((held?_of_rosters rosters place name).trans held)
    | @hold _ _ config stopTimeout =>
      -- A group that comes is another one.
      exact .ended c ((hold_keeps τ.system config stopTimeout).2.trans called) result
        (held_hold config stopTimeout held)
    | call _ _ may => exact may.elim
    | proceed called' unfinished =>
      cases called.symm.trans called'
      rw [unfinished] at result
      cases result

/-- Whatever was asked of groups before: a plugin whose entry is written in the next configuration as it
was stays held as it is while the group is reconfigured, whatever goes on beside it and however the call
ends. No command of the call changes the worker of the plugin, its source, a transform that there is, or the
claim under its name, and none commits anything that changes what is at the path of the plugin or below
it. -/
theorem reconfigure_spares {g : Group} {next : PluginConfig} {entry : PluginEntry} {raw : Value}
    (stores : 0 < trees.length)
    (history : Run (Requested r) (of (System.new trees engine files)) earlier τ)
    (idle : τ.system.callIsOver = true) (found : τ.system.groups[place]? = some g)
    (validated : PluginConfig.validate r raw = .ok next) (held : g.plugins.find? name = some p)
    (listed : next.find? name = some entry) (written : p.entry.sameAs entry = true)
    (run : Run Alone (τ.reconfiguring place g next) log τ') :
    τ'.system.held? place name = some p ∧
    ∀ c, τ'.system.call = some c → c.result = none →
      (τ'.system.proceed c).held? place name = some p ∧
      (∀ ticket, p.worker = some ticket →
        (τ'.system.proceed c).worker? ticket = τ'.system.worker? ticket) ∧
      (∀ (i : Nat) (slot : TransformSlot), τ'.system.slots[i]? = some slot →
        (τ'.system.proceed c).slots[i]? = some slot) ∧
      ((τ'.system.proceed c).storeAt pluginStore).claims.find? name =
        (τ'.system.storeAt pluginStore).claims.find? name ∧
      ∀ q, q.hasPrefix p.entry.path = true →
        ((τ'.system.proceed c).storeAt pluginStore).contents.get? q =
          (τ'.system.storeAt pluginStore).contents.get? q := by
  have asked := history.mono fun _ _ requested => requested.asked
  have answers := asked.answers
  have made : Run Asked (of (System.new trees engine files)) (earlier ++ [])
      (τ.reconfiguring place g next) :=
    asked.step (.call _ idle (plain_agenda (.reconfigure next) g) ⟨rfl, rfl⟩)
  have whole {log : List WorkEvent} {mid : Traffic}
      (run : Run Alone (τ.reconfiguring place g next) log mid) :=
    made.trans (run.mono fun _ _ never => never.elim)
  have start : Sparing place name p (τ.reconfiguring place g next) := by
    have keeping := keeping_reconfigureAgenda history.sites.filed
      (history.sites.idle (answers.idle idle) place) answers.accounted.toRoster found validated held
      listed written
    exact .goesOn _ rfl rfl rfl (keeping.keep rfl keeping.spares) nofun
  -- Along the run the call stays away from the plugin, or it is over.
  have sparing : Sparing place name p τ' := by
    induction run with
    | none => exact start
    | step before step ih =>
      obtain ⟨present, σ, scheduled⟩ := (whole before).scheduled stores
      exact sparing_step ih (whole before).answers
        ((whole before).ticketed (ticketed_new trees engine files)) scheduled present step
  refine ⟨sparing.held, fun c called unfinished => ?_⟩
  have roster := (whole run).answers.accounted.toRoster
  obtain ⟨present, -⟩ := (whole run).scheduled stores
  have coherent := (((whole run).ticketed (ticketed_new trees engine files)).call c called).1
  cases sparing with
  | ended c' called' result =>
    cases called.symm.trans called'
    rw [unfinished] at result
    cases result
  | goesOn c' called' _ here keeping considers =>
    cases called.symm.trans called'
    subst here
    obtain ⟨⟨worker, slots, claim, untouched⟩, -⟩ :=
      intact_stepCall present roster keeping coherent considers
    refine ⟨(keeping.stepCall roster).held, worker, fun i slot there => ?_, claim, untouched⟩
    obtain ⟨bound, -⟩ := List.getElem?_eq_some_iff.1 there
    exact (List.prefix_iff_getElem?.1 slots i bound).trans
      ((List.getElem?_eq_getElem bound).symm.trans there)

/-- A plugin `m.x` that takes from a feed, and a plugin `m.y` beside it. -/
def Samples.siblings : Value :=
  .object [("m.x", .object [("feed", .string "a"), ("type", .string "mock")]),
    ("m.y", .object [("feed", .string "b"), ("type", .string "mock")])]

/-- The plugin without the other. -/
def Samples.single : Value :=
  .object [("m.x", .object [("feed", .string "a"), ("type", .string "mock")])]

/-- Both plugins run, and each of them has stored what its feed gave. -/
def Samples.beside : List WorkEvent × System :=
  (System.new [.empty] .absent .empty).play OneFeed.kinds
    ([.feed "a" [⟨0, .batch (.string "b")⟩], .feed "b" [⟨0, .batch (.string "c")⟩],
      .hold siblings 5, .start 0] ++ List.replicate 14 .proceed ++ [.turn 2, .turn 4])

/-- One of them is to go, and its worker has finished. What it stored is removed next. -/
def Samples.parting : List WorkEvent × System :=
  (beside.2.ask 0 (.reconfigure (OneFeed.configOf single))).play OneFeed.kinds
    [.proceed, .turn 4, .proceed, .proceed]

/-- The object above both is left with what belongs to the one that stays. -/
theorem reconfigure_spares_beside_removal : ∃ g p entry c,
    0 < [Value.empty].length ∧
    Run (Requested OneFeed.kinds) (of (System.new [.empty] .absent .empty)) Samples.beside.1
      (of Samples.beside.2) ∧
    Samples.beside.2.callIsOver = true ∧ Samples.beside.2.groups[0]? = some g ∧
    PluginConfig.validate OneFeed.kinds Samples.single = .ok (OneFeed.configOf Samples.single) ∧
    g.plugins.find? "m.x" = some p ∧ (OneFeed.configOf Samples.single).find? "m.x" = some entry ∧
    p.entry.sameAs entry = true ∧
    Run Alone ((of Samples.beside.2).reconfiguring 0 g (OneFeed.configOf Samples.single))
      Samples.parting.1 (of Samples.parting.2) ∧
    Samples.parting.2.call = some c ∧ c.result = none ∧
    (Samples.parting.2.storeAt pluginStore).contents.data =
      .object [("m", .object [("x", .string "b"), ("y", .string "c")])] ∧
    ((Samples.parting.2.proceed c).storeAt pluginStore).contents.data =
      .object [("m", .object [("x", .string "b")])] ∧
    (Samples.parting.2.proceed c).held? 0 "m.x" = some p ∧
    ((Samples.parting.2.proceed c).storeAt pluginStore).contents.get? p.entry.path =
      (Samples.parting.2.storeAt pluginStore).contents.get? p.entry.path := by
  obtain ⟨g, found⟩ := Option.isSome_iff_exists.1
    (show (Samples.beside.2.groups[0]?).isSome = true by decide +kernel)
  obtain ⟨p, here⟩ := Option.isSome_iff_exists.1
    (show (Samples.beside.2.held? 0 "m.x").isSome = true by decide +kernel)
  obtain ⟨entry, listed⟩ := Option.isSome_iff_exists.1
    (show ((OneFeed.configOf Samples.single).find? "m.x").isSome = true by decide +kernel)
  obtain ⟨c, called⟩ := Option.isSome_iff_exists.1
    (show Samples.parting.2.call.isSome = true by decide +kernel)
  have held : g.plugins.find? "m.x" = some p := (held?_of_group found "m.x").symm.trans here
  have written : p.entry.sameAs entry = true := by
    have same : (Samples.beside.2.held? 0 "m.x").all (fun p =>
        ((OneFeed.configOf Samples.single).find? "m.x").all fun entry => p.entry.sameAs entry) = true := by
      decide +kernel
    rwa [here, listed] at same
  have unfinished : c.result = none := by
    have goesOn : Samples.parting.2.call.all (·.result.isNone) = true := by decide +kernel
    rw [called] at goesOn
    exact Option.isNone_iff_eq_none.1 goesOn
  have removed : ((Samples.parting.2.proceed c).storeAt pluginStore).contents.data =
      .object [("m", .object [("x", .string "b")])] := by
    have left : Samples.parting.2.call.map (fun c =>
        ((Samples.parting.2.proceed c).storeAt pluginStore).contents.data) =
        some (.object [("m", .object [("x", .string "b")])]) := by decide +kernel
    rw [called] at left
    exact Option.some_inj.1 left
  have idle : Samples.beside.2.callIsOver = true := by decide +kernel
  have history : Run (Requested OneFeed.kinds) (of (System.new [.empty] .absent .empty))
      Samples.beside.1 (of Samples.beside.2) := run_play OneFeed.kinds _ fun _ _ _ requested => requested
  have validated := OneFeed.validated (show
    (PluginConfig.validate OneFeed.kinds Samples.single).isOk = true by decide +kernel)
  have asked : of (Samples.beside.2.ask 0 (.reconfigure (OneFeed.configOf Samples.single))) =
      (of Samples.beside.2).reconfiguring 0 g (OneFeed.configOf Samples.single) := by
    unfold ask
    rw [found]
    dsimp only
    rw [if_pos idle]
    rfl
  have run : Run Alone ((of Samples.beside.2).reconfiguring 0 g (OneFeed.configOf Samples.single))
      Samples.parting.1 (of Samples.parting.2) :=
    asked ▸ run_play OneFeed.kinds _ fun calls => absurd calls (by decide)
  obtain ⟨-, each⟩ := reconfigure_spares (by decide) history idle found validated held listed written run
  obtain ⟨stays, -, -, -, untouched⟩ := each c called unfinished
  exact ⟨g, p, entry, c, by decide, history, idle, found, validated, held, listed, written, run, called,
    unfinished, by decide +kernel, removed, stays, untouched p.entry.path (Path.hasPrefix_self _)⟩

end Traffic

end DocStore
