import DocStore.Proofs.Plugin.Alike
import DocStore.Proofs.System.Agenda

/-!
# Bringing plugins in line

A reconfiguration brings the plugins in line one by one. Whatever comes of it, a holding stays
`Tidy`: a plugin stands under the name of its entry, the entry is a validated one, and its path is
claimed. What it does not say is that the plugin runs: one whose restart failed is held with its next
entry, and it does not run.

Results:
  * `runs_start`, `runs_stop`, `runs_add`: what comes of a plugin that is started, stopped or added;
  * `runs_refresh`, `runs_refreshes`: one entry, and all entries of a configuration.
-/

namespace DocStore

/-! ## Rows of commands -/

namespace Runs

variable {c : Command} {rest : List Command} {h h' : Holding} {ok : Bool}

theorem of_cons (runs : Runs (c :: rest) h ok h') :
    (ok = false ∧ h.Does c none h') ∨
      ∃ first mid, h.Does c (some first) mid ∧ Runs (first ++ rest) mid ok h' := by
  cases runs with
  | failed fails => exact .inl ⟨rfl, fails⟩
  | went does more => exact .inr ⟨_, _, does, more⟩

/-- A command that neither fails nor changes what is held. -/
theorem of_idle (runs : Runs (c :: rest) h ok h')
    (idle : ∀ next mid, h.Does c next mid → h.Idle next mid) : Runs rest h ok h' := by
  rcases runs.of_cons with ⟨-, fails⟩ | ⟨first, mid, does, more⟩
  · obtain ⟨-, never⟩ := idle _ _ fails
    cases never
  · obtain ⟨rfl, none⟩ := idle _ _ does
    cases none
    exact more

/-- An errand changes nothing that is held. -/
theorem of_run {plan : Plan} {followup : Followup} (runs : Runs (.run plan followup :: rest) h ok h') :
    (ok = false ∧ h' = h) ∨ Runs rest h ok h' := by
  rcases runs.of_cons with ⟨ended, same, -⟩ | ⟨first, mid, ⟨rfl, comes⟩, more⟩
  · exact .inl ⟨ended, same⟩
  · rcases comes with never | none
    · cases never
    · cases none
      exact .inr more

end Runs

namespace Holding

variable {h mid h' : Holding} {name : String} {p q : Plugin} {ok : Bool} {timeout : Nat}

/-! ## One plugin -/

/-- Nothing has changed but what is held and claimed under some names. -/
structure Beside (names : List String) (h h' : Holding) : Prop where
  plugins : ∀ other, other ∉ names → h'.plugins.find? other = h.plugins.find? other
  claims : ∀ other, other ∉ names → h'.claims.find? other = h.claims.find? other

namespace Beside

variable {names more : List String}

theorem refl (names : List String) (h : Holding) : Beside names h h :=
  ⟨fun _ _ => rfl, fun _ _ => rfl⟩

theorem trans (first : Beside names h mid) (next : Beside names mid h') : Beside names h h' :=
  ⟨fun other out => (next.plugins other out).trans (first.plugins other out),
    fun other out => (next.claims other out).trans (first.claims other out)⟩

theorem mono (beside : Beside names h h') (within : names ⊆ more) : Beside more h h' :=
  ⟨fun other out => beside.plugins other fun present => out (within present),
    fun other out => beside.claims other fun present => out (within present)⟩

end Beside

/-- Only the plugin that is held under a name has changed. -/
structure Changed (name : String) (p : Plugin) (h h' : Holding) : Prop where
  held : h'.plugins.find? name = some p
  others : ∀ other, other ≠ name → h'.plugins.find? other = h.plugins.find? other
  claims : h'.claims = h.claims

theorem changed_hold (h : Holding) (name : String) (p : Plugin) :
    Changed name p h (h.hold name p) :=
  ⟨Dict.find?_insert_self _ _ _, fun _ ne => Dict.find?_insert_ne _ _ ne, rfl⟩

theorem Changed.same (found : h.plugins.find? name = some p) : Changed name p h h :=
  ⟨found, fun _ _ => rfl, rfl⟩

theorem Changed.trans (first : Changed name p h mid) (next : Changed name q mid h') :
    Changed name q h h' :=
  ⟨next.held, fun other ne => (next.others other ne).trans (first.others other ne),
    next.claims.trans first.claims⟩

theorem Changed.beside (changed : Changed name p h h') : Beside [name] h h' :=
  ⟨fun other out => changed.others other (List.ne_of_not_mem_cons out),
    fun _ _ => by rw [changed.claims]⟩

/-- A plugin that is held and claimed anew. -/
theorem beside_added (h : Holding) (name : String) (p : Plugin) (path : Path) :
    Beside [name] h ((h.hold name p).claim name path) :=
  ⟨(changed_hold h name p).beside.plugins, fun _ out =>
    Dict.find?_insert_ne _ _ (List.ne_of_not_mem_cons out)⟩

/-- Stopping never fails. -/
theorem runs_stop (found : h.plugins.find? name = some p)
    (runs : Runs [.stop name timeout] h ok h') :
    ok = true ∧ ∃ q, q.entry = p.entry ∧ q.worker = none ∧ Changed name q h h' := by
  rcases runs.of_cons with ⟨-, does⟩ | ⟨first, mid, does, more⟩
  · dsimp only [Does] at does
    rw [found] at does
    dsimp only at does
    split at does
    · cases does.2
    · obtain ⟨-, deadline, never⟩ := does
      cases never
  · dsimp only [Does] at does
    rw [found] at does
    dsimp only at does
    split at does
    · next stopped =>
      obtain ⟨rfl, none⟩ := does
      cases none
      obtain ⟨rfl, rfl⟩ := more.of_nil
      exact ⟨rfl, p, rfl, stopped, .same found⟩
    · -- The plugin does not run from the moment that its worker is asked to finish.
      obtain ⟨rfl, deadline, row⟩ := does
      cases row
      have waited := more.of_idle fun next mid does => does
      have asked := changed_hold h name { p with worker := none }
      rcases waited.of_cons with ⟨-, does⟩ | ⟨first, mid, does, more⟩
      · dsimp only [Does] at does
        rw [asked.held] at does
        cases does.1
      · dsimp only [Does] at does
        rw [asked.held] at does
        obtain ⟨row, rfl⟩ := does
        cases row
        obtain ⟨rfl, rfl⟩ := more.of_nil
        have retired := changed_hold (h.hold name { p with worker := none }) name
          { p with worker := none, slot := none }
        exact ⟨rfl, { p with worker := none, slot := none }, rfl, rfl, asked.trans retired⟩

theorem runs_assign {entry : PluginEntry} (found : h.plugins.find? entry.name = some p)
    (runs : Runs [.assign entry] h ok h') :
    ok = true ∧ Changed entry.name { p with entry } h h' := by
  rcases runs.of_cons with ⟨-, does⟩ | ⟨first, mid, does, more⟩
  · dsimp only [Does] at does
    rw [found] at does
    cases does.1
  · dsimp only [Does] at does
    rw [found] at does
    obtain ⟨row, rfl⟩ := does
    cases row
    obtain ⟨rfl, rfl⟩ := more.of_nil
    exact ⟨rfl, changed_hold _ _ _⟩

/-- What comes of bringing up a plugin whose rule is prepared. -/
theorem runs_launch {entry : PluginEntry} {state : Nat} {slot : Option Nat} {rest : List Command}
    (runs : Runs (.run (.ensure entry.path) .nothing :: .launch entry state slot :: rest) h ok h') :
    (ok = false ∧ h' = h) ∨ ∃ ticket,
      Runs rest (h.hold entry.name ⟨entry, state, slot, some ticket⟩) ok h' := by
  rcases runs.of_run with failed | runs
  · exact .inl failed
  · rcases runs.of_cons with ⟨ended, does⟩ | ⟨first, mid, does, more⟩
    · rcases does with ⟨-, same⟩ | ⟨never, -⟩
      · exact .inl ⟨ended, same⟩
      · cases never
    · rcases does with ⟨never, -⟩ | ⟨row, ticket, rfl⟩
      · cases never
      · cases row
        exact .inr ⟨ticket, more⟩

/-- A plugin that does not run is started, or it stays as it is. -/
theorem runs_start (found : h.plugins.find? name = some p) (stopped : p.worker = none)
    (named : p.entry.name = name) (runs : Runs [.start name] h ok h') :
    (ok = false ∧ h' = h) ∨
      (ok = true ∧ ∃ q, q.entry = p.entry ∧ q.worker.isSome = true ∧ Changed name q h h') := by
  rcases runs.of_cons with ⟨ended, does⟩ | ⟨first, mid, does, more⟩
  · dsimp only [Does] at does
    rw [found] at does
    dsimp only at does
    rw [stopped] at does
    exact .inl ⟨ended, does.1⟩
  · dsimp only [Does] at does
    rw [found] at does
    dsimp only at does
    rw [stopped] at does
    obtain ⟨rfl, never | ⟨slot, row⟩⟩ := does
    · cases never
    · cases row
      rcases runs_launch more with failed | ⟨ticket, more⟩
      · exact .inl failed
      · obtain ⟨rfl, rfl⟩ := more.of_nil
        have launched := changed_hold mid name ⟨p.entry, p.state, slot, some ticket⟩
        rw [named]
        exact .inr ⟨rfl, ⟨p.entry, p.state, slot, some ticket⟩, rfl, rfl, launched⟩

/-- A plugin that runs already is not started. -/
theorem runs_start_running (found : h.plugins.find? name = some p)
    (running : p.worker.isSome = true) (runs : Runs [.start name] h ok h') :
    ok = true ∧ h' = h := by
  have idle := runs.of_idle fun next mid does => by
    dsimp only [Does] at does
    rw [found] at does
    dsimp only at does
    rw [if_pos running] at does
    exact does
  exact idle.of_nil

/-- A plugin that is not held is started and then held and claimed, or nothing has changed. -/
theorem runs_add {entry : PluginEntry} (runs : Runs [.add entry] h ok h') :
    (ok = false ∧ h' = h) ∨
      (ok = true ∧ ∃ q, q.entry = entry ∧ q.worker.isSome = true ∧
        h' = (h.hold entry.name q).claim entry.name entry.path) := by
  rcases runs.of_cons with ⟨ended, same, -⟩ | ⟨first, mid, ⟨rfl, comes⟩, more⟩
  · exact .inl ⟨ended, same⟩
  · rcases comes with never | ⟨state, slot, row⟩
    · cases never
    · cases row
      rcases runs_launch more with failed | ⟨ticket, more⟩
      · exact .inl failed
      · rcases more.of_cons with ⟨-, never, -⟩ | ⟨first, mid, ⟨row, rfl⟩, more⟩
        · cases never
        · cases row
          obtain ⟨rfl, rfl⟩ := more.of_nil
          exact .inr ⟨rfl, _, rfl, rfl, rfl⟩

/-- A plugin with a next entry is stopped, and started again if it ran. -/
theorem runs_restart {entry : PluginEntry} (found : h.plugins.find? entry.name = some p)
    (runs : Runs ([.stop entry.name timeout, .assign entry] ++
      if p.worker.isSome then [.start entry.name] else []) h ok h') :
    ∃ q, q.entry = entry ∧ Changed entry.name q h h' ∧
      (ok = true → (q.worker.isSome = true ↔ p.worker.isSome = true)) := by
  -- Only the last start can fail, and then the plugin already has its next entry.
  rcases runs.split_cons with ⟨stopped, stops, runs⟩ | ⟨rfl, stops⟩
  · obtain ⟨-, q, -, idle, asked⟩ := runs_stop found stops
    rcases runs.split_cons with ⟨assigned, assigns, runs⟩ | ⟨rfl, assigns⟩
    · obtain ⟨-, given⟩ := runs_assign asked.held assigns
      have changed := asked.trans given
      split at runs
      · next running =>
        rcases runs_start given.held idle rfl runs with ⟨rfl, rfl⟩ | ⟨rfl, q', same, runs', started⟩
        · exact ⟨_, rfl, changed, fun never => by cases never⟩
        · exact ⟨q', same, changed.trans started, fun _ => ⟨fun _ => running, fun _ => runs'⟩⟩
      · next notRunning =>
        obtain ⟨rfl, rfl⟩ := runs.of_nil
        refine ⟨_, rfl, changed, fun _ => ?_⟩
        rw [idle]
        exact ⟨fun never => (by cases never), fun running => absurd running notRunning⟩
    · obtain ⟨never, -⟩ := runs_assign asked.held assigns
      cases never
  · obtain ⟨never, -⟩ := runs_stop found stops
    cases never

/-! ## What every call leaves -/

variable {r : Registry} {entry : PluginEntry}

/-- A held plugin stands under the name of its entry, which is a validated one. -/
structure Fits (r : Registry) (name : String) (p : Plugin) : Prop where
  named : p.entry.name = name
  valid : p.entry.Valid r

/-- Every held plugin fits, and its path is claimed under its name. -/
structure Tidy (r : Registry) (h : Holding) : Prop where
  fits : ∀ name p, h.plugins.find? name = some p → Fits r name p
  claimed : ∀ name p, h.plugins.find? name = some p → h.claims.find? name = some p.entry.path

theorem Tidy.of_beside (tidy : Tidy r h) (beside : Beside [name] h h')
    (here : ∀ p, h'.plugins.find? name = some p →
      Fits r name p ∧ h'.claims.find? name = some p.entry.path) : Tidy r h' := by
  constructor
  · intro other p found
    by_cases same : other = name
    · subst same
      exact (here p found).1
    · have out : other ∉ [name] := List.not_mem_cons_of_ne_of_not_mem same List.not_mem_nil
      rw [beside.plugins other out] at found
      exact tidy.fits other p found
  · intro other p found
    by_cases same : other = name
    · subst same
      exact (here p found).2
    · have out : other ∉ [name] := List.not_mem_cons_of_ne_of_not_mem same List.not_mem_nil
      rw [beside.plugins other out] at found
      rw [beside.claims other out]
      exact tidy.claimed other p found

/-- An entry has been given to a plugin, which runs unless there was one that did not. -/
def Brought (h h' : Holding) (entry : PluginEntry) : Prop :=
  ∃ q, h'.plugins.find? entry.name = some q ∧ q.entry.Alike entry ∧
    (q.worker.isSome = true ↔
      ∀ p, h.plugins.find? entry.name = some p → p.worker.isSome = true)

/-- Only the plugins of some entries and their claims have changed, and they have been given the
entries unless something failed. -/
structure Refreshed (r : Registry) (entries : List PluginEntry) (h : Holding) (ok : Bool)
    (h' : Holding) : Prop where
  tidy : Tidy r h'
  beside : Beside (entries.map (·.name)) h h'
  brought : ok = true → ∀ entry ∈ entries, Brought h h' entry

theorem refreshed_one (tidy : Tidy r h') (beside : Beside [entry.name] h h')
    (brought : ok = true → Brought h h' entry) : Refreshed r [entry] h ok h' := by
  refine ⟨tidy, beside, fun ended other present => ?_⟩
  rw [List.mem_singleton.1 present]
  exact brought ended

/-- The entry of a plugin that is not held yet. -/
theorem refreshed_of_add (tidy : Tidy r h) (valid : entry.Valid r)
    (absent : h.plugins.find? entry.name = none) (runs : Runs [.add entry] h ok h') :
    Refreshed r [entry] h ok h' := by
  rcases runs_add runs with ⟨rfl, rfl⟩ | ⟨rfl, q, rfl, running, rfl⟩
  · exact refreshed_one tidy (.refl _ _) fun never => by cases never
  · have held := changed_hold h q.entry.name q
    have claimed : ((h.hold q.entry.name q).claim q.entry.name q.entry.path).claims.find?
        q.entry.name = some q.entry.path := Dict.find?_insert_self _ _ _
    have beside := beside_added h q.entry.name q q.entry.path
    refine refreshed_one (tidy.of_beside beside ?_) beside fun _ => ⟨q, held.held, .refl _, ?_⟩
    · intro p found
      cases held.held.symm.trans found
      exact ⟨⟨rfl, valid⟩, claimed⟩
    · rw [absent]
      exact ⟨fun _ _ never => (by cases never), fun _ => running⟩

/-- A plugin whose next entry was written like the present one. -/
theorem refreshed_of_same (uniform : r.Uniform) (tidy : Tidy r h) (valid : entry.Valid r)
    (found : h.plugins.find? entry.name = some p) (alike : p.entry.sameAs entry = true) :
    Refreshed r [entry] h true h := by
  have fits := tidy.fits entry.name p found
  refine refreshed_one tidy (.refl _ _) fun _ => ⟨p, found, ?_, ?_⟩
  · exact PluginEntry.alike_of_sameAs uniform fits.valid valid fits.named alike
  · rw [found]
    exact ⟨fun running q same => by cases same; exact running, fun all => all p rfl⟩

/-- A plugin with its next entry in place of the present one. -/
theorem refreshed_of_changed (tidy : Tidy r h) (valid : entry.Valid r)
    (found : h.plugins.find? entry.name = some p) (changed : Changed entry.name q h h')
    (given : q.entry = entry) (alike : ok = true → (q.worker.isSome = true ↔ p.worker.isSome = true)) :
    Refreshed r [entry] h ok h' := by
  have fits := tidy.fits entry.name p found
  refine refreshed_one (tidy.of_beside changed.beside ?_) changed.beside fun ended =>
    ⟨q, changed.held, ?_, ?_⟩
  · intro q' found'
    cases changed.held.symm.trans found'
    refine ⟨⟨by rw [given], by rw [given]; exact valid⟩, ?_⟩
    rw [changed.claims, tidy.claimed entry.name p found, given,
      fits.valid.path_eq valid fits.named]
  · rw [given]
    exact .refl entry
  · rw [found, alike ended]
    exact ⟨fun running q same => by cases same; exact running, fun all => all p rfl⟩

/-- A plugin whose next entry was written otherwise is stopped, and started again if it ran. -/
theorem refreshed_of_restart (tidy : Tidy r h) (valid : entry.Valid r)
    (found : h.plugins.find? entry.name = some p)
    (runs : Runs ([.stop entry.name timeout, .assign entry] ++
      if p.worker.isSome then [.start entry.name] else []) h ok h') :
    Refreshed r [entry] h ok h' := by
  obtain ⟨q, given, changed, alike⟩ := runs_restart found runs
  exact refreshed_of_changed tidy valid found changed given alike

/-- One entry of a reconfiguration, whatever comes of it. -/
theorem runs_refresh (uniform : r.Uniform) (tidy : Tidy r h) (valid : entry.Valid r)
    (runs : Runs [.refresh entry timeout] h ok h') : Refreshed r [entry] h ok h' := by
  rcases runs.of_cons with ⟨-, -, never⟩ | ⟨first, mid, ⟨rfl, row⟩, more⟩
  · cases never
  · cases row
    rw [List.append_nil] at more
    unfold System.refreshCommands at more
    cases found : mid.plugins.find? entry.name with
    | none =>
      rw [found] at more
      exact refreshed_of_add tidy valid found more
    | some p =>
      rw [found] at more
      dsimp only at more
      split at more
      · next alike =>
        obtain ⟨rfl, rfl⟩ := more.of_nil
        exact refreshed_of_same uniform tidy valid found alike
      · exact refreshed_of_restart tidy valid found more

/-! ## All plugins -/

variable {entries : List PluginEntry}

theorem Refreshed.cons (first : Refreshed r [entry] h true mid)
    (rest : Refreshed r entries mid ok h') (new : entry.name ∉ entries.map (·.name)) :
    Refreshed r (entry :: entries) h ok h' := by
  have within : entries.map (·.name) ⊆ (entry :: entries).map (·.name) := List.subset_cons_self _ _
  refine ⟨rest.tidy, ?_, fun ended other present => ?_⟩
  · exact (first.beside.mono (List.cons_subset_cons _ (List.nil_subset _))).trans
      (rest.beside.mono within)
  · rcases List.mem_cons.1 present with rfl | later
    · obtain ⟨q, found, alike, runs⟩ := first.brought rfl other List.mem_cons_self
      refine ⟨q, ?_, alike, runs⟩
      rw [rest.beside.plugins other.name new, found]
    · obtain ⟨q, found, alike, runs⟩ := rest.brought ended other later
      have named : other.name ∈ entries.map (·.name) := List.mem_map.2 ⟨other, later, rfl⟩
      have out : other.name ∉ [entry].map (·.name) := by
        intro same
        rw [List.mem_singleton.1 same] at named
        exact new named
      rw [first.beside.plugins other.name out] at runs
      exact ⟨q, found, alike, runs⟩

/-- All entries of a reconfiguration one after the other, whatever comes of it. -/
theorem runs_refreshes (uniform : r.Uniform) (tidy : Tidy r h)
    (valid : ∀ entry ∈ entries, entry.Valid r) (distinct : (entries.map (·.name)).Nodup)
    (runs : Runs (entries.map (Command.refresh · timeout)) h ok h') :
    Refreshed r entries h ok h' := by
  -- The names are distinct, so no later entry touches the plugin of an earlier one.
  induction entries generalizing h with
  | nil =>
    obtain ⟨rfl, rfl⟩ := runs.of_nil
    exact ⟨tidy, .refl _ _, fun _ _ never => by cases never⟩
  | cons entry rest ih =>
    obtain ⟨new, others⟩ := List.nodup_cons.1 distinct
    have validRest : ∀ other ∈ rest, other.Valid r := fun other later =>
      valid other (List.mem_cons_of_mem _ later)
    rcases runs.split_cons with ⟨mid, ran, runs⟩ | ⟨rfl, ran⟩
    · have first := runs_refresh uniform tidy (valid entry List.mem_cons_self) ran
      exact first.cons (ih first.tidy validRest others runs) new
    · have failed := runs_refresh uniform tidy (valid entry List.mem_cons_self) ran
      have within : [entry].map (·.name) ⊆ (entry :: rest).map (·.name) :=
        List.cons_subset_cons _ (List.nil_subset _)
      exact ⟨failed.tidy, failed.beside.mono within, fun never => by cases never⟩

end Holding

end DocStore
