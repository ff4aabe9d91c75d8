import DocStore.Proofs.Plugin.Validation
import DocStore.Proofs.System.Refresh

/-!
# What a start leaves

A start brings up the held plugins one by one and claims their paths. When it comes to its end,
every held plugin runs and its path is claimed. When it fails, the plugins before the one that failed
run already, and no plugin has lost its claim.

Results:
  * `Neat.does`, `runs_neat`: every call holds plugins under the names of their entries;
  * `runs_startAgenda`: what is held and claimed after a start, whatever comes of it.
-/

namespace DocStore

/-- The entries that a command speaks about are validated ones. -/
def Command.Valid (r : Registry) : Command → Prop
  | .add entry | .launch entry _ _ | .refresh entry _ | .assign entry => entry.Valid r
  | _ => True

namespace Holding

variable {h mid h' : Holding} {name : String} {p : Plugin} {ok : Bool} {r : Registry} {g : Group}

/-! ## Names and entries -/

/-- The held plugins are ordered by their names, and every one fits. -/
structure Neat (r : Registry) (h : Holding) : Prop where
  ordered : Dict.Ordered h.plugins
  fits : ∀ name p, h.plugins.find? name = some p → Fits r name p

theorem Neat.hold (neat : Neat r h) (fits : Fits r name p) : Neat r (h.hold name p) := by
  have held := changed_hold h name p
  refine ⟨neat.ordered.insert name p, fun other q found => ?_⟩
  by_cases same : other = name
  · subst same
    cases held.held.symm.trans found
    exact fits
  · rw [held.others other same] at found
    exact neat.fits other q found

theorem Neat.drop (neat : Neat r h) (name : String) : Neat r (h.drop name) := by
  refine ⟨neat.ordered.erase name, fun other q found => ?_⟩
  by_cases same : other = name
  · subst same
    cases (Dict.find?_erase_self h.plugins other).symm.trans found
  · exact neat.fits other q ((Dict.find?_erase_ne h.plugins same).symm.trans found)

/-- The commands that a command comes to speak about validated entries. -/
def ValidNext (r : Registry) (next : Option (List Command)) : Prop :=
  ∀ row, next = some row → ∀ c ∈ row, c.Valid r

theorem validNext_none : ValidNext r none := fun _ never => by cases never

theorem validNext_some {row : List Command} (valid : ∀ c ∈ row, c.Valid r) :
    ValidNext r (some row) := by
  intro row' same
  cases same
  exact valid

theorem validNext_nil : ValidNext r (some []) := validNext_some fun _ never => by cases never

theorem Neat.idle (neat : Neat r h) {next : Option (List Command)} (idle : h.Idle next h') :
    Neat r h' ∧ ValidNext r next := by
  obtain ⟨rfl, rfl⟩ := idle
  exact ⟨neat, validNext_nil⟩

/-- A command that speaks about valid entries keeps the names, and comes to such commands. -/
theorem Neat.does (neat : Neat r h) {c : Command} (valid : c.Valid r)
    {next : Option (List Command)} (does : h.Does c next h') : Neat r h' ∧ ValidNext r next := by
  cases c with
  | start name =>
    dsimp only [Does] at does
    split at does
    · exact neat.idle does
    · next p found =>
      split at does
      · exact neat.idle does
      · obtain ⟨rfl, rfl | ⟨slot, rfl⟩⟩ := does
        · exact ⟨neat, validNext_none⟩
        · refine ⟨neat, validNext_some ?_⟩
          simpa [Command.Valid] using (neat.fits name p found).valid
  | add entry =>
    obtain ⟨rfl, rfl | ⟨state, slot, rfl⟩⟩ := does
    · exact ⟨neat, validNext_none⟩
    · refine ⟨neat, validNext_some ?_⟩
      simpa [Command.Valid] using valid
  | launch entry state slot =>
    obtain ⟨rfl, rfl⟩ | ⟨rfl, ticket, rfl⟩ := does
    · exact ⟨neat, validNext_none⟩
    · exact ⟨neat.hold ⟨rfl, valid⟩, validNext_nil⟩
  | stop name timeout =>
    dsimp only [Does] at does
    split at does
    · exact neat.idle does
    · next p found =>
      split at does
      · exact neat.idle does
      · obtain ⟨rfl, deadline, rfl⟩ := does
        have fits := neat.fits name p found
        refine ⟨neat.hold ⟨fits.named, fits.valid⟩, validNext_some ?_⟩
        simp [Command.Valid]
  | dismiss name timeout =>
    dsimp only [Does] at does
    split at does
    · exact neat.idle does
    · obtain ⟨rfl, rfl | ⟨ticket, deadline, rfl⟩⟩ := does
      · exact ⟨neat.drop name, validNext_nil⟩
      · refine ⟨neat.drop name, validNext_some ?_⟩
        simp [Command.Valid]
  | retire name =>
    dsimp only [Does] at does
    split at does
    · exact neat.idle does
    · next p found =>
      obtain ⟨rfl, rfl⟩ := does
      have fits := neat.fits name p found
      exact ⟨neat.hold ⟨fits.named, fits.valid⟩, validNext_nil⟩
  | refresh entry timeout =>
    obtain ⟨rfl, rfl⟩ := does
    exact ⟨neat, validNext_some (System.forall_refreshCommands (fun _ => valid) trivial valid trivial)⟩
  | assign entry =>
    dsimp only [Does] at does
    split at does
    · exact neat.idle does
    · obtain ⟨rfl, rfl⟩ := does
      exact ⟨neat.hold ⟨rfl, valid⟩, validNext_nil⟩
  | enlist | delist =>
    obtain ⟨rfl, rfl | ⟨plan, followup, rfl⟩⟩ := does
    · exact ⟨neat, validNext_nil⟩
    · refine ⟨neat, validNext_some ?_⟩
      simp [Command.Valid]
  | run plan followup =>
    obtain ⟨rfl, rfl | rfl⟩ := does
    · exact ⟨neat, validNext_none⟩
    · exact ⟨neat, validNext_nil⟩
  | claim name path | release name | releaseAll =>
    obtain ⟨rfl, rfl⟩ := does
    exact ⟨⟨neat.ordered, neat.fits⟩, validNext_nil⟩
  | publish | unpublish | adopt config | settle registered | report status
  | awaitExit ticket deadline => exact neat.idle does

/-- A call that speaks about valid entries keeps the names, however far it comes. -/
theorem runs_neat {agenda : List Command} (runs : Runs agenda h ok h') (neat : Neat r h)
    (valid : ∀ c ∈ agenda, c.Valid r) : Neat r h' := by
  induction runs with
  | done h => exact neat
  | failed fails => exact (neat.does (valid _ List.mem_cons_self) fails).1
  | went does _ ih =>
    obtain ⟨kept, follows⟩ := neat.does (valid _ List.mem_cons_self) does
    refine ih kept fun c present => ?_
    rcases List.mem_append.1 present with first | later
    · exact follows _ rfl c first
    · exact valid c (List.mem_cons_of_mem _ later)

/-! ## Starting -/

/-- What starting the plugins of some names has come to. -/
structure Begun (names : List String) (h : Holding) (ok : Bool) (h' : Holding) : Prop where
  beside : Beside names h h'
  entries : ∀ name,
    (h'.plugins.find? name).map (·.entry) = (h.plugins.find? name).map (·.entry)
  claims : ∀ name, h'.claims.find? name = h.claims.find? name ∨
    ∃ q, h'.plugins.find? name = some q ∧ h'.claims.find? name = some q.entry.path
  running : ok = true → ∀ name ∈ names, ∃ q, h'.plugins.find? name = some q ∧
    q.worker.isSome = true ∧ h'.claims.find? name = some q.entry.path

theorem begun_nil (h : Holding) : Begun [] h true h :=
  ⟨.refl _ _, fun _ => rfl, fun _ => .inl rfl, fun _ _ never => by cases never⟩

/-- One plugin: it runs and its path is claimed, or it stays as it is. -/
theorem runs_begin {path : Path} (found : h.plugins.find? name = some p)
    (named : p.entry.name = name) (located : p.entry.path = path)
    (runs : Runs [.start name, .claim name path] h ok h') : Begun [name] h ok h' := by
  have nothing : Begun [name] h false h :=
    ⟨.refl _ _, fun _ => rfl, fun _ => .inl rfl, fun never => by cases never⟩
  have started : (ok = false ∧ h' = h) ∨ ∃ mid q, q.entry = p.entry ∧
      q.worker.isSome = true ∧ Changed name q h mid ∧ Runs [.claim name path] mid ok h' := by
    cases running : p.worker with
    | none =>
      rcases runs.split_cons with ⟨mid, ran, rest⟩ | ⟨rfl, ran⟩
      · rcases runs_start found running named ran with ⟨never, -⟩ | ⟨-, q, same, runs', changed⟩
        · cases never
        · exact .inr ⟨mid, q, same, runs', changed, rest⟩
      · rcases runs_start found running named ran with ⟨-, same⟩ | ⟨never, -⟩
        · exact .inl ⟨rfl, same⟩
        · cases never
    | some ticket =>
      have runs' : p.worker.isSome = true := by rw [running]; rfl
      rcases runs.split_cons with ⟨mid, ran, rest⟩ | ⟨rfl, ran⟩
      · obtain ⟨-, rfl⟩ := runs_start_running found runs' ran
        exact .inr ⟨mid, p, rfl, runs', .same found, rest⟩
      · cases (runs_start_running found runs' ran).1
  rcases started with ⟨rfl, rfl⟩ | ⟨mid, q, same, running, changed, runs⟩
  · exact nothing
  · rcases runs.of_cons with ⟨-, never, -⟩ | ⟨first, claimed, ⟨row, rfl⟩, more⟩
    · cases never
    · cases row
      obtain ⟨rfl, rfl⟩ := more.of_nil
      have owned : (mid.claim name path).claims.find? name = some q.entry.path := by
        rw [same, located]
        exact Dict.find?_insert_self _ _ _
      have beside : Beside [name] h (mid.claim name path) := by
        refine ⟨changed.beside.plugins, fun other out => ?_⟩
        rw [← changed.beside.claims other out]
        exact Dict.find?_insert_ne _ _ (List.ne_of_not_mem_cons out)
      refine ⟨beside, fun other => ?_, fun other => ?_, fun _ other present => ?_⟩
      · by_cases here : other = name
        · subst here
          rw [found, show (mid.claim other path).plugins.find? other = some q from changed.held,
            Option.map_some, Option.map_some, same]
        · rw [beside.plugins other (List.not_mem_cons_of_ne_of_not_mem here List.not_mem_nil)]
      · by_cases here : other = name
        · subst here
          exact .inr ⟨q, changed.held, owned⟩
        · exact .inl (beside.claims other
            (List.not_mem_cons_of_ne_of_not_mem here List.not_mem_nil))
      · rw [List.mem_singleton.1 present]
        exact ⟨q, changed.held, running, owned⟩

/-- The plugins of a row of names with the paths of their entries. -/
def Listed (h : Holding) (rows : List (String × Path)) : Prop :=
  ∀ name path, (name, path) ∈ rows →
    ∃ p, h.plugins.find? name = some p ∧ p.entry.name = name ∧ p.entry.path = path

theorem Begun.cons {names : List String} (first : Begun [name] h true mid)
    (rest : Begun names mid ok h') (new : name ∉ names) : Begun (name :: names) h ok h' := by
  have stays : h'.plugins.find? name = mid.plugins.find? name ∧
      h'.claims.find? name = mid.claims.find? name :=
    ⟨rest.beside.plugins name new, rest.beside.claims name new⟩
  refine ⟨?_, fun other => (rest.entries other).trans (first.entries other), fun other => ?_,
    fun ended other present => ?_⟩
  · exact (first.beside.mono (List.cons_subset_cons _ (List.nil_subset _))).trans
      (rest.beside.mono (List.subset_cons_self _ _))
  · -- A plugin that was claimed first is held with the same entry after the others.
    rcases rest.claims other with same | claimed
    · rw [same]
      rcases first.claims other with before | ⟨q, found, claimed⟩
      · exact .inl before
      · have kept := rest.entries other
        rw [found, Option.map_some] at kept
        obtain ⟨q', found', entry⟩ := Option.map_eq_some_iff.1 kept
        exact .inr ⟨q', found', by rw [claimed, entry]⟩
    · exact .inr claimed
  · rcases List.mem_cons.1 present with rfl | later
    · obtain ⟨q, found, runs, claimed⟩ := first.running rfl other List.mem_cons_self
      exact ⟨q, stays.1.trans found, runs, stays.2.trans claimed⟩
    · exact rest.running ended other later

theorem Begun.failed {names : List String} (first : Begun [name] h false h') :
    Begun (name :: names) h false h' :=
  ⟨first.beside.mono (List.cons_subset_cons _ (List.nil_subset _)), first.entries, first.claims,
    fun never => by cases never⟩

theorem runs_begins {rows : List (String × Path)} (listed : Listed h rows)
    (distinct : (rows.map (·.1)).Nodup)
    (runs : Runs (rows.flatMap fun (name, path) => [.start name, .claim name path]) h ok h') :
    Begun (rows.map (·.1)) h ok h' := by
  induction rows generalizing h with
  | nil =>
    obtain ⟨rfl, rfl⟩ := runs.of_nil
    exact begun_nil _
  | cons row rest ih =>
    obtain ⟨name, path⟩ := row
    obtain ⟨new, others⟩ := List.nodup_cons.1 distinct
    obtain ⟨p, found, named, located⟩ := listed name path List.mem_cons_self
    rw [List.flatMap_cons] at runs
    rcases runs.split with ⟨mid, ran, runs⟩ | ⟨rfl, ran⟩
    · have first := runs_begin found named located ran
      refine first.cons (ih (fun other path later => ?_) others runs) new
      obtain ⟨q, found', named', located'⟩ := listed other path (List.mem_cons_of_mem _ later)
      have out : other ∉ [name] := by
        rw [List.mem_singleton]
        rintro rfl
        exact new (List.mem_map.2 ⟨_, later, rfl⟩)
      exact ⟨q, (first.beside.plugins other out).trans found', named', located'⟩
    · exact (runs_begin found named located ran).failed

/-- What a start leaves: no plugin has lost its claim, and when it comes to its end every plugin
runs and its path is claimed. -/
structure Started (h : Holding) (ok : Bool) (h' : Holding) : Prop where
  entries : ∀ name,
    (h'.plugins.find? name).map (·.entry) = (h.plugins.find? name).map (·.entry)
  claims : ∀ name, h'.claims.find? name = h.claims.find? name ∨
    ∃ q, h'.plugins.find? name = some q ∧ h'.claims.find? name = some q.entry.path
  running : ok = true → ∀ name q, h'.plugins.find? name = some q →
    q.worker.isSome = true ∧ h'.claims.find? name = some q.entry.path

theorem Begun.started {started : Bool} (begun : Begun h.plugins.keys h started h')
    (all : ok = true → started = true) : Started h ok h' := by
  refine ⟨begun.entries, begun.claims, fun ended name q found => ?_⟩
  have held : name ∈ h.plugins.keys := by
    by_contra absent
    have kept := begun.entries name
    rw [found, Dict.find?_eq_none_iff.2 absent] at kept
    cases kept
  obtain ⟨q', found', runs, claimed⟩ := begun.running (all ended) name held
  cases found.symm.trans found'
  exact ⟨runs, claimed⟩

theorem Started.tidy (begun : Started h ok h') (neat : Neat r h')
    (either : Tidy r h ∨ ok = true) : Tidy r h' := by
  refine ⟨neat.fits, fun name q found => ?_⟩
  -- A start that fails has given claims to some plugins, and the others have kept theirs.
  rcases either with tidy | ended
  · rcases begun.claims name with same | ⟨q', found', claimed⟩
    · have kept := begun.entries name
      rw [found, Option.map_some] at kept
      obtain ⟨p, held, entry⟩ := Option.map_eq_some_iff.1 kept.symm
      rw [same, tidy.claimed name p held, entry]
    · cases found.symm.trans found'
      exact claimed
  · exact (begun.running ended name q found).2

/-- The agenda of a start, by the names and the paths of the held plugins. -/
theorem startAgenda_eq (same : g.plugins = h.plugins) : g.startAgenda =
    ((h.plugins.map fun (name, p) => (name, p.entry.path)).flatMap fun (name, path) =>
      [.start name, .claim name path]) ++
    [.publish, .enlist, .settle false, .run (.read Bundle.recordsPath) .checkOverlaps] := by
  unfold Group.startAgenda
  rw [same, List.flatMap_map]

theorem listed_plugins (neat : Neat r h) :
    Listed h (h.plugins.map fun (name, p) => (name, p.entry.path)) := by
  intro name path present
  obtain ⟨⟨key, p⟩, held, row⟩ := List.mem_map.1 present
  cases row
  have found := neat.ordered.find?_of_mem held
  exact ⟨p, found, (neat.fits _ p found).named, rfl⟩

theorem keys_plugins (h : Holding) :
    (h.plugins.map fun (name, p) => (name, p.entry.path)).map (·.1) = h.plugins.keys := by
  rw [List.map_map]
  rfl

/-- What is held and claimed after a start, whatever comes of it. -/
theorem runs_startAgenda (neat : Neat r h) (same : g.plugins = h.plugins)
    (runs : Runs g.startAgenda h ok h') : Started h ok h' := by
  have listed := listed_plugins neat
  have distinct := neat.ordered.keys_nodup
  rw [← keys_plugins] at distinct
  rw [startAgenda_eq same] at runs
  rcases runs.split with ⟨mid, ran, runs⟩ | ⟨rfl, ran⟩
  · have begun := runs_begins listed distinct ran
    rw [keys_plugins] at begun
    have closed : h' = mid := runs.quiet (by simp [Command.Quiet])
    rw [closed]
    exact begun.started fun _ => rfl
  · have begun := runs_begins listed distinct ran
    rw [keys_plugins] at begun
    exact begun.started fun ended => ended

end Holding

end DocStore
