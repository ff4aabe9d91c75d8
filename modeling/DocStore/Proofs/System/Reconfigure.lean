import DocStore.Proofs.Plugin.Validation
import DocStore.Proofs.System.Refresh

/-!
# What a reconfiguration leaves

A reconfiguration takes out the plugins that the next configuration does not name, gives up their
claims, and brings the others in line. It leaves what the next configuration says, but for two
things that it does not look at: a plugin that is held and does not run stays so, and a claim of a
plugin that is neither held nor named next stays.

Results:
  * `runs_reconfigure`: what is held and claimed afterwards, whatever comes of the call;
  * `Reconfigured.converged_iff`: when that is what the next configuration says;
  * `Converged.recoverable`: what one configuration says can be brought to any other.
-/

namespace DocStore

namespace Holding

variable {h mid h' : Holding} {name : String} {names : List String} {ok : Bool} {timeout : Nat}
  {r : Registry} {next : PluginConfig} {g : Group}

/-! ## Plugins that are gone -/

/-- The entries of some names are gone, and the others are there. -/
structure Cleared {α : Type} (names : List String) (d d' : Dict α) : Prop where
  gone : ∀ name ∈ names, d'.find? name = none
  kept : ∀ name, name ∉ names → d'.find? name = d.find? name

theorem Cleared.nil {α : Type} (d : Dict α) : Cleared [] d d :=
  ⟨fun _ never => (by cases never), fun _ _ => rfl⟩

theorem Cleared.erase {α : Type} (d : Dict α) (name : String) : Cleared [name] d (d.erase name) := by
  refine ⟨fun other present => ?_, fun other out => ?_⟩
  · rw [List.mem_singleton.1 present]
    exact Dict.find?_erase_self d name
  · exact Dict.find?_erase_ne d (List.ne_of_not_mem_cons out)

theorem Cleared.cons {α : Type} {d mid d' : Dict α} (first : Cleared [name] d mid)
    (rest : Cleared names mid d') : Cleared (name :: names) d d' := by
  refine ⟨fun other present => ?_, fun other out => ?_⟩
  · by_cases later : other ∈ names
    · exact rest.gone other later
    · rw [rest.kept other later]
      rcases List.mem_cons.1 present with rfl | never
      · exact first.gone other List.mem_cons_self
      · exact absurd never later
  · rw [List.mem_cons, not_or] at out
    rw [rest.kept other out.2]
    exact first.kept other (List.not_mem_cons_of_ne_of_not_mem out.1 List.not_mem_nil)

/-- Taking a plugin out never fails. -/
theorem runs_dismiss (runs : Runs [.dismiss name timeout] h ok h') :
    ok = true ∧ Cleared [name] h.plugins h'.plugins ∧ h'.claims = h.claims := by
  cases found : h.plugins.find? name with
  | none =>
    have idle := runs.of_idle fun next mid does => by
      dsimp only [Does] at does
      rw [found] at does
      exact does
    obtain ⟨rfl, rfl⟩ := idle.of_nil
    refine ⟨rfl, ⟨fun other present => ?_, fun _ _ => rfl⟩, rfl⟩
    rw [List.mem_singleton.1 present, found]
  | some p =>
    rcases runs.of_cons with ⟨-, does⟩ | ⟨first, mid, does, more⟩
    · dsimp only [Does] at does
      rw [found] at does
      obtain ⟨-, never | ⟨ticket, deadline, never⟩⟩ := does
      · cases never
      · cases never
    · dsimp only [Does] at does
      rw [found] at does
      obtain ⟨rfl, comes⟩ := does
      have ended : ok = true ∧ h' = h.drop name := by
        rcases comes with row | ⟨ticket, deadline, row⟩
        · cases row
          exact more.of_nil
        · cases row
          exact (more.of_idle fun _ _ does => does).of_nil
      obtain ⟨rfl, rfl⟩ := ended
      exact ⟨rfl, .erase h.plugins name, rfl⟩

theorem runs_dismisses (runs : Runs (names.map (Command.dismiss · timeout)) h ok h') :
    ok = true ∧ Cleared names h.plugins h'.plugins ∧ h'.claims = h.claims := by
  induction names generalizing h with
  | nil =>
    obtain ⟨rfl, rfl⟩ := runs.of_nil
    exact ⟨rfl, .nil _, rfl⟩
  | cons name rest ih =>
    rcases runs.split_cons with ⟨mid, ran, runs⟩ | ⟨rfl, ran⟩
    · obtain ⟨-, first, same⟩ := runs_dismiss ran
      obtain ⟨rfl, later, same'⟩ := ih runs
      exact ⟨rfl, first.cons later, same'.trans same⟩
    · cases (runs_dismiss ran).1

/-- Giving up claims never fails. -/
theorem runs_releases (runs : Runs (names.map Command.release) h ok h') :
    ok = true ∧ Cleared names h.claims h'.claims ∧ h'.plugins = h.plugins := by
  induction names generalizing h with
  | nil =>
    obtain ⟨rfl, rfl⟩ := runs.of_nil
    exact ⟨rfl, .nil _, rfl⟩
  | cons name rest ih =>
    rcases runs.of_cons with ⟨-, never, -⟩ | ⟨first, mid, ⟨row, rfl⟩, more⟩
    · cases never
    · cases row
      obtain ⟨rfl, later, same⟩ := ih more
      exact ⟨rfl, (Cleared.erase h.claims name).cons later, same⟩

theorem mem_removedBy (same : g.plugins = h.plugins) :
    name ∈ (g.removedBy next).map (·.1) ↔
      h.plugins.find? name ≠ none ∧ next.contains name = false := by
  unfold Group.removedBy
  rw [same, ne_eq, Dict.find?_eq_none_iff, not_not]
  unfold Dict.keys
  constructor
  · intro present
    obtain ⟨entry, kept, rfl⟩ := List.mem_map.1 present
    obtain ⟨held, unnamed⟩ := List.mem_filter.1 kept
    exact ⟨List.mem_map.2 ⟨entry, held, rfl⟩, by simpa using unnamed⟩
  · rintro ⟨held, unnamed⟩
    obtain ⟨entry, present, rfl⟩ := List.mem_map.1 held
    exact List.mem_map.2 ⟨entry, List.mem_filter.2 ⟨present, by simp [unnamed]⟩, rfl⟩

theorem Tidy.of_fewer (tidy : Tidy r h) (fewer : ∀ name p, h'.plugins.find? name = some p →
    h.plugins.find? name = some p ∧ h'.claims.find? name = h.claims.find? name) : Tidy r h' := by
  refine ⟨fun name p found => ?_, fun name p found => ?_⟩
  · exact tidy.fits name p (fewer name p found).1
  · obtain ⟨held, same⟩ := fewer name p found
    rw [same]
    exact tidy.claimed name p held

/-! ## The whole agenda -/

/-- What a reconfiguration that comes to its end has made of a holding. -/
structure Reconfigured (h : Holding) (next : PluginConfig) (h' : Holding) : Prop where
  brought : ∀ name entry, (name, entry) ∈ next → Brought h h' entry
  gone : ∀ name, next.contains name = false → h'.plugins.find? name = none
  released : ∀ name, next.contains name = false → h.plugins.find? name ≠ none →
    h'.claims.find? name = none
  kept : ∀ name, next.contains name = false → h.plugins.find? name = none →
    h'.claims.find? name = h.claims.find? name

/-- Removing what the plugins stored may fail, and changes nothing that is held. -/
theorem runs_removal {none : Bool} {plan : Plan} {rest : List Command}
    (runs : Runs ((if none then [] else [.run plan .nothing]) ++ rest) h ok h') :
    (ok = false ∧ h' = h) ∨ Runs rest h ok h' := by
  cases none with
  | true => exact .inr runs
  | false => exact runs.of_run

/-- The plugins that the next configuration names are held as before, and no others. -/
structure Reduced (next : PluginConfig) (h mid : Holding) : Prop where
  named : ∀ name, next.contains name = true → mid.plugins.find? name = h.plugins.find? name
  gone : ∀ name, next.contains name = false → mid.plugins.find? name = none

theorem reduced_of_cleared (same : g.plugins = h.plugins)
    (cleared : Cleared ((g.removedBy next).map (·.1)) h.plugins mid.plugins) :
    Reduced next h mid := by
  refine ⟨fun name named => cleared.kept name ?_, fun name unnamed => ?_⟩
  · rw [mem_removedBy same, named]
    exact fun never => Bool.noConfusion never.2
  · by_cases held : h.plugins.find? name = none
    · rw [cleared.kept name, held]
      rw [mem_removedBy same]
      exact fun never => never.1 held
    · exact cleared.gone name ((mem_removedBy same).2 ⟨held, unnamed⟩)

theorem Reduced.tidy (reduced : Reduced next h mid) (tidy : Tidy r h)
    (kept : ∀ name, next.contains name = true → mid.claims.find? name = h.claims.find? name) :
    Tidy r mid := by
  refine tidy.of_fewer fun name p found => ?_
  cases named : next.contains name with
  | true =>
    rw [reduced.named name named] at found
    exact ⟨found, kept name named⟩
  | false =>
    rw [reduced.gone name named] at found
    cases found

/-- What the plugins become that are held when the others are gone. -/
theorem Refreshed.reconfigured (sound : next.Sound r) (reduced : Reduced next h mid)
    (cleared : Cleared ((g.removedBy next).map (·.1)) h.claims mid.claims)
    (same : g.plugins = h.plugins) (refreshed : Refreshed r (next.map (·.2)) mid true h') :
    Reconfigured h next h' := by
  have beside := refreshed.beside
  rw [sound.names] at beside
  have out {name : String} (unnamed : next.contains name = false) : name ∉ Dict.keys next :=
    Dict.find?_eq_none_iff.1 (Option.isSome_eq_false_iff.1 unnamed |> Option.isNone_iff_eq_none.1)
  refine ⟨fun name entry present => ?_, fun name unnamed => ?_, fun name unnamed held => ?_,
    fun name unnamed absent => ?_⟩
  · obtain ⟨q, found, alike, runs⟩ := refreshed.brought rfl entry
      (List.mem_map.2 ⟨(name, entry), present, rfl⟩)
    have named : next.contains entry.name = true := by
      unfold Dict.contains
      rw [sound.named name entry present, sound.find?_iff.2 present]
      rfl
    rw [reduced.named entry.name named] at runs
    exact ⟨q, found, alike, runs⟩
  · rw [beside.plugins name (out unnamed)]
    exact reduced.gone name unnamed
  · rw [beside.claims name (out unnamed)]
    exact cleared.gone name ((mem_removedBy same).2 ⟨held, unnamed⟩)
  · rw [beside.claims name (out unnamed), cleared.kept name]
    rw [mem_removedBy same]
    exact fun never => never.1 absent

/-- The agenda of a reconfiguration, part by part. -/
theorem reconfigureAgenda_eq (g : Group) (next : PluginConfig) : g.reconfigureAgenda next =
    ((g.removedBy next).map (·.1)).map (Command.dismiss · g.stopTimeout) ++ (.publish ::
      ((if ((g.removedBy next).map fun (_, p) => p.entry.path).isEmpty then [] else
        [.run (.removeAll ((g.removedBy next).map fun (_, p) => p.entry.path)) .nothing]) ++
      (((g.removedBy next).map (·.1)).map Command.release ++
      ((next.map (·.2)).map (Command.refresh · g.stopTimeout) ++
      [.adopt next, .publish, .settle true, .run (.read Bundle.recordsPath) .checkOverlaps])))) := by
  unfold Group.reconfigureAgenda
  simp only [List.map_map, List.append_assoc, List.cons_append, List.nil_append]
  rfl

/-- What is held and claimed after a reconfiguration, whatever comes of it. -/
theorem runs_reconfigure (uniform : r.Uniform) (tidy : Tidy r h) (sound : next.Sound r)
    (same : g.plugins = h.plugins) (runs : Runs (g.reconfigureAgenda next) h ok h') :
    Tidy r h' ∧ (ok = true → Reconfigured h next h') := by
  rw [reconfigureAgenda_eq] at runs
  rcases runs.split with ⟨taken, ran, runs⟩ | ⟨rfl, ran⟩
  · -- The plugins that are gone leave first; the claims stay until their data is removed.
    obtain ⟨-, cleared, claims⟩ := runs_dismisses ran
    have reduced := reduced_of_cleared same cleared
    have runs := runs.of_idle fun _ _ does => does
    have tidyTaken : Tidy r taken := reduced.tidy tidy fun _ _ => by rw [claims]
    rcases runs_removal runs with ⟨rfl, rfl⟩ | runs
    · exact ⟨tidyTaken, fun never => by cases never⟩
    · -- Then the claims go, and the plugins that stay are brought in line.
      rcases runs.split with ⟨released, ran, runs⟩ | ⟨rfl, ran⟩
      · obtain ⟨-, clearedClaims, plugins⟩ := runs_releases ran
        rw [claims] at clearedClaims
        have reduced : Reduced next h released :=
          ⟨fun name named => by rw [plugins]; exact reduced.named name named,
            fun name unnamed => by rw [plugins]; exact reduced.gone name unnamed⟩
        have tidyReleased : Tidy r released := reduced.tidy tidy fun name named => by
          refine clearedClaims.kept name ?_
          rw [mem_removedBy same, named]
          exact fun never => Bool.noConfusion never.2
        have valid : ∀ entry ∈ next.map (·.2), entry.Valid r := by
          intro entry present
          obtain ⟨⟨name, other⟩, listed, rfl⟩ := List.mem_map.1 present
          exact sound.valid name other listed
        rcases runs.split with ⟨given, ran, runs⟩ | ⟨rfl, ran⟩
        · have refreshed := runs_refreshes uniform tidyReleased valid sound.distinct ran
          cases runs.quiet (by simp [Command.Quiet])
          exact ⟨refreshed.tidy, fun _ => refreshed.reconfigured sound reduced clearedClaims same⟩
        · have refreshed := runs_refreshes uniform tidyReleased valid sound.distinct ran
          exact ⟨refreshed.tidy, fun never => by cases never⟩
      · cases (runs_releases ran).1
  · cases (runs_dismisses ran).1

/-! ## What the next configuration says -/

/-- Every entry of a configuration has a running plugin with that entry, no other plugin is held,
and the claims are the names of the entries with their paths. -/
structure Converged (h : Holding) (next : PluginConfig) : Prop where
  running : ∀ name entry, next.find? name = some entry →
    ∃ p, h.plugins.find? name = some p ∧ p.worker.isSome = true ∧ p.entry.Alike entry
  only : ∀ name p, h.plugins.find? name = some p → next.contains name = true
  claims : ∀ name path, h.claims.find? name = some path ↔
    ∃ entry, next.find? name = some entry ∧ entry.path = path

/-- What a reconfiguration has to find: the plugins that stay run, and nobody has a claim but the
plugins that are held or named next. -/
structure Recoverable (h : Holding) (next : PluginConfig) : Prop where
  running : ∀ name p, h.plugins.find? name = some p → next.contains name = true →
    p.worker.isSome = true
  claims : ∀ name, h.claims.find? name ≠ none →
    h.plugins.find? name ≠ none ∨ next.contains name = true

theorem contains_of_find? {entry : PluginEntry} (found : next.find? name = some entry) :
    next.contains name = true := by
  unfold Dict.contains
  rw [found]
  rfl

theorem exists_of_contains (named : next.contains name = true) :
    ∃ entry, next.find? name = some entry :=
  Option.isSome_iff_exists.1 named

/-- What a configuration says is enough to bring it to any other. -/
theorem Converged.recoverable {config : PluginConfig} (converged : Converged h config)
    (next : PluginConfig) : Recoverable h next := by
  refine ⟨fun name p held _ => ?_, fun name claimed => ?_⟩
  · obtain ⟨entry, found⟩ := exists_of_contains (converged.only name p held)
    obtain ⟨q, held', running, -⟩ := converged.running name entry found
    cases held.symm.trans held'
    exact running
  · obtain ⟨path, owned⟩ := Option.ne_none_iff_exists'.1 claimed
    obtain ⟨entry, found, -⟩ := (converged.claims name path).1 owned
    obtain ⟨q, held, -, -⟩ := converged.running name entry found
    rw [held]
    exact .inl (Option.some_ne_none q)

variable (sound : next.Sound r) (reconfigured : Reconfigured h next h')
include sound reconfigured

/-- An entry comes to a plugin that runs, unless one was held that did not. -/
theorem Reconfigured.running_iff {entry : PluginEntry} (found : next.find? name = some entry) :
    ∃ q, h'.plugins.find? name = some q ∧ q.entry.Alike entry ∧
      (q.worker.isSome = true ↔
        ∀ p, h.plugins.find? name = some p → p.worker.isSome = true) := by
  have present := sound.find?_iff.1 found
  have brought := reconfigured.brought name entry present
  unfold Brought at brought
  rw [sound.named name entry present] at brought
  exact brought

/-- When a reconfiguration leaves what the next configuration says. -/
theorem Reconfigured.converged_iff (tidy : Tidy r h') :
    Converged h' next ↔ Recoverable h next := by
  constructor
  · intro converged
    refine ⟨fun name p held named => ?_, fun name claimed => ?_⟩
    · obtain ⟨entry, found⟩ := exists_of_contains named
      obtain ⟨q, given, -, runs⟩ := reconfigured.running_iff sound found
      obtain ⟨q', given', running, -⟩ := converged.running name entry found
      cases given.symm.trans given'
      exact runs.1 running p held
    · -- A claim that is neither held nor named is one that nobody gives up.
      by_contra neither
      rw [not_or, not_not, Bool.not_eq_true] at neither
      obtain ⟨absent, unnamed⟩ := neither
      obtain ⟨path, before⟩ := Option.ne_none_iff_exists'.1 claimed
      rw [← reconfigured.kept name unnamed absent] at before
      obtain ⟨entry, found, -⟩ := (converged.claims name path).1 before
      rw [contains_of_find? found] at unnamed
      cases unnamed
  · intro recoverable
    have claimed {name : String} {entry : PluginEntry} (found : next.find? name = some entry) :
        h'.claims.find? name = some entry.path := by
      obtain ⟨q, given, alike, -⟩ := reconfigured.running_iff sound found
      rw [tidy.claimed name q given, alike.path]
    refine ⟨fun name entry found => ?_, fun name p held => ?_, fun name path => ?_⟩
    · obtain ⟨q, given, alike, runs⟩ := reconfigured.running_iff sound found
      refine ⟨q, given, runs.2 fun p held => ?_, alike⟩
      exact recoverable.running name p held (contains_of_find? found)
    · by_contra unnamed
      rw [reconfigured.gone name (Bool.not_eq_true _ ▸ unnamed)] at held
      cases held
    · constructor
      · intro owned
        cases named : next.contains name with
        | true =>
          obtain ⟨entry, found⟩ := exists_of_contains named
          rw [claimed found] at owned
          exact ⟨entry, found, Option.some.inj owned⟩
        | false =>
          by_cases absent : h.plugins.find? name = none
          · rw [reconfigured.kept name named absent] at owned
            rcases recoverable.claims name (by rw [owned]; exact Option.some_ne_none _) with
              held | never
            · exact absurd absent held
            · rw [named] at never
              cases never
          · rw [reconfigured.released name named absent] at owned
            cases owned
      · rintro ⟨entry, found, rfl⟩
        exact claimed found

end Holding

end DocStore
