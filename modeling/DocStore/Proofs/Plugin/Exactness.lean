import DocStore.Proofs.Plugin.Validation
import DocStore.Proofs.Tree.Patch

/-!
# What validation accepts, and what it reports

Entries are looked at in the order of their names, and each path is held against those accepted so far.
As the order of names does not put a place next to what is below it, it has to be seen that nothing is
missed: at every moment the accepted entries are just those before, as they were written.

So a configuration is accepted exactly when each entry is valid by itself and no two paths overlap. Else
the error is that of the least name with which something is wrong, given the names before it.

Results:
  * `faulty_unique`: at most one thing is wrong with an entry;
  * `validateFrom_step`: what one entry comes to;
  * `validateFrom_result`: what a row of entries comes to;
  * `validation_exact`: when a configuration is accepted, what it then is, and what is reported else.
-/

namespace DocStore.PluginConfig

variable {r : Registry} {names : List String} {name : String} {raw : Value} {path : Path}

/-! ## Faults -/

/-- No name before another one stands for a path that overlaps the given one. -/
def Free (names : List String) (name : String) (path : Path) : Prop :=
  ∀ other ∈ names, other < name → ∀ q, Path.ofDotted other = .ok q → q.overlaps path = false

/-- What is wrong with an entry, given the names before its own. -/
inductive Faulty (r : Registry) (names : List String) (name : String) (raw : Value) :
    PluginError → Prop
  /-- The name stands for no path. -/
  | path {e : PathError} (fault : Path.ofDotted name = .error e) :
      Faulty r names name raw (.invalidEntry name (.path e))
  /-- Its path overlaps another one; of the names before, the least such name counts. -/
  | overlap {path q : Path} {first : String} (located : Path.ofDotted name = .ok path)
      (present : first ∈ names) (before : first < name) (other : Path.ofDotted first = .ok q)
      (overlaps : q.overlaps path = true) (least : Free names first path) :
      Faulty r names name raw (.pathOverlap first name)
  /-- The entry itself is not valid. -/
  | entry {path : Path} {e : PluginError} (located : Path.ofDotted name = .ok path)
      (free : Free names name path) (fault : validateEntry r name path raw = .error e) :
      Faulty r names name raw e

/-- At most one thing is wrong with an entry. -/
theorem faulty_unique {e e' : PluginError} (h : Faulty r names name raw e)
    (h' : Faulty r names name raw e') : e = e' := by
  cases h with
  | path fault =>
    cases h' with
    | path fault' => cases fault.symm.trans fault'; rfl
    | overlap located' | entry located' => cases fault.symm.trans located'
  | @overlap path q first located present before other overlaps least =>
    cases h' with
    | path fault' => cases located.symm.trans fault'
    | @overlap path' q' first' located' present' before' other' overlaps' least' =>
      cases located.symm.trans located'
      -- Each of the two least names would have been passed over by the other one.
      have notBelow : ¬ first < first' := fun below => by
        rw [least' first present below q other] at overlaps
        cases overlaps
      have notAbove : ¬ first' < first := fun below => by
        rw [least first' present' below q' other'] at overlaps'
        cases overlaps'
      rw [String.le_antisymm (String.not_lt.1 notAbove) (String.not_lt.1 notBelow)]
    | entry located' free' =>
      cases located.symm.trans located'
      rw [free' first present before q other] at overlaps
      cases overlaps
  | entry located free fault =>
    cases h' with
    | path fault' => cases located.symm.trans fault'
    | overlap located' present' before' other' overlaps' =>
      cases located.symm.trans located'
      rw [free _ present' before' _ other'] at overlaps'
      cases overlaps'
    | entry located' _ fault' =>
      cases located.symm.trans located'
      exact Except.error.inj (fault.symm.trans fault')

/-- Nothing is wrong with a valid entry whose path is free. -/
theorem not_faulty {entry : PluginEntry} (located : Path.ofDotted name = .ok path)
    (free : Free names name path) (ok : validateEntry r name path raw = .ok entry)
    (e : PluginError) : ¬ Faulty r names name raw e := by
  intro faulty
  cases faulty with
  | path fault => cases located.symm.trans fault
  | overlap located' present before other overlaps =>
    cases located.symm.trans located'
    rw [free _ present before _ other] at overlaps
    cases overlaps
  | entry located' _ fault =>
    cases located.symm.trans located'
    cases ok.symm.trans fault

theorem Spread.free (spread : Spread names) (isName : name ∈ names)
    (located : Path.ofDotted name = .ok path) : Free names name path := by
  intro other present before q elsewhere
  refine spread other present name isName (fun same => ?_) q path elsewhere located
  rw [same] at before
  exact String.lt_irrefl name before

/-- Only the set of names counts. -/
theorem Faulty.congr {others : List String} {e : PluginError}
    (same : ∀ other, other ∈ names ↔ other ∈ others) (h : Faulty r names name raw e) :
    Faulty r others name raw e := by
  have free {n : String} {p : Path} (free : Free names n p) : Free others n p :=
    fun other present => free other ((same other).2 present)
  cases h with
  | path fault => exact .path fault
  | overlap located present before other overlaps least =>
    exact .overlap located ((same _).1 present) before other overlaps (free least)
  | entry located isFree fault => exact .entry located (free isFree) fault

/-! ## A row of entries -/

/-- The entries that were accepted are those that were seen, as they were written. -/
structure Accepted (r : Registry) (seen : List (String × Value)) (accepted : PluginConfig) :
    Prop where
  sound : Sound r accepted
  spread : Spread accepted.keys
  written : accepted.map (fun entry => (entry.1, entry.2.raw)) = seen

namespace Accepted

variable {seen rest : List (String × Value)} {accepted : PluginConfig}

theorem nil : Accepted r [] [] where
  sound := ⟨List.Pairwise.nil, fun _ _ never => (by cases never), fun _ _ never => (by cases never)⟩
  spread := fun _ never => (by cases never)
  written := rfl

theorem keys_eq (h : Accepted r seen accepted) : accepted.keys = seen.map (·.1) := by
  rw [← h.written, List.map_map]
  rfl

/-- The path of an accepted entry is that of its name. -/
theorem located (h : Accepted r seen accepted) {entry : PluginEntry}
    (present : (name, entry) ∈ accepted) : Path.ofDotted name = .ok entry.path := by
  have path := (h.sound.valid name entry present).path
  rwa [h.sound.named name entry present] at path

theorem exists_of_mem (h : Accepted r seen accepted) {other : String}
    (present : other ∈ seen.map (·.1)) : ∃ entry, (other, entry) ∈ accepted := by
  rw [← h.keys_eq] at present
  obtain ⟨⟨_, entry⟩, isEntry, rfl⟩ := List.mem_map.1 present
  exact ⟨entry, isEntry⟩

/-- What was seen has been accepted, as a valid entry by itself. -/
theorem valid (h : Accepted r seen accepted) (present : (name, raw) ∈ seen) :
    ∃ entry, (name, entry) ∈ accepted ∧ Path.ofDotted name = .ok entry.path ∧
      validateEntry r name entry.path raw = .ok entry := by
  rw [← h.written] at present
  obtain ⟨⟨_, entry⟩, isEntry, same⟩ := List.mem_map.1 present
  cases same
  have fields := (h.sound.valid _ entry isEntry).fields
  rw [h.sound.named _ entry isEntry] at fields
  exact ⟨entry, isEntry, h.located isEntry, fields⟩

/-- What is found first among the accepted entries has the least name. -/
theorem least (h : Accepted r seen accepted)
    (before : ∀ other, other ∈ seen.map (·.1) ↔ other ∈ names ∧ other < name) {first : String}
    {entry : PluginEntry}
    (found : List.find? (fun other => other.2.path.overlaps path) accepted = some (first, entry)) :
    Free names first path := by
  obtain ⟨-, early, late, split, passed⟩ := List.find?_eq_some_iff_append.1 found
  have isFirst : (first, entry) ∈ accepted := List.mem_of_find?_eq_some found
  have firstBefore : first < name :=
    ((before first).1 (h.keys_eq ▸ List.mem_map_of_mem isFirst)).2
  intro other present below q located
  obtain ⟨e, isEntry⟩ :=
    h.exists_of_mem ((before other).2 ⟨present, String.lt_trans below firstBefore⟩)
  cases (h.located isEntry).symm.trans located
  have ordered := h.sound.ordered
  rw [Dict.Ordered, split, List.pairwise_append, List.pairwise_cons] at ordered
  rw [split] at isEntry
  rcases List.mem_append.1 isEntry with isEarly | isLate
  · simpa using passed _ isEarly
  · rcases List.mem_cons.1 isLate with same | isLate
    · cases same
      exact absurd below (String.lt_irrefl _)
    · exact absurd (String.lt_trans below (ordered.2.1.1 _ isLate)) (String.lt_irrefl _)

/-- One more entry, with the greatest name so far. -/
theorem concat (h : Accepted r seen accepted) (above : ∀ other ∈ seen.map (·.1), other < name)
    {entry : PluginEntry} (located : Path.ofDotted name = .ok path)
    (free : List.find? (fun other => other.2.path.overlaps path) accepted = none)
    (ok : validateEntry r name path raw = .ok entry) :
    Accepted r (seen ++ [(name, raw)]) (accepted.insert name entry) := by
  obtain ⟨named, valid⟩ := valid_of_validateEntry located ok
  have written : entry.raw = raw := raw_of_validateEntry ok
  refine ⟨h.sound.insert named valid, h.spread.insert located fun other mem q elsewhere => ?_, ?_⟩
  · obtain ⟨e, isEntry⟩ := h.exists_of_mem (h.keys_eq ▸ mem)
    cases (h.located isEntry).symm.trans elsewhere
    simpa using List.find?_eq_none.1 free (other, e) isEntry
  · rw [Dict.insert_of_above, List.map_append, h.written, ← written]
    · rfl
    · exact fun other isEntry => above _ (h.keys_eq ▸ List.mem_map_of_mem isEntry)

end Accepted

/-- What one entry comes to, after those with the names before its own: a fault of it is the result,
and else it is accepted. -/
theorem validateFrom_step {seen : List (String × Value)} {accepted : PluginConfig}
    (h : Accepted r seen accepted)
    (before : ∀ other, other ∈ seen.map (·.1) ↔ other ∈ names ∧ other < name) (raw : Value)
    (rest : List (String × Value)) :
    (∃ e, Faulty r names name raw e ∧ validateFrom r accepted ((name, raw) :: rest) = .error e) ∨
      ((∀ e, ¬ Faulty r names name raw e) ∧
        ∃ more, Accepted r (seen ++ [(name, raw)]) more ∧
          validateFrom r accepted ((name, raw) :: rest) = validateFrom r more rest) := by
  rw [validateFrom]
  cases located : Path.ofDotted name with
  | error e => exact .inl ⟨_, .path located, rfl⟩
  | ok path =>
    cases clash : List.find? (fun other => other.2.path.overlaps path) accepted with
    | some found =>
      obtain ⟨first, entry⟩ := found
      have isEntry := List.mem_of_find?_eq_some clash
      obtain ⟨present, below⟩ := (before first).1 (h.keys_eq ▸ List.mem_map_of_mem isEntry)
      have overlaps : entry.path.overlaps path = true := by simpa using List.find?_some clash
      exact .inl ⟨_, .overlap located present below (h.located isEntry) overlaps
        (h.least before clash), by simp only [clash]⟩
    | none =>
      have free : Free names name path := by
        intro other present below q elsewhere
        obtain ⟨e, isEntry⟩ := h.exists_of_mem ((before other).2 ⟨present, below⟩)
        cases (h.located isEntry).symm.trans elsewhere
        simpa using List.find?_eq_none.1 clash (other, e) isEntry
      cases checked : validateEntry r name path raw with
      | error e => exact .inl ⟨e, .entry located free checked, by simp only [clash, checked]⟩
      | ok entry =>
        refine .inr ⟨not_faulty located free checked, accepted.insert name entry, ?_,
          by simp only [clash, checked]⟩
        exact h.concat (fun other present => ((before other).1 present).2) located clash checked

/-- The names before one of a row are those of the entries before it. -/
theorem mem_names_before {seen rest : List (String × Value)}
    (ordered : Dict.Ordered (seen ++ (name, raw) :: rest)) (other : String) :
    other ∈ seen.map (·.1) ↔
      other ∈ (seen ++ (name, raw) :: rest).map (·.1) ∧ other < name := by
  rw [Dict.Ordered, List.pairwise_append, List.pairwise_cons] at ordered
  obtain ⟨-, ⟨late, -⟩, early⟩ := ordered
  rw [List.map_append, List.map_cons, List.mem_append, List.mem_cons]
  constructor
  · intro present
    obtain ⟨entry, isEntry, rfl⟩ := List.mem_map.1 present
    exact ⟨.inl present, early entry isEntry _ List.mem_cons_self⟩
  · rintro ⟨present | rfl | present, below⟩
    · exact present
    · exact absurd below (String.lt_irrefl _)
    · obtain ⟨entry, isEntry, rfl⟩ := List.mem_map.1 present
      exact absurd (String.lt_trans below (late entry isEntry)) (String.lt_irrefl _)

/-- What a row of entries comes to: the fault of the first that has one, and else all are accepted. -/
theorem validateFrom_result {seen rest : List (String × Value)} {accepted : PluginConfig}
    (h : Accepted r seen accepted) (ordered : Dict.Ordered (seen ++ rest))
    (all : names = (seen ++ rest).map (·.1)) :
    (∃ config, validateFrom r accepted rest = .ok config ∧ Accepted r (seen ++ rest) config) ∨
      ∃ name raw e, (name, raw) ∈ rest ∧ Faulty r names name raw e ∧
        validateFrom r accepted rest = .error e ∧
        ∀ other raw' e', (other, raw') ∈ rest → other < name → ¬ Faulty r names other raw' e' := by
  induction rest generalizing seen accepted with
  | nil => exact .inl ⟨accepted, rfl, (List.append_nil seen).symm ▸ h⟩
  | cons head rest ih =>
    obtain ⟨name, raw⟩ := head
    have before := all ▸ mem_names_before ordered
    have later : ∀ entry ∈ rest, name < entry.1 :=
      (List.pairwise_cons.1 (List.pairwise_append.1 ordered).2.1).1
    obtain ⟨e, faulty, failed⟩ | ⟨clean, more, accepts, goesOn⟩ :=
      validateFrom_step h before raw rest
    · refine .inr ⟨name, raw, e, List.mem_cons_self, faulty, failed, ?_⟩
      intro other raw' e' present below
      rcases List.mem_cons.1 present with same | isLater
      · cases same
        exact absurd below (String.lt_irrefl _)
      · exact absurd (String.lt_trans below (later _ isLater)) (String.lt_irrefl _)
    · have row : seen ++ (name, raw) :: rest = seen ++ [(name, raw)] ++ rest := by simp
      rw [goesOn, row]
      rw [row] at ordered all
      obtain done | ⟨other, raw', e, present, faulty, failed, least⟩ := ih accepts ordered all
      · exact .inl done
      · refine .inr ⟨other, raw', e, List.mem_cons_of_mem _ present, faulty, failed, ?_⟩
        intro another raw'' e' isEntry below
        rcases List.mem_cons.1 isEntry with same | isLater
        · cases same
          exact clean e'
        · exact least another raw'' e' isLater below

/-! ## Configurations -/

/-- The interval is the default one of the kind, or a given one that is not below the least. -/
def Paced (r : Registry) (entry : PluginEntry) : Prop :=
  ∃ fields kind, entry.raw = .object fields ∧ Dict.find? r entry.kind = some kind ∧
    ((Dict.find? fields "polling_interval" = none ∧ entry.interval = kind.defaultInterval) ∨
      ∃ given, Dict.find? fields "polling_interval" = some given ∧
        Duration.ofValue given = .ok entry.interval ∧
        kind.leastInterval.toNanos ≤ entry.interval.toNanos)

theorem paced_of_validateEntry {entry : PluginEntry}
    (ok : validateEntry r name path raw = .ok entry) : Paced r entry := by
  unfold validateEntry at ok
  cases raw with
  | object fields =>
    obtain ⟨⟨kind, source⟩, kinded, ok⟩ := bind_ok ok
    obtain ⟨interval, timed, ok⟩ := bind_ok ok
    obtain ⟨rule, -, ok⟩ := bind_ok ok
    obtain ⟨config, -, ok⟩ := bind_ok ok
    cases ok
    refine ⟨fields, source, rfl, readKind_ok kinded, ?_⟩
    have read := mapError_ok timed
    unfold readInterval at read
    split at read
    · next absent => exact .inl ⟨absent, (Except.ok.inj read).symm⟩
    · next given found =>
      split at read
      · cases read
      · next d reads =>
        split at read
        · cases read
        · next enough =>
          cases read
          refine .inr ⟨given, found, reads, ?_⟩
          simpa [Duration.below] using enough
  | null | bool _ | int _ | float _ | string _ | array _ => cases ok

/-- A configuration that was made of entries. -/
structure Describes (r : Registry) (entries : List (String × Value)) (config : PluginConfig) :
    Prop where
  /-- The names are the given ones, in ascending order. -/
  ordered : Dict.Ordered config
  names : ∀ name, name ∈ config.keys ↔ name ∈ entries.map (·.1)
  /-- Each entry has the path of its name, and is what was written under the name. -/
  entry : ∀ name entry, (name, entry) ∈ config → Path.ofDotted name = .ok entry.path ∧
    ∃ raw, (name, raw) ∈ entries ∧ validateEntry r name entry.path raw = .ok entry
  interval : ∀ name entry, (name, entry) ∈ config → Paced r entry
  /-- No place has two owners. -/
  owner : ∀ a ∈ config, ∀ b ∈ config, ∀ q : Path,
    q.hasPrefix a.2.path = true → q.hasPrefix b.2.path = true → a = b

/-- The accepted entries make a configuration, whatever the order in which they were listed. -/
theorem describes_of_accepted {entries row : List (String × Value)} {config : PluginConfig}
    (mem : ∀ entry, entry ∈ row ↔ entry ∈ entries) (h : Accepted r row config) :
    Describes r entries config where
  ordered := h.sound.ordered
  names := by
    intro name
    rw [h.keys_eq]
    simp only [List.mem_map, mem]
  entry := by
    intro name entry present
    have valid := (h.sound.valid name entry present).fields
    rw [h.sound.named name entry present] at valid
    refine ⟨h.located present, entry.raw, (mem _).1 ?_, valid⟩
    rw [← h.written]
    exact List.mem_map.2 ⟨_, present, rfl⟩
  interval := fun name entry present =>
    paced_of_validateEntry (h.sound.valid name entry present).fields
  owner := by
    rintro ⟨a, entryA⟩ memA ⟨b, entryB⟩ memB q ownedA ownedB
    by_cases same : a = b
    · subst same
      have one := (h.sound.ordered.find?_of_mem memA).symm.trans (h.sound.ordered.find?_of_mem memB)
      rw [Option.some.inj one]
    · have clash := Path.overlaps_of_above ownedA ownedB
      rw [h.spread a (List.mem_map_of_mem memA) b (List.mem_map_of_mem memB) same _ _
        (h.located memA) (h.located memB)] at clash
      cases clash

/-- The result over the entries in the order of their names, said of the entries as they were
listed. -/
theorem validate_result {entries : List (String × Value)}
    (mem : ∀ entry, entry ∈ Dict.ofEntries entries ↔ entry ∈ entries) :
    (∃ config, validate r (.object entries) = .ok config ∧
        Accepted r (Dict.ofEntries entries) config) ∨
      ∃ name raw e, (name, raw) ∈ entries ∧ Faulty r (entries.map (·.1)) name raw e ∧
        validate r (.object entries) = .error e ∧
        ∀ other raw' e', (other, raw') ∈ entries → other < name →
          ¬ Faulty r (entries.map (·.1)) other raw' e' := by
  have names (other : String) :
      other ∈ (Dict.ofEntries entries).map (·.1) ↔ other ∈ entries.map (·.1) := by
    simp only [List.mem_map, mem]
  refine (validateFrom_result .nil (Dict.ordered_ofEntries entries) rfl).imp_right ?_
  rintro ⟨name, raw, e, present, faulty, failed, least⟩
  refine ⟨name, raw, e, (mem _).1 present, faulty.congr names, failed, ?_⟩
  exact fun other raw' e' isEntry below found =>
    least other raw' e' ((mem _).2 isEntry) below (found.congr fun other => (names other).symm)

/-- What validation makes of the entries of a configuration. -/
structure Exact (r : Registry) (entries : List (String × Value)) : Prop where
  accepts : (∃ config, validate r (.object entries) = .ok config) ↔
    Spread (entries.map (·.1)) ∧ ∀ name raw, (name, raw) ∈ entries →
      ∃ path entry, Path.ofDotted name = .ok path ∧ validateEntry r name path raw = .ok entry
  describes : ∀ config, validate r (.object entries) = .ok config → Describes r entries config
  /-- Of the faulty entries the one with the least name is reported. -/
  refuses : ∀ e, validate r (.object entries) = .error e ↔
    ∃ name raw, (name, raw) ∈ entries ∧ Faulty r (entries.map (·.1)) name raw e ∧
      ∀ other raw' e', (other, raw') ∈ entries → other < name →
        ¬ Faulty r (entries.map (·.1)) other raw' e'
  unordered : ∀ others, entries.Perm others →
    validate r (.object others) = validate r (.object entries)

/-- Exactly the configurations of valid entries without overlaps are accepted, and they are then as
written; else the least faulty entry is reported. The order in which the entries are listed does not
matter. -/
theorem validation_exact (r : Registry) {entries : List (String × Value)}
    (distinct : (entries.map (·.1)).Nodup) : Exact r entries := by
  have mem (entry : String × Value) : entry ∈ Dict.ofEntries entries ↔ entry ∈ entries :=
    Dict.mem_ofEntries_iff distinct
  have result := validate_result (r := r) mem
  have good {config : PluginConfig} (ok : validate r (.object entries) = .ok config) :
      Accepted r (Dict.ofEntries entries) config := by
    obtain ⟨same, done, accepts⟩ | ⟨_, _, e, _, _, failed, _⟩ := result
    · cases ok.symm.trans done
      exact accepts
    · cases ok.symm.trans failed
  have spread {config : PluginConfig} (h : Accepted r (Dict.ofEntries entries) config) :
      Spread (entries.map (·.1)) := by
    have names := (describes_of_accepted mem h).names
    exact fun a memA b memB => h.spread a ((names a).2 memA) b ((names b).2 memB)
  constructor
  case accepts =>
    constructor
    · rintro ⟨config, ok⟩
      refine ⟨spread (good ok), fun name raw present => ?_⟩
      obtain ⟨entry, -, located, valid⟩ := (good ok).valid ((mem _).2 present)
      exact ⟨entry.path, entry, located, valid⟩
    · rintro ⟨spread, valid⟩
      obtain ⟨config, done, -⟩ | ⟨name, raw, e, present, faulty, -⟩ := result
      · exact ⟨config, done⟩
      · obtain ⟨path, entry, located, ok⟩ := valid name raw present
        have free := spread.free (List.mem_map_of_mem present) located
        exact absurd faulty (not_faulty located free ok e)
  case describes => exact fun config ok => describes_of_accepted mem (good ok)
  case refuses =>
    intro e
    constructor
    · intro failed
      obtain ⟨config, done, -⟩ | ⟨name, raw, e', present, faulty, failed', least⟩ := result
      · cases failed.symm.trans done
      · cases failed.symm.trans failed'
        exact ⟨name, raw, present, faulty, least⟩
    · rintro ⟨name, raw, present, faulty, least⟩
      obtain ⟨config, done, h⟩ | ⟨other, raw', e', present', faulty', failed, least'⟩ := result
      · obtain ⟨entry, -, located, valid⟩ := h.valid ((mem _).2 present)
        have free := (spread h).free (List.mem_map_of_mem present) located
        exact absurd faulty (not_faulty located free valid e)
      · -- Two least faulty entries have one name, and so they are the same.
        have name_eq : name = other := String.le_antisymm
          (String.not_lt.1 fun below => least other raw' e' present' below faulty')
          (String.not_lt.1 fun below => least' name raw e present below faulty)
        subst name_eq
        have ordered := Dict.ordered_ofEntries entries
        have raw_eq := (ordered.find?_of_mem ((mem _).2 present)).symm.trans
          (ordered.find?_of_mem ((mem _).2 present'))
        cases raw_eq
        rw [failed, faulty_unique faulty faulty']
  case unordered =>
    intro others perm
    show validateFrom r [] (Dict.ofEntries others) = validateFrom r [] (Dict.ofEntries entries)
    rw [Dict.ofEntries_perm distinct perm]

/-- A file at each of these places. -/
def filesAt (names : List String) : List (String × Value) :=
  names.map fun name => (name, .object [("path", .string "/f.json"), ("type", .string "file")])

/-- A place and one below it, with another name between them in the order of names. -/
theorem validation_of_clash :
    ((filesAt ["a.b", "a-b", "a"]).map (·.1)).Nodup ∧
      Exact .builtin (filesAt ["a.b", "a-b", "a"]) ∧
      validate .builtin (.object (filesAt ["a.b", "a-b", "a"])) = .error (.pathOverlap "a" "a.b") :=
  ⟨by decide, validation_exact .builtin (by decide), by decide +kernel⟩

end DocStore.PluginConfig
