import DocStore.Proofs.Dict
import DocStore.Proofs.Plugin.Alike

/-!
# Validated configurations

Every entry of a validated configuration stands under its own name, its path is the one that the
name stands for, and it is a valid entry by itself.

Results:
  * `PluginConfig.sound_of_validate`: what validation accepts is such a configuration;
  * `PluginConfig.spread_of_validate`: and the paths of its plugins do not overlap.
-/

namespace DocStore.PluginConfig

variable {r : Registry} {name : String} {entry : PluginEntry} {config : PluginConfig}

/-- The names ascend, and every entry is a valid one that stands under its name. -/
structure Sound (r : Registry) (config : PluginConfig) : Prop where
  ordered : Dict.Ordered config
  named : ∀ name entry, (name, entry) ∈ config → entry.name = name
  valid : ∀ name entry, (name, entry) ∈ config → entry.Valid r

theorem valid_of_validateEntry {path : Path} {raw : Value} (located : Path.ofDotted name = .ok path)
    (ok : validateEntry r name path raw = .ok entry) : entry.name = name ∧ entry.Valid r := by
  have written := ok
  unfold validateEntry at ok
  cases raw with
  | object fields =>
    obtain ⟨⟨kind, source⟩, -, ok⟩ := bind_ok ok
    obtain ⟨interval, -, ok⟩ := bind_ok ok
    obtain ⟨rule, -, ok⟩ := bind_ok ok
    obtain ⟨config, -, ok⟩ := bind_ok ok
    cases ok
    exact ⟨rfl, located, written⟩
  | null | bool _ | int _ | float _ | string _ | array _ => cases ok

/-- An entry keeps what was written. -/
theorem raw_of_validateEntry {path : Path} {raw : Value}
    (ok : validateEntry r name path raw = .ok entry) : entry.raw = raw := by
  unfold validateEntry at ok
  cases raw with
  | object fields =>
    obtain ⟨_, -, ok⟩ := bind_ok ok
    obtain ⟨_, -, ok⟩ := bind_ok ok
    obtain ⟨_, -, ok⟩ := bind_ok ok
    obtain ⟨_, -, ok⟩ := bind_ok ok
    cases ok
    rfl
  | null | bool _ | int _ | float _ | string _ | array _ => cases ok

theorem Sound.insert (sound : Sound r config) (named : entry.name = name) (valid : entry.Valid r) :
    Sound r (config.insert name entry) := by
  refine ⟨sound.ordered.insert name entry, fun other e present => ?_, fun other e present => ?_⟩
  · rcases Dict.mem_insert present with same | before
    · cases same
      exact named
    · exact sound.named other e before
  · rcases Dict.mem_insert present with same | before
    · cases same
      exact valid
    · exact sound.valid other e before

theorem sound_of_validateFrom {entries : List (String × Value)} {accepted : PluginConfig}
    (sound : Sound r accepted) (ok : validateFrom r accepted entries = .ok config) :
    Sound r config := by
  induction entries generalizing accepted with
  | nil =>
    cases ok
    exact sound
  | cons head rest ih =>
    obtain ⟨name, raw⟩ := head
    unfold validateFrom at ok
    split at ok
    · cases ok
    · next path located =>
      split at ok
      · cases ok
      · split at ok
        · cases ok
        · next entry accepts =>
          obtain ⟨named, valid⟩ := valid_of_validateEntry located accepts
          exact ih (sound.insert named valid) ok

/-- What validation accepts is a sound configuration. -/
theorem sound_of_validate {raw : Value} (ok : validate r raw = .ok config) : Sound r config := by
  have nothing : Sound r [] :=
    ⟨List.Pairwise.nil, fun _ _ never => (by cases never), fun _ _ never => (by cases never)⟩
  unfold validate at ok
  split at ok
  · cases ok
    exact nothing
  · exact sound_of_validateFrom nothing ok
  · cases ok

namespace Sound

variable (sound : Sound r config)
include sound

theorem find?_iff : config.find? name = some entry ↔ (name, entry) ∈ config :=
  ⟨Dict.mem_of_find?, sound.ordered.find?_of_mem⟩

/-- The names of the entries are the keys. -/
theorem names : (config.map (·.2)).map (·.name) = config.keys := by
  rw [List.map_map]
  exact List.map_congr_left fun entry present => sound.named entry.1 entry.2 present

theorem distinct : ((config.map (·.2)).map (·.name)).Nodup := by
  rw [sound.names]
  exact sound.ordered.keys_nodup

end Sound

/-! ## Places -/

/-- The paths that different names stand for do not overlap. -/
def Spread (names : List String) : Prop :=
  ∀ a ∈ names, ∀ b ∈ names, a ≠ b → ∀ p q, Path.ofDotted a = .ok p → Path.ofDotted b = .ok q →
    p.overlaps q = false

/-- One more name, whose path overlaps none of the others. -/
theorem Spread.insert {path : Path} (spread : Spread config.keys) (located : Path.ofDotted name = .ok path)
    (apart : ∀ other ∈ config.keys, ∀ q, Path.ofDotted other = .ok q → q.overlaps path = false) :
    Spread (config.insert name entry).keys := by
  have either {other : String} (mem : other ∈ (config.insert name entry).keys) :
      other = name ∨ other ∈ config.keys := by
    obtain ⟨⟨_, e⟩, present, rfl⟩ := List.mem_map.1 mem
    rcases Dict.mem_insert present with same | before
    · cases same
      exact .inl rfl
    · exact .inr (List.mem_map_of_mem before)
  intro a memA b memB ne p q locatedA locatedB
  rcases either memA with rfl | oldA
  · rcases either memB with rfl | oldB
    · exact absurd rfl ne
    · cases located.symm.trans locatedA
      rw [Path.overlaps_comm]
      exact apart b oldB q locatedB
  · rcases either memB with rfl | oldB
    · cases located.symm.trans locatedB
      exact apart a oldA p locatedA
    · exact spread a oldA b oldB ne p q locatedA locatedB

theorem spread_of_validateFrom {entries : List (String × Value)} {accepted : PluginConfig}
    (sound : Sound r accepted) (spread : Spread accepted.keys)
    (ok : validateFrom r accepted entries = .ok config) : Spread config.keys := by
  induction entries generalizing accepted with
  | nil =>
    cases ok
    exact spread
  | cons head rest ih =>
    obtain ⟨name, raw⟩ := head
    unfold validateFrom at ok
    split at ok
    · cases ok
    · next path located =>
      split at ok
      · cases ok
      · next none =>
        split at ok
        · cases ok
        · next entry accepts =>
          obtain ⟨named, valid⟩ := valid_of_validateEntry located accepts
          refine ih (sound.insert named valid) (spread.insert located fun other mem q locatedQ => ?_) ok
          obtain ⟨⟨other, e⟩, present, rfl⟩ := List.mem_map.1 mem
          have path := (sound.valid other e present).path
          rw [sound.named other e present] at path
          cases path.symm.trans locatedQ
          simpa using List.find?_eq_none.1 none (other, e) present

/-- The paths of a configuration that validation accepts do not overlap. -/
theorem spread_of_validate {raw : Value} (ok : validate r raw = .ok config) : Spread config.keys := by
  have nothing : Sound r [] :=
    ⟨List.Pairwise.nil, fun _ _ never => (by cases never), fun _ _ never => (by cases never)⟩
  have nowhere : Spread (Dict.keys (α := PluginEntry) []) := fun _ never => (by cases never)
  unfold validate at ok
  split at ok
  · cases ok
    exact nowhere
  · exact spread_of_validateFrom nothing nowhere ok
  · cases ok

end DocStore.PluginConfig
