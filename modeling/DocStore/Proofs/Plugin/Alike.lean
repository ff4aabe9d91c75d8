import DocStore.Plugin.Config
import DocStore.Proofs.Dict
import DocStore.Proofs.Fallible

/-!
# Entries that were written alike

A plugin stays as it is when its next entry was written like the present one. Values that were
written alike may still differ in the signs of zeros. No field that all entries have is read from
such a number, and neither is a field of the built-in kinds. Other kinds are asked for the same: then
entries that were written alike agree in all that they configure.

Results:
  * `Value.same_refl`: every value is written like itself;
  * `Registry.uniform_builtin`, `Registry.Uniform.register`: kinds that do not tell apart what was
    written alike;
  * `PluginConfig.validateEntry_congr`: with such kinds an entry is validated by the way it was
    written;
  * `PluginEntry.alike_of_sameAs`: validated entries that were written alike are alike.
-/

namespace DocStore

/-! ## Values -/

namespace Value

mutual

/-- Every value is written like itself. -/
theorem same_refl : (v : Value) → v.same v = true
  | .null => rfl
  | .bool b => by simp [same]
  | .int n => by simp [same]
  | .float x => by simp [same, Binary64.same]
  | .string s => by simp [same]
  | .array items => sameItems_refl items
  | .object fields => sameFields_refl fields

theorem sameItems_refl : (items : List Value) → sameItems items items = true
  | [] => rfl
  | v :: rest => by
    unfold sameItems
    rw [same_refl v, sameItems_refl rest]
    rfl

theorem sameFields_refl : (fields : List (String × Value)) → sameFields fields fields = true
  | [] => rfl
  | (k, v) :: rest => by
    unfold sameFields
    rw [same_refl v, sameFields_refl rest, beq_self_eq_true]
    rfl

end

variable {v : Value}

theorem eq_of_same_null (alike : Value.null.same v = true) : v = .null := by
  cases v <;> first | rfl | cases alike

theorem eq_of_same_int {n : Int} (alike : (Value.int n).same v = true) : v = .int n := by
  cases v with
  | int m => rw [eq_of_beq alike]
  | _ => cases alike

theorem eq_of_same_string {s : String} (alike : (Value.string s).same v = true) :
    v = .string s := by
  cases v with
  | string t => rw [eq_of_beq alike]
  | _ => cases alike

theorem fields_of_same_object {fields : Dict Value} (alike : (Value.object fields).same v = true) :
    ∃ others, v = .object others ∧ sameFields fields others = true := by
  cases v with
  | object others => exact ⟨others, rfl, alike⟩
  | _ => cases alike

/-- Two look-ups find nothing, or values that are written alike. -/
abbrev SameFound : Option Value → Option Value → Prop := Option.Rel fun a b => a.same b = true

theorem sameFound_find? {fields others : Dict Value} (alike : sameFields fields others = true)
    (key : String) : SameFound (fields.find? key) (others.find? key) := by
  -- Both rows are walked in step, since they have the same keys in the same order.
  induction fields generalizing others with
  | nil =>
    cases others with
    | nil => exact .none
    | cons entry rest => cases alike
  | cons entry rest ih =>
    cases others with
    | nil => cases alike
    | cons other more =>
      obtain ⟨k, a⟩ := entry
      obtain ⟨l, b⟩ := other
      simp only [sameFields, Bool.and_eq_true, beq_iff_eq] at alike
      obtain ⟨⟨rfl, first⟩, later⟩ := alike
      rw [Dict.find?_cons, Dict.find?_cons]
      split
      · exact .some first
      · exact ih later

theorem sameFields_erase {fields others : Dict Value} (alike : sameFields fields others = true)
    (key : String) : sameFields (fields.erase key) (others.erase key) = true := by
  induction fields generalizing others with
  | nil =>
    cases others with
    | nil => rfl
    | cons entry rest => cases alike
  | cons entry rest ih =>
    cases others with
    | nil => cases alike
    | cons other more =>
      obtain ⟨k, a⟩ := entry
      obtain ⟨l, b⟩ := other
      simp only [sameFields, Bool.and_eq_true, beq_iff_eq] at alike
      obtain ⟨⟨rfl, first⟩, later⟩ := alike
      have tails := ih later
      by_cases gone : k = key
      · simpa [Dict.erase, gone] using tails
      · simpa [Dict.erase, gone, sameFields, first] using tails

end Value

/-! ## Readers -/

section Readers

variable {found found' : Option Value} {fields others : Dict Value}

theorem HttpConfig.addHeaders_congr {entries entries' : List (String × Value)}
    (alike : Value.sameFields entries entries' = true) {start headers : Dict String}
    (ok : addHeaders start entries = .ok headers) : addHeaders start entries' = .ok headers := by
  induction entries generalizing entries' start with
  | nil =>
    cases entries' with
    | nil => exact ok
    | cons entry rest => cases alike
  | cons entry rest ih =>
    cases entries' with
    | nil => cases alike
    | cons other more =>
      obtain ⟨name, a⟩ := entry
      obtain ⟨name', b⟩ := other
      simp only [Value.sameFields, Bool.and_eq_true, beq_iff_eq] at alike
      obtain ⟨⟨rfl, first⟩, later⟩ := alike
      cases a with
      | string value =>
        rw [Value.eq_of_same_string first]
        unfold addHeaders at ok ⊢
        split at ok
        · cases ok
        · next named =>
          rw [if_neg named]
          dsimp only at ok ⊢
          split at ok
          · cases ok
          · next valued =>
            rw [if_neg valued]
            exact ih later ok
      | null | bool _ | int _ | float _ | array _ | object _ => cases ok

theorem HttpConfig.webUrl_congr (alike : Value.SameFound found found') {url : Url}
    (ok : webUrl found = .ok url) : webUrl found' = .ok url := by
  cases alike with
  | none => cases ok
  | @some a b alike =>
    cases a with
    | string text => rw [Value.eq_of_same_string alike, ok]
    | null | bool _ | int _ | float _ | array _ | object _ => cases ok

theorem HttpConfig.headersOf_congr (alike : Value.SameFound found found') {headers : Dict String}
    (ok : headersOf found = .ok headers) : headersOf found' = .ok headers := by
  cases alike with
  | none => exact ok
  | @some a b alike =>
    cases a with
    | null => rw [Value.eq_of_same_null alike, ok]
    | object entries =>
      obtain ⟨others, rfl, alike⟩ := Value.fields_of_same_object alike
      unfold headersOf at ok ⊢
      dsimp only at ok ⊢
      rw [addHeaders_congr alike (mapError_ok ok)]
      rfl
    | bool _ | int _ | float _ | string _ | array _ => cases ok

theorem HttpConfig.timeoutOf_congr (alike : Value.SameFound found found') {timeout : Duration}
    (ok : timeoutOf found = .ok timeout) : timeoutOf found' = .ok timeout := by
  cases alike with
  | none => exact ok
  | @some a b alike =>
    cases a with
    | null => rw [Value.eq_of_same_null alike, ok]
    | int n => rw [Value.eq_of_same_int alike, ok]
    | string s => rw [Value.eq_of_same_string alike, ok]
    | bool _ | float _ | array _ | object _ => cases ok

theorem HttpConfig.ofFields_congr (alike : Value.sameFields fields others = true)
    {config : HttpConfig} (ok : ofFields fields = .ok config) : ofFields others = .ok config := by
  unfold ofFields at ok ⊢
  obtain ⟨url, located, ok⟩ := bind_ok ok
  obtain ⟨headers, headed, ok⟩ := bind_ok ok
  obtain ⟨timeout, timed, ok⟩ := bind_ok ok
  rw [webUrl_congr (Value.sameFound_find? alike "url") (mapError_ok located),
    headersOf_congr (Value.sameFound_find? alike "headers") headed,
    timeoutOf_congr (Value.sameFound_find? alike "timeout") timed]
  exact ok

theorem FileConfig.pathOf_congr (alike : Value.SameFound found found') {path : String}
    (ok : pathOf found = .ok path) : pathOf found' = .ok path := by
  cases alike with
  | none => cases ok
  | @some a b alike =>
    cases a with
    | string s => rw [Value.eq_of_same_string alike, ok]
    | null | bool _ | int _ | float _ | array _ | object _ => cases ok

theorem FileConfig.formatOf_congr (alike : Value.SameFound found found') {format : Option Format}
    (ok : formatOf found = .ok format) : formatOf found' = .ok format := by
  cases alike with
  | none => exact ok
  | @some a b alike =>
    cases a with
    | null => rw [Value.eq_of_same_null alike, ok]
    | string s => rw [Value.eq_of_same_string alike, ok]
    | bool _ | int _ | float _ | array _ | object _ => cases ok

theorem FileConfig.ofFields_congr (alike : Value.sameFields fields others = true)
    {config : FileConfig} (ok : ofFields fields = .ok config) : ofFields others = .ok config := by
  unfold ofFields at ok ⊢
  obtain ⟨path, located, ok⟩ := bind_ok ok
  obtain ⟨format, formatted, ok⟩ := bind_ok ok
  rw [pathOf_congr (Value.sameFound_find? alike "path") located,
    formatOf_congr (Value.sameFound_find? alike "format") formatted]
  exact ok

theorem FeedConfig.ofFields_congr (alike : Value.sameFields fields others = true)
    {config : FeedConfig} (ok : ofFields fields = .ok config) : ofFields others = .ok config := by
  have named := Value.sameFound_find? alike "feed"
  have broken := Value.sameFound_find? alike "broken"
  unfold ofFields at ok ⊢
  generalize fields.find? "broken" = x, others.find? "broken" = y at broken ok ⊢
  have agree : y.isSome = x.isSome := by cases broken <;> rfl
  generalize fields.find? "feed" = found, others.find? "feed" = found' at named ok ⊢
  cases named with
  | none => cases ok
  | @some a b alike =>
    cases a with
    | string s => rw [Value.eq_of_same_string alike, agree, ok]
    | null | bool _ | int _ | float _ | array _ | object _ => cases ok

end Readers

/-! ## Kinds -/

/-- The kind does not tell apart what was written alike. -/
def SourceKind.Uniform (kind : SourceKind) : Prop :=
  ∀ fields others config, Value.sameFields fields others = true →
    kind.configure fields = .ok config → kind.configure others = .ok config

namespace SourceKind

theorem uniform_reading {α : Type} {read : Dict Value → Except FieldError α}
    (congr : ∀ {fields others}, Value.sameFields fields others = true →
      ∀ {config}, read fields = .ok config → read others = .ok config)
    (defaultInterval leastInterval : Duration) (make : α → SourceConfig) :
    (reading defaultInterval leastInterval read make).Uniform := by
  intro fields others config alike ok
  obtain ⟨given, readOk, rfl⟩ := map_ok (mapError_ok ok)
  unfold reading
  dsimp only
  rw [congr alike readOk]
  rfl

theorem uniform_file : file.Uniform := uniform_reading FileConfig.ofFields_congr _ _ _

theorem uniform_http : http.Uniform := uniform_reading HttpConfig.ofFields_congr _ _ _

theorem uniform_feed : feed.Uniform := uniform_reading FeedConfig.ofFields_congr _ _ _

end SourceKind

/-- None of the known kinds tells apart what was written alike. -/
def Registry.Uniform (r : Registry) : Prop :=
  ∀ name kind, Dict.find? r name = some kind → kind.Uniform

namespace Registry

theorem uniform_builtin : builtin.Uniform := by
  intro name kind known
  rcases List.mem_pair.1 (Dict.mem_of_find? known) with same | same
  · cases same
    exact SourceKind.uniform_file
  · cases same
    exact SourceKind.uniform_http

/-- One more such kind. -/
theorem Uniform.register {r r' : Registry} {name : String} {kind : SourceKind} (uniform : r.Uniform)
    (new : kind.Uniform) (ok : r.register name kind = .ok r') : r'.Uniform := by
  unfold Registry.register at ok
  split at ok
  · cases ok
  · cases ok
    intro other kind' known
    by_cases same : other = name
    · subst same
      rw [Dict.find?_insert_self] at known
      cases known
      exact new
    · rw [Dict.find?_insert_ne _ _ same] at known
      exact uniform other kind' known

end Registry

/-! ## Entries -/

namespace PluginConfig

variable {r : Registry} {name : String} {fields others : Dict Value}

theorem readKind_ok {kind : String} {source : SourceKind}
    (ok : readKind r name fields = .ok (kind, source)) : Dict.find? r kind = some source := by
  unfold readKind at ok
  split at ok
  · split at ok
    · next found =>
      cases ok
      exact found
    · cases ok
  · cases ok
  · cases ok

theorem readKind_congr (alike : Value.sameFields fields others = true)
    {kind : String × SourceKind} (ok : readKind r name fields = .ok kind) :
    readKind r name others = .ok kind := by
  have found := Value.sameFound_find? alike "type"
  unfold readKind at ok ⊢
  generalize fields.find? "type" = x, others.find? "type" = y at found ok ⊢
  cases found with
  | none => cases ok
  | @some a b alike =>
    cases a with
    | string s => rw [Value.eq_of_same_string alike, ok]
    | null | bool _ | int _ | float _ | array _ | object _ => cases ok

theorem readInterval_congr (alike : Value.sameFields fields others = true) {kind : String}
    {source : SourceKind} {interval : Duration}
    (ok : readInterval kind source fields = .ok interval) :
    readInterval kind source others = .ok interval := by
  have found := Value.sameFound_find? alike "polling_interval"
  unfold readInterval at ok ⊢
  generalize fields.find? "polling_interval" = x, others.find? "polling_interval" = y at found ok ⊢
  cases found with
  | none => exact ok
  | @some a b alike =>
    cases a with
    | int n => rw [Value.eq_of_same_int alike, ok]
    | string s => rw [Value.eq_of_same_string alike, ok]
    | null | bool _ | float _ | array _ | object _ => cases ok

theorem readTransform_congr (alike : Value.sameFields fields others = true)
    {rule : Option RuleRef} (ok : readTransform fields = .ok rule) :
    readTransform others = .ok rule := by
  have found := Value.sameFound_find? alike "rego_transform"
  unfold readTransform at ok ⊢
  generalize fields.find? "rego_transform" = x, others.find? "rego_transform" = y at found ok ⊢
  cases found with
  | none => exact ok
  | @some a b alike =>
    cases a with
    | null => rw [Value.eq_of_same_null alike, ok]
    | string s => rw [Value.eq_of_same_string alike, ok]
    | bool _ | int _ | float _ | array _ | object _ => cases ok

theorem sameFields_ownFields (alike : Value.sameFields fields others = true) :
    Value.sameFields (ownFields fields) (ownFields others) = true :=
  Value.sameFields_erase (Value.sameFields_erase (Value.sameFields_erase alike _) _) _

/-- An entry is validated by the way it was written. -/
theorem validateEntry_congr (uniform : r.Uniform) {path : Path} {raw raw' : Value}
    (alike : raw.same raw' = true) {entry : PluginEntry}
    (ok : validateEntry r name path raw = .ok entry) :
    validateEntry r name path raw' = .ok { entry with raw := raw' } := by
  unfold validateEntry at ok ⊢
  cases raw with
  | object fields =>
    obtain ⟨others, rfl, alike⟩ := Value.fields_of_same_object alike
    obtain ⟨⟨kind, source⟩, kinded, ok⟩ := bind_ok ok
    obtain ⟨interval, timed, ok⟩ := bind_ok ok
    obtain ⟨rule, ruled, ok⟩ := bind_ok ok
    obtain ⟨config, configured, ok⟩ := bind_ok ok
    cases ok
    dsimp only
    rw [readKind_congr alike kinded]
    change ((readInterval kind source others).mapError _ >>= _) = _
    rw [readInterval_congr alike (mapError_ok timed),
      readTransform_congr alike (mapError_ok ruled),
      uniform kind source (readKind_ok kinded) _ _ _ (sameFields_ownFields alike)
        (mapError_ok configured)]
    rfl
  | null | bool _ | int _ | float _ | string _ | array _ => cases ok

end PluginConfig

namespace PluginEntry

/-- The entry has been validated with the known kinds. -/
structure Valid (r : Registry) (entry : PluginEntry) : Prop where
  path : Path.ofDotted entry.name = .ok entry.path
  fields : PluginConfig.validateEntry r entry.name entry.path entry.raw = .ok entry

/-- The entries differ at most in the signs of zeros that were written and are not read. -/
structure Alike (a b : PluginEntry) : Prop where
  written : a.sameAs b = true
  rest : { a with raw := b.raw } = b

variable {r : Registry} {a b : PluginEntry}

theorem Alike.refl (entry : PluginEntry) : Alike entry entry := ⟨Value.same_refl entry.raw, rfl⟩

theorem Alike.path (alike : Alike a b) : a.path = b.path := by rw [← alike.rest]

theorem Valid.path_eq (validA : Valid r a) (validB : Valid r b) (name : a.name = b.name) :
    a.path = b.path := by
  have same := validA.path
  rw [name, validB.path] at same
  exact (Except.ok.inj same).symm

/-- Validated entries that were written alike are alike. -/
theorem alike_of_sameAs (uniform : r.Uniform) (validA : Valid r a) (validB : Valid r b)
    (name : a.name = b.name) (written : a.sameAs b = true) : Alike a b := by
  refine ⟨written, ?_⟩
  have again := PluginConfig.validateEntry_congr uniform written validA.fields
  rw [name, validA.path_eq validB name, validB.fields] at again
  rw [name, validA.path_eq validB name]
  exact (Except.ok.inj again).symm

end PluginEntry

end DocStore
