import DocStore.Plugin.Registry

/-!
# Configuration of data plugins

A configuration maps dotted paths to entries. A validated one has at most one plugin for any place
of the tree: no path is a leading part of another one. Entries are looked at in the order of their
keys, so the same configuration always has the same error.

Results:
  * `validate_null`: nothing at all configures no plugin.
-/

namespace DocStore

/-- A validated entry; `raw` is the entry as written. -/
structure PluginEntry where
  name : String
  path : Path
  kind : String
  interval : Duration
  transform : Option RuleRef
  source : SourceConfig
  raw : Value
deriving DecidableEq, Repr

/-- Both entries were written alike. -/
def PluginEntry.sameAs (a b : PluginEntry) : Bool := a.raw.same b.raw

/-- A validated configuration. -/
abbrev PluginConfig := Dict PluginEntry

namespace PluginConfig

/-- The kind that an entry names. -/
def readKind (r : Registry) (name : String) (fields : Dict Value) :
    Except PluginError (String × SourceKind) :=
  match fields.find? "type" with
  | some (.string kind) =>
    match Dict.find? r kind with
    | some source => .ok (kind, source)
    | none => .error (.unknownKind name kind)
  | some v => .error (.invalidEntry name (.typeNotString v))
  | none => .error (.invalidEntry name .typeMissing)

/-- The interval of an entry. -/
def readInterval (kind : String) (source : SourceKind) (fields : Dict Value) :
    Except EntryFault Duration :=
  match fields.find? "polling_interval" with
  | none => .ok source.defaultInterval
  | some v =>
    match Duration.ofValue v with
    | .error e => .error (.interval e)
    | .ok d =>
      if d.below source.leastInterval then .error (.intervalTooShort d source.leastInterval kind)
      else .ok d

/-- The rule of an entry, if it names one. -/
def readTransform (fields : Dict Value) : Except EntryFault (Option RuleRef) :=
  match fields.find? "rego_transform" with
  | none | some .null => .ok none
  | some (.string rule) =>
    match RuleRef.parse rule with
    | .ok r => .ok (some r)
    | .error fault => .error (.rule ⟨rule, fault⟩)
  | some v => .error (.ruleNotString v)

/-- The fields that entries of all kinds have. -/
def commonFields : List String := ["type", "polling_interval", "rego_transform"]

/-- The fields of an entry that belong to its kind. -/
def ownFields (fields : Dict Value) : Dict Value := commonFields.foldl Dict.erase fields

/-- Validate the entry of a plugin. -/
def validateEntry (r : Registry) (name : String) (path : Path) (raw : Value) :
    Except PluginError PluginEntry := do
  match raw with
  | .object fields =>
    let (kind, sourceKind) ← readKind r name fields
    let interval ← (readInterval kind sourceKind fields).mapError (.invalidEntry name)
    let transform ← (readTransform fields).mapError (.invalidEntry name)
    let source ← (sourceKind.configure (ownFields fields)).mapError fun e =>
      .invalidEntry name (.source e.message)
    pure { name, path, kind, interval, transform, source, raw }
  | v => throw (.invalidEntry name (.notObject v))

/-- Validate entries after those that were accepted. -/
def validateFrom (r : Registry) (accepted : PluginConfig) :
    List (String × Value) → Except PluginError PluginConfig
  | [] => .ok accepted
  | (name, raw) :: rest =>
    match Path.ofDotted name with
    | .error e => .error (.invalidEntry name (.path e))
    | .ok path =>
      match List.find? (fun other => other.2.path.overlaps path) accepted with
      | some (first, _) => .error (.pathOverlap first name)
      | none =>
        match validateEntry r name path raw with
        | .error e => .error e
        | .ok entry => validateFrom r (accepted.insert name entry) rest

/-- Validate a configuration. Null is an empty one. -/
def validate (r : Registry) (raw : Value) : Except PluginError PluginConfig :=
  match raw with
  | .null => .ok []
  | .object entries => validateFrom r [] (Dict.ofEntries entries)
  | v => .error (.malformed v)

theorem validate_null (r : Registry) : validate r .null = .ok [] := rfl

end PluginConfig

end DocStore
