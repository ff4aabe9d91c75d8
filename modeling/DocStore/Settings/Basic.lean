import DocStore.Duration.Human
import DocStore.Files.Format
import DocStore.Files.Tree
import DocStore.Settings.Parts
import DocStore.Unicode.Visible

/-!
# Settings of a running store

A settings file names the data plugins, the bundles to activate at the start and how long a plugin
may take to stop. Its extension says whether it is YAML, JSON or TOML. A relative bundle directory
is meant relative to the file.
-/

namespace DocStore

/-- A bundle to activate at the start. -/
structure BundleSource where
  name : String
  path : String
deriving DecidableEq, Repr

/-- The settings: the configuration of the data plugins as written, the bundles to be activated,
and how long plugins may take to stop. -/
structure Settings where
  plugins : Value
  bundles : List BundleSource
  stopTimeout : String
deriving DecidableEq, Repr

/-- Why a settings file cannot be used. -/
inductive SettingsError
  | reading (path : String)
  | parsing (format : Format) (path : String)
  | unknownExtension (extension path : String)
  | stopTimeout (error : DurationError)
deriving DecidableEq, Repr

/-- A text in quotes, with what could not be seen as an escape. -/
def quoteVisibly (text : String) : String :=
  let escape (c : Char) : String :=
    if c = '"' then "\\\""
    else if c = '\\' then "\\\\"
    else if c = '\n' then "\\n"
    else if c = '\r' then "\\r"
    else if c = '\t' then "\\t"
    else if c = '\x00' then "\\0"
    else if Unicode.isVisible c.toNat then String.singleton c
    else "\\u\x7b" ++ String.ofList (Digits.hex c.toNat) ++ "\x7d"
  "\"" ++ String.join (text.toList.map escape) ++ "\""

def SettingsError.message : SettingsError → String
  | .reading path => "reading config " ++ path
  | .parsing format path => "parsing " ++ format.title ++ " config " ++ path
  | .unknownExtension extension path =>
    "unsupported config extension " ++ quoteVisibly extension ++ " for " ++ path
      ++ " (expected yaml, yml, json or toml)"
  | .stopTimeout error => "shutdown_timeout: " ++ error.message

namespace Settings

/-- The settings of an empty file. -/
def standard : Settings := ⟨.null, [], "10s"⟩

/-! ## Reading -/

section

variable {α : Type} [Parts α]

/-- A field, or its default when it is left out. -/
def field (read : α → Yaml.Eval β) (default : β) : Option α → Yaml.Eval β
  | some part => read part
  | none => pure default

/-- A field that has to be there. -/
def required (read : α → Yaml.Eval β) : Option α → Yaml.Eval β
  | some part => read part
  | none => failure

/-- Read the section about plugins. -/
def readPlugins (document : α) : Yaml.Eval Value := do
  match ← Parts.fields ["data"] document with
  | [data] => field (Parts.value 2) .null data
  | _ => failure

def readBundle (document : α) : Yaml.Eval BundleSource := do
  match ← Parts.fields ["name", "path"] document with
  | [name, path] => pure ⟨← required Parts.text name, ← required Parts.text path⟩
  | _ => failure

/-- Read settings as they are written. -/
def read (document : α) : Yaml.Eval Settings := do
  match ← Parts.fields ["plugins", "bundles", "shutdown_timeout"] document with
  | [plugins, bundles, stopTimeout] =>
    let plugins ← field readPlugins standard.plugins plugins
    let sources ← field Parts.items [] bundles
    let bundles ← sources.mapM readBundle
    let stopTimeout ← field Parts.text standard.stopTimeout stopTimeout
    pure ⟨plugins, bundles, stopTimeout⟩
  | _ => failure

end

/-- The result of reading, without the count. -/
def finish (e : Yaml.Eval Settings) : Option Settings := (e.run 0).map (·.1)

/-- Read settings from the text of a file. -/
def ofText? (format : Format) (text : String) : Option Settings :=
  match format with
  | .json => (Json.Doc.read text).bind fun doc => finish (read doc)
  | .toml => (Toml.read? text).bind fun v => finish (read v)
  | .yaml =>
    match Yaml.Document.read text with
    | none => none
    | some none => some standard
    | some (some document) => finish (read (YamlPart.mk document document.root))

/-! ## Loading -/

/-- How long a plugin may take to stop. -/
def stopDuration (s : Settings) : Except DurationError Duration := Duration.parse s.stopTimeout

/-- Bundle directories below the directory that a file lies in. -/
def within (base : String) (s : Settings) : Settings :=
  { s with bundles := s.bundles.map fun b => { b with path := FilePath.join base b.path } }

/-- Load a settings file. -/
def load (files : FileTree) (path : String) : Except SettingsError Settings := do
  let text ← (files.readText path).mapError fun _ => .reading path
  match Format.ofPath? path with
  | none => throw (.unknownExtension ((FilePath.extension? path).getD "") path)
  | some format =>
    match ofText? format text with
    | none => throw (.parsing format path)
    | some written =>
      let settings := match FilePath.parent? path with
        | some base => within base written
        | none => written
      let _ ← settings.stopDuration.mapError .stopTimeout
      pure settings

/-- The settings as a value. -/
def toValue (s : Settings) : Value :=
  .object [
    ("bundles", .array (s.bundles.map fun b =>
      .object [("name", .string b.name), ("path", .string b.path)])),
    ("plugins", .object [("data", s.plugins)]),
    ("shutdown_timeout", .string s.stopTimeout)]

end Settings

end DocStore
