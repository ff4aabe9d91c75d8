import DocStore.Files.Path
import DocStore.Json.Reader
import DocStore.Toml.Reader
import DocStore.Yaml.Value

/-!
# Formats of data files

A data file is written in JSON, YAML or TOML; its extension says in which.
-/

namespace DocStore

/-- How a data file is written. -/
inductive Format
  | json
  | yaml
  | toml
deriving DecidableEq, Repr

namespace Format

def ofName? : String → Option Format
  | "json" => some .json
  | "yaml" | "yml" => some .yaml
  | "toml" => some .toml
  | _ => none

/-- The format that the extension of a file names. -/
def ofPath? (path : String) : Option Format := (FilePath.extension? path).bind ofName?

/-- The value of a text in a format. -/
def read? : Format → String → Option Value
  | .json => Json.read?
  | .yaml => Yaml.read?
  | .toml => Toml.read?

/-- The usual spelling of the name. -/
def title : Format → String
  | .json => "JSON"
  | .yaml => "YAML"
  | .toml => "TOML"

end Format

end DocStore
