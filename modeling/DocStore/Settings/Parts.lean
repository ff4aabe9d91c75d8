import DocStore.Json.Record
import DocStore.Json.Doc
import DocStore.Yaml.Value

/-!
# Taking documents apart

Settings are read from documents in three formats. Each format has its own idea of what is a text,
a list or a record; `Parts` gathers what a reader of settings has to ask, so that it is written
once.
-/

namespace DocStore.Settings

/-- How documents of type `α` are taken apart. Every question fails on a document of another
kind; the count is that of the aliases followed. -/
class Parts (α : Type) where
  /-- The known fields of a record. -/
  fields (names : List String) (document : α) : Yaml.Eval (List (Option α))
  items (document : α) : Yaml.Eval (List α)
  text (document : α) : Yaml.Eval String
  /-- The value of a document that stands `level` records deep. -/
  value (level : Nat) (document : α) : Yaml.Eval Value

/-- An answer that follows no aliases. -/
def given {α : Type} (answer : Option α) : Yaml.Eval α :=
  match answer with
  | some a => pure a
  | none => failure

/-! ## Formats -/

instance : Parts Json.Doc where
  fields names doc := given (Json.docRecord? names doc)
  items doc := given (match doc with
    | .array items => some items
    | _ => none)
  text doc := given (match doc with
    | .string s => s
    | _ => none)
  value level doc := given (doc.toValue? (Json.maxDepth - level))

instance : Parts Value where
  fields names v := given (match v with
    | .object fields => Json.named fields names
    | .array items => Json.positional names (items.take names.length)
    | _ => none)
  items v := given (match v with
    | .array items => some items
    | _ => none)
  text v := given (match v with
    | .string s => some s
    | _ => none)
  value _ v := pure v

/-- A node of a YAML document. -/
structure YamlPart where
  document : Yaml.Document
  node : Yaml.Node
deriving Repr

namespace YamlPart

/-- The entries of a mapping by the texts of their keys. -/
def entries (p : YamlPart) (pairs : List (Yaml.Node × Yaml.Node)) :
    Yaml.Eval (List (String × YamlPart)) :=
  pairs.mapM fun (key, node) => do
    let name ← p.document.textOf key
    pure (name, { p with node })

/-- A record is a mapping; where nothing is written it has no fields. -/
def fields (names : List String) (p : YamlPart) : Yaml.Eval (List (Option YamlPart)) := do
  match ← p.document.resolve p.node with
  | .mapping pairs _ => given (Json.named (← p.entries pairs) names)
  | .scalar "" true _ => pure (names.map fun _ => none)
  | _ => failure

/-- A list is a sequence; where nothing is written it has no items. -/
def items (p : YamlPart) : Yaml.Eval (List YamlPart) := do
  match ← p.document.resolve p.node with
  | .sequence items _ => pure (items.map fun node => { p with node })
  | .scalar "" true _ => pure []
  | _ => failure

end YamlPart

instance : Parts YamlPart where
  fields := YamlPart.fields
  items := YamlPart.items
  text p := p.document.textOf p.node
  value level p := p.document.valueOf (Yaml.maxDepth - level) p.node

end DocStore.Settings
