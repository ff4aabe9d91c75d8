import DocStore.Yaml.Tag

/-!
# YAML tokens

The tokens of a YAML stream. Where a block begins or ends is a token of its own: it follows from
the columns of the text.
-/

namespace DocStore.Yaml

inductive Token
  | documentStart
  | documentEnd
  | version (major minor : Nat)
  | tagHandle (handle : String) (start : Tag)
  | blockSequenceStart
  | blockMappingStart
  | blockEnd
  | flowSequenceStart
  | flowSequenceEnd
  | flowMappingStart
  | flowMappingEnd
  | blockEntry
  | flowEntry
  | key
  | value
  | alias (name : String)
  | anchor (name : String)
  | tag (handle : String) (suffix : Tag)
  | scalar (text : String) (plain : Bool)
deriving DecidableEq, Repr, Inhabited

end DocStore.Yaml
