import DocStore.Yaml.Node
import DocStore.Yaml.Scalar

/-!
# Values of YAML documents

An alias stands for the value of the node that it names. Following aliases is paid for: a document
may follow a hundred for each of its steps. Sequences and mappings may be nested `maxDepth` deep,
and the keys of a mapping are scalars, taken as texts; of a repeated key the last entry counts.
-/

namespace DocStore.Yaml

/-- How deep sequences and mappings may be nested. -/
def maxDepth : Nat := 128

/-- How many aliases may be followed for each step of a document. -/
def jumpsPerStep : Nat := 100

/-- Evaluation keeps count of the aliases followed. -/
abbrev Eval := StateT Nat Option

namespace Document

/-- The node that an alias stands for: the last one with its number. -/
def target? (d : Document) (number : Nat) : Option Node :=
  (List.find? (fun entry => entry.1 = number) d.anchored.reverse).map (·.2)

/-- The node itself, or the one that it is an alias of. -/
def resolve (d : Document) (n : Node) : Eval Node := do
  match n with
  | .alias number =>
    let jumps ← get
    if jumpsPerStep * d.steps < jumps + 1 then failure
    set (jumps + 1)
    match d.target? number with
    | some node => pure node
    | none => failure
  | node => pure node

/-- The text of a scalar, whatever it stands for. -/
def textOf (d : Document) (n : Node) : Eval String := do
  match ← d.resolve n with
  | .scalar text _ _ => pure text
  | _ => failure

/-- The value of a node, with sequences and mappings nested no deeper than `depth`. -/
def valueOf (d : Document) : (depth : Nat) → Node → Eval Value
  | 0, n => do
    match ← d.resolve n with
    | .scalar text plain marks =>
      match Scalar.value? text plain marks.tag with
      | some v => pure v
      | none => failure
    | _ => failure
  | depth + 1, n => do
    match ← d.resolve n with
    | .scalar text plain marks =>
      match Scalar.value? text plain marks.tag with
      | some v => pure v
      | none => failure
    | .sequence items marks =>
      if marks.tag.any Tag.isLocal then failure
      .array <$> items.mapM (d.valueOf depth)
    | .mapping entries marks =>
      if marks.tag.any Tag.isLocal then failure
      let fields ← entries.mapM fun (key, item) => do
        let name ← d.textOf key
        let v ← d.valueOf depth item
        pure (name, v)
      pure (.object (Dict.ofEntries fields))
    | .alias _ => failure

/-- The value of a document. -/
def toValue? (d : Document) : Option Value :=
  ((d.valueOf maxDepth d.root).run 0).map (·.1)

end Document

/-- The value of a text with at most one document; without one it is null. -/
def read? (text : String) : Option Value := do
  match ← Document.read text with
  | none => pure .null
  | some document => document.toValue?

example : read? "a: [1, 2.5]\nb: *x" = none := by decide +kernel
example : read? "a: &x 1\nb: *x" = some (.object [("a", .int 1), ("b", .int 1)]) := by
  decide +kernel

end DocStore.Yaml
