import DocStore.Toml.Scalar
import DocStore.Toml.Table

/-!
# Reading TOML

A document is read line by line into the table it describes. Lists and inline tables may be nested
`maxDepth` deep, and a dotted key may have `maxKeys` parts.
-/

namespace DocStore.Toml

/-- How deep lists and inline tables may be nested. -/
def maxDepth : Nat := 79

/-- How many parts a key may have. -/
def maxKeys : Nat := 79

/-! ## Keys -/

def isBareKeyChar (c : Char) : Bool := c.isAlphanum || c == '_' || c == '-'

/-- Read one part of a key. -/
def readKeyPart (cs : List Char) : Option (String × List Char) :=
  match cs with
  | '"' :: _ => readQuoted cs
  | '\'' :: _ => readQuoted cs
  | _ =>
    let (name, rest) := cs.span isBareKeyChar
    if name.isEmpty then none else some (String.ofList name, rest)

/-- Read the parts of a key and the blanks around them. Each part spends one unit of fuel. -/
def readKey : Nat → List Char → Option (List String × List Char)
  | 0, _ => none
  | fuel + 1, cs => do
    let (part, rest) ← readKeyPart (skipBlanks cs)
    match skipBlanks rest with
    | '.' :: rest =>
      let (parts, rest) ← readKey fuel rest
      pure (part :: parts, rest)
    | rest => pure ([part], rest)

/-- The parts before the last, and the last. -/
def cutLast (parts : List String) : List String × String :=
  (parts.dropLast, parts.getLast?.getD "")

/-! ## Values -/

mutual

/-- Read a value; lists and tables may be nested `room` deep in it. -/
def readValue (room : Nat) : Nat → List Char → Option (Value × List Char)
  | 0, _ => none
  | fuel + 1, cs =>
    match cs with
    | 't' :: 'r' :: 'u' :: 'e' :: rest => some (.bool true, rest)
    | 'f' :: 'a' :: 'l' :: 's' :: 'e' :: rest => some (.bool false, rest)
    | '"' :: _ => (readText cs).map fun (s, rest) => (.string s, rest)
    | '\'' :: _ => (readText cs).map fun (s, rest) => (.string s, rest)
    | '[' :: rest =>
      if room = 0 then none
      else
        match skipGap rest.length rest with
        | ']' :: rest => some (.array [], rest)
        | rest => (readItems (room - 1) fuel rest).map fun (items, rest) => (.array items, rest)
    | '\x7b' :: rest =>
      if room = 0 then none
      else
        match skipBlanks rest with
        | '\x7d' :: rest => some (.empty, rest)
        | rest =>
          (readPairs (room - 1) fuel [] rest).map fun (t, rest) => (.object (fieldsOf t), rest)
    | _ => readScalar cs

/-- Read the items of a list that has at least one. A comma may follow the last. -/
def readItems (room : Nat) : Nat → List Char → Option (List Value × List Char)
  | 0, _ => none
  | fuel + 1, cs => do
    let (item, rest) ← readValue room fuel cs
    match skipGap rest.length rest with
    | ']' :: rest => pure ([item], rest)
    | ',' :: rest =>
      match skipGap rest.length rest with
      | ']' :: rest => pure ([item], rest)
      | rest =>
        let (items, rest) ← readItems room fuel rest
        pure (item :: items, rest)
    | _ => none

/-- Read the entries of an inline table that has at least one. -/
def readPairs (room : Nat) : Nat → Table → List Char → Option (Table × List Char)
  | 0, _, _ => none
  | fuel + 1, t, cs => do
    let (parts, rest) ← readKey maxKeys cs
    match rest with
    | '=' :: rest =>
      let (v, rest) ← readValue room fuel (skipBlanks rest)
      let (way, key) := cutLast parts
      let t ← Table.setAt key v way t
      match skipBlanks rest with
      | '\x7d' :: rest => pure (t, rest)
      | ',' :: rest => readPairs room fuel t rest
      | _ => none
    | _ => none

end

/-! ## Documents -/

/-- What has been read of a document: the header in force, and all tables. -/
structure Progress where
  header : List String
  root : Table
deriving Repr

/-- Read a header behind its first bracket. -/
def readHeader (p : Progress) (cs : List Char) : Option (Progress × List Char) := do
  let (element, cs) := match cs with
    | '[' :: rest => (true, rest)
    | _ => (false, cs)
  let (parts, rest) ← readKey maxKeys cs
  let (way, key) := cutLast parts
  let rest ← expect ']' rest
  let rest ← if element then expect ']' rest else pure rest
  let open_ := if element then Table.openElement key else Table.openTable key
  let root ← Table.change open_ way p.root
  pure (⟨parts, root⟩, rest)

/-- Read a key and its value. -/
def readPair (p : Progress) (cs : List Char) : Option (Progress × List Char) := do
  let (parts, rest) ← readKey maxKeys cs
  let rest ← expect '=' rest
  let (v, rest) ← readValue maxDepth (2 * rest.length + 2) (skipBlanks rest)
  let (way, key) := cutLast parts
  let root ← Table.change (Table.setAt key v way) p.header p.root
  pure ({ p with root }, rest)

/-- Read lines up to the end. Each line spends one unit of fuel. -/
def readDocument : Nat → Progress → List Char → Option Table
  | 0, _, _ => none
  | fuel + 1, p, cs =>
    match skipBlanks cs with
    | [] => some p.root
    | c :: rest => do
      let (p, rest) ←
        if c = '[' then readHeader p rest
        else if c = '#' || c = '\n' || c = '\r' then pure (p, c :: rest)
        else readPair p (c :: rest)
      readDocument fuel p (← endLine? rest)

/-- Read a text that is a TOML document. A byte order mark at its start does not count. -/
def read? (text : String) : Option Value :=
  let cs := match text.toList with
    | '\ufeff' :: rest => rest
    | cs => cs
  (readDocument (cs.length + 1) ⟨[], []⟩ cs).map fun t => .object (fieldsOf t)

example : read? "a.b = 1\n[t]\nx = [1, 2]\n" = some (.object [
    ("a", .object [("b", .int 1)]), ("t", .object [("x", .array [.int 1, .int 2])])]) := by
  decide +kernel
example : read? "a = 1\na = 2" = none := by decide +kernel
example : read? "[a]\n[a]" = none := by decide +kernel

end DocStore.Toml
