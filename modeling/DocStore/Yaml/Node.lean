import DocStore.Dict
import DocStore.Yaml.Token.Lexer

/-!
# YAML documents

A document is a tree of scalars, sequences and mappings. A node may carry a tag, and an anchor by
which aliases name it. Anchors are numbered: a name gets the count of the names known before it,
whether or not it is among them, and an alias stands for the last node that got its number.

`Document.read` accepts a stream with at most one document.
-/

namespace DocStore.Yaml

/-- What may stand before a node: its tag, and the number of its anchor. -/
structure Marks where
  tag : Option Tag
  anchor : Option Nat
deriving DecidableEq, Repr, Inhabited

def Marks.none : Marks := ⟨Option.none, Option.none⟩

/-- A node of a document; `plain` says that a scalar stands without quotes. -/
inductive Node
  | scalar (text : String) (plain : Bool) (marks : Marks)
  | sequence (items : List Node) (marks : Marks)
  | mapping (entries : List (Node × Node)) (marks : Marks)
  | alias (anchor : Nat)
deriving Repr, Inhabited

namespace Node

/-- The scalar that stands where nothing is written. -/
def nothing (marks : Marks) : Node := .scalar "" true marks

mutual

/-- How many steps writing a node down takes: one for a scalar or an alias, and one for either end
of anything else. -/
def steps : Node → Nat
  | .scalar .. | .alias _ => 1
  | .sequence items _ => 2 + itemSteps items
  | .mapping entries _ => 2 + entrySteps entries

def itemSteps : List Node → Nat
  | [] => 0
  | n :: rest => steps n + itemSteps rest

def entrySteps : List (Node × Node) → Nat
  | [] => 0
  | (k, v) :: rest => steps k + steps v + entrySteps rest

end

mutual

/-- The nodes with an anchor, in the order in which they begin. -/
def anchored : Node → List (Nat × Node)
  | .alias _ => []
  | .scalar text plain marks =>
    match marks.anchor with
    | some number => [(number, .scalar text plain marks)]
    | none => []
  | .sequence items marks =>
    match marks.anchor with
    | some number => (number, .sequence items marks) :: itemsAnchored items
    | none => itemsAnchored items
  | .mapping entries marks =>
    match marks.anchor with
    | some number => (number, .mapping entries marks) :: entriesAnchored entries
    | none => entriesAnchored entries

def itemsAnchored : List Node → List (Nat × Node)
  | [] => []
  | n :: rest => anchored n ++ itemsAnchored rest

def entriesAnchored : List (Node × Node) → List (Nat × Node)
  | [] => []
  | (k, v) :: rest => anchored k ++ anchored v ++ entriesAnchored rest

end

end Node

/-! ## Reading tokens -/

/-- What reading a document carries along: the tokens left, the anchors by name, and what tag
handles stand for. -/
structure Reading where
  tokens : List Token
  anchors : Dict Nat
  handles : Dict Tag
deriving Repr

/-- A step of reading; it fails on a stream that is no document. -/
abbrev Read := StateT Reading Option

namespace Read

def peek : Read (Option Token) := do pure (← get).tokens.head?

def skip : Read Unit := modify fun r => { r with tokens := r.tokens.drop 1 }

/-- The next token is among these. The end of the stream is `none`. -/
def at_ (tokens : List (Option Token)) : Read Bool := do pure (tokens.contains (← peek))

/-- Number an anchor. -/
def register (name : String) : Read Nat := do
  let r ← get
  let number := r.anchors.length
  set { r with anchors := r.anchors.insert name number }
  pure number

/-- What a tag stands for. -/
def resolveTag (handle : String) (suffix : Tag) : Read Tag := do
  if handle.isEmpty then pure suffix
  else
    match (← get).handles.find? handle with
    | some start => pure (start.append suffix)
    | none => failure

/-- An anchor, if one comes next. -/
def anchor? : Read (Option String) := do
  match ← peek with
  | some (.anchor name) =>
    skip
    pure (some name)
  | _ => pure none

/-- A tag, if one comes next. -/
def tag? : Read (Option (String × Tag)) := do
  match ← peek with
  | some (.tag handle suffix) =>
    skip
    pure (some (handle, suffix))
  | _ => pure none

/-- The marks before a node: an anchor and a tag in either order. -/
def marks : Read Marks := do
  let before ← anchor?
  let written ← tag?
  let name ← if before.isNone && written.isSome then anchor? else pure before
  let tag ← match written with
    | some (handle, suffix) => some <$> resolveTag handle suffix
    | none => pure none
  let anchor ← match name with
    | some name => some <$> register name
    | none => pure none
  pure ⟨tag, anchor⟩

end Read

namespace Node

open Read

mutual

/-- Read a node. A block may start here if `block` holds, and a sequence without indentation of
its own if `indentless` holds. Each call spends one unit of fuel. -/
def read (block indentless : Bool) : Nat → Read Node
  | 0 => failure
  | fuel + 1 => do
    if let some (.alias name) ← peek then
      skip
      match (← get).anchors.find? name with
      | some number => pure (.alias number)
      | none => failure
    else
      let given ← marks
      match ← peek with
      | some .blockEntry =>
        if indentless then .sequence <$> readIndentless fuel <*> pure given
        else orNothing given
      | some (.scalar text plain) =>
        skip
        pure (.scalar text plain given)
      | some .flowSequenceStart =>
        skip
        .sequence <$> readFlowItems true fuel <*> pure given
      | some .flowMappingStart =>
        skip
        .mapping <$> readFlowEntries true fuel <*> pure given
      | some .blockSequenceStart =>
        if block then
          skip
          .sequence <$> readItems fuel <*> pure given
        else orNothing given
      | some .blockMappingStart =>
        if block then
          skip
          .mapping <$> readEntries fuel <*> pure given
        else orNothing given
      | _ => orNothing given
where
  /-- Where marks stand alone, they mark the scalar that is not written. -/
  orNothing (given : Marks) : Read Node :=
    if given.tag.isSome || given.anchor.isSome then pure (.nothing given) else failure

/-- A node, unless one of the tokens in `without` comes next. -/
def readUnless (without : List (Option Token)) (block indentless : Bool) : Nat → Read Node
  | 0 => failure
  | fuel + 1 => do
    if ← at_ without then pure (.nothing .none) else read block indentless fuel

/-- The items of a block sequence up to its end. -/
def readItems : Nat → Read (List Node)
  | 0 => failure
  | fuel + 1 => do
    match ← peek with
    | some .blockEntry =>
      skip
      let item ← readUnless [some .blockEntry, some .blockEnd] true false fuel
      (item :: ·) <$> readItems fuel
    | some .blockEnd =>
      skip
      pure []
    | _ => failure

/-- The items of a sequence without indentation of its own. -/
def readIndentless : Nat → Read (List Node)
  | 0 => failure
  | fuel + 1 => do
    match ← peek with
    | some .blockEntry =>
      skip
      let item ←
        readUnless [some .blockEntry, some .key, some .value, some .blockEnd] true false fuel
      (item :: ·) <$> readIndentless fuel
    | _ => pure []

/-- The entries of a block mapping up to its end. -/
def readEntries : Nat → Read (List (Node × Node))
  | 0 => failure
  | fuel + 1 => do
    match ← peek with
    | some .key =>
      skip
      let without := [some .key, some .value, some .blockEnd]
      let key ← readUnless without true true fuel
      let value ← readValue without true fuel
      ((key, value) :: ·) <$> readEntries fuel
    | some .blockEnd =>
      skip
      pure []
    | _ => failure

/-- The value of an entry, which may be left out. -/
def readValue (without : List (Option Token)) (block : Bool) : Nat → Read Node
  | 0 => failure
  | fuel + 1 => do
    if ← at_ [some .value] then
      skip
      readUnless without block block fuel
    else pure (.nothing .none)

/-- The items of a flow sequence up to its end. -/
def readFlowItems (first : Bool) : Nat → Read (List Node)
  | 0 => failure
  | fuel + 1 => do
    if ← at_ [some .flowSequenceEnd] then
      skip
      pure []
    else
      if !first then
        if ← at_ [some .flowEntry] then skip else failure
      match ← peek with
      | some .flowSequenceEnd =>
        skip
        pure []
      | some .key =>
        skip
        let key ← readPairKey fuel
        let value ← readValue [some .flowEntry, some .flowSequenceEnd] false fuel
        (.mapping [(key, value)] .none :: ·) <$> readFlowItems false fuel
      | _ =>
        let item ← read false false fuel
        (item :: ·) <$> readFlowItems false fuel

/-- The key of a pair that is an item of a flow sequence. Where it is left out, the token that
shows so counts as part of it. -/
def readPairKey : Nat → Read Node
  | 0 => failure
  | fuel + 1 => do
    if ← at_ [some .value, some .flowEntry, some .flowSequenceEnd] then
      skip
      pure (.nothing .none)
    else read false false fuel

/-- The entries of a flow mapping up to its end. -/
def readFlowEntries (first : Bool) : Nat → Read (List (Node × Node))
  | 0 => failure
  | fuel + 1 => do
    if ← at_ [some .flowMappingEnd] then
      skip
      pure []
    else
      if !first then
        if ← at_ [some .flowEntry] then skip else failure
      match ← peek with
      | some .flowMappingEnd =>
        skip
        pure []
      | some .key =>
        skip
        let without := [some .flowEntry, some .flowMappingEnd]
        let key ← readUnless (some .value :: without) false false fuel
        let value ← readValue without false fuel
        ((key, value) :: ·) <$> readFlowEntries false fuel
      | _ =>
        let key ← read false false fuel
        ((key, .nothing .none) :: ·) <$> readFlowEntries false fuel

end

end Node

/-! ## Documents -/

/-- A document: its root, how many steps it takes, and the nodes that aliases stand for. -/
structure Document where
  root : Node
  steps : Nat
  anchored : List (Nat × Node)
deriving Repr

def Document.ofRoot (root : Node) : Document := ⟨root, root.steps, root.anchored⟩

/-- The handles known without a directive. -/
def standardHandles : List (String × Tag) := [("!", .ofText "!"), ("!!", .core "")]

/-- Read directives. A version is given once at most, and so is each handle. -/
def readDirectives (versioned : Bool) : List Token → Dict Tag →
    Option (List Token × Dict Tag)
  | .version major minor :: rest, handles =>
    if versioned || major ≠ 1 || (minor ≠ 1 && minor ≠ 2) then none
    else readDirectives true rest handles
  | .tagHandle handle start :: rest, handles =>
    if handles.contains handle then none
    else readDirectives versioned rest (handles.insert handle start)
  | tokens, handles => some (tokens, handles)

/-- The handles with the standard ones beside them. -/
def withStandard (handles : Dict Tag) : Dict Tag :=
  standardHandles.foldl
    (fun all (handle, start) => if all.contains handle then all else all.insert handle start)
    handles

/-- Read the root of the first document from the tokens after its directives, and what follows. -/
def readRoot (marked : Bool) (tokens : List Token) (handles : Dict Tag) :
    Option (Node × List Token) := do
  let empty := marked && (match tokens with
    | [] | .documentStart :: _ | .documentEnd :: _ | .version .. :: _ | .tagHandle .. :: _ => true
    | _ => false)
  if empty then pure (.nothing .none, tokens)
  else
    let (root, r) ← (Node.read true false (4 * tokens.length + 4)).run
      ⟨tokens, [], withStandard handles⟩
    pure (root, r.tokens)

/-- Read the only document of a row of tokens, if there is one. -/
def Document.ofTokens? (tokens : List Token) : Option (Option Document) := do
  if tokens.isEmpty then return none
  let (afterDirectives, handles) ← readDirectives false tokens []
  let (marked, content) ← match afterDirectives with
    | .documentStart :: content => pure (true, content)
    | _ => if afterDirectives.length = tokens.length then pure (false, tokens) else none
  let (root, rest) ← readRoot marked content handles
  if (rest.dropWhile (· == .documentEnd)).isEmpty then pure (some (.ofRoot root)) else none

/-- Read a stream with at most one document. -/
def Document.read (text : String) : Option (Option Document) :=
  (Token.scan text).bind Document.ofTokens?

end DocStore.Yaml
