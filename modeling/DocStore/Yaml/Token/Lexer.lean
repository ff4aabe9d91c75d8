import DocStore.Yaml.Cursor

/-!
# From text to tokens

`Token.scan` cuts a stream into tokens. Two things are not written in the text and follow from it:

* blocks, from columns: a token right of the indentation opens a block, one left of it closes
  every block that is deeper;
* keys: what stands before a `:` on one line is a key, so the place of anything that might be a key
  is remembered, and the tokens that say so are put there once the `:` is seen.
-/

namespace DocStore.Yaml

/-- Something that is a key if a `:` follows on its line. A required one has to be. -/
structure PendingKey where
  required : Bool
  place : Nat
  index : Nat
  line : Nat
  column : Nat
deriving Repr

/-- How far a stream has been cut. `outer` holds the pending keys around the innermost brackets,
so it is as long as brackets are deep; `indents` holds the indentations around the present block. -/
structure Lexer where
  cursor : Cursor
  indent : Int
  indents : List Int
  keyAllowed : Bool
  pending : Option PendingKey
  outer : List (Option PendingKey)
  tokens : Array Token
deriving Repr

namespace Lexer

def start (text : List Char) : Lexer :=
  { cursor := .start text, indent := -1, indents := [], keyAllowed := true
    pending := none, outer := [], tokens := #[] }

def inFlow (l : Lexer) : Bool := !l.outer.isEmpty

def emit (l : Lexer) (t : Token) : Lexer := { l with tokens := l.tokens.push t }

/-- Pass over the next `n` characters of the line. -/
def skip (l : Lexer) (n : Nat) : Lexer := { l with cursor := l.cursor.skipN n }

def allow (l : Lexer) (allowed : Bool) : Lexer := { l with keyAllowed := allowed }

/-! ## Between tokens -/

/-- Pass over blanks, comments and line ends. Outside brackets a new line may begin with a key, and
where a key may stand a tab is no blank. A byte order mark at the start of a line is passed over,
but takes a column. -/
def skipGap : Nat → Lexer → Lexer
  | 0, l => l
  | fuel + 1, l =>
    let c := if l.cursor.column = 0 && l.cursor.peek? == some '\ufeff' then l.cursor.skip
      else l.cursor
    let c := c.skipWhile fun ch => ch == ' ' || ((l.inFlow || !l.keyAllowed) && ch == '\t')
    let c := if c.peek? == some '#' then c.skipWhile fun ch => !isBreak ch else c
    match c.takeBreak with
    | ([], _) => { l with cursor := c }
    | (_, c) => skipGap fuel { l with cursor := c, keyAllowed := l.keyAllowed || !l.inFlow }

/-- How many bytes behind its start a key may end. -/
def maxKeyLength : Nat := 1024

/-- A pending key that the cursor has left behind. -/
def isStale (c : Cursor) (k : PendingKey) : Bool :=
  k.line < c.line || k.index + maxKeyLength < c.index

/-- Forget a pending key that has become stale, unless it was required. -/
def refresh (c : Cursor) : Option PendingKey → Option (Option PendingKey)
  | none => some none
  | some k => if isStale c k then (if k.required then none else some none) else some (some k)

/-- Forget stale pending keys at every level. -/
def dropStale (l : Lexer) : Option Lexer := do
  let pending ← refresh l.cursor l.pending
  let outer ← l.outer.mapM (refresh l.cursor)
  pure { l with pending, outer }

/-- Forget the pending key of this level, unless it is required. -/
def forgetKey (l : Lexer) : Option Lexer :=
  match l.pending with
  | some k => if k.required then none else some { l with pending := none }
  | none => some l

/-- Remember that a key may start here. -/
def rememberKey (l : Lexer) : Option Lexer :=
  if l.keyAllowed then do
    let c := l.cursor
    let key : PendingKey :=
      { required := !l.inFlow && l.indent = c.column, place := l.tokens.size
        index := c.index, line := c.line, column := c.column }
    let l ← l.forgetKey
    pure { l with pending := some key }
  else some l

/-! ## Blocks -/

/-- Close blocks that are deeper than `column`. -/
def closeBlocks (column indent : Int) (tokens : Array Token) : List Int → Lexer → Lexer
  | [], l => { l with indent, indents := [], tokens }
  | around :: rest, l =>
    if column < indent then closeBlocks column around (tokens.push .blockEnd) rest l
    else { l with indent, indents := around :: rest, tokens }

/-- Close blocks that are deeper than `column`, unless inside brackets. -/
def close (l : Lexer) (column : Int) : Lexer :=
  if l.inFlow then l else closeBlocks column l.indent l.tokens l.indents l

/-- Open a block at `column` if that is deeper than the present one; its token goes to `place`. -/
def openBlock (l : Lexer) (column : Nat) (place : Nat) (t : Token) : Lexer :=
  if !l.inFlow && l.indent < column then
    { l with
      indent := column, indents := l.indent :: l.indents
      tokens := l.tokens.insertIdxIfInBounds place t }
  else l

/-! ## Indicators -/

/-- Open brackets. They may start a key. -/
def openFlow (l : Lexer) (t : Token) : Option Lexer := do
  let l ← l.rememberKey
  pure (({ l with outer := l.pending :: l.outer, pending := none }.allow true).skip 1 |>.emit t)

/-- Close brackets. -/
def closeFlow (l : Lexer) (t : Token) : Option Lexer := do
  let l ← l.forgetKey
  let l := match l.outer with
    | [] => l
    | around :: outer => { l with pending := around, outer }
  pure ((l.allow false).skip 1 |>.emit t)

def flowEntry (l : Lexer) : Option Lexer := do
  let l ← l.forgetKey
  pure ((l.allow true).skip 1 |>.emit .flowEntry)

/-- An item of a list that is a block. -/
def blockEntry (l : Lexer) : Option Lexer := do
  if !l.inFlow && !l.keyAllowed then none
  let l := l.openBlock l.cursor.column l.tokens.size .blockSequenceStart
  let l ← l.forgetKey
  pure ((l.allow true).skip 1 |>.emit .blockEntry)

/-- A key that is marked as such. -/
def markedKey (l : Lexer) : Option Lexer := do
  if !l.inFlow && !l.keyAllowed then none
  let l := l.openBlock l.cursor.column l.tokens.size .blockMappingStart
  let l ← l.forgetKey
  pure ((l.allow (!l.inFlow)).skip 1 |>.emit .key)

/-- The `:` before a value. If a key was pending, its tokens are put in place. -/
def value (l : Lexer) : Option Lexer :=
  match l.pending with
  | some k =>
    let l := { l with tokens := l.tokens.insertIdxIfInBounds k.place .key, pending := none }
    let l := (l.openBlock k.column k.place .blockMappingStart).allow false
    some (l.skip 1 |>.emit .value)
  | none =>
    if !l.inFlow && !l.keyAllowed then none
    else
      let l := l.openBlock l.cursor.column l.tokens.size .blockMappingStart
      some ((l.allow (!l.inFlow)).skip 1 |>.emit .value)

/-- A marker between documents. -/
def marker (l : Lexer) (t : Token) : Option Lexer := do
  let l ← (l.close (-1)).forgetKey
  pure ((l.allow false).skip 3 |>.emit t)

/-! ## Names and tags -/

/-- Read the name of an anchor behind its indicator. -/
def anchor (l : Lexer) (mk : String → Token) : Option Lexer := do
  let l := (← l.rememberKey).allow false |>.skip 1
  let name := l.cursor.rest.takeWhile isNameChar
  let l := l.skip name.length
  let ends := atGap l.cursor.rest
    || (l.cursor.peek?.any fun c => ['?', ':', ',', ']', '\x7d', '%', '@', '`'].contains c)
  if name.isEmpty || !ends then none
  pure (l.emit (mk (String.ofList name)))

/-- A tag. A gap has to follow, or a comma inside brackets. -/
def tag (l : Lexer) : Option Lexer := do
  let l := (← l.rememberKey).allow false
  let (handle, suffix, rest) ← Tag.read l.cursor.rest
  if !atGap rest && !(l.inFlow && rest.head? == some ',') then none
  let l := l.skip (l.cursor.rest.length - rest.length)
  pure (l.emit (.tag handle suffix))

/-! ## Directives -/

/-- Read a part of a version: up to nine digits. -/
def readVersionPart (text : List Char) : Option (Nat × List Char) := do
  let (digits, rest) := text.span Char.isDigit
  if 9 < digits.length then none
  let n ← Digits.number? 10 digits
  pure (n, rest)

def readVersion (text : List Char) : Option (Token × List Char) := do
  let (major, rest) ← readVersionPart (text.dropWhile isBlank)
  match rest with
  | '.' :: rest =>
    let (minor, rest) ← readVersionPart rest
    pure (.version major minor, rest)
  | _ => none

/-- A directive takes its line, a comment behind it included. -/
def directive (l : Lexer) : Option Lexer := do
  let l := (← (l.close (-1)).forgetKey).allow false
  let (name, rest) := (l.cursor.rest.drop 1).span isNameChar
  if !atGap rest then none
  let (t, rest) ← match String.ofList name with
    | "YAML" => readVersion rest
    | "TAG" => (Tag.readDefinition rest).map fun (handle, start, rest) =>
      (.tagHandle handle start, rest)
    | _ => none
  let c := (l.cursor.skipN (l.cursor.rest.length - rest.length)).skipWhile isBlank
  let c := if c.peek? == some '#' then c.skipWhile fun ch => !isBreak ch else c
  if !atBreak c.rest then none
  pure ({ l with cursor := c.takeBreak.2 }.emit t)

/-! ## Scalars -/

def blockScalar (l : Lexer) (literal : Bool) : Option Lexer := do
  let l := (← l.forgetKey).allow true |>.skip 1
  let (text, cursor) ← readBlock literal l.indent l.cursor
  pure ({ l with cursor }.emit (.scalar (String.ofList text) false))

def quotedScalar (l : Lexer) (single : Bool) : Option Lexer := do
  let l := (← l.rememberKey).allow false |>.skip 1
  let (text, cursor) ← readQuoted single (l.cursor.rest.length + 1) [] l.cursor
  pure ({ l with cursor }.emit (.scalar (String.ofList text) false))

def plainScalar (l : Lexer) : Option Lexer := do
  let l := (← l.rememberKey).allow false
  let (text, broken, cursor) ←
    readPlain l.inFlow (l.indent + 1) (l.cursor.rest.length + 1) [] Gap.none l.cursor
  pure ({ l with cursor, keyAllowed := broken }.emit (.scalar (String.ofList text) true))

/-- These characters start no plain scalar. -/
def isIndicator (c : Char) : Bool :=
  ['-', '?', ':', ',', '[', ']', '\x7b', '\x7d', '#', '&', '*', '!', '|', '>', '\'', '"', '%', '@',
    '`'].contains c

/-- A plain scalar may start here. -/
def startsPlain (inFlow : Bool) : List Char → Bool
  | [] => false
  | c :: rest =>
    (!isBlank c && !isBreak c && !isIndicator c)
      || (c == '-' && !(rest.head?.any isBlank))
      || (!inFlow && (c == '?' || c == ':') && !atGap rest)

/-! ## Tokens -/

/-- Cut the next token, or nothing at the end of the stream. -/
def next (l : Lexer) : Option (Option Lexer) := do
  let l ← (skipGap (l.cursor.rest.length + 1) l).dropStale
  let l := l.close l.cursor.column
  match l.cursor.rest with
  | [] => pure none
  | c :: rest =>
    let atStart := l.cursor.column == 0
    some <$>
      if atStart && c == '%' then l.directive
      else if atStart && atMarker '-' l.cursor.rest then l.marker .documentStart
      else if atStart && atMarker '.' l.cursor.rest then l.marker .documentEnd
      else if c == '[' then l.openFlow .flowSequenceStart
      else if c == '\x7b' then l.openFlow .flowMappingStart
      else if c == ']' then l.closeFlow .flowSequenceEnd
      else if c == '\x7d' then l.closeFlow .flowMappingEnd
      else if c == ',' then l.flowEntry
      else if c == '-' && atGap rest then l.blockEntry
      else if c == '?' && (l.inFlow || atGap rest) then l.markedKey
      else if c == ':' && (l.inFlow || atGap rest) then l.value
      else if c == '*' then l.anchor .alias
      else if c == '&' then l.anchor .anchor
      else if c == '!' then l.tag
      else if c == '|' && !l.inFlow then l.blockScalar true
      else if c == '>' && !l.inFlow then l.blockScalar false
      else if c == '\'' then l.quotedScalar true
      else if c == '"' then l.quotedScalar false
      else if startsPlain l.inFlow l.cursor.rest then l.plainScalar
      else none

/-- Close everything at the end of the stream. -/
def finish (l : Lexer) : Option (List Token) := do
  let c := l.cursor
  let c := if c.column = 0 then c else { c with line := c.line + 1, column := 0 }
  let l ← ({ l with cursor := c }.close (-1)).forgetKey
  pure l.tokens.toList

/-- Cut tokens up to the end of the stream, one for each unit of fuel. -/
def run : Nat → Lexer → Option (List Token)
  | 0, l => l.finish
  | fuel + 1, l => do
    match ← l.next with
    | none => (skipGap (l.cursor.rest.length + 1) l).finish
    | some l => run fuel l

end Lexer

/-- The tokens of a text. -/
def Token.scan (text : String) : Option (List Token) :=
  let cs := text.toList
  if cs.all isAllowed then Lexer.run (cs.length + 1) (.start cs) else none

example : Token.scan "a: 1\n"
    = some [.blockMappingStart, .key, .scalar "a" true, .value, .scalar "1" true, .blockEnd] := by
  decide +kernel
example : Token.scan "a: b: c" = none := by decide +kernel

end DocStore.Yaml
