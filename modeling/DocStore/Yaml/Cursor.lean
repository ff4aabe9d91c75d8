import DocStore.Text.Digits
import DocStore.Yaml.Token

/-!
# Reading scalars

A cursor is a place in a stream: what is left of it, and the index, line and column reached. The
readers of plain, quoted and block scalars fold lines: one line break between two lines of a plain
or quoted scalar is a space, and each further one is kept.
-/

namespace DocStore.Yaml

/-- How many bytes characters take in UTF-8. -/
def byteLength (text : List Char) : Nat := (text.map Char.utf8Size).foldl (· + ·) 0

/-- A place in a stream. The index counts bytes, the column counts characters. -/
structure Cursor where
  rest : List Char
  index : Nat
  line : Nat
  column : Nat
deriving Repr

namespace Cursor

def start (text : List Char) : Cursor := ⟨text, 0, 0, 0⟩

/-- Pass over the next `n` characters of a line. -/
def skipN (c : Cursor) (n : Nat) : Cursor :=
  { c with
    rest := c.rest.drop n
    index := c.index + byteLength (c.rest.take n)
    column := c.column + n }

/-- Pass over one character of a line. -/
def skip (c : Cursor) : Cursor := c.skipN 1

/-- Pass over a line break, if there is one; gives what it stands for. -/
def takeBreak (c : Cursor) : List Char × Cursor :=
  match c.rest with
  | '\r' :: '\n' :: rest => (['\n'], ⟨rest, c.index + 2, c.line + 1, 0⟩)
  | b :: rest =>
    if isBreak b then
      let kept := if b == '\u2028' || b == '\u2029' then b else '\n'
      ([kept], ⟨rest, c.index + b.utf8Size, c.line + 1, 0⟩)
    else ([], c)
  | [] => ([], c)

/-- Pass over the characters that `p` accepts. -/
def skipWhile (c : Cursor) (p : Char → Bool) : Cursor :=
  c.skipN (c.rest.takeWhile p).length

/-- The character at the cursor. -/
def peek? (c : Cursor) : Option Char := c.rest.head?

/-- At the start of a line stands a marker of a document. -/
def atDocumentMarker (c : Cursor) : Bool :=
  c.column == 0 && (atMarker '-' c.rest || atMarker '.' c.rest)

end Cursor

/-! ## Folding -/

/-- The blanks and breaks between two parts of a scalar. -/
structure Gap where
  blanks : List Char
  first : List Char
  more : List Char
  broken : Bool
deriving Repr

def Gap.none : Gap := ⟨[], [], [], false⟩

/-- What a gap stands for inside a scalar. -/
def Gap.fold (g : Gap) : List Char :=
  if g.broken then
    if g.first.head? == some '\n' then (if g.more.isEmpty then [' '] else g.more)
    else g.first ++ g.more
  else g.blanks

/-- Read blanks and breaks. With `indent`, a tab before that column on a new line is refused. -/
def readGap (indent : Option Int) : Nat → Gap → Cursor → Option (Gap × Cursor)
  | 0, g, c => some (g, c)
  | fuel + 1, g, c =>
    match c.peek? with
    | none => some (g, c)
    | some ch =>
      if isBlank ch then
        let early := match indent with
          | some n => g.broken && (c.column : Int) < n && ch == '\t'
          | none => false
        if early then none
        else
          let g := if g.broken then g else { g with blanks := g.blanks ++ [ch] }
          readGap indent fuel g c.skip
      else if isBreak ch then
        let (text, c) := c.takeBreak
        if g.broken then readGap indent fuel { g with more := g.more ++ text } c
        else readGap indent fuel { g with blanks := [], first := text, broken := true } c
      else some (g, c)

/-! ## Plain scalars -/

/-- Inside brackets these characters end a plain scalar. -/
def isFlowMark (c : Char) : Bool :=
  c == ',' || c == '[' || c == ']' || c == '\x7b' || c == '\x7d'

/-- Read the characters of a plain scalar up to a gap or an indicator; `done` is reversed. -/
def readPlainRun (inFlow : Bool) : List Char → List Char → Option (List Char × List Char)
  | done, [] => some (done, [])
  | done, c :: rest =>
    if isBlank c || isBreak c then some (done, c :: rest)
    else if inFlow && c == ':' && (match rest with
        | d :: _ => isFlowMark d || d == '?'
        | [] => false) then none
    else if (c == ':' && atGap rest) || (inFlow && isFlowMark c) then some (done, c :: rest)
    else readPlainRun inFlow (c :: done) rest

/-- Read a plain scalar whose parts so far are `done`, reversed. Says also whether a line break was
passed behind it. -/
def readPlain (inFlow : Bool) (indent : Int) :
    Nat → List Char → Gap → Cursor → Option (List Char × Bool × Cursor)
  | 0, done, g, c => some (done.reverse, g.broken, c)
  | fuel + 1, done, g, c =>
    if c.atDocumentMarker || c.peek? == some '#' then some (done.reverse, g.broken, c)
    else
      match readPlainRun inFlow [] c.rest with
      | none => none
      | some (run, _) =>
        let (done, g) :=
          if run.isEmpty then (done, g) else (run ++ g.fold.reverse ++ done, Gap.none)
        let c := c.skipN run.length
        if c.rest.isEmpty || !atGap c.rest then some (done.reverse, g.broken, c)
        else
          match readGap (some indent) (c.rest.length + 1) g c with
          | none => none
          | some (g, c) =>
            if !inFlow && (c.column : Int) < indent then some (done.reverse, g.broken, c)
            else readPlain inFlow indent fuel done g c

/-! ## Quoted scalars -/

/-- What a one-letter escape stands for. -/
def escaped? : Char → Option Char
  | '0' => some '\x00'
  | 'a' => some '\x07'
  | 'b' => some '\x08'
  | 't' | '\t' => some '\t'
  | 'n' => some '\n'
  | 'v' => some '\x0b'
  | 'f' => some '\x0c'
  | 'r' => some '\r'
  | 'e' => some '\x1b'
  | ' ' => some ' '
  | '"' => some '"'
  | '/' => some '/'
  | '\\' => some '\\'
  | 'N' => some '\u0085'
  | '_' => some '\u00a0'
  | 'L' => some '\u2028'
  | 'P' => some '\u2029'
  | _ => none

/-- How many digits follow the mark of a numeric escape. -/
def escapeDigits? : Char → Option Nat
  | 'x' => some 2
  | 'u' => some 4
  | 'U' => some 8
  | _ => none

/-- Read an escape behind its backslash: the character and how many characters it takes. -/
def readEscape : List Char → Option (Char × Nat)
  | [] => none
  | c :: rest =>
    match escaped? c with
    | some e => some (e, 1)
    | none => do
      let count ← escapeDigits? c
      let digits := rest.take count
      if digits.length < count then none
      let code ← Digits.number? 16 digits
      if (0xD800 ≤ code && code ≤ 0xDFFF) || 0x10FFFF < code then none
      some (Char.ofNat code, count + 1)

/-- Read the characters of a quoted scalar up to a gap or the closing quote; `done` is reversed.
Says also whether an escaped line break ended the run. -/
def readQuotedRun (single : Bool) :
    Nat → List Char → Cursor → Option (List Char × Bool × Cursor)
  | 0, _, _ => none
  | fuel + 1, done, c =>
    match c.rest with
    | [] => some (done, false, c)
    | ch :: rest =>
      if isBlank ch || isBreak ch then some (done, false, c)
      else if single then
        if ch == '\'' then
          if rest.head? == some '\'' then readQuotedRun single fuel ('\'' :: done) (c.skipN 2)
          else some (done, false, c)
        else readQuotedRun single fuel (ch :: done) c.skip
      else if ch == '"' then some (done, false, c)
      else if ch == '\\' then
        match rest with
        | [] => none
        | b :: _ =>
          if isBreak b then some (done, true, c.skip.takeBreak.2)
          else
            match readEscape rest with
            | none => none
            | some (e, count) => readQuotedRun single fuel (e :: done) (c.skipN (count + 1))
      else readQuotedRun single fuel (ch :: done) c.skip

/-- Read a quoted scalar behind its opening quote; `done` is reversed. -/
def readQuoted (single : Bool) : Nat → List Char → Cursor → Option (List Char × Cursor)
  | 0, _, _ => none
  | fuel + 1, done, c =>
    if c.atDocumentMarker || c.rest.isEmpty then none
    else
      match readQuotedRun single (c.rest.length + 1) done c with
      | none => none
      | some (done, joined, c) =>
        let quote := if single then '\'' else '"'
        if !joined && c.peek? == some quote then some (done.reverse, c.skip)
        else
          match readGap none (c.rest.length + 1) { Gap.none with broken := joined } c with
          | none => none
          | some (g, c) => readQuoted single fuel (g.fold.reverse ++ done) c

/-! ## Block scalars -/

/-- What happens to the line breaks at the end of a block scalar. -/
inductive Chomping
  | strip
  | clip
  | keep
deriving DecidableEq, Repr

/-- Read the marks behind the indicator: the chomping and the indentation, if given. -/
def readBlockMarks (text : List Char) : Option (Chomping × Option Nat × Nat) :=
  let chomp? (c : Char) : Option Chomping :=
    if c == '+' then some .keep else if c == '-' then some .strip else none
  let digit? (c : Char) : Option Nat := if c.isDigit then some (c.toNat - '0'.toNat) else none
  match text with
  | [] => some (.clip, none, 0)
  | a :: rest =>
    match chomp? a with
    | some chomping =>
      match rest.head?.bind digit? with
      | some 0 => none
      | some n => some (chomping, some n, 2)
      | none => some (chomping, none, 1)
    | none =>
      match digit? a with
      | some 0 => none
      | some n =>
        match rest.head?.bind chomp? with
        | some chomping => some (chomping, some n, 2)
        | none => some (.clip, some n, 1)
      | none => some (.clip, none, 0)

/-- Read the breaks and the indentation before a line of a block scalar. An indentation of zero is
not known yet: then the deepest column seen is found. -/
def readIndentation (indent : Nat) :
    Nat → List Char → Nat → Cursor → Option (List Char × Nat × Cursor)
  | 0, breaks, deepest, c => some (breaks, deepest, c)
  | fuel + 1, breaks, deepest, c =>
    let spaces := (c.rest.takeWhile (· == ' ')).length
    let c := c.skipN (if indent = 0 then spaces else min spaces (indent - c.column))
    let deepest := max deepest c.column
    if (indent = 0 || c.column < indent) && c.peek? == some '\t' then none
    else
      match c.takeBreak with
      | ([], _) => some (breaks, deepest, c)
      | (text, c) => readIndentation indent fuel (breaks ++ text) deepest c

/-- Read the lines of a block scalar. `done` is reversed; `first` is the break behind the line read
last, `more` the breaks after it, and `blank` says whether that line began with a blank. -/
def readBlockLines (literal : Bool) (indent : Nat) :
    Nat → List Char → List Char → List Char → Bool → Cursor →
      Option (List Char × List Char × List Char × Cursor)
  | 0, done, first, more, _, c => some (done, first, more, c)
  | fuel + 1, done, first, more, blank, c =>
    if c.column ≠ indent || c.rest.isEmpty then some (done, first, more, c)
    else
      let startsBlank := match c.peek? with
        | some ch => isBlank ch
        | none => false
      let joint :=
        if !literal && first.head? == some '\n' && !blank && !startsBlank then
          (if more.isEmpty then [' '] else [])
        else first
      let line := c.rest.takeWhile fun ch => !isBreak ch
      let done := line.reverse ++ more.reverse ++ joint.reverse ++ done
      let (first, c) := (c.skipN line.length).takeBreak
      match readIndentation indent (c.rest.length + 1) [] 0 c with
      | none => none
      | some (more, _, c) => readBlockLines literal indent fuel done first more startsBlank c

/-- Read a block scalar behind its indicator; `parent` is the indentation of the block around. -/
def readBlock (literal : Bool) (parent : Int) (c : Cursor) : Option (List Char × Cursor) := do
  let (chomping, increment, count) ← readBlockMarks c.rest
  let c := (c.skipN count).skipWhile isBlank
  let c := if c.peek? == some '#' then c.skipWhile fun ch => !isBreak ch else c
  if !atBreak c.rest then none
  let c := c.takeBreak.2
  let given : Nat := match increment with
    | none => 0
    | some n => if 0 ≤ parent then parent.toNat + n else n
  let (more, deepest, c) ← readIndentation given (c.rest.length + 1) [] 0 c
  let indent := if given = 0 then max 1 (max deepest (parent + 1).toNat) else given
  let (done, first, more, c) ← readBlockLines literal indent (c.rest.length + 1) [] [] more false c
  let ending := match chomping with
    | .strip => []
    | .clip => first
    | .keep => first ++ more
  pure (done.reverse ++ ending, c)

end DocStore.Yaml
