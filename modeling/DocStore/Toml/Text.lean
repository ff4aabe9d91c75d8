import DocStore.Text.Digits

/-!
# Texts and blanks in TOML

Readers of the four kinds of quoted texts, of comments, and of what may stand between tokens. Each
takes the text from where it starts and gives what is left behind it.
-/

namespace DocStore.Toml

/-- A reader: what it read, and what is left. -/
abbrev Reader (α : Type) := List Char → Option (α × List Char)

def isBlank (c : Char) : Bool := c == ' ' || c == '\t'

/-- A character that may stand in a comment or in a text: no control character but the tab. -/
def isPrintable (c : Char) : Bool := c == '\t' || (0x20 ≤ c.toNat && c.toNat != 0x7F)

def skipBlanks (cs : List Char) : List Char := cs.dropWhile isBlank

/-- What follows a line end, if one comes next. -/
def afterLineEnd? : List Char → Option (List Char)
  | '\n' :: rest => some rest
  | '\r' :: '\n' :: rest => some rest
  | _ => none

/-- Pass over a comment, up to the end of its line. -/
def skipComment (cs : List Char) : List Char :=
  match cs with
  | '#' :: rest => rest.dropWhile isPrintable
  | _ => cs

/-- Pass over blanks, comments and line ends. -/
def skipGap : Nat → List Char → List Char
  | 0, cs => cs
  | fuel + 1, cs =>
    let cs := skipComment (skipBlanks cs)
    match afterLineEnd? cs with
    | some rest => skipGap fuel rest
    | none => cs

/-- Pass over the rest of a line, which holds nothing but blanks and a comment. -/
def endLine? (cs : List Char) : Option (List Char) :=
  match skipComment (skipBlanks cs) with
  | [] => some []
  | cs => afterLineEnd? cs

/-! ## Quoted texts -/

/-- What a one-letter escape stands for. -/
def escaped? : Char → Option Char
  | 'b' => some '\x08'
  | 't' => some '\t'
  | 'n' => some '\n'
  | 'f' => some '\x0c'
  | 'r' => some '\r'
  | '"' => some '"'
  | '\\' => some '\\'
  | _ => none

/-- The character with the number that `count` hexadecimal digits give. -/
def numbered? (count : Nat) (cs : List Char) : Option (Char × List Char) := do
  let digits := cs.take count
  if digits.length < count then none
  let code ← Digits.number? 16 digits
  if (0xD800 ≤ code && code ≤ 0xDFFF) || 0x10FFFF < code then none
  pure (Char.ofNat code, cs.drop count)

/-- Read an escape behind its backslash. -/
def readEscape : Reader Char
  | 'u' :: rest => numbered? 4 rest
  | 'U' :: rest => numbered? 8 rest
  | c :: rest => (escaped? c).map (·, rest)
  | [] => none

/-- Read a quoted text of one line behind its opening quote. -/
def readLine (quote : Char) (escapes : Bool) : Nat → List Char → Reader String
  | 0, _, _ => none
  | fuel + 1, done, cs =>
    match cs with
    | [] => none
    | c :: rest =>
      if c == quote then some (String.ofList done.reverse, rest)
      else if escapes && c == '\\' then do
        let (e, rest) ← readEscape rest
        readLine quote escapes fuel (e :: done) rest
      else if isPrintable c then readLine quote escapes fuel (c :: done) rest
      else none

/-- Pass over blanks and line ends. -/
def skipLines : List Char → List Char
  | '\r' :: '\n' :: rest => skipLines rest
  | c :: rest => if isBlank c || c == '\n' then skipLines rest else c :: rest
  | [] => []

/-- Pass over an escaped line end and all blanks and line ends behind it. -/
def afterJoin? (cs : List Char) : Option (List Char) :=
  (afterLineEnd? (skipBlanks cs)).map skipLines

/-- Read a text of several lines behind its opening quotes. The last three quotes of a row close
it. -/
def readLines (quote : Char) (escapes : Bool) : Nat → List Char → Reader String
  | 0, _, _ => none
  | fuel + 1, done, cs =>
    match cs with
    | [] => none
    | c :: rest =>
      if c == quote then
        let row := (cs.takeWhile (· == quote)).length
        if row < 3 then
          readLines quote escapes fuel (List.replicate row quote ++ done) (cs.drop row)
        else
          let kept := min (row - 3) 2
          some (String.ofList (List.replicate kept quote ++ done).reverse, cs.drop (kept + 3))
      else if escapes && c == '\\' then
        match afterJoin? rest with
        | some after => readLines quote escapes fuel done after
        | none => do
          let (e, rest) ← readEscape rest
          readLines quote escapes fuel (e :: done) rest
      else
        match afterLineEnd? cs with
        | some after => readLines quote escapes fuel ('\n' :: done) after
        | none => if isPrintable c then readLines quote escapes fuel (c :: done) rest else none

/-- A line end right behind the opening quotes does not count. -/
def dropFirstLineEnd (cs : List Char) : List Char := (afterLineEnd? cs).getD cs

/-- Read a quoted text on one line. -/
def readQuoted : Reader String
  | '"' :: rest => readLine '"' true (rest.length + 1) [] rest
  | '\'' :: rest => readLine '\'' false (rest.length + 1) [] rest
  | _ => none

/-- Read a text of any kind. -/
def readText (cs : List Char) : Option (String × List Char) :=
  match cs with
  | '"' :: '"' :: '"' :: rest => readLines '"' true (rest.length + 1) [] (dropFirstLineEnd rest)
  | '\'' :: '\'' :: '\'' :: rest =>
    readLines '\'' false (rest.length + 1) [] (dropFirstLineEnd rest)
  | _ => readQuoted cs

example : readText "\"a\\tb\" x".toList = some ("a\tb", " x".toList) := by decide +kernel
example : readText "'''\n'a''''".toList = some ("'a'", []) := by decide +kernel
example : readText "\"\"\"a \\\n  b\"\"\"".toList = some ("a b", []) := by decide +kernel
example : readText "\"\"\"a\\\n\rb\"\"\"".toList = none := by decide +kernel

end DocStore.Toml
