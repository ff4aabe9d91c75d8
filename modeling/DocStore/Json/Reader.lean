import DocStore.Json.Doc

/-!
# Reading JSON

`Doc.read` accepts one document with blanks around it and nothing else. Blanks are the space, the
tab and the two line ends. A string may not hold a bare control character. Escaped surrogates stand
for a character in pairs; a string where one stands alone is read, but is no text.
-/

namespace DocStore.Json

def isBlank (c : Char) : Bool :=
  c == ' ' || c == '\n' || c == '\t' || c == '\r'

def skipBlanks (cs : List Char) : List Char := cs.dropWhile isBlank

/-- The code unit of four hexadecimal digits. -/
def codeUnit? (a b c d : Char) : Option Nat :=
  Digits.number? 16 [a, b, c, d]

/-- The character of a two-character escape. -/
def escaped? : Char → Option Char
  | '"' => some '"'
  | '\\' => some '\\'
  | '/' => some '/'
  | 'b' => some '\x08'
  | 'f' => some '\x0c'
  | 'n' => some '\n'
  | 'r' => some '\r'
  | 't' => some '\t'
  | _ => none

/-- A string read so far: its characters, last first, until it turns out to be no text. After the
first half of a surrogate pair the second half has to follow. -/
structure StringSoFar where
  done : Option (List Char)
  high : Option Nat
deriving Repr

namespace StringSoFar

def start : StringSoFar := ⟨some [], none⟩

/-- The string goes on with a character. -/
def push (s : StringSoFar) (c : Char) : StringSoFar :=
  ⟨if s.high.isSome then none else s.done.map (c :: ·), none⟩

/-- The string goes on with an escaped code unit. -/
def pushUnit (s : StringSoFar) (unit : Nat) : StringSoFar :=
  let isLow := 0xDC00 ≤ unit ∧ unit ≤ 0xDFFF
  match s.high with
  | some high =>
    if isLow then
      let code := 0x10000 + (high - 0xD800) * 0x400 + (unit - 0xDC00)
      ⟨s.done.map (Char.ofNat code :: ·), none⟩
    else ⟨none, none⟩
  | none =>
    if 0xD800 ≤ unit ∧ unit ≤ 0xDBFF then { s with high := some unit }
    else if isLow then ⟨none, none⟩
    else s.push (Char.ofNat unit)

/-- The text of the whole string, if it is one. -/
def finish (s : StringSoFar) : Option String :=
  if s.high.isSome then none else s.done.map fun done => String.ofList done.reverse

end StringSoFar

/-- Read a string up to its closing quote. -/
def readString (s : StringSoFar) : List Char → Option (Option String × List Char)
  | [] => none
  | '"' :: rest => some (s.finish, rest)
  | '\\' :: 'u' :: a :: b :: c :: d :: rest =>
    match codeUnit? a b c d with
    | some unit => readString (s.pushUnit unit) rest
    | none => none
  | '\\' :: e :: rest =>
    match escaped? e with
    | some c => readString (s.push c) rest
    | none => none
  | c :: rest => if c.toNat < 0x20 || c == '\\' then none else readString (s.push c) rest

/-- Read a numeral: no leading zero, digits on both sides of a point and after an exponent mark. -/
def readNumeral (cs : List Char) : Option (Numeral × List Char) :=
  let (negative, cs) := match cs with
    | '-' :: rest => (true, rest)
    | _ => (false, cs)
  let (whole, cs) := cs.span Char.isDigit
  if whole.isEmpty || (whole.head? == some '0' && whole.length > 1) then none
  else
    let fraction? := match cs with
      | '.' :: rest =>
        let (digits, rest) := rest.span Char.isDigit
        if digits.isEmpty then none else some (digits, rest, true)
      | _ => some ([], cs, false)
    match fraction? with
    | none => none
    | some (fraction, cs, pointed) =>
      let exponent? : Option (Int × List Char × Bool) :=
        match cs with
        | e :: rest =>
          if e == 'e' || e == 'E' then
            let (minus, rest) := match rest with
              | '-' :: rest => (true, rest)
              | '+' :: rest => (false, rest)
              | _ => (false, rest)
            let (digits, rest) := rest.span Char.isDigit
            if digits.isEmpty then none
            else
              let n : Int := Digits.fold 10 0 digits
              some (if minus then -n else n, rest, true)
          else some (0, cs, false)
        | [] => some (0, cs, false)
      match exponent? with
      | none => none
      | some (exponent, cs, raised) =>
        some ({ negative
                digits := Digits.fold 10 0 (whole ++ fraction)
                scale := exponent - fraction.length
                whole := !pointed && !raised }, cs)

mutual

/-- Read a document from the front of a text. Each step down spends one unit of fuel. -/
def readDoc : Nat → List Char → Option (Doc × List Char)
  | 0, _ => none
  | fuel + 1, cs =>
    match skipBlanks cs with
    | 'n' :: 'u' :: 'l' :: 'l' :: rest => some (.null, rest)
    | 't' :: 'r' :: 'u' :: 'e' :: rest => some (.bool true, rest)
    | 'f' :: 'a' :: 'l' :: 's' :: 'e' :: rest => some (.bool false, rest)
    | '"' :: rest => (readString .start rest).map fun (s, rest) => (.string s, rest)
    | '[' :: rest =>
      match skipBlanks rest with
      | ']' :: rest => some (.array [], rest)
      | _ => (readItems fuel rest).map fun (items, rest) => (.array items, rest)
    | '{' :: rest =>
      match skipBlanks rest with
      | '}' :: rest => some (.object [], rest)
      | _ => (readMembers fuel rest).map fun (members, rest) => (.object members, rest)
    | cs => (readNumeral cs).map fun (n, rest) => (.number n, rest)

/-- Read the items of a list that has at least one, up to the closing bracket. -/
def readItems : Nat → List Char → Option (List Doc × List Char)
  | 0, _ => none
  | fuel + 1, cs =>
    match readDoc fuel cs with
    | none => none
    | some (item, rest) =>
      match skipBlanks rest with
      | ']' :: rest => some ([item], rest)
      | ',' :: rest => (readItems fuel rest).map fun (items, rest) => (item :: items, rest)
      | _ => none

/-- Read the members of an object that has at least one, up to the closing brace. -/
def readMembers : Nat → List Char → Option (List (Option String × Doc) × List Char)
  | 0, _ => none
  | fuel + 1, cs =>
    match skipBlanks cs with
    | '"' :: rest =>
      match readString .start rest with
      | none => none
      | some (key, rest) =>
        match skipBlanks rest with
        | ':' :: rest =>
          match readDoc fuel rest with
          | none => none
          | some (item, rest) =>
            match skipBlanks rest with
            | '}' :: rest => some ([(key, item)], rest)
            | ',' :: rest =>
              (readMembers fuel rest).map fun (members, rest) => ((key, item) :: members, rest)
            | _ => none
        | _ => none
    | _ => none

end

/-- Read a text that is one document. -/
def Doc.read (text : String) : Option Doc :=
  let cs := text.toList
  match readDoc (2 * cs.length + 2) cs with
  | some (doc, rest) => if (skipBlanks rest).isEmpty then some doc else none
  | none => none

/-- Read a text that is one document and has a value. -/
def read? (text : String) : Option Value :=
  (Doc.read text).bind (Doc.toValue? maxDepth)

example : read? "\x7b\"b\": 1, \"a\": [true, null], \"b\": -0\x7d"
    = some (.object [("a", .array [.bool true, .null]), ("b", .float (.zero true))]) := by
  decide +kernel
example : read? "[1,]" = none := by decide +kernel
example : read? "\"\\ud83d\\ude00\"" = some (.string "😀") := by decide +kernel
example : read? "\"\\ud83d\"" = none := by decide +kernel

end DocStore.Json
