import DocStore.Text.Digits
import DocStore.Yaml.Char

/-!
# Tags

A tag says of what kind a node is. It is a row of bytes: in a stream any byte may be written
percent-encoded, so a tag need not be a text. What stands behind a zero byte does not count.

Percent-encoded bytes stand for characters: a first byte says how many follow it, and those say
that they follow. Whether the character exists is not asked.
-/

namespace DocStore.Yaml

/-- The kind of a node. -/
structure Tag where
  bytes : List UInt8
deriving DecidableEq, Repr, Inhabited

namespace Tag

def ofText (text : String) : Tag := ⟨text.toUTF8.toList⟩

/-- A tag of the core schema. -/
def core (name : String) : Tag := ofText ("tag:yaml.org,2002:" ++ name)

/-- The tag up to its first zero byte. -/
def ofBytes (bytes : List UInt8) : Tag := ⟨bytes.takeWhile (· != 0)⟩

def append (first second : Tag) : Tag := ⟨first.bytes ++ second.bytes⟩

def isEmpty (t : Tag) : Bool := t.bytes.isEmpty

/-- A tag that begins with `!`. -/
def isMarked (t : Tag) : Bool := t.bytes.head? == some 0x21

/-- A tag that begins with `!` and goes on with a text. -/
def isLocal (t : Tag) : Bool :=
  t.isMarked && (String.fromUTF8? ⟨(t.bytes.drop 1).toArray⟩).isSome

/-! ## Reading -/

/-- A character of an address besides those of names. -/
def isAddressMark (c : Char) : Bool :=
  [';', '/', '?', ':', '@', '&', '=', '+', '$', '.', '!', '~', '*', '\'', '(', ')'].contains c

/-- How many bytes a character takes, by its first byte. -/
def width? (first : UInt8) : Option Nat :=
  if first < 0x80 then some 1
  else if first < 0xC0 then none
  else if first < 0xE0 then some 2
  else if first < 0xF0 then some 3
  else if first < 0xF8 then some 4
  else none

/-- Read a percent-encoded byte. -/
def readByte : List Char → Option (UInt8 × List Char)
  | '%' :: a :: b :: rest => (Digits.number? 16 [a, b]).map fun n => (n.toUInt8, rest)
  | _ => none

/-- Read the last `n` bytes of a character. -/
def readFollowing : Nat → List Char → Option (List UInt8 × List Char)
  | 0, text => some ([], text)
  | n + 1, text => do
    let (byte, rest) ← readByte text
    if byte < 0x80 || 0xC0 ≤ byte then none
    let (bytes, rest) ← readFollowing n rest
    pure (byte :: bytes, rest)

/-- Read a percent-encoded character. -/
def readEncoded (text : List Char) : Option (List UInt8 × List Char) := do
  let (first, rest) ← readByte text
  let width ← width? first
  let (bytes, rest) ← readFollowing (width - 1) rest
  pure (first :: bytes, rest)

/-- Read the address part of a tag; `done` is reversed. Inside brackets more characters may stand
in it. -/
def readAddress (brackets : Bool) : Nat → List UInt8 → List Char → Option (List UInt8 × List Char)
  | 0, done, rest => some (done.reverse, rest)
  | fuel + 1, done, rest =>
    match rest with
    | [] => some (done.reverse, [])
    | c :: more =>
      if c == '%' then do
        let (bytes, after) ← readEncoded rest
        readAddress brackets fuel (bytes.reverse ++ done) after
      else if isNameChar c || isAddressMark c
          || (brackets && (c == ',' || c == '[' || c == ']')) then
        readAddress brackets fuel (c.toNat.toUInt8 :: done) more
      else some (done.reverse, rest)

/-- Read a tag handle: `!`, then a name, then perhaps another `!`. -/
def readHandle (text : List Char) : Option (String × List Char) :=
  match text with
  | '!' :: rest =>
    let (name, rest) := rest.span isNameChar
    match rest with
    | '!' :: rest => some (String.ofList ('!' :: name ++ ['!']), rest)
    | _ => some (String.ofList ('!' :: name), rest)
  | _ => none

/-- A handle that is closed by a second `!`. -/
def isClosedHandle (handle : String) : Bool :=
  1 < handle.length && handle.toList.getLast? == some '!'

/-- Read a tag: its handle, its suffix and what follows. A tag without a handle of its own is
`!` and a suffix; the lone `!` is a suffix without a handle. -/
def read (text : List Char) : Option (String × Tag × List Char) :=
  match text with
  | '!' :: '<' :: rest => do
    let (suffix, rest) ← readAddress true rest.length [] rest
    if suffix.isEmpty then none
    match rest with
    | '>' :: rest => pure ("", ofBytes suffix, rest)
    | _ => none
  | _ => do
    let (handle, rest) ← readHandle text
    if isClosedHandle handle then
      let (suffix, rest) ← readAddress false rest.length [] rest
      if suffix.isEmpty then none
      pure (handle, ofBytes suffix, rest)
    else
      let name := (ofText handle).bytes.drop 1
      let (suffix, rest) ← readAddress false rest.length name.reverse rest
      let tag := ofBytes suffix
      if tag.isEmpty then pure ("", ofText "!", rest) else pure ("!", tag, rest)

/-- Read what a tag handle stands for. -/
def readDefinition (text : List Char) : Option (String × Tag × List Char) := do
  let (handle, rest) ← readHandle (text.dropWhile isBlank)
  if handle ≠ "!" && !isClosedHandle handle then none
  if !(rest.head?.any isBlank) then none
  let text := rest.dropWhile isBlank
  let (start, rest) ← readAddress true text.length [] text
  if start.isEmpty || !atGap rest then none
  pure (handle, ofBytes start, rest)

example : read "!!int%00 5".toList = some ("!!", ofText "int", " 5".toList) := by decide +kernel
example : read "!%00 5".toList = some ("", ofText "!", " 5".toList) := by decide +kernel
example : read "!a%ff 5".toList = none := by decide +kernel

end Tag

end DocStore.Yaml
