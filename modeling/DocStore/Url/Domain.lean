import DocStore.Text.Pieces
import DocStore.Unicode.Direction
import DocStore.Unicode.Joining
import DocStore.Unicode.NameMapping
import DocStore.Unicode.Normal
import DocStore.Url.Punycode

/-!
# Domain names

A domain name is compared in its ASCII form. Every character is replaced by what it stands for, and
the result is composed; then each label has to be sound:

* no character is left that no name holds;
* it does not begin with a mark, and joiners stand where they change the look of a word;
* in a name with letters from right to left, the directions inside each label go together.

A label that is not ASCII is written in Punycode, marked by `xn--`. A label that comes so marked
has to hold the encoding of a sound label that nothing would be replaced in.

Results:
  * `ascii?_isAscii`: the ASCII form of a name is ASCII.
-/

namespace DocStore.Domain

open Unicode

/-! ## Characters -/

/-- ASCII characters that no domain name holds. -/
def isForbidden (c : Char) : Bool :=
  c.toNat ≤ 0x20 || c.toNat == 0x7F
    || ['#', '/', ':', '<', '>', '?', '@', '[', '\\', ']', '^', '|', '%'].contains c

/-- What a character stands for. -/
def standsFor? (c : Char) : Option (List Nat) :=
  if c.toNat < 0x80 then some [c.toLower.toNat] else inName? c.toNat

/-- A text with every character replaced by what it stands for, composed. -/
def replaced? (text : List Char) : Option (List Char) := do
  let pieces ← text.mapM standsFor?
  let name := (composedForm pieces.flatten).map Char.ofNat
  if name.any isForbidden then none else some name

def isAscii (label : List Char) : Bool := label.all (·.toNat < 0x80)

/-! ## Labels -/

/-- The longest label beyond ASCII, and the longest encoding of one. -/
def maxLength : Nat := 1000
def maxEncodedLength : Nat := 2000

/-- A neighbour of a joiner takes part in the joining; transparent characters are passed over. -/
def meets (joins : Nat → Bool) : List Char → Bool
  | [] => false
  | c :: rest => joins c.toNat || (transparent.contains c.toNat && meets joins rest)

/-- A joiner may stand between what is before it, last first, and what is after it. Both joiners
may follow a virama, and the one that keeps letters apart may stand between two that would join. -/
def joinerFits (before : List Char) (c : Char) (after : List Char) : Bool :=
  let afterVirama := before.head?.any fun p => isVirama p.toNat
  if c = '\u200d' then afterVirama
  else if c = '\u200c' then afterVirama || (meets joinsNext before && meets joinsPrevious after)
  else true

/-- All joiners of a label may stand where they do; `before` is what has been passed, last
first. -/
def joinersFit (before : List Char) : List Char → Bool
  | [] => true
  | c :: rest => joinerFits before c rest && joinersFit (c :: before) rest

/-- A label that is sound by itself. -/
def isSound (label : List Char) : Bool :=
  isAscii label
    || (label.length ≤ maxLength && !(label.head?.any fun c => isMark c.toNat)
      && joinersFit [] label)

/-- The rest of a label that is marked as encoded. -/
def encodedPart? : List Char → Option (List Char)
  | 'x' :: 'n' :: '-' :: '-' :: rest => some rest
  | _ => none

/-- The label that an encoding holds: one that nothing is replaced in. -/
def decoded? (encoding : List Char) : Option (List Char) := do
  if encoding.isEmpty || encoding.getLast? == some '-' || maxEncodedLength < encoding.length
      || !isAscii encoding then none
  let label := (← Punycode.decode? encoding).map Char.ofNat
  if label.contains '.' || (← replaced? label) ≠ label then none else some label

/-- What a label shows, once its encoding is undone. -/
def shown? (label : List Char) : Option (List Char) := do
  let shown ← match encodedPart? label with
    | some encoding => decoded? encoding
    | none => pure label
  if isSound shown then some shown else none

/-- A label in ASCII. -/
def asciiLabel (label : List Char) : List Char :=
  if isAscii label then label else "xn--".toList ++ Punycode.encode (label.map Char.toNat)

/-! ## Directions -/

/-- A character that makes the directions of a name matter. -/
def turns (c : Char) : Bool :=
  0x590 ≤ c.toNat && [.rightToLeft, .arabicDigit].contains (direction c.toNat)

/-- The directions in a label go together. A label goes in the direction of its first letter, with
which it begins; the marks at its end do not count. -/
def directionsFit (label : List Char) : Bool :=
  let directions := label.map fun c => direction c.toNat
  match directions with
  | [] => true
  | first :: rest =>
    let tail := rest.reverse.dropWhile (· == .mark)
    match first with
    | .leftToRight =>
      rest.all [.leftToRight, .europeanDigit, .neutral, .mark].contains
        && tail.head?.all [.leftToRight, .europeanDigit].contains
    | .rightToLeft =>
      rest.all [.rightToLeft, .arabicDigit, .europeanDigit, .neutral, .mark].contains
        && tail.head?.all [.rightToLeft, .europeanDigit, .arabicDigit].contains
        && !(rest.contains .europeanDigit && rest.contains .arabicDigit)
    | _ => false

/-! ## Names -/

/-- The ASCII form of a domain name. -/
def ascii? (name : String) : Option (List Char) := do
  let labels ← (Text.splitOn '.' (← replaced? name.toList)).mapM shown?
  if labels.any (·.any turns) && !labels.all directionsFit then none
  else some (Text.joinWith '.' (labels.map asciiLabel))

/-! ## ASCII forms are ASCII -/

theorem asciiLabel_isAscii (label : List Char) : isAscii (asciiLabel label) = true := by
  unfold asciiLabel
  split
  · assumption
  · rw [isAscii, List.all_append, Bool.and_eq_true]
    refine ⟨by decide, List.all_eq_true.2 fun c hc => ?_⟩
    simpa using Punycode.encode_ascii _ c hc

theorem joinWith_isAscii :
    ∀ {labels : List (List Char)}, (∀ label ∈ labels, isAscii label = true) →
      isAscii (Text.joinWith '.' labels) = true
  | [], _ => rfl
  | [label], h => h label (List.mem_singleton.2 rfl)
  | label :: next :: rest, h => by
    have here := h label List.mem_cons_self
    have there := joinWith_isAscii fun l hl => h l (List.mem_cons_of_mem label hl)
    simp only [isAscii] at here there ⊢
    rw [Text.joinWith, List.all_append, List.all_cons, here, there]
    decide

/-- The ASCII form of a name is ASCII. -/
theorem ascii?_isAscii {name : String} {form : List Char} (h : ascii? name = some form) :
    isAscii form = true := by
  simp only [ascii?, Option.bind_eq_bind, Option.bind_eq_some_iff] at h
  obtain ⟨_, _, labels, _, h⟩ := h
  split at h
  · cases h
  · cases h
    refine joinWith_isAscii fun label hl => ?_
    obtain ⟨shown, _, rfl⟩ := List.mem_map.1 hl
    exact asciiLabel_isAscii shown

example : (ascii? "Example.ORG").map String.ofList = some "example.org" := by decide +kernel
example : ascii? "a b" = none := by decide +kernel
example : ascii? "xn---kva" = none := by decide +kernel

end DocStore.Domain
