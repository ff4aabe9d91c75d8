import DocStore.Unicode.Composition
import DocStore.Unicode.Mark

/-!
# Composed form

Two texts may look the same though one has a composed character where the other has a letter and
its marks. The composed form is the same for both: all characters are taken apart, the marks behind
each letter are put in the order of their classes, and then letters and marks are composed as far
as that goes.
-/

namespace DocStore.Unicode

/-! ## Hangul -/

/-- The first of the Hangul syllables, of the leading consonants, the vowels, and the place before
the trailing consonants. -/
def syllableBase : Nat := 0xAC00
def leadBase : Nat := 0x1100
def vowelBase : Nat := 0x1161
def trailBase : Nat := 0x11A7

def leadCount : Nat := 19
def vowelCount : Nat := 21
def trailCount : Nat := 28

def isSyllable (code : Nat) : Bool :=
  syllableBase ≤ code && code < syllableBase + leadCount * vowelCount * trailCount

/-- The letters of a syllable. -/
def syllableLetters (code : Nat) : List Nat :=
  let index := code - syllableBase
  let lead := leadBase + index / (vowelCount * trailCount)
  let vowel := vowelBase + index % (vowelCount * trailCount) / trailCount
  let trail := index % trailCount
  if trail = 0 then [lead, vowel] else [lead, vowel, trailBase + trail]

/-- The syllable that two parts make: a consonant and a vowel, or a syllable without a trailing
consonant and one. -/
def syllable? (first second : Nat) : Option Nat :=
  if leadBase ≤ first && first < leadBase + leadCount
      && vowelBase ≤ second && second < vowelBase + vowelCount then
    some (syllableBase
      + ((first - leadBase) * vowelCount + (second - vowelBase)) * trailCount)
  else if isSyllable first && (first - syllableBase) % trailCount = 0
      && trailBase < second && second < trailBase + trailCount then
    some (first + (second - trailBase))
  else none

/-! ## Taking apart -/

/-- How often the first part of a character may have parts itself. -/
def maxParts : Nat := 4

/-- The letter and marks of a character. -/
def takeApart : (fuel code : Nat) → List Nat
  | 0, code => [code]
  | fuel + 1, code =>
    match parts? code with
    | some (first, second) => takeApart fuel first ++ takeApart fuel second
    | none => if isSyllable code then syllableLetters code else [code]

/-! ## Order of marks -/

/-- Put a mark in its place among the marks that follow it. -/
def insertMark (code : Nat) : List Nat → List Nat
  | [] => [code]
  | next :: rest =>
    if 0 < markClass next && markClass next < markClass code then next :: insertMark code rest
    else code :: next :: rest

/-- Put the marks behind each letter in order. -/
def orderMarks (codes : List Nat) : List Nat := codes.foldr insertMark []

/-! ## Composing -/

/-- Compose a letter with the marks behind it. `kept` holds the marks that stay, last first. A mark
is composed only if no mark of its class stays before it. -/
def compose (letter : Nat) (kept : List Nat) : List Nat → List Nat
  | [] => letter :: kept.reverse
  | code :: rest =>
    let free := match kept with
      | [] => true
      | last :: _ => markClass last < markClass code
    let whole := if free then (composed? letter code).or (syllable? letter code) else none
    match whole with
    | some whole => compose whole kept rest
    | none =>
      if markClass code = 0 then letter :: kept.reverse ++ compose code [] rest
      else compose letter (code :: kept) rest

/-- The composed form of a row of code points. Below U+0300 there is nothing to compose. -/
def composedForm (codes : List Nat) : List Nat :=
  if codes.all (· < 0x300) then codes
  else
    match orderMarks (codes.flatMap (takeApart maxParts)) with
    | [] => []
    | code :: rest => compose code [] rest

end DocStore.Unicode
