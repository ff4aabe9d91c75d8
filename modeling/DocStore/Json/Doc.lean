import DocStore.Text.Digits
import DocStore.Value

/-!
# JSON documents as written

A document keeps what a reader may still have to judge: numerals by their digits, strings that are
no text, the members of an object in the order written, repetitions included. `Doc.toValue?` turns
it into a value: of a repeated key the last member counts, a numeral beyond the largest binary64
number is refused, and so are strings that are no text, and lists and objects nested deeper than
`maxDepth`.
-/

namespace DocStore.Json

/-- A number as written: `± digits * 10 ^ scale`, and whether neither point nor exponent stood
in it. -/
structure Numeral where
  negative : Bool
  digits : Nat
  scale : Int
  whole : Bool
deriving DecidableEq, Repr

/-- A whole number within the range of values is kept as such; minus zero is not one. -/
def Numeral.toValue? (n : Numeral) : Option Value :=
  let whole : Int := if n.negative then -(n.digits : Int) else n.digits
  if n.whole && (n.digits != 0 || !n.negative) && Value.leastInt ≤ whole
      && whole ≤ Value.greatestInt then
    some (.int whole)
  else (Binary64.ofDecimal n.negative n.digits n.scale).map .float

/-- A document as written. A string is `none` when it is no text: then half of a surrogate pair
stands alone in it. -/
inductive Doc
  | null
  | bool (b : Bool)
  | number (n : Numeral)
  | string (s : Option String)
  | array (items : List Doc)
  | object (members : List (Option String × Doc))
deriving Repr, Inhabited

/-- How deep lists and objects may be nested in a value. -/
def maxDepth : Nat := 127

namespace Doc

mutual

/-- The value of a document nested no deeper than `depth`. -/
def toValue? (depth : Nat) : Doc → Option Value
  | .null => some .null
  | .bool b => some (.bool b)
  | .number n => n.toValue?
  | .string s => s.map .string
  | .array items =>
    if depth = 0 then none else (itemValues? (depth - 1) items).map .array
  | .object members =>
    if depth = 0 then none
    else (memberValues? (depth - 1) members).map fun entries => .object (Dict.ofEntries entries)

def itemValues? (depth : Nat) : List Doc → Option (List Value)
  | [] => some []
  | item :: rest => do
    let v ← toValue? depth item
    let vs ← itemValues? depth rest
    pure (v :: vs)

def memberValues? (depth : Nat) : List (Option String × Doc) → Option (List (String × Value))
  | [] => some []
  | (key, item) :: rest => do
    let key ← key
    let v ← toValue? depth item
    let vs ← memberValues? depth rest
    pure ((key, v) :: vs)

end

end Doc

end DocStore.Json
