import DocStore.Decimal.Notation
import DocStore.Value
import DocStore.Yaml.Tag

/-!
# What plain scalars stand for

A plain scalar is null, a truth value, a whole number, a binary64 number or a text. Digits with
leading zeros are a text. A whole number beyond 64 bits is a binary64 number, but only beyond 128
bits: between the two it has no value.
-/

namespace DocStore.Yaml.Scalar

def isNull (text : String) : Bool := ["null", "Null", "NULL", "~"].contains text

def bool? (text : String) : Option Bool :=
  if ["true", "True", "TRUE"].contains text then some true
  else if ["false", "False", "FALSE"].contains text then some false
  else none

/-- Digits that begin with a needless zero. -/
def isPadded (text : List Char) : Bool :=
  1 < text.length && text.head? == some '0' && text.all Char.isDigit

/-- A whole number without a sign, perhaps in another base. -/
def natural? : List Char → Option Nat
  | '0' :: 'x' :: digits => Digits.number? 16 digits
  | '0' :: 'o' :: digits => Digits.number? 8 digits
  | '0' :: 'b' :: digits => Digits.number? 2 digits
  | digits => if isPadded digits then none else Digits.number? 10 digits

def whole? : List Char → Option Int
  | '-' :: rest => (natural? rest).map fun n => -(n : Int)
  | '+' :: rest => (natural? rest).map Int.ofNat
  | text => (natural? text).map Int.ofNat

/-- How a whole number fares: it is a value, it has none, or it is read as a decimal. -/
inductive Range
  | value
  | refused
  | beyond
deriving DecidableEq, Repr

/-- Up to 64 bits a whole number is a value, up to 128 bits it has none. -/
def Range.of (n : Int) : Range :=
  if Value.leastInt ≤ n ∧ n ≤ Value.greatestInt then .value
  else if -(Nat.pow 2 127 : Int) ≤ n ∧ n < (Nat.pow 2 128 : Int) then .refused
  else .beyond

/-- A number that is not finite. -/
def isInfiniteOrNaN (text : String) : Bool :=
  let unsigned := match text.toList with
    | '+' :: rest => String.ofList rest
    | _ => text
  [".inf", ".Inf", ".INF"].contains unsigned || ["-.inf", "-.Inf", "-.INF"].contains text
    || [".nan", ".NaN", ".NAN"].contains text

/-- A decimal as a value; one that is not finite is null. -/
def decimal? (text : String) : Option Value :=
  if isInfiniteOrNaN text then some .null
  else do
    let written ← Decimal.read? text.toList
    let x ← written.toBinary64?
    pure (.float x)

/-- The value of a plain scalar. -/
def plainValue? (text : String) : Option Value :=
  if text.isEmpty || isNull text then some .null
  else
    match bool? text with
    | some b => some (.bool b)
    | none =>
      let number := whole? text.toList
      match number, number.map Range.of with
      | some n, some .value => some (.int n)
      | _, some .refused => none
      | _, _ =>
        let digits := match text.toList with
          | '-' :: rest => rest
          | '+' :: rest => rest
          | cs => cs
        if isPadded digits then some (.string text)
        else some ((decimal? text).getD (.string text))

/-- The value of a scalar with the given tag. A tag of the core schema is binding; a local tag
leaves a scalar without a value. -/
def value? (text : String) (plain : Bool) (tag : Option Tag) : Option Value :=
  let untagged := if plain then plainValue? text else some (.string text)
  match tag with
  | none => untagged
  | some tag =>
    if tag = .core "bool" then (bool? text).map .bool
    else if tag = .core "int" then do
      let n ← whole? text.toList
      if Range.of n = .value then some (.int n) else none
    else if tag = .core "float" then decimal? text
    else if tag = .core "null" then (if isNull text then some .null else none)
    else if tag.isLocal then none
    else if tag.isMarked then untagged
    else some (.string text)

example : plainValue? "0x1F" = some (.int 31) := by decide +kernel
example : plainValue? "007" = some (.string "007") := by decide +kernel
example : plainValue? "yes" = some (.string "yes") := by decide +kernel
example : plainValue? "-.inf" = some .null := by decide +kernel
example : plainValue? "18446744073709551616" = none := by decide +kernel

end DocStore.Yaml.Scalar
