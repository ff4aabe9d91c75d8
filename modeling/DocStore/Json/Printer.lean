import DocStore.Decimal.Shortest
import DocStore.Value
import DocStore.Text.Digits

/-!
# Writing JSON

Compact text, the members of an object in the order kept. A binary64 number is written with its
shortest digits: in positional notation with at least one decimal while the exponent of the
leading digit lies in `[-5, 16)`, and else with a signed exponent and no needless decimals.
-/

namespace DocStore.Json

/-- Which exponents are written in positional notation: from `least` up to below `bound`. -/
structure NumberStyle where
  least : Int
  bound : Int

/-- Positional notation from `0.00001` up to below `1e16`. -/
def numberStyle : NumberStyle := ⟨-5, 16⟩

/-- The text of a decimal with digits `digits` and `exponent` at the leading one. -/
def layout (style : NumberStyle) (digits : List Char) (exponent : Int) : List Char :=
  if style.least ≤ exponent ∧ exponent < style.bound then
    if 0 ≤ exponent then
      let whole := exponent.toNat + 1
      let padded := digits ++ List.replicate (whole - digits.length) '0'
      let fraction := digits.drop whole
      padded.take whole ++ '.' :: (if fraction.isEmpty then ['0'] else fraction)
    else '0' :: '.' :: (List.replicate ((-exponent).toNat - 1) '0' ++ digits)
  else
    let mark := if 0 ≤ exponent then ['e', '+'] else ['e', '-']
    let head := match digits with
      | [] => ['0']
      | [d] => [d]
      | d :: rest => d :: '.' :: rest
    head ++ mark ++ Nat.toDigits 10 exponent.natAbs

/-- The text of a binary64 number. -/
def number (x : Binary64) : List Char :=
  let sign := if x.negative then ['-'] else []
  if x.isZero then sign ++ ['0', '.', '0']
  else
    let d := ShortDecimal.ofBinary64 x
    let digits := Nat.toDigits 10 d.coefficient
    sign ++ layout numberStyle digits (d.scale + digits.length - 1)

/-- The text of a whole number. -/
def whole (n : Int) : List Char :=
  (if n < 0 then ['-'] else []) ++ Nat.toDigits 10 n.natAbs

/-- A character inside a text. -/
def escape (c : Char) : List Char :=
  if c = '"' then ['\\', '"']
  else if c = '\\' then ['\\', '\\']
  else if c = '\x08' then ['\\', 'b']
  else if c = '\x0c' then ['\\', 'f']
  else if c = '\n' then ['\\', 'n']
  else if c = '\r' then ['\\', 'r']
  else if c = '\t' then ['\\', 't']
  else if c.toNat < 0x20 then
    let digits := Digits.hex c.toNat
    ['\\', 'u'] ++ List.replicate (4 - digits.length) '0' ++ digits
  else [c]

/-- A text in quotes. -/
def quote (s : String) : String :=
  String.ofList ('"' :: (s.toList.flatMap escape ++ ['"']))

mutual

/-- The compact text of a value. -/
def render : Value → String
  | .null => "null"
  | .bool true => "true"
  | .bool false => "false"
  | .int n => String.ofList (whole n)
  | .float x => String.ofList (number x)
  | .string s => quote s
  | .array items => "[" ++ ",".intercalate (renderItems items) ++ "]"
  | .object fields => "\x7b" ++ ",".intercalate (renderFields fields) ++ "\x7d"

def renderItems : List Value → List String
  | [] => []
  | v :: rest => render v :: renderItems rest

def renderFields : List (String × Value) → List String
  | [] => []
  | (key, v) :: rest => (quote key ++ ":" ++ render v) :: renderFields rest

end

example : (Binary64.ofDecimal false 15 (-8)).map number = some "1.5e-7".toList := by
  decide +kernel
example : (Binary64.ofDecimal false 1 (-5)).map number = some "0.00001".toList := by
  decide +kernel
example : (Binary64.ofDecimal false 1 16).map number = some "1e+16".toList := by decide +kernel
example : (Binary64.ofDecimal true 1 5).map number = some "-100000.0".toList := by decide +kernel

end DocStore.Json
