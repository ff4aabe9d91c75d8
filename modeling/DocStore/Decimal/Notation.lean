import DocStore.Decimal.Binary64
import DocStore.Text.Digits

/-!
# Decimals as written

A decimal is written with digits on at least one side of an optional point, and an optional power
of ten behind `e` or `E`. `Decimal.read?` reads one that takes the whole text.
-/

namespace DocStore.Decimal

/-- A number as written, `± digits * 10 ^ scale`. -/
structure Written where
  negative : Bool
  digits : Nat
  scale : Int
deriving DecidableEq, Repr

/-- Cut off a sign. -/
def cutSign : List Char → Bool × List Char
  | '-' :: rest => (true, rest)
  | '+' :: rest => (false, rest)
  | text => (false, text)

/-- Read a power of ten that takes the whole text. -/
def readPower? : List Char → Option Int
  | [] => some 0
  | e :: rest =>
    if e = 'e' || e = 'E' then
      let (negative, digits) := cutSign rest
      (Digits.number? 10 digits).map fun n => if negative then -(n : Int) else n
    else none

/-- Read a decimal. -/
def read? (text : List Char) : Option Written := do
  let (negative, text) := cutSign text
  let (whole, text) := text.span Char.isDigit
  let (fraction, text) := match text with
    | '.' :: rest => rest.span Char.isDigit
    | _ => ([], text)
  let digits ← Digits.number? 10 (whole ++ fraction)
  let power ← readPower? text
  pure ⟨negative, digits, power - fraction.length⟩

/-- The finite number nearest to a decimal. -/
def Written.toBinary64? (w : Written) : Option Binary64 :=
  Binary64.ofDecimal w.negative w.digits w.scale

example : read? "-1.5e3".toList = some ⟨true, 15, 2⟩ := by decide +kernel
example : read? ".5".toList = some ⟨false, 5, -1⟩ := by decide +kernel
example : read? ".".toList = none := by decide +kernel

end DocStore.Decimal
