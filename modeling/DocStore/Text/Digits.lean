/-!
# Digits

Reading and writing of digits in a given base, and of the number a row of them stands for.
-/

namespace DocStore.Digits

/-- The value of a digit in a base up to sixteen. -/
def value? (c : Char) : Option Nat :=
  if '0' ≤ c ∧ c ≤ '9' then some (c.toNat - '0'.toNat)
  else if 'a' ≤ c ∧ c ≤ 'f' then some (c.toNat - 'a'.toNat + 10)
  else if 'A' ≤ c ∧ c ≤ 'F' then some (c.toNat - 'A'.toNat + 10)
  else none

/-- A digit of the base. -/
def isDigitOf (base : Nat) (c : Char) : Bool :=
  match value? c with
  | some d => d < base
  | none => false

/-- The number that a row of digits stands for, read on from `acc`. -/
def fold (base : Nat) (acc : Nat) (digits : List Char) : Nat :=
  digits.foldl (fun n c => n * base + (value? c).getD 0) acc

/-- The number that a row of digits of the base stands for. An empty row is none. -/
def number? (base : Nat) (digits : List Char) : Option Nat :=
  if digits.isEmpty then none
  else if digits.all (isDigitOf base) then some (fold base 0 digits)
  else none

/-- A whole number in decimal digits, as a word of 64 bits: an optional plus sign, then digits. -/
def word64? (text : List Char) : Option Nat :=
  let digits := match text with
    | '+' :: rest => rest
    | _ => text
  match number? 10 digits with
  | some n => if n < Nat.pow 2 64 then some n else none
  | none => none

/-- A number in lower-case hexadecimal digits. -/
def hex (n : Nat) : List Char := Nat.toDigits 16 n

example : word64? "+007".toList = some 7 := by decide +kernel
example : word64? "18446744073709551616".toList = none := by decide +kernel

end DocStore.Digits
