/-!
# Finite binary64 numbers

A finite double is kept as sign, mantissa and binary exponent: it stands for
`± mantissa * 2 ^ exponent`. A normal number has a mantissa of 53 bits; below the smallest normal
exponent the mantissa is shorter and the exponent is `-1074`. Infinities and NaN have no form here.

`Binary64.ofRatio` is the one place where rounding happens: to the nearest number, a half to the
even mantissa.
-/

namespace DocStore

/-- A finite binary64 number, `± mantissa * 2 ^ exponent`. -/
structure Binary64 where
  negative : Bool
  mantissa : Nat
  exponent : Int
deriving DecidableEq, Repr, Inhabited

namespace Binary64

/-- The exponent of the smallest numbers. -/
def leastExponent : Int := -1074

/-- The exponent of the largest numbers. -/
def greatestExponent : Int := 971

def zero (negative : Bool) : Binary64 := ⟨negative, 0, leastExponent⟩

def isZero (x : Binary64) : Bool := x.mantissa == 0

/-- Equality of the numbers: the two zeros are equal. -/
def same (x y : Binary64) : Bool := x == y || (x.isZero && y.isZero)

/-- Division rounded to the nearest natural number, a half to the even one. -/
def roundDiv (num den : Nat) : Nat :=
  let q := num / den
  let r := num % den
  if 2 * r < den then q
  else if den < 2 * r then q + 1
  else if q % 2 = 0 then q else q + 1

/-- `num / den` divided by `2 ^ e`, rounded. -/
def scaledMantissa (num den : Nat) (e : Int) : Nat :=
  if 0 ≤ e then roundDiv num (den <<< e.toNat) else roundDiv (num <<< (-e).toNat) den

/-- The binary exponent at which `num / den` has a mantissa of 53 bits, or the least exponent. -/
def exponentOf (num den : Nat) : Int :=
  let guess : Int := (Nat.log2 num : Int) - (Nat.log2 den : Int) - 52
  let small : Bool :=
    if 0 ≤ guess then num < (den <<< guess.toNat) <<< 52
    else num <<< (-guess).toNat < den <<< 52
  max leastExponent (if small then guess - 1 else guess)

/-- The number nearest to `num / den`, or none when it lies beyond the largest one. -/
def ofRatio (negative : Bool) (num den : Nat) : Option Binary64 :=
  if num = 0 then some (zero negative)
  else
    let e := exponentOf num den
    let m := scaledMantissa num den e
    let (m, e) := if m = Nat.pow 2 53 then (Nat.pow 2 52, e + 1) else (m, e)
    if greatestExponent < e then none
    else if m = 0 then some (zero negative)
    else some ⟨negative, m, e⟩

/-- How many decimal digits a number is written with. -/
def decimalLength (n : Nat) : Nat := (Nat.toDigits 10 n).length

/-- The number nearest to `digits * 10 ^ scale`, or none when it lies beyond the largest one.
Numbers far outside the range are settled by their magnitude alone. -/
def ofDecimal (negative : Bool) (digits : Nat) (scale : Int) : Option Binary64 :=
  let magnitude : Int := decimalLength digits + scale
  if digits = 0 then some (zero negative)
  else if 310 < magnitude then none
  else if magnitude < -330 then some (zero negative)
  else if 0 ≤ scale then ofRatio negative (digits * Nat.pow 10 scale.toNat) 1
  else ofRatio negative digits (Nat.pow 10 (-scale).toNat)

example : ofDecimal false 1 0 = some ⟨false, Nat.pow 2 52, -52⟩ := by decide +kernel
example : ofDecimal false 5 (-324) = some ⟨false, 1, -1074⟩ := by decide +kernel
example : ofDecimal true 1 400 = none := by decide +kernel

end Binary64

end DocStore
