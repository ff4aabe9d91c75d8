import DocStore.Decimal.Binary64

/-!
# Shortest decimals

The decimal with the fewest digits that reads back as a given number. A number owns the interval
of reals that round to it (with its ends exactly when the mantissa is even). For 1, 2, ... 17
digits the two neighbours of the number on that decimal grid are tried: the first grid with a
neighbour inside the interval wins, of two the nearer one, and of two equally near the even one.
-/

namespace DocStore

/-- The decimal `coefficient * 10 ^ scale`. -/
structure ShortDecimal where
  coefficient : Nat
  scale : Int
deriving DecidableEq, Repr

namespace ShortDecimal

/-- A positive ratio `num / den` with the ends of the interval around it over the same
denominator. -/
structure Target where
  low : Nat
  num : Nat
  high : Nat
  den : Nat
  closed : Bool

/-- The interval of reals that round to `m * 2 ^ e`, `m` positive. -/
def Target.of (m : Nat) (e : Int) : Target :=
  let below := if m = Nat.pow 2 52 ∧ Binary64.leastExponent < e then 1 else 2
  let shift : Int := e - 2
  let up := if 0 ≤ shift then shift.toNat else 0
  let down := if 0 ≤ shift then 0 else (-shift).toNat
  { low := (4 * m - below) <<< up
    num := (4 * m) <<< up
    high := (4 * m + 2) <<< up
    den := 1 <<< down
    closed := m % 2 = 0 }

/-- The exponent of the leading decimal digit of `num / den`. -/
def leadingExponent (num den : Nat) : Int :=
  let ln := Binary64.decimalLength num
  let ld := Binary64.decimalLength den
  let k : Int := (ln : Int) - (ld : Int)
  if den * Nat.pow 10 ln ≤ num * Nat.pow 10 ld then k else k - 1

/-- `coefficient * 10 ^ scale` lies in the interval. -/
def Target.covers (t : Target) (d : ShortDecimal) : Bool :=
  let up := if 0 ≤ d.scale then d.scale.toNat else 0
  let down := if 0 ≤ d.scale then 0 else (-d.scale).toNat
  let value := d.coefficient * Nat.pow 10 up * t.den
  let low := t.low * Nat.pow 10 down
  let high := t.high * Nat.pow 10 down
  if t.closed then low ≤ value && value ≤ high else low < value && value < high

/-- The neighbour on the grid `10 ^ scale` that reads back, if there is one. -/
def Target.onGrid? (t : Target) (scale : Int) : Option ShortDecimal :=
  let up := if 0 ≤ scale then scale.toNat else 0
  let down := if 0 ≤ scale then 0 else (-scale).toNat
  let num := t.num * Nat.pow 10 down
  let den := t.den * Nat.pow 10 up
  let q := num / den
  let r := num % den
  let lower : ShortDecimal := ⟨q, scale⟩
  let upper : ShortDecimal := ⟨q + 1, scale⟩
  let nearer := if 2 * r < den then lower else if den < 2 * r then upper
    else if q % 2 = 0 then lower else upper
  let farther := if nearer = lower then upper else lower
  if t.covers nearer then some nearer else if t.covers farther then some farther else none

/-- The same decimal without trailing zeros, looking at no more than `fuel` of them. -/
def strip : Nat → ShortDecimal → ShortDecimal
  | 0, d => d
  | fuel + 1, d =>
    if d.coefficient ≠ 0 ∧ d.coefficient % 10 = 0 then strip fuel ⟨d.coefficient / 10, d.scale + 1⟩
    else d

/-- The shortest decimal that reads back as `m * 2 ^ e`, `m` positive. -/
def ofParts (m : Nat) (e : Int) : ShortDecimal :=
  let t := Target.of m e
  let k := leadingExponent t.num t.den
  let found := (List.range 17).findSome? fun (n : Nat) => t.onGrid? (k - n)
  strip 20 (found.getD ⟨0, 0⟩)

/-- The shortest decimal of a number, without its sign. -/
def ofBinary64 (x : Binary64) : ShortDecimal :=
  if x.isZero then ⟨0, 0⟩ else ofParts x.mantissa x.exponent

example : (Binary64.ofDecimal false 1 (-1)).map ofBinary64 = some ⟨1, -1⟩ := by decide +kernel
example : (Binary64.ofDecimal false 5 (-324)).map ofBinary64 = some ⟨5, -324⟩ := by decide +kernel
example : (Binary64.ofDecimal false 9007199254740993 0).map ofBinary64
    = some ⟨9007199254740992, 0⟩ := by decide +kernel

end ShortDecimal

end DocStore
