import DocStore.Duration.Basic
import DocStore.Text.Blank

/-!
# Durations as people write them

A duration is written as a whole number of seconds, or as amounts with units such as `1h 30m`.

* Digits may have blanks between them; an amount may have a decimal fraction.
* A unit is a row of letters; it ends at a digit, which starts the next amount, or at a blank.
* Everything is counted in words of 64 bits. Whatever does not fit is refused, and so is a fraction
  that is no whole number of nanoseconds, or of seconds for hours and longer units.

Offsets in errors count bytes of the trimmed text.
-/

namespace DocStore

/-- What is wrong with a written duration. -/
inductive DurationFault
  | empty
  | numberExpected (offset : Nat)
  | invalidCharacter (offset : Nat)
  | unitNeeded (amount : Nat)
  | unknownUnit (unit : String)
  | overflow
deriving DecidableEq, Repr

def DurationFault.message : DurationFault → String
  | .empty => "value was empty"
  | .numberExpected offset => s!"expected number at {offset}"
  | .invalidCharacter offset => s!"invalid character at {offset}"
  | .unitNeeded amount => s!"time unit needed, for example {amount}sec or {amount}ms"
  | .unknownUnit unit =>
    "unknown time unit \"" ++ unit ++ "\", supported units: ns, us/µs, ms, sec, min, hours, days, "
      ++ "weeks, months, years (and few variations)"
  | .overflow =>
    "number is too large or cannot be represented without a lack of precision "
      ++ "(values below 1ns are not supported)"

/-- Why a value is no duration. -/
inductive DurationError
  | written (text : String) (fault : DurationFault)
  | notWholeSeconds (value : Value)
  | wrongKind (value : Value)
deriving DecidableEq, Repr

def DurationError.message : DurationError → String
  | .written text fault => "invalid duration '" ++ text ++ "': " ++ fault.message
  | .notWholeSeconds value =>
    "invalid duration " ++ Json.render value ++ ": expected non-negative whole seconds"
  | .wrongKind value =>
    "invalid duration " ++ Json.render value ++ ": expected seconds or a string like \"30s\""

namespace Duration

/-! ## Units -/

/-- The units of amounts. -/
inductive TimeUnit
  | nanosecond
  | microsecond
  | millisecond
  | second
  | minute
  | hour
  | day
  | week
  | month
  | year
deriving DecidableEq, Repr

/-- The unit that a row of letters names. -/
def TimeUnit.ofName? : String → Option TimeUnit
  | "nanos" | "nsec" | "ns" => some .nanosecond
  | "usec" | "us" | "µs" => some .microsecond
  | "millis" | "msec" | "ms" => some .millisecond
  | "seconds" | "second" | "secs" | "sec" | "s" => some .second
  | "minutes" | "minute" | "min" | "mins" | "m" => some .minute
  | "hours" | "hour" | "hr" | "hrs" | "h" => some .hour
  | "days" | "day" | "d" => some .day
  | "weeks" | "week" | "wk" | "wks" | "w" => some .week
  | "months" | "month" | "M" => some .month
  | "years" | "year" | "yr" | "yrs" | "y" => some .year
  | _ => none

/-- What one of a unit adds: seconds and nanoseconds, one of them none. -/
def TimeUnit.size : TimeUnit → Nat × Nat
  | .nanosecond => (0, 1)
  | .microsecond => (0, 1000)
  | .millisecond => (0, 1000000)
  | .second => (1, 0)
  | .minute => (60, 0)
  | .hour => (3600, 0)
  | .day => (86400, 0)
  | .week => (604800, 0)
  | .month => (2630016, 0)
  | .year => (31557600, 0)

/-- What a fraction of a unit is counted in: nanoseconds up to minutes, seconds from hours on.
There is no fraction of a nanosecond. -/
def TimeUnit.fractionSize? : TimeUnit → Option (Nat × Nat)
  | .nanosecond => none
  | .microsecond => some (0, 1000)
  | .millisecond => some (0, 1000000)
  | .second => some (0, 1000000000)
  | .minute => some (0, 60000000000)
  | u => some u.size

/-! ## Counting in words -/

/-- The number, if it is a word of 64 bits. -/
def word (n : Nat) : Except DurationFault Nat :=
  if n < Nat.pow 2 64 then .ok n else .error .overflow

/-- Add seconds and nanoseconds to a sum; more than a second in nanoseconds is carried. The greatest word
of seconds with exactly a second in nanoseconds is an overflow here. The program goes on with such a sum,
and cannot make a duration of it in the end: it breaks off. -/
def add (sum : Duration) (seconds nanos : Nat) : Except DurationFault Duration := do
  -- A full second exactly is not carried here; the last two lines take care of it.
  let nanos ← word (sum.nanos + nanos)
  let carried ← if perSecond < nanos then word (seconds + nanos / perSecond) else pure seconds
  let nanos := if perSecond < nanos then nanos % perSecond else nanos
  let seconds ← word (sum.seconds + carried)
  let seconds ← word (seconds + nanos / perSecond)
  pure ⟨seconds, nanos % perSecond⟩

/-- A decimal fraction `numerator / denominator`. -/
structure Fraction where
  numerator : Nat
  denominator : Nat
deriving DecidableEq, Repr

/-- The part of `size` that a fraction is, without a remainder. -/
def Fraction.of (f : Fraction) (size : Nat) : Except DurationFault Nat := do
  let product ← word (f.numerator * size)
  if product % f.denominator = 0 then pure (product / f.denominator) else throw .overflow

/-- Add an amount of a unit to a sum. -/
def addAmount (sum : Duration) (amount : Nat) (fraction : Option Fraction) (unit : List Char) :
    Except DurationFault Duration := do
  match TimeUnit.ofName? (String.ofList unit) with
  | none =>
    throw (if unit.isEmpty then .unitNeeded amount else .unknownUnit (String.ofList unit))
  | some u =>
    let seconds ← word (amount * u.size.1)
    let nanos ← word (amount * u.size.2)
    let sum ← add sum seconds nanos
    match fraction with
    | none => pure sum
    | some f =>
      match u.fractionSize? with
      | none => throw .overflow
      | some (seconds, nanos) =>
        let seconds ← f.of seconds
        let nanos ← f.of nanos
        add sum seconds nanos

/-! ## Reading -/

/-- A letter of a unit. -/
def isUnitLetter (c : Char) : Bool :=
  ('a' ≤ c && c ≤ 'z') || ('A' ≤ c && c ≤ 'Z') || c == 'µ'

/-- The value of a decimal digit. -/
def digit (c : Char) : Nat := c.toNat - '0'.toNat

/-- The first digit of an amount, after blanks; nothing at the end of the text. `start` is the
offset from which on the digit was expected, `offset` that of the text. -/
def readFirst (start offset : Nat) :
    List Char → Except DurationFault (Option (Nat × Nat × List Char))
  | [] => .ok none
  | c :: rest =>
    if c.isDigit then .ok (some (digit c, offset + 1, rest))
    else if Text.isBlank c then readFirst start (offset + c.utf8Size) rest
    else .error (.numberExpected start)

/-- Digits after a decimal point, read on from `f`. `here` is the offset of the text, `passed` the
offset after the last character that belonged to the amount. Gives the fraction and what is left,
from the first letter on. -/
def readFraction (f : Fraction) (passed here : Nat) :
    List Char → Except DurationFault (Fraction × Nat × List Char)
  | [] => if f.denominator = 1 then .error (.invalidCharacter passed) else .ok (f, passed, [])
  | c :: rest =>
    let next := here + c.utf8Size
    if c.isDigit then
      let grown : Fraction := ⟨f.numerator * 10 + digit c, f.denominator * 10⟩
      if grown.numerator < Nat.pow 2 64 ∧ grown.denominator < Nat.pow 2 64 then
        readFraction grown next next rest
      else .error .overflow
    else if Text.isBlank c then readFraction f next next rest
    else if isUnitLetter c ∧ f.denominator ≠ 1 then .ok (f, passed, c :: rest)
    else .error (.invalidCharacter passed)

/-- The rest of an amount. Gives the amount, its fraction and what is left, from the first letter
on. -/
def readAmount (amount : Nat) (offset : Nat) :
    List Char → Except DurationFault (Nat × Option Fraction × Nat × List Char)
  | [] => .ok (amount, none, offset, [])
  | c :: rest =>
    if c.isDigit then
      let next := amount * 10 + digit c
      if next < Nat.pow 2 64 then readAmount next (offset + 1) rest else .error .overflow
    else if Text.isBlank c then readAmount amount (offset + c.utf8Size) rest
    else if isUnitLetter c then .ok (amount, none, offset, c :: rest)
    else if c = '.' then
      match readFraction ⟨0, 1⟩ offset (offset + 1) rest with
      | .ok (fraction, offset, rest) => .ok (amount, some fraction, offset, rest)
      | .error e => .error e
    else .error (.invalidCharacter offset)

/-- The letters of a unit and what is left, from a digit on or after a blank. -/
def readUnit (offset : Nat) : List Char → Except DurationFault (List Char × Nat × List Char)
  | [] => .ok ([], offset, [])
  | c :: rest =>
    if c.isDigit then .ok ([], offset, c :: rest)
    else if Text.isBlank c then .ok ([], offset + c.utf8Size, rest)
    else if isUnitLetter c then
      match readUnit (offset + c.utf8Size) rest with
      | .ok (letters, offset, rest) => .ok (c :: letters, offset, rest)
      | .error e => .error e
    else .error (.invalidCharacter offset)

/-- Read amounts and add them up. Each amount spends one unit of fuel. -/
def readAmounts : Nat → Duration → Nat → Nat → List Char → Except DurationFault Duration
  | 0, _, _, _, _ => .error .overflow
  | fuel + 1, sum, first, offset, text => do
    let (amount, fraction, offset, rest) ← readAmount first offset text
    let (unit, offset, rest) ← readUnit offset rest
    let sum ← addAmount sum amount fraction unit
    match ← readFirst offset offset rest with
    | none => pure sum
    | some (next, offset, rest) => readAmounts fuel sum next offset rest

/-- Read amounts with units. -/
def readHuman (text : List Char) : Except DurationFault Duration := do
  match ← readFirst 0 0 text with
  | none => throw .empty
  | some (first, offset, rest) => readAmounts (text.length + 1) ⟨0, 0⟩ first offset rest

/-- Read a duration: whole seconds, or amounts with units. -/
def parse (text : String) : Except DurationError Duration :=
  let trimmed := Text.trim text.toList
  match Digits.word64? trimmed with
  | some seconds => .ok (ofSeconds seconds)
  | none => (readHuman trimmed).mapError (.written (String.ofList trimmed))

/-- The duration that a configuration value stands for. -/
def ofValue (v : Value) : Except DurationError Duration :=
  match v with
  | .int n =>
    if 0 ≤ n then .ok (ofSeconds n.toNat) else .error (.notWholeSeconds v)
  | .float _ => .error (.notWholeSeconds v)
  | .string s => parse s
  | _ => .error (.wrongKind v)

example : (parse "1h 30m").toOption = some ⟨5400, 0⟩ := by decide +kernel
example : (match readHuman "1s  x".toList with | .error e => some e | .ok _ => none)
    = some (.numberExpected 3) := by decide +kernel
example : (parse " 10.5 ms").toOption = some ⟨0, 10500000⟩ := by decide +kernel

end Duration

end DocStore
