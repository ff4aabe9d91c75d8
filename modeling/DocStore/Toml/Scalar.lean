import DocStore.Decimal.Notation
import DocStore.Toml.Text
import DocStore.Value

/-!
# Numbers and dates in TOML

Whole numbers have 64 bits with a sign. Digits may be grouped with single underscores. A date or a
time has no value of its own: it becomes an object with its text under `datetimeKey`.
-/

namespace DocStore.Toml

/-! ## Numbers -/

/-- Read digits behind the first one: more digits, each perhaps after an underscore. -/
def readMoreDigits (isDigit : Char → Bool) : Reader (List Char)
  | '_' :: c :: rest =>
    if isDigit c then (readMoreDigits isDigit rest).map fun (ds, rest) => (c :: ds, rest) else none
  | ['_'] => none
  | c :: rest =>
    if isDigit c then (readMoreDigits isDigit rest).map fun (ds, rest) => (c :: ds, rest)
    else some ([], c :: rest)
  | [] => some ([], [])

/-- Read digits, at least one. -/
def readDigits (isDigit : Char → Bool) : Reader (List Char)
  | c :: rest =>
    if isDigit c then (readMoreDigits isDigit rest).map fun (ds, rest) => (c :: ds, rest) else none
  | [] => none

/-- The digits of a decimal whole number: none behind a leading zero. -/
def readWhole : Reader (List Char)
  | '0' :: rest => some (['0'], rest)
  | cs => readDigits Char.isDigit cs

/-- A whole number of 64 bits with a sign. -/
def int64? (n : Int) : Option Value :=
  if -(Nat.pow 2 63 : Int) ≤ n ∧ n < (Nat.pow 2 63 : Int) then some (.int n) else none

/-- A whole number behind the mark of its base. -/
def readBased (base : Nat) (cs : List Char) : Option (Value × List Char) := do
  let (digits, rest) ← readDigits (Digits.isDigitOf base) cs
  let v ← int64? (Digits.fold base 0 digits)
  pure (v, rest)

/-- The decimals behind a point, if there is one. -/
def readFraction : Reader (Option (List Char))
  | '.' :: rest => (readDigits Char.isDigit rest).map fun (ds, rest) => (some ds, rest)
  | cs => some (none, cs)

/-- The power of ten, if one is given. -/
def readPower : Reader (Option Int)
  | e :: rest =>
    if e = 'e' || e = 'E' then do
      let (negative, digits) := Decimal.cutSign rest
      let (digits, rest) ← readDigits Char.isDigit digits
      let n : Int := Digits.fold 10 0 digits
      pure (some (if negative then -n else n), rest)
    else some (none, e :: rest)
  | [] => some (none, [])

/-- The value of a number that is no whole one. Beyond the greatest number there is none, and below
the least one it is null. -/
def floatValue? (w : Decimal.Written) : Option Value :=
  match w.toBinary64? with
  | some x => some (.float x)
  | none => if w.negative then some .null else none

/-- Read a decimal number. -/
def readDecimal (cs : List Char) : Option (Value × List Char) := do
  let (negative, cs) := Decimal.cutSign cs
  let (whole, cs) ← readWhole cs
  let (fraction, cs) ← readFraction cs
  let (power, cs) ← readPower cs
  if fraction.isNone && power.isNone then
    let n : Int := Digits.fold 10 0 whole
    let v ← int64? (if negative then -n else n)
    pure (v, cs)
  else
    let decimals := fraction.getD []
    let digits := Digits.fold 10 0 (whole ++ decimals)
    let v ← floatValue? ⟨negative, digits, power.getD 0 - decimals.length⟩
    pure (v, cs)

/-- Read a number. One that is infinite or none at all is null. -/
def readNumber (cs : List Char) : Option (Value × List Char) :=
  match cs with
  | '0' :: 'x' :: rest => readBased 16 rest
  | '0' :: 'o' :: rest => readBased 8 rest
  | '0' :: 'b' :: rest => readBased 2 rest
  | _ =>
    match (Decimal.cutSign cs).2 with
    | 'i' :: 'n' :: 'f' :: rest => some (.null, rest)
    | 'n' :: 'a' :: 'n' :: rest => some (.null, rest)
    | _ => readDecimal cs

/-! ## Dates and times -/

/-- The key under which the text of a date or a time is kept. -/
def datetimeKey : String := "$__toml_private_datetime"

/-- Read exactly `count` decimal digits. -/
def readCounted (count : Nat) (cs : List Char) : Option (List Char × List Char) :=
  let digits := cs.take count
  if digits.length = count && digits.all Char.isDigit then some (digits, cs.drop count) else none

/-- Read two digits that stand for a number in a range. -/
def readPart (least greatest : Nat) (cs : List Char) : Option (List Char × List Char) := do
  let (digits, rest) ← readCounted 2 cs
  let n := Digits.fold 10 0 digits
  if least ≤ n && n ≤ greatest then pure (digits, rest) else none

/-- Pass over a character. -/
def expect (c : Char) : List Char → Option (List Char)
  | d :: rest => if d = c then some rest else none
  | [] => none

def isLeap (year : Nat) : Bool := year % 4 == 0 && (year % 100 != 0 || year % 400 == 0)

def daysOf (year month : Nat) : Nat :=
  if month = 2 then (if isLeap year then 29 else 28)
  else if [4, 6, 9, 11].contains month then 30
  else 31

/-- Read a day of the calendar. -/
def readDate (cs : List Char) : Option (List Char × List Char) := do
  let (year, cs) ← readCounted 4 cs
  let cs ← expect '-' cs
  let (month, cs) ← readPart 1 12 cs
  let cs ← expect '-' cs
  let (day, cs) ← readPart 1 (daysOf (Digits.fold 10 0 year) (Digits.fold 10 0 month)) cs
  pure (year ++ '-' :: month ++ '-' :: day, cs)

/-- The fraction of a second: nine digits count, and trailing zeros do not. -/
def fractionText (digits : List Char) : List Char :=
  match ((digits.take 9).reverse.dropWhile (· == '0')).reverse with
  | [] => []
  | kept => '.' :: kept

/-- Read a time of day. -/
def readTime (cs : List Char) : Option (List Char × List Char) := do
  let (hour, cs) ← readPart 0 23 cs
  let cs ← expect ':' cs
  let (minute, cs) ← readPart 0 59 cs
  let cs ← expect ':' cs
  let (second, cs) ← readPart 0 60 cs
  let text := hour ++ ':' :: minute ++ ':' :: second
  match cs with
  | '.' :: rest =>
    let (digits, rest) := rest.span Char.isDigit
    if digits.isEmpty then pure (text, cs) else pure (text ++ fractionText digits, rest)
  | _ => pure (text, cs)

/-- Read the distance from universal time, if one is given. -/
def readOffset (cs : List Char) : Option (List Char × List Char) :=
  match cs with
  | [] => some ([], [])
  | c :: rest =>
    if c = 'Z' || c = 'z' then some (['Z'], rest)
    else if c = '+' || c = '-' then do
      let (hour, rest) ← readPart 0 23 rest
      let rest ← expect ':' rest
      let (minute, rest) ← readPart 0 59 rest
      let none := (hour ++ minute).all (· == '0')
      pure ((if none then '+' else c) :: hour ++ ':' :: minute, rest)
    else some ([], cs)

/-- Read the time behind a date, if there is one. -/
def readTimeOfDate (cs : List Char) : Option (List Char × List Char) :=
  match cs with
  | c :: rest =>
    if c = 'T' || c = 't' || c = ' ' then
      match readTime rest with
      | some (time, rest) =>
        (readOffset rest).map fun (offset, rest) => ('T' :: time ++ offset, rest)
      | none => some ([], cs)
    else some ([], cs)
  | [] => some ([], [])

/-- Read a date, a time, or both. -/
def readDatetime (cs : List Char) : Option (Value × List Char) := do
  let (text, rest) ← match readDate cs with
    | some (date, rest) => (readTimeOfDate rest).map fun (time, rest) => (date ++ time, rest)
    | none => readTime cs
  pure (.object [(datetimeKey, .string (String.ofList text))], rest)

/-- Read a number or a date. -/
def readScalar (cs : List Char) : Option (Value × List Char) :=
  match readDatetime cs with
  | some found => some found
  | none => readNumber cs

example : readScalar "-1_000\n".toList = some (.int (-1000), ['\n']) := by decide +kernel
example : readScalar "0o17".toList = some (.int 15, []) := by decide +kernel
example : readScalar "2020-02-30".toList = some (.int 2020, "-02-30".toList) := by decide +kernel

end DocStore.Toml
