import DocStore.Json.Printer

/-!
# Durations

A duration is a number of whole seconds and less than a second in nanoseconds.
-/

namespace DocStore

/-- Seconds and nanoseconds. -/
structure Duration where
  seconds : Nat
  nanos : Nat
deriving DecidableEq, Repr, Inhabited

namespace Duration

/-- Nanoseconds in a second. -/
def perSecond : Nat := 1000000000

def ofSeconds (seconds : Nat) : Duration := ⟨seconds, 0⟩

def ofMillis (millis : Nat) : Duration := ⟨millis / 1000, millis % 1000 * 1000000⟩

/-- All of it in nanoseconds. -/
def toNanos (d : Duration) : Nat := d.seconds * perSecond + d.nanos

/-- All of it in milliseconds, a started one counted in full. -/
def toMillisUp (d : Duration) : Nat := (d.toNanos + 999999) / 1000000

/-- All full milliseconds. -/
def toMillis (d : Duration) : Nat := d.toNanos / 1000000

def below (d e : Duration) : Bool := d.toNanos < e.toNanos

/-- `num / den` as a decimal without trailing zeros, `den` a power of ten with `places` zeros. -/
def decimal (num den places : Nat) : List Char :=
  let fraction := Nat.toDigits 10 (num % den)
  let padded := List.replicate (places - fraction.length) '0' ++ fraction
  let kept := (padded.reverse.dropWhile (· == '0')).reverse
  Nat.toDigits 10 (num / den) ++ (if kept.isEmpty then [] else '.' :: kept)

/-- The text of a duration in the largest of the units second, millisecond, microsecond and
nanosecond of which it holds at least one. -/
def text (d : Duration) : String :=
  String.ofList <|
    if 0 < d.seconds then decimal d.toNanos 1000000000 9 ++ ['s']
    else if 1000000 ≤ d.nanos then decimal d.nanos 1000000 6 ++ ['m', 's']
    else if 1000 ≤ d.nanos then decimal d.nanos 1000 3 ++ ['µ', 's']
    else Nat.toDigits 10 d.nanos ++ ['n', 's']

example : (ofMillis 1500).text = "1.5s" := by decide +kernel
example : (⟨0, 999999999⟩ : Duration).text = "999.999999ms" := by decide +kernel
example : (⟨0, 100000⟩ : Duration).text = "100µs" := by decide +kernel
example : (⟨0, 0⟩ : Duration).text = "0ns" := by decide +kernel

end Duration

end DocStore
