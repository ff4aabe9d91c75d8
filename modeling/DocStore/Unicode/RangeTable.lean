import DocStore.Text.Digits
import DocStore.Text.Pieces

/-!
# Tables of code points

A table tells ranges of code points from all others, and may say something about each range. It is
written as a text: the ranges in ascending order with blanks or line ends between them, each by its
first and last code point in hexadecimal digits, or by its only one. Behind `=` may stand further
numbers, with points between them.

Results:
  * `RangeTable.find?_covers`: the range that is found for a code point covers it.
-/

namespace DocStore.Unicode

/-- A range of code points, and what the table says about it. -/
structure Range where
  first : Nat
  last : Nat
  numbers : List Nat
deriving DecidableEq, Repr

namespace Range

/-- The numbers of the range, moved on as far as the code point lies behind the first one. -/
def shifted (r : Range) (code : Nat) : List Nat :=
  match r.numbers with
  | [] => []
  | n :: rest => (n + (code - r.first)) :: rest

/-- Read a range. -/
def read? (text : List Char) : Option Range := do
  let (range, said) := text.span (· != '=')
  let numbers ← match said with
    | [] => pure []
    | _ :: numbers => (Text.splitOn '.' numbers).mapM (Digits.number? 16)
  match Text.splitOn '-' range with
  | [only] =>
    let code ← Digits.number? 16 only
    pure ⟨code, code, numbers⟩
  | [first, last] => pure ⟨← Digits.number? 16 first, ← Digits.number? 16 last, numbers⟩
  | _ => none

end Range

/-- Ranges in ascending order. -/
structure RangeTable where
  ranges : Array Range
deriving Repr

namespace RangeTable

/-- Read a table. -/
def read (text : String) : RangeTable :=
  let lines := Text.splitOn '\n' text.toList
  ⟨(lines.flatMap fun line => (Text.splitOn ' ' line).filterMap Range.read?).toArray⟩

/-- Search among the ranges from `low` on and before `high`. Each step halves their number and
spends one unit of fuel. -/
def search (t : RangeTable) (code : Nat) : (fuel low high : Nat) → Option Range
  | 0, _, _ => none
  | fuel + 1, low, high =>
    if high ≤ low then none
    else
      let middle := (low + high) / 2
      match t.ranges[middle]? with
      | none => none
      | some range =>
        if code < range.first then search t code fuel low middle
        else if range.last < code then search t code fuel (middle + 1) high
        else some range

/-- The range that covers a code point. -/
def find? (t : RangeTable) (code : Nat) : Option Range :=
  t.search code (t.ranges.size + 1) 0 t.ranges.size

def contains (t : RangeTable) (code : Nat) : Bool := (t.find? code).isSome

theorem search_covers {t : RangeTable} {code : Nat} {range : Range} :
    ∀ {fuel low high : Nat}, t.search code fuel low high = some range →
      range.first ≤ code ∧ code ≤ range.last := by
  intro fuel
  induction fuel with
  | zero => intro low high h; cases h
  | succ fuel ih =>
    intro low high h
    simp only [search] at h
    split at h
    · cases h
    · split at h
      · cases h
      · split at h
        · exact ih h
        · split at h
          · exact ih h
          · cases h
            omega

theorem find?_covers {t : RangeTable} {code : Nat} {range : Range} (h : t.find? code = some range) :
    range.first ≤ code ∧ code ≤ range.last :=
  search_covers h

example : ((read "41-5A=61 C0").find? 0x43).map (·.shifted 0x43) = some [0x63] := by
  decide +kernel
example : (read "41-5A=61 C0").contains 0xC1 = false := by decide +kernel

end RangeTable

end DocStore.Unicode
