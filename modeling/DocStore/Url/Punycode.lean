/-!
# Punycode

The encoding of labels of international domain names. A label is written as its ASCII characters, a
hyphen if there are any, and then its other code points in ascending order; each is written as a
step from the last insertion, in digits of base 36 whose thresholds adapt to the steps seen.

Results:
  * `encode_ascii`: an encoding is ASCII, whatever the label.
-/

namespace DocStore.Punycode

/-- The value of a digit of base 36. -/
def digit? (c : Char) : Option Nat :=
  if 'a' ≤ c ∧ c ≤ 'z' then some (c.toNat - 'a'.toNat)
  else if 'A' ≤ c ∧ c ≤ 'Z' then some (c.toNat - 'A'.toNat)
  else if '0' ≤ c ∧ c ≤ '9' then some (c.toNat - '0'.toNat + 26)
  else none

/-- The threshold of the digit at position `k`. -/
def threshold (k bias : Nat) : Nat :=
  if k ≤ bias then 1 else if bias + 26 ≤ k then 26 else k - bias

/-- Divide by 35 until at most 455 is left, counting 36 for each division. -/
def shrink : Nat → Nat → Nat → Nat × Nat
  | 0, delta, k => (delta, k)
  | fuel + 1, delta, k => if 455 < delta then shrink fuel (delta / 35) (k + 36) else (delta, k)

/-- The bias after a step. -/
def adapt (delta count : Nat) (first : Bool) : Nat :=
  let delta := if first then delta / 700 else delta / 2
  let delta := delta + delta / count
  let (delta, k) := shrink delta delta 0
  k + 36 * delta / (delta + 38)

/-! ## Reading -/

/-- A reader between two digits. -/
structure State where
  out : List Nat
  codePoint : Nat
  index : Nat
  bias : Nat
  before : Nat
  weight : Nat
  position : Nat

def State.start (out : List Nat) : State :=
  { out, codePoint := 128, index := 0, bias := 72, before := 0, weight := 1, position := 36 }

/-- Take one digit; the last digit of a step inserts a code point. -/
def State.push? (s : State) (c : Char) : Option State := do
  let digit ← digit? c
  let index := s.index + digit * s.weight
  if Nat.pow 2 32 ≤ index then none
  let t := threshold s.position s.bias
  if digit < t then
    let count := s.out.length + 1
    let codePoint := s.codePoint + index / count
    if 0x10FFFF < codePoint || (0xD800 ≤ codePoint && codePoint ≤ 0xDFFF) then none
    let index := index % count
    pure { out := s.out.take index ++ codePoint :: s.out.drop index
           codePoint
           index := index + 1
           bias := adapt (s.index + digit * s.weight - s.before) count (s.before == 0)
           before := index + 1
           weight := 1
           position := 36 }
  else
    let weight := s.weight * (36 - t)
    if Nat.pow 2 32 ≤ weight then none
    pure { s with index, weight, position := s.position + 36 }

/-- Cut behind the last hyphen. A hyphen at the very front ends nothing. -/
def cutBasic (label : List Char) : List Char × List Char :=
  let (tail, rest) := label.reverse.span (· != '-')
  if rest.length ≤ 1 then ([], label) else ((rest.drop 1).reverse, tail.reverse)

/-- Read a label without its mark. What stands before the last hyphen is kept as it is. -/
def decode? (label : List Char) : Option (List Nat) := do
  let (basic, steps) := cutBasic label
  let state ← steps.foldlM State.push? (State.start (basic.map Char.toNat))
  if state.weight = 1 && state.position = 36 then some state.out else none

/-! ## Writing -/

/-- The digit of base 36 with a value. -/
def digitOf (n : Nat) : Char :=
  if n < 26 then Char.ofNat ('a'.toNat + n) else Char.ofNat ('0'.toNat + n - 26)

/-- The digits of a step. Each spends one unit of fuel. -/
def stepDigits (bias : Nat) : (fuel position step : Nat) → List Char
  | 0, _, _ => []
  | fuel + 1, position, step =>
    let t := threshold position bias
    if step < t then [digitOf step]
    else
      digitOf (t + (step - t) % (36 - t))
        :: stepDigits bias fuel (position + 36) ((step - t) / (36 - t))

/-- A writer between two code points: what is written, last first, how many code points are, and
the step from the last one. -/
structure Writer where
  done : List Char
  count : Nat
  first : Bool
  bias : Nat
  step : Nat

/-- Pass over a code point of the label while `code` is written. -/
def Writer.pass (code : Nat) (w : Writer) (n : Nat) : Writer :=
  if n < code then { w with step := w.step + 1 }
  else if n = code then
    { done := (stepDigits w.bias (w.step + 1) 36 w.step).reverse ++ w.done
      count := w.count + 1
      first := false
      bias := adapt w.step (w.count + 1) w.first
      step := 0 }
  else w

/-- Write the code points of a label that are in a row, each above the one before. -/
def writeAll (label : List Nat) : (start : Nat) → List Nat → Writer → Writer
  | _, [], w => w
  | start, code :: rest, w =>
    let w := { w with step := w.step + (code - start) * (w.count + 1) }
    let w := label.foldl (Writer.pass code) w
    writeAll label (code + 1) rest { w with step := w.step + 1 }

/-- Write a label without its mark. -/
def encode (label : List Nat) : List Char :=
  let basic := label.filter (· < 128)
  let others := ((label.filter (128 ≤ ·)).mergeSort fun a b => a ≤ b).eraseDups
  let hyphen := if basic.isEmpty then [] else ['-']
  let w := writeAll label 128 others ⟨[], basic.length, true, 72, 0⟩
  basic.map Char.ofNat ++ hyphen ++ w.done.reverse

/-! ## Encodings are ASCII -/

theorem digitOf_ascii {n : Nat} (h : n < 36) : (digitOf n).toNat < 0x80 := by
  have all : ∀ m < 36, (digitOf m).toNat < 0x80 := by decide
  exact all n h

theorem threshold_pos (k bias : Nat) : 0 < threshold k bias := by
  unfold threshold
  split
  · omega
  · split <;> omega

theorem threshold_le (k bias : Nat) : threshold k bias ≤ 26 := by
  unfold threshold
  split
  · omega
  · split <;> omega

theorem stepDigits_ascii (bias : Nat) :
    ∀ (fuel position step : Nat), ∀ c ∈ stepDigits bias fuel position step, c.toNat < 0x80 := by
  intro fuel
  induction fuel with
  | zero => intro _ _ c hc; cases hc
  | succ fuel ih =>
    intro position step c hc
    have low := threshold_pos position bias
    have high := threshold_le position bias
    simp only [stepDigits] at hc
    split at hc
    · rw [List.mem_singleton] at hc
      subst hc
      exact digitOf_ascii (by omega)
    · rcases List.mem_cons.1 hc with rfl | hc
      · have := Nat.mod_lt (step - threshold position bias)
          (show 0 < 36 - threshold position bias by omega)
        exact digitOf_ascii (by omega)
      · exact ih _ _ c hc

theorem pass_ascii {code n : Nat} {w : Writer} (h : ∀ c ∈ w.done, c.toNat < 0x80) :
    ∀ c ∈ (w.pass code n).done, c.toNat < 0x80 := by
  unfold Writer.pass
  split
  · exact h
  · split
    · intro c hc
      rcases List.mem_append.1 hc with hc | hc
      · exact stepDigits_ascii _ _ _ _ c (List.mem_reverse.1 hc)
      · exact h c hc
    · exact h

theorem foldl_pass_ascii (code : Nat) :
    ∀ (label : List Nat) {w : Writer}, (∀ c ∈ w.done, c.toNat < 0x80) →
      ∀ c ∈ (label.foldl (Writer.pass code) w).done, c.toNat < 0x80
  | [], _, h => h
  | _ :: label, _, h => foldl_pass_ascii code label (pass_ascii h)

theorem writeAll_ascii (label : List Nat) :
    ∀ (start : Nat) (codes : List Nat) {w : Writer}, (∀ c ∈ w.done, c.toNat < 0x80) →
      ∀ c ∈ (writeAll label start codes w).done, c.toNat < 0x80
  | _, [], _, h => h
  | start, code :: rest, w, h =>
    writeAll_ascii label (code + 1) rest
      (foldl_pass_ascii code label
        (w := { w with step := w.step + (code - start) * (w.count + 1) }) h)

/-- An encoding is ASCII. -/
theorem encode_ascii (label : List Nat) : ∀ c ∈ encode label, c.toNat < 0x80 := by
  intro c hc
  simp only [encode, List.mem_append] at hc
  rcases hc with (hc | hc) | hc
  · obtain ⟨n, hn, rfl⟩ := List.mem_map.1 hc
    have small : n < 128 := by simpa using (List.mem_filter.1 hn).2
    have all : ∀ m < 128, (Char.ofNat m).toNat < 0x80 := by decide
    exact all n small
  · split at hc
    · cases hc
    · rw [List.mem_singleton] at hc
      subst hc
      decide
  · exact writeAll_ascii label 128 _ (by intro c hc; cases hc) c (List.mem_reverse.1 hc)

example : decode? "bcher-kva".toList = some ("bücher".toList.map Char.toNat) := by decide +kernel
example : encode ("bücher".toList.map Char.toNat) = "bcher-kva".toList := by decide +kernel
example : decode? "-kva".toList = none := by decide +kernel

end DocStore.Punycode
