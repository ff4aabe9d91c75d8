import DocStore.Text.Digits

/-!
# Rows of decimal digits

A row of decimal digits stands for a number, as the library counts it by `Nat.ofDigitChars`; zeros in
front do not count. Read as a word of 64 bits, it gives this number when it fits.

Results:
  * `digitsOf_padded`: the digits of a number, with zeros in front, stand for it;
  * `word64?_digits`, `word64?_plus`: what is read from a row of digits, also behind a plus sign.
-/

namespace DocStore.Digits

variable {n acc : Nat} {c : Char} {digits more : List Char}

/-- A row of decimal digits that stands for a number. -/
structure DigitsOf (n : Nat) (digits : List Char) : Prop where
  filled : digits ≠ []
  each : ∀ c ∈ digits, c.isDigit = true
  value : Nat.ofDigitChars 10 digits 0 = n

/-- The digits of a number with zeros in front. -/
def padded (zeros n : Nat) : List Char := List.replicate zeros '0' ++ Nat.toDigits 10 n

theorem digitsOf_padded (zeros n : Nat) : DigitsOf n (padded zeros n) where
  filled := List.append_ne_nil_of_right_ne_nil _ Nat.toDigits_ne_nil
  each c inside := by
    rcases List.mem_append.1 inside with isZero | isDigit
    · rw [List.eq_of_mem_replicate isZero]
      rfl
    · exact Nat.isDigit_of_mem_toDigits (by decide) (by decide) isDigit
  value := by
    rw [padded, Nat.ofDigitChars_append, Nat.ofDigitChars_replicate_zero, Nat.mul_zero,
      Nat.ofDigitChars_ten_toDigits]

/-- More digits do not make a number less. -/
theorem le_ofDigitChars (digits : List Char) (acc : Nat) : acc ≤ Nat.ofDigitChars 10 digits acc := by
  induction digits generalizing acc with
  | nil => exact Nat.le_refl acc
  | cons c rest ih =>
    rw [Nat.ofDigitChars_cons]
    exact Nat.le_trans (by omega) (ih _)

theorem isDigit_iff : c.isDigit = true ↔ '0' ≤ c ∧ c ≤ '9' := by
  simp [Char.isDigit, Char.le_def]

theorem value?_of_isDigit (isDigit : c.isDigit = true) : value? c = some (c.toNat - '0'.toNat) := by
  rw [value?, if_pos (isDigit_iff.1 isDigit)]

theorem isDigitOf_ten (isDigit : c.isDigit = true) : isDigitOf 10 c = true := by
  have bounds := Char.isDigit_iff_toNat.1 isDigit
  have least : '0'.toNat = 48 := rfl
  have greatest : '9'.toNat = 57 := rfl
  rw [isDigitOf, value?_of_isDigit isDigit]
  exact decide_eq_true (by omega)

theorem fold_eq_ofDigitChars (each : ∀ c ∈ digits, c.isDigit = true) (acc : Nat) :
    fold 10 acc digits = Nat.ofDigitChars 10 digits acc := by
  induction digits generalizing acc with
  | nil => rfl
  | cons c rest ih =>
    obtain ⟨first, others⟩ := List.forall_mem_cons.1 each
    have step : fold 10 acc (c :: rest) = fold 10 (acc * 10 + (value? c).getD 0) rest := rfl
    rw [step, ih others, value?_of_isDigit first, Nat.ofDigitChars_cons, Option.getD_some,
      Nat.mul_comm]

theorem number?_digits (row : DigitsOf n digits) : number? 10 digits = some n := by
  have allDigits : digits.all (isDigitOf 10) = true :=
    List.all_eq_true.2 fun c inside => isDigitOf_ten (row.each c inside)
  rw [number?, if_neg fun none => row.filled (List.isEmpty_iff.1 none), if_pos allDigits,
    fold_eq_ofDigitChars row.each, row.value]

/-! ## Words -/

/-- A plus sign changes nothing, unless there is one already. -/
theorem word64?_of_signless {text : List Char} (signless : text.head? ≠ some '+') :
    word64? text = word64? ('+' :: text) := by
  unfold word64?
  split
  · exact absurd rfl signless
  · rfl

theorem DigitsOf.signless (row : DigitsOf n digits) (more : List Char) :
    (digits ++ more).head? ≠ some '+' := by
  obtain ⟨c, others, rfl⟩ := List.exists_cons_of_ne_nil row.filled
  intro sign
  obtain rfl := Option.some.inj sign
  cases row.each '+' List.mem_cons_self

/-- A row of digits behind a plus sign is read as its number when this is a word. -/
theorem word64?_plus (row : DigitsOf n digits) :
    word64? ('+' :: digits) = if n < Nat.pow 2 64 then some n else none := by
  simp only [word64?, number?_digits row]

/-- So it is without a sign. -/
theorem word64?_digits (row : DigitsOf n digits) :
    word64? digits = if n < Nat.pow 2 64 then some n else none := by
  have signless := row.signless []
  rw [List.append_nil] at signless
  rw [word64?_of_signless signless, word64?_plus row]

/-- Digits and something else are no word. -/
theorem word64?_eq_none (row : DigitsOf n digits) (other : isDigitOf 10 c = false) :
    word64? (digits ++ c :: more) = none := by
  have noNumber : number? 10 (digits ++ c :: more) = none := by
    have mixed : (digits ++ c :: more).all (isDigitOf 10) = false := by
      simp [other]
    simp [number?, mixed]
  rw [word64?_of_signless (row.signless (c :: more))]
  simp only [word64?, noNumber]

end DocStore.Digits
