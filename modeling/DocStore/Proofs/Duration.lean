import DocStore.Duration.Human
import DocStore.Proofs.Text.Digits

/-!
# Whole seconds

A number of whole seconds can be given as a number, or written in digits, behind a plus sign, or with
the unit of seconds, with blanks around it. Digits alone are read as a word at once; with a unit they are
counted one by one, and then scaled and added. Where the number is a word of 64 bits all of these give
it; where it is not, none of the written forms is read.

Results:
  * `readAmount_digits`: counting digits ends with their number, or in an overflow;
  * `readHuman_seconds`: an amount of seconds;
  * `whole_seconds_agree`: all ways to write a number of seconds.
-/

namespace DocStore

namespace Text

variable {front text back : List Char}

theorem dropWhile_padded (blank : ∀ c ∈ front, isBlank c = true)
    (first : ∀ c ∈ text.head?, isBlank c = false) : (front ++ text).dropWhile isBlank = text := by
  rw [List.dropWhile_append_of_pos blank]
  cases text with
  | nil => rfl
  | cons c rest => rw [List.dropWhile_cons_of_neg (by simp [first c rfl])]

/-- Blanks around a text are dropped. -/
theorem trim_padded (blank : ∀ c ∈ front, isBlank c = true) (blank' : ∀ c ∈ back, isBlank c = true)
    (filled : text ≠ []) (first : ∀ c ∈ text.head?, isBlank c = false)
    (last : ∀ c ∈ text.getLast?, isBlank c = false) : trim (front ++ text ++ back) = text := by
  have first' : ∀ c ∈ (text ++ back).head?, isBlank c = false := by
    obtain ⟨c, rest, rfl⟩ := List.exists_cons_of_ne_nil filled
    exact first
  have last' : ∀ c ∈ text.reverse.head?, isBlank c = false := by
    rwa [List.head?_reverse]
  have blank'' : ∀ c ∈ back.reverse, isBlank c = true := fun c inside =>
    blank' c (List.mem_reverse.1 inside)
  rw [trim, List.append_assoc, dropWhile_padded blank first', List.reverse_append,
    dropWhile_padded blank'' last', List.reverse_reverse]

theorem isBlank_of_isDigit {c : Char} (isDigit : c.isDigit = true) : isBlank c = false := by
  have bounds := Char.isDigit_iff_toNat.1 isDigit
  have least : '0'.toNat = 48 := rfl
  have greatest : '9'.toNat = 57 := rfl
  simp only [isBlank, blankRanges, List.any_cons, List.any_nil, Bool.or_eq_false_iff,
    Bool.and_eq_false_iff, decide_eq_false_iff_not, and_true]
  omega

end Text

namespace Duration

open Digits

variable {n acc offset : Nat} {digits rest : List Char} {c : Char}

/-! ## Counting digits -/

/-- Digits are counted on from what was counted before, as long as this is a word. -/
theorem readAmount_digits (each : ∀ c ∈ digits, c.isDigit = true) (small : acc < Nat.pow 2 64)
    (offset : Nat) (rest : List Char) :
    readAmount acc offset (digits ++ rest) =
      if Nat.ofDigitChars 10 digits acc < Nat.pow 2 64 then
        readAmount (Nat.ofDigitChars 10 digits acc) (offset + digits.length) rest
      else .error .overflow := by
  induction digits generalizing acc offset with
  | nil => exact (if_pos small).symm
  | cons c more ih =>
    obtain ⟨first, others⟩ := List.forall_mem_cons.1 each
    have counted : acc * 10 + digit c = 10 * acc + (c.toNat - '0'.toNat) := by
      rw [digit, Nat.mul_comm]
    rw [List.cons_append, readAmount, if_pos first, counted, Nat.ofDigitChars_cons, List.length_cons]
    by_cases fits : 10 * acc + (c.toNat - '0'.toNat) < Nat.pow 2 64
    · rw [if_pos fits, ih others fits, Nat.add_assoc, Nat.add_comm 1]
    · -- Once the count is no word, it stays so with further digits.
      have grown := le_ofDigitChars more (10 * acc + (c.toNat - '0'.toNat))
      rw [if_neg fits, if_neg fun less => fits (Nat.lt_of_le_of_lt grown less)]

/-- A row of digits is counted from its first one. -/
theorem readAmount_row (row : DigitsOf n (c :: digits)) (rest : List Char) :
    readAmount (digit c) 1 (digits ++ rest) =
      if n < Nat.pow 2 64 then readAmount n (1 + digits.length) rest else .error .overflow := by
  obtain ⟨first, others⟩ := List.forall_mem_cons.1 row.each
  have bounds := Char.isDigit_iff_toNat.1 first
  have least : '0'.toNat = 48 := rfl
  have greatest : '9'.toNat = 57 := rfl
  have small : digit c < Nat.pow 2 64 := by
    have ten : digit c < 10 := by
      rw [digit]
      omega
    exact Nat.lt_trans ten (by decide)
  have counted : Nat.ofDigitChars 10 digits (digit c) = n := by
    rw [← row.value, Nat.ofDigitChars_cons, Nat.mul_zero, Nat.zero_add, digit]
  rw [readAmount_digits others small, counted]

theorem readHuman_cons (isDigit : c.isDigit = true) (rest : List Char) :
    readHuman (c :: rest) = readAmounts ((c :: rest).length + 1) ⟨0, 0⟩ (digit c) 1 rest := by
  rw [readHuman, readFirst, if_pos isDigit]
  rfl

/-- Digits that stand for no word are not read, whatever follows them. -/
theorem readHuman_overflow (row : DigitsOf n digits) (large : Nat.pow 2 64 ≤ n) (rest : List Char) :
    readHuman (digits ++ rest) = .error .overflow := by
  obtain ⟨c, more, rfl⟩ := List.exists_cons_of_ne_nil row.filled
  rw [List.cons_append, readHuman_cons (row.each c List.mem_cons_self), readAmounts,
    readAmount_row row, if_neg (Nat.not_lt.2 large)]
  rfl

/-- A word of seconds is added to nothing, and nothing is carried. -/
theorem addAmount_seconds (small : n < Nat.pow 2 64) :
    addAmount ⟨0, 0⟩ n none ['s'] = .ok ⟨n, 0⟩ := by
  have fits : word n = .ok n := if_pos small
  have nothing : word 0 = .ok 0 := rfl
  have isUnit : TimeUnit.ofName? (String.ofList ['s']) = some .second := by decide
  have added : add ⟨0, 0⟩ n 0 = .ok ⟨n, 0⟩ := by
    simp [add, fits, nothing, bind, Except.bind, pure, Except.pure]
  simp only [addAmount, isUnit, TimeUnit.size, Nat.mul_one, Nat.mul_zero, fits, nothing]
  show (add ⟨0, 0⟩ n 0 >>= _) = _
  rw [added]
  rfl

/-- An amount of seconds is read when it is a word. -/
theorem readHuman_seconds (row : DigitsOf n digits) (small : n < Nat.pow 2 64) :
    readHuman (digits ++ ['s']) = .ok ⟨n, 0⟩ := by
  obtain ⟨c, more, rfl⟩ := List.exists_cons_of_ne_nil row.filled
  rw [List.cons_append, readHuman_cons (row.each c List.mem_cons_self), readAmounts,
    readAmount_row row, if_pos small]
  show (addAmount ⟨0, 0⟩ n none ['s'] >>= _) = _
  rw [addAmount_seconds small]
  rfl

/-! ## Written seconds -/

/-- The ways to write a number of seconds: in digits, perhaps with zeros in front, behind a plus sign or
not, and in digits with the unit. -/
inductive Spells (n : Nat) : List Char → Prop
  | digits (zeros : Nat) : Spells n (padded zeros n)
  | plus (zeros : Nat) : Spells n ('+' :: padded zeros n)
  | unit (zeros : Nat) : Spells n (padded zeros n ++ ['s'])

variable {front written back : List Char}

theorem Spells.filled (spells : Spells n written) : written ≠ [] := by
  cases spells with
  | digits zeros => exact (digitsOf_padded zeros n).filled
  | plus zeros => exact List.cons_ne_nil _ _
  | unit zeros => exact List.append_ne_nil_of_right_ne_nil _ (List.cons_ne_nil _ _)

theorem Spells.solid (spells : Spells n written) : ∀ c ∈ written, Text.isBlank c = false := by
  have each (zeros : Nat) (c : Char) (inside : c ∈ padded zeros n) : Text.isBlank c = false :=
    Text.isBlank_of_isDigit ((digitsOf_padded zeros n).each c inside)
  cases spells with
  | digits zeros => exact each zeros
  | plus zeros => exact List.forall_mem_cons.2 ⟨rfl, each zeros⟩
  | unit zeros =>
    intro c inside
    rcases List.mem_append.1 inside with inside | isUnit
    · exact each zeros c inside
    · rw [List.mem_singleton.1 isUnit]
      rfl

/-- Blanks around what is written do not count. -/
theorem Spells.trimmed (spells : Spells n written) (blank : ∀ c ∈ front, Text.isBlank c = true)
    (blank' : ∀ c ∈ back, Text.isBlank c = true) :
    Text.trim (String.ofList (front ++ written ++ back)).toList = written := by
  rw [String.toList_ofList]
  exact Text.trim_padded blank blank' spells.filled
    (fun c isFirst => spells.solid c (List.mem_of_mem_head? isFirst))
    fun c isLast => spells.solid c (List.mem_of_mem_getLast? isLast)

/-- A word of seconds is read from whatever spells it. -/
theorem parse_of_small (spells : Spells n written) (small : n < Nat.pow 2 64)
    (blank : ∀ c ∈ front, Text.isBlank c = true) (blank' : ∀ c ∈ back, Text.isBlank c = true) :
    parse (String.ofList (front ++ written ++ back)) = .ok ⟨n, 0⟩ := by
  simp only [parse, spells.trimmed blank blank']
  cases spells with
  | digits zeros =>
    rw [word64?_digits (digitsOf_padded zeros n), if_pos small]
    rfl
  | plus zeros =>
    rw [word64?_plus (digitsOf_padded zeros n), if_pos small]
    rfl
  | unit zeros =>
    rw [word64?_eq_none (digitsOf_padded zeros n) rfl, readHuman_seconds (digitsOf_padded zeros n) small]
    rfl

/-- What spells a greater number is refused: it is no word, and counting it overflows; an amount does
not begin with a plus sign. -/
theorem parse_of_large (spells : Spells n written) (large : Nat.pow 2 64 ≤ n)
    (blank : ∀ c ∈ front, Text.isBlank c = true) (blank' : ∀ c ∈ back, Text.isBlank c = true) :
    parse (String.ofList (front ++ written ++ back)) = .error (.written (String.ofList written)
      (if written.head? = some '+' then .numberExpected 0 else .overflow)) := by
  simp only [parse, spells.trimmed blank blank']
  cases spells with
  | digits zeros =>
    have row := digitsOf_padded zeros n
    have overflow := readHuman_overflow row large []
    have signless := row.signless []
    rw [List.append_nil] at overflow signless
    rw [word64?_digits row, if_neg (Nat.not_lt.2 large), overflow, if_neg signless]
    rfl
  | plus zeros =>
    rw [word64?_plus (digitsOf_padded zeros n), if_neg (Nat.not_lt.2 large)]
    rfl
  | unit zeros =>
    have row := digitsOf_padded zeros n
    rw [word64?_eq_none row rfl, readHuman_overflow row large, if_neg (row.signless _)]
    rfl

/-- A number of seconds that is a word is read as it is, and so is all that spells it, with blanks around
it. What spells another number is refused for that; so are numbers that are negative or have a fraction. -/
theorem whole_seconds_agree :
    (∀ n : Nat, n < Nat.pow 2 64 → ofValue (.int n) = .ok ⟨n, 0⟩ ∧
      ∀ front written back, (∀ c ∈ front, Text.isBlank c = true) → Spells n written →
        (∀ c ∈ back, Text.isBlank c = true) →
        ofValue (.string (String.ofList (front ++ written ++ back))) = .ok ⟨n, 0⟩) ∧
    (∀ n : Nat, Nat.pow 2 64 ≤ n →
      ∀ front written back, (∀ c ∈ front, Text.isBlank c = true) → Spells n written →
        (∀ c ∈ back, Text.isBlank c = true) →
        ofValue (.string (String.ofList (front ++ written ++ back))) =
          .error (.written (String.ofList written)
            (if written.head? = some '+' then .numberExpected 0 else .overflow))) ∧
    (∀ n : Int, n < 0 → ofValue (.int n) = .error (.notWholeSeconds (.int n))) ∧
    ∀ x, ofValue (.float x) = .error (.notWholeSeconds (.float x)) := by
  refine ⟨fun n small => ⟨?_, ?_⟩, ?_, ?_, fun x => rfl⟩
  · rw [ofValue, if_pos (Int.natCast_nonneg n), Int.toNat_natCast]
    rfl
  · intro front written back blank spells blank'
    exact parse_of_small spells small blank blank'
  · intro n large front written back blank spells blank'
    exact parse_of_large spells large blank blank'
  · intro n negative
    exact if_neg (Int.not_le.2 negative)

/-- The greatest word is read with a zero in front, and with the unit; the next number is not. -/
theorem whole_seconds_agree_limit :
    ofValue (.string " 018446744073709551615\t") = .ok ⟨18446744073709551615, 0⟩ ∧
    ofValue (.string "18446744073709551615s") = .ok ⟨18446744073709551615, 0⟩ ∧
    ofValue (.string "18446744073709551616s") =
      .error (.written "18446744073709551616s" .overflow) ∧
    ofValue (.int (-1)) = .error (.notWholeSeconds (.int (-1))) := by
  obtain ⟨small, large, negative, -⟩ := whole_seconds_agree
  have none : ∀ c ∈ ([] : List Char), Text.isBlank c = true := List.forall_mem_nil _
  have one {c : Char} (blank : Text.isBlank c = true) : ∀ d ∈ [c], Text.isBlank d = true :=
    List.forall_mem_singleton.2 blank
  refine ⟨?_, ?_, ?_, negative (-1) (by decide)⟩
  · have spelled : " 018446744073709551615\t" =
        String.ofList ([' '] ++ padded 1 18446744073709551615 ++ ['\t']) := by decide +kernel
    rw [spelled]
    exact (small _ (by decide)).2 _ _ _ (one rfl) (.digits 1) (one rfl)
  · have spelled : "18446744073709551615s" =
        String.ofList ([] ++ (padded 0 18446744073709551615 ++ ['s']) ++ []) := by decide +kernel
    rw [spelled]
    exact (small _ (by decide)).2 _ _ _ none (.unit 0) none
  · have spelled : "18446744073709551616s" =
        String.ofList ([] ++ (padded 0 18446744073709551616 ++ ['s']) ++ []) := by decide +kernel
    have refused := large 18446744073709551616 (by decide) [] _ [] none (.unit 0) none
    rw [← spelled] at refused
    exact refused

end Duration

end DocStore
