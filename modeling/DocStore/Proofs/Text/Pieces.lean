import DocStore.Text.Pieces
import Mathlib.Data.List.Infix

/-!
# Pieces of texts

A text is cut at every separator. The pieces hold no separator, and put together with separators
between them they are the text again, so a text and its pieces determine each other. A piece is empty
where a separator stands at an end of the text, or where two of them stand side by side.

Results:
  * `splitOn_eq`: cutting is the library's `List.splitOn`;
  * `nil_not_mem_splitOn_iff`: when no piece is empty;
  * `map_eq_intercalate`: another separator in place of the first cuts the text in the same pieces.
-/

namespace DocStore.Text

variable {sep : Char} {text : List Char}

theorem splitOn_eq (sep : Char) (text : List Char) : splitOn sep text = text.splitOn sep := by
  induction text with
  | nil => rfl
  | cons c rest ih =>
    rw [List.splitOn_cons_eq_if_modifyHead, splitOn, ih]
    by_cases same : c = sep
    · rw [if_pos same, if_pos (beq_iff_eq.2 same)]
    · rw [if_neg same, if_neg fun equal => same (beq_iff_eq.1 equal)]
      cases pieces : rest.splitOn sep with
      | nil => exact absurd pieces (List.splitOn_ne_nil sep rest)
      | cons piece more => rfl

/-- No separator stands at an end of the text, and no two stand side by side. -/
structure Gapless (sep : Char) (text : List Char) : Prop where
  start : ¬ [sep] <+: text
  ending : ¬ [sep] <:+ text
  inside : ¬ [sep, sep] <:+: text

theorem head?_splitOn_eq_nil_iff (sep : Char) (text : List Char) :
    (text.splitOn sep).head? = some [] ↔ text = [] ∨ [sep] <+: text := by
  cases text with
  | nil => simp
  | cons c rest =>
    rw [List.splitOn_cons_eq_if_modifyHead]
    by_cases same : c = sep
    · simp [same]
    · obtain ⟨piece, more, pieces⟩ := List.exists_cons_of_ne_nil (List.splitOn_ne_nil sep rest)
      simp [same, pieces, Ne.symm same]

/-- A piece behind the first is empty when a separator ends the text, or stands before another. -/
theorem nil_mem_tail_splitOn_iff (sep : Char) (text : List Char) :
    [] ∈ (text.splitOn sep).tail ↔ [sep] <:+ text ∨ [sep, sep] <:+: text := by
  induction text with
  | nil => simp
  | cons c rest ih =>
    rw [List.splitOn_cons_eq_if_modifyHead, List.suffix_cons_iff, List.infix_cons_iff,
      List.cons_prefix_cons]
    obtain ⟨piece, more, pieces⟩ := List.exists_cons_of_ne_nil (List.splitOn_ne_nil sep rest)
    have first := head?_splitOn_eq_nil_iff sep rest
    rw [pieces] at first ih
    simp only [List.head?_cons, Option.some.injEq, List.tail_cons] at first ih
    by_cases same : c = sep
    · -- Behind a separator the first piece of the rest counts as well.
      subst same
      have ends : [c] = c :: rest ↔ rest = [] := by simp [eq_comm]
      rw [if_pos (beq_self_eq_true c), pieces, List.tail_cons, List.mem_cons, eq_comm, first, ih, ends]
      tauto
    · have ends : [sep] ≠ c :: rest := fun equal => same (List.cons.inj equal).1.symm
      rw [if_neg fun equal => same (beq_iff_eq.1 equal), pieces, List.modifyHead_cons,
        List.tail_cons, ih]
      simp [ends, Ne.symm same]

/-- No piece is empty when the text is not empty and has separators only where they cut. -/
theorem nil_not_mem_splitOn_iff : [] ∉ text.splitOn sep ↔ text ≠ [] ∧ Gapless sep text := by
  obtain ⟨piece, more, pieces⟩ := List.exists_cons_of_ne_nil (List.splitOn_ne_nil sep text)
  have first := head?_splitOn_eq_nil_iff sep text
  have others := nil_mem_tail_splitOn_iff sep text
  rw [pieces] at first others ⊢
  simp only [List.head?_cons, Option.some.injEq, List.tail_cons] at first others
  rw [List.mem_cons, eq_comm, first, others]
  constructor
  · intro filled
    simp only [not_or] at filled
    obtain ⟨⟨some, start⟩, ending, inside⟩ := filled
    exact ⟨some, start, ending, inside⟩
  · rintro ⟨some, start, ending, inside⟩
    simp only [not_or]
    exact ⟨⟨some, start⟩, ending, inside⟩

/-- A text with another separator has the same pieces. -/
theorem map_eq_intercalate (sep other : Char) (text : List Char) :
    (text.map fun c => if c = sep then other else c) = [other].intercalate (text.splitOn sep) := by
  induction text with
  | nil => rfl
  | cons c rest ih =>
    rw [List.splitOn_cons_eq_if_modifyHead, List.map_cons, ih]
    obtain ⟨piece, more, pieces⟩ := List.exists_cons_of_ne_nil (List.splitOn_ne_nil sep rest)
    rw [pieces]
    by_cases same : c = sep
    · rw [if_pos same, if_pos (beq_iff_eq.2 same), List.intercalate_cons_cons]
      rfl
    · rw [if_neg same, if_neg fun equal => same (beq_iff_eq.1 equal), List.modifyHead_cons,
        List.intercalate_cons_cons_left]

theorem map_ofList_map_toList (names : List String) :
    (names.map String.toList).map String.ofList = names := by
  simp [List.map_map, Function.comp_def]

theorem map_toList_map_ofList (pieces : List (List Char)) :
    (pieces.map String.ofList).map String.toList = pieces := by
  simp [List.map_map, Function.comp_def]

/-- Pieces with a separator in front of each. -/
theorem flatMap_eq_intercalate (sep : Char) {pieces : List (List Char)} (some : pieces ≠ []) :
    pieces.flatMap (sep :: ·) = sep :: [sep].intercalate pieces := by
  induction pieces with
  | nil => exact absurd rfl some
  | cons piece more ih =>
    rw [List.flatMap_cons]
    cases more with
    | nil => simp
    | cons next more =>
      rw [ih (List.cons_ne_nil next more), List.intercalate_cons_cons]
      simp

/-- No piece has a character other than the separator when the text does not have it. -/
theorem forall_not_mem_splitOn_iff {c : Char} (other : c ≠ sep) :
    (∀ piece ∈ text.splitOn sep, c ∉ piece) ↔ c ∉ text := by
  induction text with
  | nil => simp
  | cons first rest ih =>
    rw [List.splitOn_cons_eq_if_modifyHead, List.mem_cons, not_or, ← ih]
    obtain ⟨piece, more, pieces⟩ := List.exists_cons_of_ne_nil (List.splitOn_ne_nil sep rest)
    by_cases same : first = sep
    · subst same
      simp [other]
    · rw [if_neg fun equal => same (beq_iff_eq.1 equal), pieces, List.modifyHead_cons]
      simp [and_assoc]

/-! ## Characters at the ends -/

theorem getD_dropPrefix? {front : List Char} (other : ¬ front <+: text) :
    (text.dropPrefix? front).getD text = text := by
  cases cut : text.dropPrefix? front with
  | none => rfl
  | some rest =>
    obtain ⟨start, rfl, same⟩ := List.dropPrefix?_eq_some_iff.1 cut
    obtain rfl := eq_of_beq same
    exact absurd (List.prefix_append start rest) other

theorem getD_dropSuffix? {back : List Char} (other : ¬ back <:+ text) :
    (text.dropSuffix? back).getD text = text := by
  cases cut : text.dropSuffix? back with
  | none => rfl
  | some rest =>
    obtain ⟨ending, rfl, same⟩ := List.dropSuffix?_eq_some_iff.1 cut
    obtain rfl := eq_of_beq same
    exact absurd (List.suffix_append rest ending) other

theorem dropLeading_eq (c : Char) (text : List Char) :
    dropLeading c text = (text.dropPrefix? [c]).getD text := by
  cases text with
  | nil => rfl
  | cons d rest =>
    unfold dropLeading
    by_cases same : d = c <;> simp [List.dropPrefix?, same]

theorem dropTrailing_eq (c : Char) (text : List Char) :
    dropTrailing c text = (text.dropSuffix? [c]).getD text := by
  unfold dropTrailing
  by_cases last : text.getLast? = some c
  · obtain ⟨front, rfl⟩ := List.getLast?_eq_some_iff.1 last
    have cut := (List.dropSuffix?_eq_some_iff (p := front)).2 ⟨[c], rfl, beq_self_eq_true [c]⟩
    rw [if_pos last, cut, List.dropLast_concat, Option.getD_some]
  · have other : ¬ [c] <:+ text := by
      rintro ⟨front, rfl⟩
      exact last List.getLast?_concat
    rw [if_neg last, getD_dropSuffix? other]

end DocStore.Text
