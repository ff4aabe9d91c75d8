import DocStore.Proofs.Fallible
import DocStore.Proofs.Text.Pieces
import DocStore.Value.Written

/-!
# Texts of paths

A path is read from its slash form, whose outer slashes do not count, and from its dotted form. What is
read is told by the names of the path with slashes between them: a text is read as a path when this is
what it holds between the outer slashes. A dotted form is the slash form of the same path with dots in
place of the slashes.

Results:
  * `parse_eq_ok_iff`, `ofDotted_eq_ok_iff`: which texts are read as a path;
  * `exists_parse_iff`, `exists_ofDotted_iff`: which texts are read as a path at all;
  * `text_forms_faithful`: the forms are read as what they were written from, and told apart.
-/

namespace DocStore

/-- Pieces are names when none is empty and none has a slash. -/
theorem forall_isSegment_iff {pieces : List (List Char)} :
    (∀ s ∈ pieces.map String.ofList, IsSegment s) ↔
      [] ∉ pieces ∧ ∀ piece ∈ pieces, '/' ∉ piece := by
  simp only [List.forall_mem_map, IsSegment, String.toList_ofList, ne_eq, String.ofList_eq_empty_iff]
  constructor
  · intro each
    exact ⟨fun inside => (each [] inside).1 rfl, fun piece inside => (each piece inside).2⟩
  · rintro ⟨filled, free⟩ piece inside
    refine ⟨?_, free piece inside⟩
    rintro rfl
    exact filled inside

namespace Path

variable {p q : Path} {text other : String}

/-! ## Names with slashes between them -/

/-- The names of a path with slashes between them only. -/
def slashed (p : Path) : List Char := ['/'].intercalate (p.segments.map String.toList)

/-- The names are the pieces between the slashes. -/
theorem splitOn_slashed (filled : p.segments ≠ []) :
    p.slashed.splitOn '/' = p.segments.map String.toList := by
  refine List.splitOn_intercalate '/' ?_ fun none => filled (List.map_eq_nil_iff.1 none)
  intro piece inside
  obtain ⟨name, present, rfl⟩ := List.mem_map.1 inside
  exact (p.valid name present).2

/-- No slash stands at an end, or beside another. -/
theorem slashed_gapless (filled : p.segments ≠ []) :
    p.slashed ≠ [] ∧ Text.Gapless '/' p.slashed := by
  rw [← Text.nil_not_mem_splitOn_iff, splitOn_slashed filled]
  intro inside
  obtain ⟨name, present, empty⟩ := List.mem_map.1 inside
  exact (p.valid name present).1 (String.toList_eq_nil_iff.1 empty)

theorem slashed_eq_nil_iff : p.slashed = [] ↔ p = root := by
  constructor
  · intro empty
    by_contra other
    exact (slashed_gapless fun none => other (Path.ext none)).1 empty
  · rintro rfl
    rfl

theorem named_of_slashed (filled : p.slashed ≠ []) : p.segments ≠ [] :=
  fun none => filled (slashed_eq_nil_iff.2 (Path.ext none))

/-- The path with given pieces is the one with the text that the pieces are cut from. -/
theorem segments_eq_iff {letters : List Char} (filled : letters ≠ []) :
    p.segments = (letters.splitOn '/').map String.ofList ↔ p.slashed = letters := by
  constructor
  · intro pieces
    rw [slashed, pieces, Text.map_toList_map_ofList, List.intercalate_splitOn]
  · rintro rfl
    rw [splitOn_slashed (named_of_slashed filled), Text.map_ofList_map_toList]

theorem slashed_inj : p.slashed = q.slashed ↔ p = q := by
  refine ⟨fun same => ?_, fun same => by rw [same]⟩
  by_cases empty : q.slashed = []
  · rw [slashed_eq_nil_iff.1 (same.trans empty), slashed_eq_nil_iff.1 empty]
  · exact Path.ext (((segments_eq_iff empty).2 same).trans ((segments_eq_iff empty).2 rfl).symm)

/-- Which texts are the names of a path with slashes between them. -/
theorem exists_slashed_iff {letters : List Char} :
    (∃ p : Path, p.slashed = letters) ↔ letters = [] ∨ Text.Gapless '/' letters := by
  by_cases empty : letters = []
  · exact ⟨fun _ => .inl empty, fun _ => ⟨root, by rw [empty]; rfl⟩⟩
  · constructor
    · rintro ⟨p, rfl⟩
      exact .inr (slashed_gapless (named_of_slashed empty)).2
    · rintro (none | gapless)
      · exact absurd none empty
      · have valid : ∀ s ∈ (letters.splitOn '/').map String.ofList, IsSegment s := by
          refine forall_isSegment_iff.2 ⟨Text.nil_not_mem_splitOn_iff.2 ⟨empty, gapless⟩, ?_⟩
          intro piece inside
          rw [← Text.splitOn_eq] at inside
          exact Text.not_mem_of_mem_splitOn inside
        exact ⟨⟨_, valid⟩, (segments_eq_iff empty).1 rfl⟩

/-! ## The slash form -/

/-- A text without one leading and one trailing slash. -/
def bare (text : String) : List Char :=
  let rest := (text.toList.dropPrefix? ['/']).getD text.toList
  (rest.dropSuffix? ['/']).getD rest

/-- What is read from a text is the path whose names it holds between the outer slashes. -/
theorem parse_eq_ok_iff : parse text = .ok p ↔ p.slashed = bare text := by
  have trimmed : Text.dropTrailing '/' (Text.dropLeading '/' text.toList) = bare text := by
    rw [Text.dropLeading_eq, Text.dropTrailing_eq]
    rfl
  unfold parse
  simp only [trimmed, List.isEmpty_iff]
  -- Cut into pieces, nothing would be one empty piece; so it is a case of its own.
  by_cases empty : bare text = []
  · rw [if_pos empty, empty, slashed_eq_nil_iff, Except.ok.injEq, eq_comm]
  · rw [if_neg empty, mapError_eq_ok_iff, ofSegments_eq_ok_iff, Text.splitOn_eq]
    exact segments_eq_iff empty

theorem exists_parse_iff :
    (∃ p, parse text = .ok p) ↔ bare text = [] ∨ Text.Gapless '/' (bare text) := by
  rw [← exists_slashed_iff]
  exact exists_congr fun p => parse_eq_ok_iff

/-- Two texts are read as the same path when they hold the same between the outer slashes. -/
theorem eq_iff_bare (ok : parse text = .ok p) (ok' : parse other = .ok q) :
    p = q ↔ bare text = bare other := by
  rw [← parse_eq_ok_iff.1 ok, ← parse_eq_ok_iff.1 ok', slashed_inj]

/-- The names of a path are bare, whether or not a slash is written in front of them. -/
theorem bare_slashed (filled : p.segments ≠ []) {front : List Char}
    (slash : front = [] ∨ front = ['/']) : bare (String.ofList (front ++ p.slashed)) = p.slashed := by
  have gapless := (slashed_gapless filled).2
  have uncovered : ((front ++ p.slashed).dropPrefix? ['/']).getD (front ++ p.slashed) = p.slashed := by
    rcases slash with rfl | rfl
    · exact Text.getD_dropPrefix? gapless.start
    · rw [List.dropPrefix?_append_of_beq p.slashed (beq_self_eq_true ['/']), Option.getD_some]
  unfold bare
  rw [String.toList_ofList, uncovered]
  exact Text.getD_dropSuffix? gapless.ending

/-- A path is read from its text. -/
theorem parse_text (p : Path) : parse p.text = .ok p := by
  rw [parse_eq_ok_iff]
  by_cases empty : p.segments = []
  · obtain rfl : p = root := Path.ext empty
    rfl
  · have letters : p.text = String.ofList (['/'] ++ p.slashed) := by
      rw [← String.toList_inj, text, if_neg fun none => empty (List.isEmpty_iff.1 none),
        String.toList_join, List.flatMap_map, String.toList_ofList]
      have named : p.segments.map String.toList ≠ [] := fun none => empty (List.map_eq_nil_iff.1 none)
      simpa [slashed, List.flatMap_map] using Text.flatMap_eq_intercalate '/' named
    rw [letters, bare_slashed empty (.inr rfl)]

/-- A path is read from what stands for it in a value. -/
theorem ofValue_toValue (p : Path) : ofValue p.toValue = .ok p :=
  Value.readText_of_ok (parse_text p)

/-! ## The dotted form -/

/-- What is read from a dotted form is the path whose names are the pieces between the dots. -/
theorem ofDotted_eq_ok_iff : ofDotted text = .ok p ↔
    text ≠ "" ∧ p.segments.map String.toList = text.toList.splitOn '.' := by
  unfold ofDotted
  by_cases empty : text = ""
  · simp [empty]
  · rw [if_neg empty, mapError_eq_ok_iff, ofSegments_eq_ok_iff, Text.splitOn_eq]
    constructor
    · intro pieces
      exact ⟨empty, by rw [pieces, Text.map_toList_map_ofList]⟩
    · rintro ⟨-, pieces⟩
      rw [← pieces, Text.map_ofList_map_toList]

theorem exists_ofDotted_iff : (∃ p, ofDotted text = .ok p) ↔
    '/' ∉ text.toList ∧ text ≠ "" ∧ Text.Gapless '.' text.toList := by
  have named : (∃ p, ofDotted text = .ok p) ↔
      text ≠ "" ∧ ∀ s ∈ (text.toList.splitOn '.').map String.ofList, IsSegment s := by
    constructor
    · rintro ⟨p, ok⟩
      obtain ⟨some, pieces⟩ := ofDotted_eq_ok_iff.1 ok
      refine ⟨some, ?_⟩
      rw [← pieces, Text.map_ofList_map_toList]
      exact p.valid
    · rintro ⟨some, valid⟩
      exact ⟨⟨_, valid⟩, ofDotted_eq_ok_iff.2 ⟨some, Text.map_toList_map_ofList _⟩⟩
  rw [named, forall_isSegment_iff, Text.nil_not_mem_splitOn_iff,
    Text.forall_not_mem_splitOn_iff (show '/' ≠ '.' by decide), ne_eq, ne_eq,
    String.toList_eq_nil_iff]
  tauto

/-- A path is written as the dotted form that it was read from. -/
theorem dotted_of_ofDotted (ok : ofDotted text = .ok p) : p.dotted = text := by
  rw [← String.toList_inj, dotted, String.toList_intercalate, (ofDotted_eq_ok_iff.1 ok).2]
  exact List.intercalate_splitOn '.'

/-- The slash form of what is read from a dotted form has slashes where there were dots. -/
theorem parse_of_ofDotted (ok : ofDotted text = .ok p) :
    parse (text.map fun c => if c = '.' then '/' else c) = .ok p := by
  obtain ⟨some, pieces⟩ := ofDotted_eq_ok_iff.1 ok
  have filled : p.segments ≠ [] := by
    intro none
    rw [none, List.map_nil] at pieces
    exact List.splitOn_ne_nil '.' text.toList pieces.symm
  have letters : text.map (fun c => if c = '.' then '/' else c) = String.ofList ([] ++ p.slashed) := by
    rw [← String.toList_inj, String.toList_map, Text.map_eq_intercalate, ← pieces,
      String.toList_ofList]
    rfl
  rw [parse_eq_ok_iff, letters, bare_slashed filled (.inl rfl)]

/-! ## All forms -/

/-- Each path is read from its text, and from what stands for it in a value. A text is read as a path
when nothing is left of it without the outer slashes, or no slash stands there at an end or beside
another; two texts are read as the same path when the same is left of them. A dotted form is read when it
has no slash and is not empty, and no dot stands at an end or beside another. The path that is read is
written in that form, and is read from the form with slashes in place of the dots. -/
theorem text_forms_faithful :
    (∀ p : Path, parse p.text = .ok p ∧ ofValue p.toValue = .ok p) ∧
    (∀ text, (∃ p, parse text = .ok p) ↔
      bare text = [] ∨ Text.Gapless '/' (bare text)) ∧
    (∀ text other p q, parse text = .ok p → parse other = .ok q →
      (p = q ↔ bare text = bare other)) ∧
    (∀ text, (∃ p, ofDotted text = .ok p) ↔
      '/' ∉ text.toList ∧ text ≠ "" ∧ Text.Gapless '.' text.toList) ∧
    ∀ text p, ofDotted text = .ok p →
      p.dotted = text ∧ parse (text.map fun c => if c = '.' then '/' else c) = .ok p :=
  ⟨fun p => ⟨parse_text p, ofValue_toValue p⟩, fun _ => exists_parse_iff,
    fun _ _ _ _ => eq_iff_bare, fun _ => exists_ofDotted_iff,
    fun _ _ ok => ⟨dotted_of_ofDotted ok, parse_of_ofDotted ok⟩⟩

/-- A path with a dot in a name. -/
def dotInName : Path := ⟨["a.b", "c"], by decide⟩

/-- The root is read from two slashes, and nothing from three. The outer slashes of `/a.b/c/` do not
count, and its dot is part of a name; in a dotted form the dots are between names. -/
theorem text_forms_faithful_samples :
    (∃ p, parse "//" = .ok p) ∧ (¬ ∃ p, parse "///" = .ok p) ∧
    (dotInName = dotInName ↔ bare "/a.b/c/" = bare "a.b/c") ∧
    ofValue dotInName.toValue = .ok dotInName ∧ (¬ ∃ p, ofDotted "x..y" = .ok p) ∧
    ∃ p, ofDotted "x.y" = .ok p ∧ p.dotted = "x.y" ∧ parse "x/y" = .ok p := by
  obtain ⟨read, accepted, apart, acceptedDotted, back⟩ := text_forms_faithful
  have gapless : Text.Gapless '.' "x.y".toList := ⟨by decide, by decide, by decide⟩
  obtain ⟨p, ok⟩ := (acceptedDotted "x.y").2 ⟨by decide, by decide, gapless⟩
  obtain ⟨written, slashed⟩ := back _ _ ok
  rw [show "x.y".map (fun c => if c = '.' then '/' else c) = "x/y" by decide +kernel] at slashed
  refine ⟨(accepted "//").2 (.inl (by decide +kernel)), ?_,
    apart _ _ _ _ (by decide +kernel) (by decide +kernel), (read dotInName).2, ?_,
    p, ok, written, slashed⟩
  · intro isRead
    rcases (accepted "///").1 isRead with none | gapless
    · exact absurd none (by decide +kernel)
    · exact absurd gapless.start (by decide +kernel)
  · intro isRead
    exact absurd ((acceptedDotted "x..y").1 isRead).2.2.inside (by decide +kernel)

end Path

end DocStore
