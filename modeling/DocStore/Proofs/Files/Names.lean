import DocStore.Files.Path
import DocStore.Path
import DocStore.Proofs.Text.Pieces
import Mathlib.Data.List.TakeDrop
import Mathlib.Data.List.TakeWhile

/-!
# Extensions of file names

The extension of a path is read off its last component, from the end up to the nearest dot. For a name
without slashes that does not begin with a dot this is the name itself, and what follows its last dot.

Results:
  * `extension?_eq_some_iff`: which extension such a name has.
-/

namespace DocStore.FilePath

variable {name : String}

/-- A name that does not begin with a dot counts as a component, and does not lead back up. -/
theorem component_of_segment (segment : IsSegment name) (visible : name.toList.head? ≠ some '.') :
    isFiller name = false ∧ name ≠ ".." := by
  have notDot : name ≠ "." := fun same => visible (by rw [same]; rfl)
  exact ⟨by simp [isFiller, notDot, segment.1], fun same => visible (by rw [same]; rfl)⟩

/-- A name that does not begin with a dot is the last component of itself. -/
theorem fileName?_of_segment (segment : IsSegment name) (visible : name.toList.head? ≠ some '.') :
    fileName? name = some name := by
  obtain ⟨counts, notAbove⟩ := component_of_segment segment visible
  unfold fileName? pieces
  rw [Text.splitOn_eq, List.splitOn_eq_singleton segment.2]
  simp [counts, notAbove]

theorem span_at_dot {xs ys : List Char} (free : '.' ∉ xs) :
    (xs ++ '.' :: ys).span (· != '.') = (xs, '.' :: ys) := by
  have passed : ∀ c ∈ xs, (c != '.') = true := by
    intro c inside
    rw [bne_iff_ne]
    rintro rfl
    exact free inside
  rw [List.span_eq_takeWhile_dropWhile, List.takeWhile_append_of_pos passed,
    List.dropWhile_append_of_pos passed]
  simp

/-- A text has a last dot, or none. -/
theorem free_or_last_dot (text : List Char) :
    '.' ∉ text ∨ ∃ stem ending, text = stem ++ '.' :: ending ∧ '.' ∉ ending := by
  induction text with
  | nil => exact .inl List.not_mem_nil
  | cons c rest ih =>
    rcases ih with free | ⟨stem, ending, rfl, free⟩
    · by_cases dot : c = '.'
      · exact .inr ⟨[], rest, by rw [dot]; rfl, free⟩
      · exact .inl fun inside => (List.mem_cons.1 inside).elim (fun same => dot same.symm) free
    · exact .inr ⟨c :: stem, ending, rfl, free⟩

theorem cutName_of_dot {stem ending : List Char} (letters : name.toList = stem ++ '.' :: ending)
    (free : '.' ∉ ending) :
    (cutName name).2 = if stem = [] then none else some (String.ofList ending) := by
  have reversed : name.toList.reverse = ending.reverse ++ '.' :: stem.reverse := by
    simp [letters]
  unfold cutName
  simp only [reversed]
  rw [span_at_dot fun inside => free (List.mem_reverse.1 inside)]
  cases back : stem.reverse with
  | nil => rw [if_pos (List.reverse_eq_nil_iff.1 back)]
  | cons c rest =>
    have strict : stem ≠ [] := fun none => by simp [none] at back
    simp [strict]

theorem cutName_of_free (free : '.' ∉ name.toList) : (cutName name).2 = none := by
  have nothing : name.toList.reverse.dropWhile (· != '.') = [] := by
    refine List.dropWhile_eq_nil_iff.2 fun c inside => ?_
    rw [bne_iff_ne]
    rintro rfl
    exact free (List.mem_reverse.1 inside)
  unfold cutName
  simp only [List.span_eq_takeWhile_dropWhile, nothing]

/-- The extension of a name that does not begin with a dot is what follows its last dot. -/
theorem extension?_eq_some_iff {ending : String} (segment : IsSegment name)
    (visible : name.toList.head? ≠ some '.') (plain : '.' ∉ ending.toList) :
    extension? name = some ending ↔ '.' :: ending.toList <:+ name.toList := by
  unfold extension?
  rw [fileName?_of_segment segment visible, Option.bind_some]
  rcases free_or_last_dot name.toList with free | ⟨stem, last, letters, free⟩
  · rw [cutName_of_free free]
    refine iff_of_false (fun never => by cases never) fun ends => free ?_
    exact ends.subset List.mem_cons_self
  · have strict : stem ≠ [] := by
      rintro rfl
      exact visible (by rw [letters]; rfl)
    rw [cutName_of_dot letters free, if_neg strict, Option.some.injEq, letters]
    constructor
    · rintro rfl
      rw [String.toList_ofList]
      exact List.suffix_append _ _
    · rintro ⟨front, same⟩
      -- From the end both go up to the first dot.
      have back := congrArg (fun text : List Char => (text.reverse.span (· != '.')).1) same
      simp only [List.reverse_append, List.reverse_cons, List.append_assoc,
        List.singleton_append] at back
      rw [span_at_dot fun inside => plain (List.mem_reverse.1 inside),
        span_at_dot fun inside => free (List.mem_reverse.1 inside), List.reverse_inj] at back
      rw [← back, String.ofList_toList]

end DocStore.FilePath
