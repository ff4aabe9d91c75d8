import DocStore.Plugin.Transform
import DocStore.Proofs.Dict
import DocStore.Proofs.Fallible
import DocStore.Proofs.Text.Digits
import DocStore.Proofs.Text.Pieces
import DocStore.Value.Written

/-!
# Rules by reference

A text refers to a rule when it is `data` and then groups, each a dot and an identifier. The reference is
written as this text, so that it is read again and texts tell references apart. An engine knows bodies by
such texts, and so the body that is found for a reference is the last one that was defined under the very
text it was read from.

Results:
  * `isIdentifier_iff`, `exists_parse_iff`: the grammar of references;
  * `parse_eq_ok_iff`: a text is read as the reference that is written as it;
  * `Engine.defined_eq`: what an engine knows after a row of definitions;
  * `references_exact`: references are read by their grammar, and rules are found by them.
-/

namespace DocStore

/-! ## Grammar -/

/-- A character that an identifier may begin with. -/
def IsInitial (c : Char) : Prop := ('A' ≤ c ∧ c ≤ 'Z') ∨ ('a' ≤ c ∧ c ≤ 'z') ∨ c = '_'

instance (c : Char) : Decidable (IsInitial c) := inferInstanceAs (Decidable (_ ∨ _ ∨ _))

/-- Identifiers. -/
inductive Identifier : List Char → Prop
  | mk {first : Char} {rest : List Char} (initial : IsInitial first)
      (others : ∀ c ∈ rest, IsInitial c ∨ ('0' ≤ c ∧ c ≤ '9')) : Identifier (first :: rest)

/-- One or more groups of a dot and an identifier. -/
inductive Groups : List Char → Prop
  | one {name : List Char} (named : Identifier name) : Groups ('.' :: name)
  | more {name rest : List Char} (named : Identifier name) (groups : Groups rest) :
      Groups ('.' :: (name ++ rest))

theorem isInitial_iff {c : Char} : (c.isAlpha || c == '_') = true ↔ IsInitial c := by
  have letter : c.isAlpha = true ↔ c.isUpper = true ∨ c.isLower = true := Bool.or_eq_true_iff ..
  have upper : c.isUpper = true ↔ 'A' ≤ c ∧ c ≤ 'Z' := decide_eq_true_iff
  have lower : c.isLower = true ↔ 'a' ≤ c ∧ c ≤ 'z' := by
    show (decide ('a' ≤ c) && decide (c ≤ 'z')) = true ↔ _
    rw [Bool.and_eq_true, decide_eq_true_iff, decide_eq_true_iff]
  rw [IsInitial, Bool.or_eq_true, letter, upper, lower, beq_iff_eq, or_assoc]

theorem isIdentifier_iff {name : List Char} : isIdentifier name = true ↔ Identifier name := by
  have isOther {c : Char} : (c.isAlphanum || c == '_') = true ↔ IsInitial c ∨ ('0' ≤ c ∧ c ≤ '9') := by
    rw [← isInitial_iff, ← Digits.isDigit_iff]
    simp only [Char.isAlphanum, Bool.or_eq_true]
    tauto
  cases name with
  | nil => exact ⟨fun h => (by cases h), fun h => (by cases h)⟩
  | cons first rest =>
    simp only [isIdentifier, Bool.and_eq_true, List.all_eq_true, isInitial_iff, isOther]
    exact ⟨fun ⟨initial, others⟩ => .mk initial others, fun | .mk initial others => ⟨initial, others⟩⟩

/-- Groups are made of the names in them. -/
theorem groups_iff {letters : List Char} : Groups letters ↔
    ∃ names : List (List Char), names ≠ [] ∧ (∀ name ∈ names, Identifier name) ∧
      letters = names.flatMap ('.' :: ·) := by
  constructor
  · intro groups
    induction groups with
    | @one name named => exact ⟨[name], by simp, by simpa using named, by simp⟩
    | @more name rest named _ ih =>
      obtain ⟨names, -, each, rfl⟩ := ih
      exact ⟨name :: names, by simp, List.forall_mem_cons.2 ⟨named, each⟩, by simp⟩
  · rintro ⟨names, some, each, rfl⟩
    induction names with
    | nil => exact absurd rfl some
    | cons name rest ih =>
      obtain ⟨named, others⟩ := List.forall_mem_cons.1 each
      cases rest with
      | nil => simpa using Groups.one named
      | cons next rest => simpa using Groups.more named (ih (List.cons_ne_nil _ _) others)

/-- No dot is part of an identifier. -/
theorem Identifier.dotless {name : List Char} (named : Identifier name) : '.' ∉ name := by
  obtain ⟨initial, others⟩ := named
  intro inside
  rcases List.mem_cons.1 inside with rfl | inside
  · exact absurd initial (by decide)
  · rcases others '.' inside with initial | digit
    · exact absurd initial (by decide)
    · exact absurd digit (by decide)

namespace RuleRef

variable {text other : String} {r s : RuleRef}

/-! ## References and texts -/

theorem afterRoot?_eq_some_iff {letters rest : List Char} :
    afterRoot? letters = some rest ↔ letters = root ++ rest := by
  unfold afterRoot?
  constructor
  · intro found
    split_ifs at found with isPrefix
    obtain ⟨more, rfl⟩ := List.isPrefixOf_iff_prefix.1 isPrefix
    rw [List.drop_left] at found
    rw [Option.some.inj found]
  · rintro rfl
    rw [if_pos (List.isPrefixOf_iff_prefix.2 (List.prefix_append root rest)), List.drop_left]

theorem toList_text (r : RuleRef) :
    r.text.toList = root ++ ['.'].intercalate (r.segments.map String.toList) := by
  rw [text, String.toList_append, String.toList_intercalate]
  rfl

theorem names_ne_nil (r : RuleRef) : r.segments.map String.toList ≠ [] :=
  fun none => r.valid.1 (List.map_eq_nil_iff.1 none)

theorem identifier_of_mem_segments {name : List Char} (present : name ∈ r.segments.map String.toList) :
    Identifier name := by
  obtain ⟨segment, inside, rfl⟩ := List.mem_map.1 present
  exact isIdentifier_iff.1 (r.valid.2 segment inside)

/-- A reference is read from its text. -/
theorem parse_text (r : RuleRef) : parse r.text = .ok r := by
  have pieces : (['.'].intercalate (r.segments.map String.toList)).splitOn '.' =
      r.segments.map String.toList :=
    List.splitOn_intercalate '.' (fun name inside => (identifier_of_mem_segments inside).dotless)
      r.names_ne_nil
  unfold parse
  simp only [afterRoot?_eq_some_iff.2 (toList_text r), Text.splitOn_eq, pieces,
    Text.map_ofList_map_toList]
  rw [dif_pos r.valid]

/-- A text is read as the reference that is written as it. -/
theorem parse_eq_ok_iff : parse text = .ok r ↔ r.text = text := by
  constructor
  · intro ok
    unfold parse at ok
    split at ok
    · cases ok
    · next rest found =>
      dsimp only at ok
      split_ifs at ok with valid
      cases ok
      rw [← String.toList_inj, toList_text, afterRoot?_eq_some_iff.1 found,
        Text.map_toList_map_ofList, Text.splitOn_eq, List.intercalate_splitOn]
  · rintro rfl
    exact parse_text r

/-- Which texts are read. -/
theorem exists_parse_iff : (∃ r, parse text = .ok r) ↔
    ∃ groups, Groups groups ∧ text.toList = "data".toList ++ groups := by
  -- The dot that every reference begins with is that of its first group.
  have grouped {names : List (List Char)} (some : names ≠ []) :
      "data".toList ++ names.flatMap ('.' :: ·) = root ++ ['.'].intercalate names := by
    rw [Text.flatMap_eq_intercalate '.' some]
    rfl
  constructor
  · rintro ⟨r, ok⟩
    refine ⟨_, groups_iff.2 ⟨_, r.names_ne_nil, fun name => identifier_of_mem_segments, rfl⟩, ?_⟩
    rw [← parse_eq_ok_iff.1 ok, toList_text, grouped r.names_ne_nil]
  · rintro ⟨_, isGroups, letters⟩
    obtain ⟨names, some, each, rfl⟩ := groups_iff.1 isGroups
    have valid : names.map String.ofList ≠ [] ∧
        ∀ s ∈ names.map String.ofList, isIdentifier s.toList = true := by
      refine ⟨fun none => some (List.map_eq_nil_iff.1 none), fun s inside => ?_⟩
      obtain ⟨name, present, rfl⟩ := List.mem_map.1 inside
      rw [String.toList_ofList, isIdentifier_iff]
      exact each name present
    refine ⟨⟨_, valid⟩, parse_eq_ok_iff.2 ?_⟩
    rw [← String.toList_inj, toList_text, letters, grouped some, Text.map_toList_map_ofList]

/-- Texts tell references apart. -/
theorem eq_iff_text (ok : parse text = .ok r) (ok' : parse other = .ok s) : r = s ↔ text = other := by
  rw [← parse_eq_ok_iff.1 ok, ← parse_eq_ok_iff.1 ok']
  refine ⟨fun same => by rw [same], fun same => ?_⟩
  have again := parse_text r
  rw [same, parse_text s] at again
  exact (Except.ok.inj again).symm

/-- A reference is read from what stands for it in a value. -/
theorem ofValue_toValue (r : RuleRef) : ofValue r.toValue = .ok r :=
  Value.readText_of_ok (mapError_eq_ok_iff.2 (parse_text r))

end RuleRef

/-! ## Definitions of rules -/

namespace Engine

/-- An engine after a row of definitions, and any preparations between them. -/
inductive Defined : List (String × RuleBody) → Engine → Prop
  | fresh : Defined [] empty
  | define {row : List (String × RuleBody)} {e : Engine} (earlier : Defined row e) (rule : String)
      (body : RuleBody) : Defined (row ++ [(rule, body)]) (e.define rule body)
  | prepare {row : List (String × RuleBody)} {e e' : Engine} {r : RuleRef} {t : Transform}
      (earlier : Defined row e) (ok : e.prepare r = .ok (e', t)) : Defined row e'

variable {row : List (String × RuleBody)} {e e' : Engine} {r : RuleRef} {t : Transform}

/-- What is prepared is the body that is known under the text of the reference; all bodies stay known. -/
theorem prepare_rules_iff {bodies : Dict RuleBody} {n : Nat} :
    (Engine.rules bodies n).prepare r = .ok (e', t) ↔
      e' = .rules bodies (n + 1) ∧ t.rule = r.text ∧ bodies.find? r.text = some t.body := by
  obtain ⟨rule, body⟩ := t
  cases found : bodies.find? r.text with
  | none => simp [prepare, found]
  | some known => simp [prepare, found, eq_comm]

/-- An engine knows what was defined, of definitions under one text the last one. -/
theorem defined_eq (defined : Defined row e) : ∃ n, e = .rules (Dict.ofEntries row) n := by
  induction defined with
  | fresh => exact ⟨0, rfl⟩
  | @define row e _ rule body ih =>
    obtain ⟨n, rfl⟩ := ih
    exact ⟨n, by rw [Dict.ofEntries_concat]; rfl⟩
  | @prepare row e e' r t _ ok ih =>
    obtain ⟨n, rfl⟩ := ih
    exact ⟨n + 1, (prepare_rules_iff.1 ok).1⟩

/-- A transform that is prepared has the body that was defined last under the text of its rule. -/
theorem prepare_ok_iff (defined : Defined row e) :
    (∃ e', e.prepare r = .ok (e', t)) ↔ t.rule = r.text ∧ Dict.LastEntry row r.text t.body := by
  obtain ⟨n, rfl⟩ := defined_eq defined
  simp only [prepare_rules_iff, Dict.find?_ofEntries_eq_some_iff, exists_eq_left]

/-- What was never defined is not found. -/
theorem prepare_of_missing (defined : Defined row e) (missing : r.text ∉ row.map (·.1)) :
    e.prepare r = .error (.rule ⟨r.text, .undefined⟩) := by
  obtain ⟨n, rfl⟩ := defined_eq defined
  simp only [prepare, Dict.find?_ofEntries_eq_none_iff.2 missing]

/-- What was defined is found. -/
theorem prepare_isOk_iff (defined : Defined row e) :
    (∃ e' t, e.prepare r = .ok (e', t)) ↔ r.text ∈ row.map (·.1) := by
  constructor
  · rintro ⟨e', t, ok⟩
    by_contra missing
    rw [prepare_of_missing defined missing] at ok
    cases ok
  · intro present
    cases found : (Dict.ofEntries row).find? r.text with
    | none => exact absurd present (Dict.find?_ofEntries_eq_none_iff.1 found)
    | some body =>
      have last := Dict.find?_ofEntries_eq_some_iff.1 found
      obtain ⟨e', ok⟩ := (prepare_ok_iff (t := ⟨r.text, body⟩) defined).2 ⟨rfl, last⟩
      exact ⟨e', _, ok⟩

end Engine

/-- A text is read as a reference when it is `data` and groups. The reference is written as this text and
read from it, also in a value, and other texts are read as other references. An engine finds a body for
it when one was defined under this text: the one defined last. -/
theorem RuleRef.references_exact :
    (∀ text, (∃ r, parse text = .ok r) ↔
      ∃ groups, Groups groups ∧ text.toList = "data".toList ++ groups) ∧
    (∀ text r, parse text = .ok r →
      r.text = text ∧ parse r.text = .ok r ∧ ofValue r.toValue = .ok r) ∧
    (∀ text other r s, parse text = .ok r → parse other = .ok s → (r = s ↔ text = other)) ∧
    ∀ row e, Engine.Defined row e → ∀ text r, parse text = .ok r →
      ((∃ e' t, e.prepare r = .ok (e', t)) ↔ text ∈ row.map (·.1)) ∧
      (∀ t, (∃ e', e.prepare r = .ok (e', t)) ↔ t.rule = text ∧ Dict.LastEntry row text t.body) ∧
      (text ∉ row.map (·.1) → e.prepare r = .error (.rule ⟨text, .undefined⟩)) := by
  refine ⟨fun _ => exists_parse_iff, fun text r ok => ?_, fun _ _ _ _ => eq_iff_text, ?_⟩
  · exact ⟨parse_eq_ok_iff.1 ok, parse_text r, ofValue_toValue r⟩
  · intro row e defined text r ok
    obtain rfl := parse_eq_ok_iff.1 ok
    exact ⟨Engine.prepare_isOk_iff defined, fun _ => Engine.prepare_ok_iff defined,
      Engine.prepare_of_missing defined⟩

/-- Definitions under two texts, one of them defined twice. -/
def twiceDefined : List (String × RuleBody) :=
  [("data.a", RuleBody.wrap), ("data.b_1", RuleBody.count), ("data.a", RuleBody.count)]

/-- Of the two definitions under `data.a` the second is found, and none under `data.c`. -/
theorem RuleRef.references_exact_twice :
    ∃ e, Engine.Defined twiceDefined e ∧
      ∃ r s, parse "data.a" = .ok r ∧ parse "data.c" = .ok s ∧ r ≠ s ∧ ofValue r.toValue = .ok r ∧
        (∃ e', e.prepare r = .ok (e', ⟨"data.a", RuleBody.count⟩)) ∧
        e.prepare s = .error (.rule ⟨"data.c", .undefined⟩) := by
  obtain ⟨grammar, back, apart, prepared⟩ := references_exact
  have defined := Engine.Defined.fresh.define "data.a" RuleBody.wrap
    |>.define "data.b_1" RuleBody.count |>.define "data.a" RuleBody.count
  have one {c : Char} (initial : IsInitial c) : Groups ['.', c] := .one (.mk initial (by simp))
  obtain ⟨r, ok⟩ := (grammar "data.a").2 ⟨['.', 'a'], one (by decide), by decide⟩
  obtain ⟨s, ok'⟩ := (grammar "data.c").2 ⟨['.', 'c'], one (by decide), by decide⟩
  have different : r ≠ s := fun same => absurd ((apart _ _ _ _ ok ok').1 same) (by decide)
  refine ⟨_, defined, r, s, ok, ok', different, (back _ _ ok).2.2, ?_, ?_⟩
  · refine ((prepared _ _ defined _ _ ok).2.1 ⟨"data.a", RuleBody.count⟩).2 ⟨rfl, ?_⟩
    exact ⟨[("data.a", RuleBody.wrap), ("data.b_1", RuleBody.count)], [], rfl, List.not_mem_nil⟩
  · exact (prepared _ _ defined _ _ ok').2.2 (by decide)

end DocStore
