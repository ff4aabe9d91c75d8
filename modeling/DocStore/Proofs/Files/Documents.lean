import DocStore.Files.Format
import DocStore.Proofs.Dict
import DocStore.Proofs.Tree.Order

/-!
# The fields of documents are in order

However a document has been written, the objects of its value have their fields in order, each of them
once.

Results:
  * `Json.ordered_read?`, `Yaml.ordered_read?`: the values of JSON and YAML texts.
-/

namespace DocStore

/-- The object of some entries has its fields in order when their values have. -/
theorem Value.ordered_ofEntries {entries : List (String × Value)}
    (each : ∀ entry ∈ entries, entry.2.Ordered) : (Value.object (Dict.ofEntries entries)).Ordered := by
  induction entries using List.reverseRecOn with
  | nil => exact Value.ordered_empty
  | append_singleton entries last ih =>
    rw [Dict.ofEntries_concat]
    exact (ih fun entry before => each entry (List.mem_append_left _ before)).insert
      (each last (List.mem_append_right _ List.mem_cons_self))

/-! ## JSON -/

namespace Json

theorem ordered_numeral {n : Numeral} {v : Value} (read : n.toValue? = some v) : v.Ordered := by
  unfold Numeral.toValue? at read
  extract_lets whole at read
  split at read
  · cases read
    trivial
  · obtain ⟨x, -, rfl⟩ := Option.map_eq_some_iff.1 read
    trivial

mutual

theorem ordered_toValue? {depth : Nat} :
    (doc : Doc) → {v : Value} → doc.toValue? depth = some v → v.Ordered
  | .null, v, read => by
    cases read
    trivial
  | .bool b, v, read => by
    cases read
    trivial
  | .number n, v, read => ordered_numeral read
  | .string s, v, read => by
    obtain ⟨text, -, rfl⟩ := Option.map_eq_some_iff.1 read
    trivial
  | .array items, v, read => by
    rw [Doc.toValue?] at read
    split at read
    · cases read
    · obtain ⟨vs, inside, rfl⟩ := Option.map_eq_some_iff.1 read
      exact Value.orderedItems_iff.2 (ordered_itemValues? items inside)
  | .object members, v, read => by
    rw [Doc.toValue?] at read
    split at read
    · cases read
    · obtain ⟨entries, inside, rfl⟩ := Option.map_eq_some_iff.1 read
      exact Value.ordered_ofEntries (ordered_memberValues? members inside)

theorem ordered_itemValues? {depth : Nat} :
    (items : List Doc) → {vs : List Value} → Doc.itemValues? depth items = some vs →
      ∀ v ∈ vs, v.Ordered
  | [], vs, read => by
    cases read
    simp
  | item :: rest, vs, read => by
    rw [Doc.itemValues?] at read
    obtain ⟨first, isFirst, read⟩ := Option.bind_eq_some_iff.1 read
    obtain ⟨others, more, read⟩ := Option.bind_eq_some_iff.1 read
    cases read
    exact List.forall_mem_cons.2 ⟨ordered_toValue? item isFirst, ordered_itemValues? rest more⟩

theorem ordered_memberValues? {depth : Nat} :
    (members : List (Option String × Doc)) → {entries : List (String × Value)} →
      Doc.memberValues? depth members = some entries → ∀ entry ∈ entries, entry.2.Ordered
  | [], entries, read => by
    cases read
    simp
  | (key, item) :: rest, entries, read => by
    rw [Doc.memberValues?] at read
    obtain ⟨name, -, read⟩ := Option.bind_eq_some_iff.1 read
    obtain ⟨first, isFirst, read⟩ := Option.bind_eq_some_iff.1 read
    obtain ⟨others, more, read⟩ := Option.bind_eq_some_iff.1 read
    cases read
    exact List.forall_mem_cons.2 ⟨ordered_toValue? item isFirst, ordered_memberValues? rest more⟩

end

theorem ordered_read? {text : String} {v : Value} (read : Json.read? text = some v) : v.Ordered := by
  obtain ⟨doc, -, value⟩ := Option.bind_eq_some_iff.1 read
  exact ordered_toValue? doc value

end Json

/-! ## YAML -/

namespace Yaml

theorem ordered_decimal {text : String} {v : Value} (read : Scalar.decimal? text = some v) :
    v.Ordered := by
  unfold Scalar.decimal? at read
  split at read
  · cases read
    trivial
  · obtain ⟨written, -, read⟩ := Option.bind_eq_some_iff.1 read
    obtain ⟨x, -, read⟩ := Option.bind_eq_some_iff.1 read
    cases read
    trivial

theorem ordered_plainValue? {text : String} {v : Value} (read : Scalar.plainValue? text = some v) :
    v.Ordered := by
  unfold Scalar.plainValue? at read
  split at read
  · cases read
    trivial
  · split at read
    · cases read
      trivial
    · extract_lets number at read
      split at read
      · cases read
        trivial
      · cases read
      · split at read
        · cases read
          trivial
        · cases read
          cases decimal : Scalar.decimal? text with
          | none => trivial
          | some v => exact ordered_decimal decimal

theorem ordered_scalar {text : String} {plain : Bool} {tag : Option Tag} {v : Value}
    (read : Scalar.value? text plain tag = some v) : v.Ordered := by
  unfold Scalar.value? at read
  extract_lets untagged at read
  have plainly (read : untagged = some v) : v.Ordered := by
    unfold untagged at read
    split at read
    · exact ordered_plainValue? read
    · cases read
      trivial
  split at read
  · exact plainly read
  · split_ifs at read
    · obtain ⟨b, -, rfl⟩ := Option.map_eq_some_iff.1 read
      trivial
    · obtain ⟨n, -, read⟩ := Option.bind_eq_some_iff.1 read
      split at read
      · cases read
        trivial
      · cases read
    · exact ordered_decimal read
    · cases read
      trivial
    · exact plainly read
    · cases read
      trivial

/-- Whatever an evaluation results in has a property. -/
def Yields (x : Eval α) (P : α → Prop) : Prop := ∀ jumps a after, x.run jumps = some (a, after) → P a

namespace Yields

variable {α β : Type} {x : Eval α} {f : α → Eval β} {P : α → Prop} {Q : β → Prop}

theorem any (x : Eval α) : Yields x fun _ => True := fun _ _ _ _ => trivial

theorem pure {a : α} (holds : P a) : Yields (Pure.pure a) P := by
  intro jumps b after done
  cases done
  exact holds

theorem failure : Yields (failure : Eval α) P := by
  intro jumps a after done
  cases done

theorem bind (first : Yields x P) (next : ∀ a, P a → Yields (f a) Q) : Yields (x >>= f) Q := by
  intro jumps b after done
  rw [StateT.run_bind] at done
  obtain ⟨⟨a, between⟩, ran, done⟩ := Option.bind_eq_some_iff.1 done
  exact next a (first jumps a between ran) between b after done

theorem map {g : α → β} (first : Yields x P) (next : ∀ a, P a → Q (g a)) : Yields (g <$> x) Q := by
  rw [map_eq_pure_bind]
  exact first.bind fun a holds => pure (next a holds)

theorem mapM (xs : List α) (each : ∀ a, Yields (f a) Q) :
    Yields (xs.mapM f) fun bs => ∀ b ∈ bs, Q b := by
  induction xs with
  | nil =>
    rw [List.mapM_nil]
    exact pure (by simp)
  | cons a rest ih =>
    rw [List.mapM_cons]
    exact (each a).bind fun b holds => ih.bind fun bs all =>
      pure (List.forall_mem_cons.2 ⟨holds, all⟩)

end Yields

theorem yields_ordered_scalar {text : String} {plain : Bool} {marks : Marks} :
    Yields (match Scalar.value? text plain marks.tag with
      | some v => pure v
      | none => failure) Value.Ordered := by
  cases value : Scalar.value? text plain marks.tag with
  | none => exact .failure
  | some v => exact .pure (ordered_scalar value)

/-- The value of a node has its fields in order. -/
theorem yields_ordered_value (d : Document) (depth : Nat) (n : Node) :
    Yields (d.valueOf depth n) Value.Ordered := by
  induction depth generalizing n with
  | zero =>
    rw [Document.valueOf]
    refine (Yields.any (d.resolve n)).bind fun node _ => ?_
    cases node with
    | scalar text plain marks => exact yields_ordered_scalar
    | sequence | mapping | «alias» => exact .failure
  | succ depth ih =>
    rw [Document.valueOf]
    refine (Yields.any (d.resolve n)).bind fun node _ => ?_
    cases node with
    | scalar text plain marks => exact yields_ordered_scalar
    | sequence items marks =>
      have inside : Yields (Value.array <$> items.mapM (d.valueOf depth)) Value.Ordered :=
        (Yields.mapM items ih).map fun vs each => Value.orderedItems_iff.2 each
      dsimp only
      split
      · exact (Yields.any _).bind fun _ _ => inside
      · exact inside
    | mapping entries marks =>
      have field (entry : Node × Node) : Yields (do
          let name ← d.textOf entry.1
          let v ← d.valueOf depth entry.2
          pure (name, v)) fun field => field.2.Ordered :=
        (Yields.any _).bind fun name _ => (ih entry.2).bind fun v ordered => .pure ordered
      have inside := (Yields.mapM entries field).bind
        fun fields each => Yields.pure (Value.ordered_ofEntries each)
      dsimp only
      split
      · exact (Yields.any _).bind fun _ _ => inside
      · exact inside
    | «alias» number => exact .failure

theorem ordered_read? {text : String} {v : Value} (read : Yaml.read? text = some v) : v.Ordered := by
  obtain ⟨document, -, read⟩ := Option.bind_eq_some_iff.1 read
  cases document with
  | none =>
    cases read
    trivial
  | some document =>
    obtain ⟨⟨value, jumps⟩, ran, same⟩ := Option.map_eq_some_iff.1 read
    cases same
    exact yields_ordered_value document maxDepth document.root 0 value jumps ran

end Yaml

end DocStore
