import DocStore.Dict
import Mathlib.Data.List.Induction

/-!
# Entries and look-ups

What a look-up finds is an entry. When the keys ascend, every entry is what a look-up finds, and the
look-ups determine the map.

In a map that is made of a list of entries, the last of those with one key is found. When the keys are
different, the map has these entries, in the order of their keys. So it does not matter in which order
they were listed.
-/

namespace DocStore.Dict

variable {α : Type u} {β : Type v} {d : Dict α} {key : String} {value : α}

theorem mem_of_find? (found : d.find? key = some value) : (key, value) ∈ d := by
  induction d with
  | nil => cases found
  | cons head rest ih =>
    obtain ⟨k, v⟩ := head
    rw [find?_cons] at found
    split at found
    · next same =>
      cases found
      rw [same]
      exact List.mem_cons_self
    · exact List.mem_cons_of_mem _ (ih found)

theorem find?_eq_none_iff : d.find? key = none ↔ key ∉ d.keys := by
  unfold keys
  induction d with
  | nil => simp
  | cons head rest ih =>
    obtain ⟨k, v⟩ := head
    rw [find?_cons, List.map_cons, List.mem_cons, not_or]
    by_cases same : k = key
    · simp [same]
    · rw [if_neg same, ih]
      exact ⟨fun absent => ⟨Ne.symm same, absent⟩, fun absent => absent.2⟩

theorem Ordered.tail {head : String × α} {rest : Dict α} (ordered : Ordered (head :: rest)) :
    Ordered rest :=
  (List.pairwise_cons.1 ordered).2

/-- The first key does not come again. -/
theorem Ordered.head_not_mem {head : String × α} {rest : Dict α}
    (ordered : Ordered (head :: rest)) : head.1 ∉ rest.keys := by
  intro again
  obtain ⟨entry, present, same⟩ := List.mem_map.1 again
  have above := (List.pairwise_cons.1 ordered).1 entry present
  rw [same] at above
  exact String.lt_irrefl _ above

theorem Ordered.keys_nodup (ordered : Ordered d) : d.keys.Nodup := by
  refine List.pairwise_map.2 (ordered.imp fun below same => ?_)
  rw [same] at below
  exact String.lt_irrefl _ below

/-- When the keys are different, every entry is what a look-up finds. -/
theorem find?_of_mem (distinct : d.keys.Nodup) (present : (key, value) ∈ d) :
    d.find? key = some value := by
  induction d with
  | nil => cases present
  | cons head rest ih =>
    obtain ⟨k, v⟩ := head
    obtain ⟨fresh, others⟩ := List.nodup_cons.1 distinct
    rw [find?_cons]
    rcases List.mem_cons.1 present with same | later
    · cases same
      rw [if_pos rfl]
    · have differ : k ≠ key := by
        rintro rfl
        exact fresh (List.mem_map.2 ⟨_, later, rfl⟩)
      rw [if_neg differ]
      exact ih others later

theorem Ordered.find?_of_mem (ordered : Ordered d) (present : (key, value) ∈ d) :
    d.find? key = some value :=
  Dict.find?_of_mem ordered.keys_nodup present

/-- Maps with ascending keys are the same when all look-ups find the same. -/
theorem Ordered.ext {e : Dict α} (ordered : Ordered d) (ordered' : Ordered e)
    (same : ∀ key, d.find? key = e.find? key) : d = e := by
  have once {d : Dict α} (ordered : Ordered d) : List.Nodup d := by
    refine List.Pairwise.imp (fun {a b} below same => ?_) ordered
    rw [same] at below
    exact String.lt_irrefl _ below
  have perm : d.Perm e := by
    refine (List.perm_ext_iff_of_nodup (once ordered) (once ordered')).2 fun entry => ?_
    obtain ⟨key, value⟩ := entry
    constructor
    · intro present
      exact mem_of_find? ((same key).symm.trans (ordered.find?_of_mem present))
    · intro present
      exact mem_of_find? ((same key).trans (ordered'.find?_of_mem present))
  refine perm.eq_of_pairwise (fun a b _ _ below above => ?_) ordered ordered'
  exact absurd (String.lt_trans below above) (String.lt_irrefl _)

/-- A key above all others comes last. -/
theorem insert_of_above (above : ∀ entry ∈ d, entry.1 < key) (value : α) :
    d.insert key value = d ++ [(key, value)] := by
  induction d with
  | nil => rfl
  | cons head rest ih =>
    obtain ⟨k, v⟩ := head
    have below : k < key := above _ List.mem_cons_self
    have differ : k ≠ key := fun same => String.lt_irrefl key (same ▸ below)
    have notAbove : ¬ key < k := fun after => String.lt_irrefl k (String.lt_trans below after)
    rw [insert, if_neg differ, if_neg notAbove,
      ih fun entry later => above entry (List.mem_cons_of_mem _ later)]
    rfl

theorem erase_of_absent (absent : d.find? key = none) : d.erase key = d := by
  refine List.filter_eq_self.2 fun entry present => decide_eq_true ?_
  rintro rfl
  exact find?_eq_none_iff.1 absent (List.mem_map_of_mem present)

/-- What is stored stands beside the entries with other keys. -/
theorem Ordered.perm_insert (ordered : Ordered d) (key : String) (value : α) :
    (d.insert key value).Perm ((key, value) :: d.erase key) := by
  induction d with
  | nil => exact .refl _
  | cons head rest ih =>
    obtain ⟨k, v⟩ := head
    by_cases same : k = key
    · subst same
      have fresh : Dict.find? rest k = none := find?_eq_none_iff.2 ordered.head_not_mem
      have left : Dict.erase ((k, v) :: rest) k = rest := by
        rw [Dict.erase, List.filter_cons_of_neg (by simp)]
        exact erase_of_absent fresh
      rw [left, Dict.insert, if_pos rfl]
    · have kept : Dict.erase ((k, v) :: rest) key = (k, v) :: Dict.erase rest key :=
        List.filter_cons_of_pos (decide_eq_true same)
      rw [kept, Dict.insert, if_neg same]
      split
      · next below =>
        have absent : key ∉ Dict.keys rest := fun again => by
          obtain ⟨entry, present, rfl⟩ := List.mem_map.1 again
          exact String.lt_irrefl _ (String.lt_trans below ((List.pairwise_cons.1 ordered).1 _ present))
        rw [erase_of_absent (find?_eq_none_iff.2 absent)]
      · exact ((ih ordered.tail).cons _).trans (.swap _ _ _)

/-- It does not matter whether what stood there is dropped first. -/
theorem Ordered.insert_erase (ordered : Ordered d) (key : String) (value : α) :
    (d.erase key).insert key value = d.insert key value := by
  refine ((ordered.erase key).insert key value).ext (ordered.insert key value) fun other => ?_
  by_cases same : other = key
  · rw [same, find?_insert_self, find?_insert_self]
  · rw [find?_insert_ne _ _ same, find?_insert_ne _ _ same, find?_erase_ne _ same]

/-! ## Maps made of entries -/

theorem ofEntries_concat (entries : List (String × α)) (key : String) (value : α) :
    ofEntries (entries ++ [(key, value)]) = (ofEntries entries).insert key value :=
  List.foldl_append ..

theorem ordered_ofEntries (entries : List (String × α)) : Ordered (ofEntries entries) := by
  induction entries using List.reverseRecOn with
  | nil => exact List.Pairwise.nil
  | append_singleton entries last ih =>
    rw [ofEntries_concat]
    exact ih.insert last.1 last.2

/-- The last of the entries that have a key. -/
def LastEntry (entries : List (String × α)) (key : String) (value : α) : Prop :=
  ∃ before after, entries = before ++ (key, value) :: after ∧ key ∉ after.map (·.1)

theorem lastEntry_concat_self {entries : List (String × α)} {other : α} :
    LastEntry (entries ++ [(key, other)]) key value ↔ other = value := by
  constructor
  · rintro ⟨before, after, parts, absent⟩
    rcases List.eq_nil_or_concat after with rfl | ⟨after, last, rfl⟩
    · exact congrArg Prod.snd (List.cons.inj (List.append_inj_right' parts rfl)).1
    · rw [List.concat_eq_append, ← List.cons_append, ← List.append_assoc] at parts
      have same := (List.cons.inj (List.append_inj_right' parts rfl)).1
      simp [← same] at absent
  · rintro rfl
    exact ⟨entries, [], rfl, List.not_mem_nil⟩

theorem lastEntry_concat_ne {entries : List (String × α)} {last : String} {other : α}
    (ne : last ≠ key) :
    LastEntry (entries ++ [(last, other)]) key value ↔ LastEntry entries key value := by
  constructor
  · rintro ⟨before, after, parts, absent⟩
    rcases List.eq_nil_or_concat after with rfl | ⟨after, final, rfl⟩
    · exact absurd (congrArg Prod.fst (List.cons.inj (List.append_inj_right' parts rfl)).1) ne
    · rw [List.concat_eq_append, ← List.cons_append, ← List.append_assoc] at parts
      refine ⟨before, after, List.append_inj_left' parts rfl, fun inside => absent ?_⟩
      simp [List.concat_eq_append, inside]
  · rintro ⟨before, after, rfl, absent⟩
    refine ⟨before, after ++ [(last, other)], by simp, ?_⟩
    simpa [ne.symm] using absent

/-- Of the entries with one key the last one counts. -/
theorem find?_ofEntries_eq_some_iff {entries : List (String × α)} :
    (ofEntries entries).find? key = some value ↔ LastEntry entries key value := by
  induction entries using List.reverseRecOn with
  | nil =>
    refine ⟨fun found => (by cases found), ?_⟩
    rintro ⟨before, after, parts, -⟩
    cases before <;> cases parts
  | append_singleton entries last ih =>
    obtain ⟨k, v⟩ := last
    rw [ofEntries_concat]
    by_cases same : k = key
    · subst same
      rw [find?_insert_self, lastEntry_concat_self, Option.some.injEq]
    · rw [find?_insert_ne _ v (Ne.symm same), lastEntry_concat_ne same, ih]

theorem find?_ofEntries_eq_none_iff {entries : List (String × α)} :
    (ofEntries entries).find? key = none ↔ key ∉ entries.map (·.1) := by
  induction entries using List.reverseRecOn with
  | nil => exact ⟨fun _ => List.not_mem_nil, fun _ => rfl⟩
  | append_singleton entries last ih =>
    obtain ⟨k, v⟩ := last
    rw [ofEntries_concat, List.map_append, List.mem_append, not_or]
    by_cases same : k = key
    · subst same
      simp
    · rw [find?_insert_ne _ v (Ne.symm same), ih]
      simp [Ne.symm same]

/-- Entries with different keys are all kept. -/
theorem mem_ofEntries_iff {entries : List (String × α)} (distinct : (entries.map (·.1)).Nodup)
    {entry : String × α} : entry ∈ ofEntries entries ↔ entry ∈ entries := by
  induction entries using List.reverseRecOn with
  | nil => rfl
  | append_singleton entries last ih =>
    obtain ⟨key, value⟩ := last
    rw [List.map_append, List.nodup_append] at distinct
    obtain ⟨earlier, -, apart⟩ := distinct
    rw [ofEntries_concat, List.mem_append, List.mem_singleton, ← ih earlier]
    constructor
    · exact fun present => (mem_insert present).symm
    · rintro (present | rfl)
      · have ne : entry.1 ≠ key :=
          apart _ (List.mem_map_of_mem ((ih earlier).1 present)) _ List.mem_cons_self
        refine mem_of_find? ((find?_insert_ne _ value ne).trans ?_)
        exact (ordered_ofEntries entries).find?_of_mem present
      · exact mem_of_find? (find?_insert_self _ key value)

/-- In which order the entries are listed does not matter. -/
theorem ofEntries_perm {entries others : List (String × α)} (distinct : (entries.map (·.1)).Nodup)
    (perm : entries.Perm others) : ofEntries others = ofEntries entries := by
  have distinct' : (others.map (·.1)).Nodup := (perm.map _).nodup_iff.1 distinct
  refine (ordered_ofEntries others).ext (ordered_ofEntries entries) fun key => ?_
  refine Option.ext fun value => ⟨fun found => ?_, fun found => ?_⟩
  · refine (ordered_ofEntries entries).find?_of_mem ((mem_ofEntries_iff distinct).2 ?_)
    exact perm.mem_iff.2 ((mem_ofEntries_iff distinct').1 (mem_of_find? found))
  · refine (ordered_ofEntries others).find?_of_mem ((mem_ofEntries_iff distinct').2 ?_)
    exact perm.mem_iff.1 ((mem_ofEntries_iff distinct).1 (mem_of_find? found))

/-- Some of the entries with other values. -/
theorem Ordered.filterMap {f : String × α → Option (String × β)} (ordered : Ordered d)
    (kept : ∀ entry shown, f entry = some shown → shown.1 = entry.1) : Ordered (d.filterMap f) :=
  List.Pairwise.filterMap f (fun entry entry' before shown isShown shown' isShown' => by
    rw [kept entry shown isShown, kept entry' shown' isShown']
    exact before) ordered

end DocStore.Dict
