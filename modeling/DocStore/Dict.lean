/-!
# Finite maps with text keys

A map is the list of its entries. `insert` keeps the keys in ascending order, so a map that is
built by insertion has one form only, and listing it lists the keys in order. Keys are compared
by code points, which is also the order of their UTF-8 bytes.

Results:
  * `find?_insert_self`, `find?_insert_ne`: what a lookup finds after an insertion;
  * `find?_erase_self`, `find?_erase_ne`: the same for a removal;
  * `Ordered.insert`, `Ordered.erase`: both keep the keys in ascending order.
-/

namespace DocStore

/-- A finite map, as the list of its entries. -/
abbrev Dict (α : Type u) := List (String × α)

namespace Dict

variable {α : Type u}

/-- The value stored under a key. -/
def find? : Dict α → String → Option α
  | [], _ => none
  | (k, v) :: rest, key => if k = key then some v else find? rest key

/-- Store a value under a key, replacing the value that was there. -/
def insert : Dict α → String → α → Dict α
  | [], key, value => [(key, value)]
  | (k, v) :: rest, key, value =>
    if k = key then (key, value) :: rest
    else if key < k then (key, value) :: (k, v) :: rest
    else (k, v) :: insert rest key value

/-- Drop a key. -/
def erase (d : Dict α) (key : String) : Dict α :=
  d.filter fun entry => entry.1 ≠ key

def keys (d : Dict α) : List String :=
  d.map (·.1)

def contains (d : Dict α) (key : String) : Bool :=
  (d.find? key).isSome

/-- The map of a list of entries; of two entries with one key the later one counts. -/
def ofEntries (entries : List (String × α)) : Dict α :=
  entries.foldl (fun d entry => d.insert entry.1 entry.2) []

/-- The keys ascend strictly. -/
def Ordered (d : Dict α) : Prop :=
  d.Pairwise fun a b => a.1 < b.1

@[simp] theorem find?_nil (key : String) : find? ([] : Dict α) key = none := rfl

theorem find?_cons (k : String) (v : α) (rest : Dict α) (key : String) :
    find? ((k, v) :: rest) key = if k = key then some v else find? rest key := rfl

@[simp] theorem find?_insert_self (d : Dict α) (key : String) (value : α) :
    (d.insert key value).find? key = some value := by
  induction d with
  | nil => simp [insert, find?]
  | cons entry rest ih =>
    obtain ⟨k, v⟩ := entry
    by_cases same : k = key
    · simp [insert, find?, same]
    · by_cases below : key < k <;> simp [insert, find?, same, below, ih]

theorem find?_insert_ne (d : Dict α) {key other : String} (value : α) (ne : other ≠ key) :
    (d.insert key value).find? other = d.find? other := by
  induction d with
  | nil => simp [insert, find?, ne.symm]
  | cons entry rest ih =>
    obtain ⟨k, v⟩ := entry
    by_cases same : k = key
    · subst same
      simp [insert, find?, ne.symm]
    · by_cases below : key < k
      · simp [insert, find?, same, below, ne.symm]
      · simp [insert, find?, same, below, ih]

@[simp] theorem find?_erase_self (d : Dict α) (key : String) :
    (d.erase key).find? key = none := by
  induction d with
  | nil => rfl
  | cons entry rest ih =>
    obtain ⟨k, v⟩ := entry
    by_cases same : k = key
    · simpa [erase, List.filter_cons, same] using ih
    · simpa [erase, List.filter_cons, same, find?] using ih

theorem find?_erase_ne (d : Dict α) {key other : String} (ne : other ≠ key) :
    (d.erase key).find? other = d.find? other := by
  induction d with
  | nil => rfl
  | cons entry rest ih =>
    obtain ⟨k, v⟩ := entry
    by_cases same : k = key
    · subst same
      simpa [erase, List.filter_cons, find?, ne.symm] using ih
    · by_cases hit : k = other
      · simp [erase, find?, hit, ne]
      · simpa [erase, List.filter_cons, same, find?, hit] using ih

theorem mem_insert {d : Dict α} {key : String} {value : α} {entry : String × α}
    (h : entry ∈ d.insert key value) : entry = (key, value) ∨ entry ∈ d := by
  induction d with
  | nil => simpa [insert] using h
  | cons head rest ih =>
    obtain ⟨k, v⟩ := head
    unfold insert at h
    split at h
    · simp only [List.mem_cons] at h ⊢
      exact h.imp_right Or.inr
    · split at h
      · simpa only [List.mem_cons] using h
      · simp only [List.mem_cons] at h ⊢
        rcases h with h | h
        · exact Or.inr (Or.inl h)
        · exact (ih h).imp_right Or.inr

theorem Ordered.erase {d : Dict α} (h : Ordered d) (key : String) : Ordered (d.erase key) :=
  List.Pairwise.filter _ h

theorem Ordered.insert {d : Dict α} (h : Ordered d) (key : String) (value : α) :
    Ordered (d.insert key value) := by
  induction d with
  | nil => exact List.pairwise_singleton _ _
  | cons head rest ih =>
    obtain ⟨k, v⟩ := head
    have tail : Ordered rest := (List.pairwise_cons.1 h).2
    have above : ∀ entry ∈ rest, k < entry.1 := (List.pairwise_cons.1 h).1
    unfold Dict.insert
    split
    · next same =>
      subst same
      exact List.pairwise_cons.2 ⟨above, tail⟩
    · next differ =>
      split
      · next below =>
        refine List.pairwise_cons.2 ⟨?_, h⟩
        intro entry present
        simp only [List.mem_cons] at present
        rcases present with rfl | present
        · exact below
        · exact String.lt_trans below (above entry present)
      · next notBelow =>
        refine List.pairwise_cons.2 ⟨?_, ih tail⟩
        intro entry present
        rcases mem_insert present with rfl | present
        · refine Decidable.byContradiction fun notAbove => differ ?_
          exact String.le_antisymm (String.not_lt.1 notBelow) (String.not_lt.1 notAbove)
        · exact above entry present

end Dict

end DocStore
