import DocStore.Files.Tree
import DocStore.Path
import DocStore.Proofs.Dict
import DocStore.Proofs.Fallible
import DocStore.Proofs.Path

/-!
# The files below a directory

Files whose own name or the name of a directory on the way begins with a dot are passed over. The others
are listed directory by directory, in the order of the entries. Where the names in each directory are
different, the route to a file, the names on the way and its own, is taken by no other file. It can be
written with slashes between the names, which are not part of any name.

Results:
  * `mem_filesIn_iff`: what is listed;
  * `routes_filesIn`: different files have different routes;
  * `slashed_inj`: so have they with slashes between the names;
  * `named_readDir`: what is in a directory is named as the whole tree is.
-/

namespace DocStore

/-! ## Routes as texts -/

/-- Names with slashes between them can be told apart again. -/
theorem slashed_inj {names others : List String} (each : ∀ s ∈ names, IsSegment s)
    (each' : ∀ s ∈ others, IsSegment s) (same : "/".intercalate names = "/".intercalate others) :
    names = others := by
  have letters : (Path.mk names each).slashed = (Path.mk others each').slashed := by
    have equal := congrArg String.toList same
    rw [String.toList_intercalate, String.toList_intercalate] at equal
    exact equal
  exact congrArg Path.segments (Path.slashed_inj.1 letters)

namespace FileTree

/-! ## Names -/

mutual

/-- The names in each directory are file names, and different. -/
def Named : FileTree → Prop
  | .file _ => True
  | .dir entries => (entries.map (·.1)).Nodup ∧ NamedEntries entries

def NamedEntries : List (String × FileTree) → Prop
  | [] => True
  | (name, node) :: rest => IsSegment name ∧ Named node ∧ NamedEntries rest

end

variable {entries inner : List (String × FileTree)} {node here found : FileTree}
  {place rest : List String} {name first : String} {text : Option String}

theorem namedEntries_iff : NamedEntries entries ↔
    ∀ entry ∈ entries, IsSegment entry.1 ∧ entry.2.Named := by
  induction entries with
  | nil => simp [NamedEntries]
  | cons head rest ih =>
    obtain ⟨name, node⟩ := head
    rw [NamedEntries, ih, List.forall_mem_cons, and_assoc]

theorem Named.of_mem (named : (FileTree.dir entries).Named) (present : (name, node) ∈ entries) :
    IsSegment name ∧ node.Named :=
  namedEntries_iff.1 named.2 _ present

/-- What components lead to is named as the whole tree is. -/
theorem named_walk {above : List FileTree} {pieces : List String}
    (leads : walk above here pieces = .ok found) (passed : ∀ node ∈ above, node.Named)
    (named : here.Named) : found.Named := by
  induction pieces generalizing above here with
  | nil =>
    unfold walk at leads
    cases leads
    exact named
  | cons piece rest ih =>
    cases here with
    | file text => cases leads
    | dir entries =>
      unfold walk at leads
      dsimp only at leads
      split_ifs at leads
      · exact ih leads passed named
      · cases above with
        | nil => exact ih leads (by simp) named
        | cons parent more =>
          obtain ⟨isNamed, others⟩ := List.forall_mem_cons.1 passed
          exact ih leads others isNamed
      · split at leads
        · cases leads
        · next child isEntry =>
          have inside := (named.of_mem (Dict.mem_of_find? isEntry)).2
          exact ih leads (List.forall_mem_cons.2 ⟨named, passed⟩) inside

/-- A directory of a tree is named as the whole tree is. -/
theorem named_readDir {files : FileTree} {dir : String} (named : files.Named)
    (read : files.readDir dir = .ok entries) : (FileTree.dir entries).Named := by
  unfold readDir at read
  obtain ⟨node, leads, read⟩ := bind_ok read
  cases node with
  | file text => cases read
  | dir inside =>
    cases read
    unfold find at leads
    split_ifs at leads
    exact named_walk leads (by simp) named

/-! ## What is shown -/

/-- Below the entries of a directory there is a file with this place, name and text, and no name on the
way to it begins with a dot, nor does its own. -/
inductive Shows : List (String × FileTree) → List String → String → Option String → Prop
  | here {entries : List (String × FileTree)} {name : String} {text : Option String} :
      (name, .file text) ∈ entries → name.toList.head? ≠ some '.' → Shows entries [] name text
  | within {entries inner : List (String × FileTree)} {first name : String} {place : List String}
      {text : Option String} :
      (first, .dir inner) ∈ entries → first.toList.head? ≠ some '.' → Shows inner place name text →
      Shows entries (first :: place) name text

theorem Shows.mono {others : List (String × FileTree)} (more : ∀ entry ∈ entries, entry ∈ others)
    (isShown : Shows entries place name text) : Shows others place name text := by
  cases isShown with
  | here present visible => exact .here (more _ present) visible
  | within present visible inside => exact .within (more _ present) visible inside

theorem Shows.visible (isShown : Shows entries place name text) : name.toList.head? ≠ some '.' := by
  induction isShown with
  | here present visible => exact visible
  | within present visible inside ih => exact ih

theorem Shows.segments (named : (FileTree.dir entries).Named) (isShown : Shows entries place name text) :
    IsSegment name ∧ ∀ s ∈ place, IsSegment s := by
  induction isShown with
  | here present visible => exact ⟨(named.of_mem present).1, by simp⟩
  | within present visible inside ih =>
    obtain ⟨isSegment, isNamed⟩ := named.of_mem present
    obtain ⟨last, others⟩ := ih isNamed
    exact ⟨last, List.forall_mem_cons.2 ⟨isSegment, others⟩⟩

/-- What is shown of a node called `name`: the file itself, or what is shown of the directory. -/
def ShowsNode (name : String) (node : FileTree) (place : List String) (called : String)
    (text : Option String) : Prop :=
  (node = .file text ∧ place = [] ∧ called = name) ∨
    ∃ inner later, node = .dir inner ∧ place = name :: later ∧ Shows inner later called text

theorem not_shows_nil : ¬ Shows [] place name text := by
  intro never
  cases never <;> contradiction

theorem shows_cons {called : String} : Shows ((name, node) :: entries) place called text ↔
    (name.toList.head? ≠ some '.' ∧ ShowsNode name node place called text) ∨
      Shows entries place called text := by
  constructor
  · intro isShown
    cases isShown with
    | here present visible =>
      rcases List.mem_cons.1 present with same | later
      · cases same
        exact .inl ⟨visible, .inl ⟨rfl, rfl, rfl⟩⟩
      · exact .inr (.here later visible)
    | within present visible inside =>
      rcases List.mem_cons.1 present with same | later
      · cases same
        exact .inl ⟨visible, .inr ⟨_, _, rfl, rfl, inside⟩⟩
      · exact .inr (.within later visible inside)
  · rintro (⟨visible, ⟨rfl, rfl, rfl⟩ | ⟨inner, later, rfl, rfl, inside⟩⟩ | later)
    · exact .here List.mem_cons_self visible
    · exact .within List.mem_cons_self visible inside
    · exact later.mono fun entry => List.mem_cons_of_mem _

/-! ## The list of files -/

/-- A file: the directories on the way to it, its name, and its text. -/
structure Found where
  place : List String
  name : String
  text : Option String

/-- The names on the way to a file, and its own. -/
def Found.route (f : Found) : List String := f.place ++ [f.name]

mutual

/-- The files of a node called `name`, at the directories `place`. -/
def filesOf (place : List String) (name : String) : FileTree → List Found
  | .dir entries => filesIn (place ++ [name]) entries
  | .file text => [⟨place, name, text⟩]

/-- The files of the entries of a directory. -/
def filesIn (place : List String) : List (String × FileTree) → List Found
  | [] => []
  | (name, node) :: rest =>
    if name.toList.head? = some '.' then filesIn place rest
    else filesOf place name node ++ filesIn place rest

end

mutual

theorem mem_filesOf_iff {place : List String} {name : String} {f : Found} : (node : FileTree) →
    (f ∈ filesOf place name node ↔
      ∃ rest, f.place = place ++ rest ∧ ShowsNode name node rest f.name f.text)
  | .file text => by
    obtain ⟨above, called, content⟩ := f
    simp only [filesOf, List.mem_singleton, Found.mk.injEq]
    constructor
    · rintro ⟨rfl, rfl, rfl⟩
      exact ⟨[], (List.append_nil _).symm, .inl ⟨rfl, rfl, rfl⟩⟩
    · rintro ⟨rest, rfl, ⟨same, rfl, rfl⟩ | ⟨inner, later, never, -⟩⟩
      · cases same
        exact ⟨List.append_nil _, rfl, rfl⟩
      · cases never
  | .dir entries => by
    rw [filesOf, mem_filesIn_iff entries]
    constructor
    · rintro ⟨rest, same, inside⟩
      exact ⟨name :: rest, by simp [same], .inr ⟨entries, rest, rfl, rfl, inside⟩⟩
    · rintro ⟨rest, same, ⟨never, -⟩ | ⟨inner, later, isDir, rfl, inside⟩⟩
      · cases never
      · cases isDir
        exact ⟨later, by simp [same], inside⟩

/-- The files that are listed are those that are shown. -/
theorem mem_filesIn_iff {place : List String} {f : Found} : (entries : List (String × FileTree)) →
    (f ∈ filesIn place entries ↔
      ∃ rest, f.place = place ++ rest ∧ Shows entries rest f.name f.text)
  | [] => by
    refine iff_of_false List.not_mem_nil ?_
    rintro ⟨rest, -, never⟩
    exact not_shows_nil never
  | (name, node) :: others => by
    rw [filesIn]
    simp only [shows_cons]
    split
    · next hidden => simp [hidden, mem_filesIn_iff others]
    · next visible =>
      rw [List.mem_append, mem_filesOf_iff node, mem_filesIn_iff others, ← exists_or]
      simp [visible, and_or_left]

end

theorem mem_filesIn_nil_iff {f : Found} :
    f ∈ filesIn [] entries ↔ Shows entries f.place f.name f.text := by
  simp [mem_filesIn_iff entries]

/-! ## Routes -/

variable {f g : Found}

/-- The route to a file that is listed leads through the directory. -/
theorem route_of_node (listed : f ∈ filesOf place name node) : place ++ [name] <+: f.route := by
  obtain ⟨rest, same, ⟨-, rfl, called⟩ | ⟨inner, later, -, rfl, -⟩⟩ := (mem_filesOf_iff node).1 listed
  · have route : f.route = place ++ [name] := by
      rw [Found.route, same, List.append_nil, called]
    exact route ▸ List.prefix_rfl
  · exact ⟨later ++ [f.name], by simp [Found.route, same]⟩

theorem route_of_entries (listed : f ∈ filesIn place entries) :
    ∃ name ∈ entries.map (·.1), place ++ [name] <+: f.route := by
  induction entries with
  | nil => cases listed
  | cons head rest ih =>
    obtain ⟨name, node⟩ := head
    have later (inside : f ∈ filesIn place rest) :
        ∃ other ∈ ((name, node) :: rest).map (·.1), place ++ [other] <+: f.route := by
      obtain ⟨other, present, leads⟩ := ih inside
      exact ⟨other, List.mem_cons_of_mem _ present, leads⟩
    rw [filesIn] at listed
    split at listed
    · exact later listed
    · rcases List.mem_append.1 listed with first | inside
      · exact ⟨name, List.mem_cons_self, route_of_node first⟩
      · exact later inside

mutual

theorem routes_filesOf (place : List String) (name : String) : (node : FileTree) → node.Named →
    ((filesOf place name node).map Found.route).Nodup
  | .file text, _ => List.pairwise_singleton _ _
  | .dir entries, named => by
    rw [filesOf]
    exact routes_filesIn _ entries named

/-- The routes to the files of a directory are different. -/
theorem routes_filesIn (place : List String) : (entries : List (String × FileTree)) →
    (FileTree.dir entries).Named → ((filesIn place entries).map Found.route).Nodup
  | [], _ => List.nodup_nil
  | (name, node) :: rest, ⟨different, _, isNamed, others⟩ => by
    obtain ⟨fresh, apart⟩ := List.nodup_cons.1 different
    have later := routes_filesIn place rest ⟨apart, others⟩
    rw [filesIn]
    split
    · exact later
    · rw [List.map_append, List.nodup_append]
      refine ⟨routes_filesOf place name node isNamed, later, ?_⟩
      intro route first _ second rfl
      obtain ⟨f, listed, rfl⟩ := List.mem_map.1 first
      obtain ⟨g, listed', same⟩ := List.mem_map.1 second
      obtain ⟨other, present, leads⟩ := route_of_entries listed'
      -- Both routes lead through the directory, and then by the same name.
      rw [same] at leads
      have ends := (List.prefix_of_prefix_length_le (route_of_node listed) leads (by simp)).eq_of_length
        (by simp)
      rw [List.append_cancel_left_eq, List.cons.injEq] at ends
      rw [ends.1] at fresh
      exact fresh present

end

end FileTree

end DocStore
