import DocStore.Bundle.Load
import DocStore.Proofs.Fallible
import DocStore.Proofs.Files.Lookup
import Mathlib.Data.List.Nodup

/-!
# What each file adds to a bundle

A directory is loaded file by file, as looking them up shows them. Each file has its part in the bundle,
which does not depend on the others: the data of a document, the text of a policy, or nothing. When a
file has no part, because it cannot be read or its data would have to replace the whole tree, loading
fails. Otherwise the data of all parts is merged, and the policies are kept under the routes of their
files, which tell them apart.

Results:
  * `ofName_eq_policy_iff`: which files are policies;
  * `part?_eq_some_iff`: what a file adds;
  * `collectEntries_eq_ok_iff`: when files can be loaded, and what comes of it;
  * `mem_dataFiles_iff`, `mem_policyTexts_iff`: the data files and the policies of a directory;
  * `nodup_dataFiles`, `nodup_policyTexts`: none of them comes twice.
-/

namespace DocStore.Bundle

open FileTree (Found Shows filesIn filesOf)

variable {files : FileTree} {place : List String} {path name : String} {text : Option String}
  {c c' : Collected} {entries : List (String × FileTree)} {f : Found} {fs gs : List Found}

/-- Policies are the files whose names end in `.rego`. -/
theorem ofName_eq_policy_iff (segment : IsSegment name) (visible : name.toList.head? ≠ some '.') :
    FileRole.ofName name = .policy ↔ ".rego".toList <:+ name.toList := by
  have plain : '.' ∉ "rego".toList := by decide
  have ending : FilePath.extension? name = some "rego" ↔ ".rego".toList <:+ name.toList :=
    FilePath.extension?_eq_some_iff segment visible plain
  rw [← ending]
  unfold FileRole.ofName
  split_ifs with json yaml rego
  · subst json
    decide
  · rw [Bool.or_eq_true, decide_eq_true_eq, decide_eq_true_eq] at yaml
    rcases yaml with rfl | rfl <;> decide
  · exact iff_of_true rfl rego
  · exact iff_of_false (fun never => by cases never) rego

/-! ## The part of a file -/

/-- A data file: the place of its directory, its name, and the value of its document. -/
structure DataFile where
  place : Path
  name : String
  value : Value
deriving DecidableEq

/-- What a file adds to a bundle. -/
inductive Part
  | data (file : DataFile)
  | policy (id text : String)
  | nothing

namespace Part

/-- Add a part to what has been read. -/
def onto : Part → Collected → Collected
  | .data file, c => { c with data := Tree.mergeInsert c.data file.place file.value }
  | .policy id text, c => { c with policies := c.policies.insert id text }
  | .nothing, c => c

def data? : Part → Option DataFile
  | .data file => some file
  | _ => none

def policy? : Part → Option (String × String)
  | .policy id text => some (id, text)
  | _ => none

end Part

/-- The part that a file has in a bundle, if it can be loaded. -/
def part? (f : Found) : Option Part :=
  match FileRole.ofName f.name with
  | .data format => do
    let text ← f.text
    let v ← format.read? text
    let place ← (Path.new f.place).toOption
    if place.isRoot && !v.isObject then none else some (.data ⟨place, f.name, v⟩)
  | .policy => f.text.map (.policy ("/".intercalate f.route))
  | .other => some .nothing

/-- Which part a file has: a document at the place of its directory, which is an object if that is the
directory of the bundle, or a text under the route of the file. -/
inductive Adds (f : Found) : Part → Prop
  | data {format : Format} {content : String} {file : DataFile} :
      FileRole.ofName f.name = .data format → f.text = some content →
      format.read? content = some file.value → file.place.segments = f.place → file.name = f.name →
      (file.place.isRoot = true → file.value.isObject = true) → Adds f (.data file)
  | policy {content : String} :
      FileRole.ofName f.name = .policy → f.text = some content →
      Adds f (.policy ("/".intercalate f.route) content)
  | nothing : FileRole.ofName f.name = .other → Adds f .nothing

theorem toOption_new_eq_some_iff {segments : List String} {p : Path} :
    (Path.new segments).toOption = some p ↔ p.segments = segments := by
  rw [← Path.ofSegments_eq_ok_iff]
  unfold Path.new
  cases Path.ofSegments segments <;> simp [Except.mapError, Except.toOption]

theorem part?_eq_some_iff {part : Part} : part? f = some part ↔ Adds f part := by
  unfold part?
  constructor
  · intro isPart
    cases role : FileRole.ofName f.name with
    | data format =>
      simp only [role] at isPart
      obtain ⟨content, isText, isPart⟩ := Option.bind_eq_some_iff.1 isPart
      obtain ⟨v, read, isPart⟩ := Option.bind_eq_some_iff.1 isPart
      obtain ⟨place, isPlace, isPart⟩ := Option.bind_eq_some_iff.1 isPart
      split at isPart
      · cases isPart
      · next top =>
        cases isPart
        exact .data role isText read (toOption_new_eq_some_iff.1 isPlace) rfl (by simpa using top)
    | policy =>
      simp only [role] at isPart
      obtain ⟨content, isText, rfl⟩ := Option.map_eq_some_iff.1 isPart
      exact .policy role isText
    | other =>
      simp only [role] at isPart
      cases isPart
      exact .nothing role
  · intro adds
    cases adds with
    | @data format content file role isText read place called top =>
      have located := toOption_new_eq_some_iff.2 place
      have allowed : (file.place.isRoot && !file.value.isObject) = false := by simpa using top
      rw [← called] at role
      simp only [← called, role, isText, read, located, allowed, Option.bind_eq_bind, Option.bind_some]
      rfl
    | policy role isText => simp only [role, isText, Option.map_some]
    | nothing role => simp only [role]

theorem data?_eq_some_iff {file : DataFile} :
    (part? f).bind Part.data? = some file ↔ Adds f (.data file) := by
  rw [← part?_eq_some_iff, Option.bind_eq_some_iff]
  constructor
  · rintro ⟨part, isPart, isData⟩
    cases part <;> cases isData
    exact isPart
  · exact fun isPart => ⟨_, isPart, rfl⟩

theorem policy?_eq_some_iff {id content : String} :
    (part? f).bind Part.policy? = some (id, content) ↔ Adds f (.policy id content) := by
  rw [← part?_eq_some_iff, Option.bind_eq_some_iff]
  constructor
  · rintro ⟨part, isPart, isPolicy⟩
    cases part <;> cases isPolicy
    exact isPart
  · exact fun isPart => ⟨_, isPart, rfl⟩

/-! ## Reading all files -/

/-- Each file has a part, and what has been read afterwards comes from these parts. -/
def Takes (fs : List Found) (c c' : Collected) : Prop :=
  (∀ f ∈ fs, part? f ≠ none) ∧ c' = (fs.filterMap part?).foldl (fun c part => part.onto c) c

theorem takes_nil : Takes [] c c' ↔ c' = c := by
  simp [Takes]

theorem takes_append : Takes (fs ++ gs) c c' ↔ ∃ between, Takes fs c between ∧ Takes gs between c' := by
  unfold Takes
  rw [List.filterMap_append, List.foldl_append, List.forall_mem_append]
  constructor
  · rintro ⟨⟨first, second⟩, same⟩
    exact ⟨_, ⟨first, rfl⟩, second, same⟩
  · rintro ⟨_, ⟨first, rfl⟩, second, same⟩
    exact ⟨⟨first, second⟩, same⟩

/-- Adding a file adds its part, and fails when it has none. -/
theorem toOption_addFile (files : FileTree) (place : List String) (path name : String)
    (c : Collected) : (addFile files place path name c).toOption =
      (part? ⟨place, name, (files.readText path).toOption⟩).map (·.onto c) := by
  unfold addFile part? textOf
  dsimp only
  cases FileRole.ofName name with
  | data format =>
    cases files.readText path with
    | error e => rfl
    | ok text =>
      dsimp only [Except.mapError, Except.toOption, bind, Except.bind, Option.bind]
      cases format.read? text with
      | none => rfl
      | some v =>
        dsimp only [addData, bind, Except.bind]
        cases Path.new place with
        | error e => rfl
        | ok located =>
          dsimp only [Except.mapError, Except.toOption]
          cases located.isRoot && !v.isObject <;> rfl
  | policy => cases files.readText path <;> rfl
  | other => rfl

theorem addFile_eq_ok_iff : addFile files place path name c = .ok c' ↔
    Takes [⟨place, name, (files.readText path).toOption⟩] c c' := by
  rw [← toOption_eq_some_iff, toOption_addFile]
  unfold Takes
  cases isPart : part? ⟨place, name, (files.readText path).toOption⟩ with
  | none => simp [isPart]
  | some part => simp [isPart, eq_comm]

mutual

theorem collect_eq_ok_iff {place : List String} {path name : String} {c c' : Collected} :
    (node : FileTree) → (collect files place path name node c = .ok c' ↔
      Takes (filesOf place name (files.seen path node)) c c')
  | .file text => by
    rw [collect, FileTree.seen, FileTree.filesOf]
    exact addFile_eq_ok_iff
  | .dir entries => by
    rw [collect, FileTree.seen]
    split
    · rw [FileTree.filesOf]
      exact collectEntries_eq_ok_iff entries
    · rw [FileTree.filesOf]
      exact addFile_eq_ok_iff

/-- Files are loaded when each of them has a part as it is seen, and these parts are what comes of
it. -/
theorem collectEntries_eq_ok_iff {place : List String} {path : String} {c c' : Collected} :
    (entries : List (String × FileTree)) → (collectEntries files place path entries c = .ok c' ↔
      Takes (filesIn place (files.seenIn path entries)) c c')
  | [] => by
    rw [collectEntries, FileTree.seenIn, FileTree.filesIn, takes_nil, Except.ok.injEq, eq_comm]
  | (name, node) :: rest => by
    rw [collectEntries, FileTree.seenIn, FileTree.filesIn]
    split
    · exact collectEntries_eq_ok_iff rest
    · rw [takes_append]
      cases first : collect files place (FilePath.join path name) name node c with
      | ok between =>
        rw [collectEntries_eq_ok_iff rest]
        constructor
        · exact fun later => ⟨between, (collect_eq_ok_iff node).1 first, later⟩
        · rintro ⟨other, taken, later⟩
          cases first.symm.trans ((collect_eq_ok_iff node).2 taken)
          exact later
      | error e =>
        refine iff_of_false (fun never => by cases never) ?_
        rintro ⟨between, taken, -⟩
        cases first.symm.trans ((collect_eq_ok_iff node).2 taken)

end

/-! ## What the parts come to -/

/-- Data files merged into a tree, one after the other. -/
def mergeFiles (t : Value) (files : List DataFile) : Value :=
  files.foldl (fun t file => Tree.mergeInsert t file.place file.value) t

/-- The data files of a directory, in the order in which they are loaded. -/
def dataFiles (entries : List (String × FileTree)) : List DataFile :=
  (filesIn [] entries).filterMap fun f => (part? f).bind Part.data?

/-- The policies of a directory, in the order in which they are loaded. -/
def policyTexts (entries : List (String × FileTree)) : List (String × String) :=
  (filesIn [] entries).filterMap fun f => (part? f).bind Part.policy?

theorem data_of_parts (parts : List Part) (c : Collected) :
    (parts.foldl (fun c part => part.onto c) c).data =
      mergeFiles c.data (parts.filterMap Part.data?) := by
  induction parts generalizing c with
  | nil => rfl
  | cons part rest ih =>
    rw [List.foldl_cons, ih]
    cases part <;> rfl

theorem policies_of_parts (parts : List Part) (c : Collected) :
    (parts.foldl (fun c part => part.onto c) c).policies =
      (parts.filterMap Part.policy?).foldl (fun d entry => d.insert entry.1 entry.2) c.policies := by
  induction parts generalizing c with
  | nil => rfl
  | cons part rest ih =>
    rw [List.foldl_cons, ih]
    cases part <;> rfl

/-- What is read of a directory: its data files merged, and its policies. -/
theorem takes_filesIn (takes : Takes (filesIn [] entries) ⟨.empty, []⟩ c) :
    c.data = mergeFiles .empty (dataFiles entries) ∧
      c.policies = Dict.ofEntries (policyTexts entries) := by
  rw [takes.2, data_of_parts, policies_of_parts, List.filterMap_filterMap, List.filterMap_filterMap]
  exact ⟨rfl, rfl⟩

/-! ## Data files -/

/-- A file is a data file of a directory: it is shown, its name says how it is written, and its text is
a document with this value. -/
def HasData (entries : List (String × FileTree)) (file : DataFile) : Prop :=
  ∃ format text, Shows entries file.place.segments file.name (some text) ∧
    FileRole.ofName file.name = .data format ∧ format.read? text = some file.value

variable {file : DataFile}

/-- A file that is shown has a part when all files have one. -/
theorem exists_adds (complete : ∀ f ∈ filesIn [] entries, part? f ≠ none)
    (isShown : Shows entries place name text) : ∃ part, Adds ⟨place, name, text⟩ part := by
  have listed : (⟨place, name, text⟩ : Found) ∈ filesIn [] entries :=
    FileTree.mem_filesIn_nil_iff.2 isShown
  obtain ⟨part, isPart⟩ := Option.ne_none_iff_exists'.1 (complete _ listed)
  exact ⟨part, part?_eq_some_iff.1 isPart⟩

/-- The part of a data file is its document. -/
theorem HasData.adds (complete : ∀ f ∈ filesIn [] entries, part? f ≠ none)
    (hasData : HasData entries file) :
    ∃ f ∈ filesIn [] entries, Adds f (.data file) := by
  obtain ⟨format, content, isShown, role, read⟩ := hasData
  refine ⟨⟨file.place.segments, file.name, some content⟩, FileTree.mem_filesIn_nil_iff.2 isShown, ?_⟩
  obtain ⟨part, adds⟩ := exists_adds complete isShown
  cases adds with
  | @data format' content' other role' isText read' isPlace called top =>
    -- The name and the text of a file leave no choice.
    cases role.symm.trans role'
    cases isText
    have same : other = file := by
      obtain ⟨place', name', value'⟩ := other
      cases Path.ext isPlace
      cases called
      cases read.symm.trans read'
      rfl
    subst same
    exact .data role' rfl read' isPlace called top
  | policy role' => cases role.symm.trans role'
  | nothing role' => cases role.symm.trans role'

/-- Only a data file has a document as its part. -/
theorem hasData_of_adds (listed : f ∈ filesIn [] entries) (adds : Adds f (.data file)) :
    HasData entries file := by
  have isShown := FileTree.mem_filesIn_nil_iff.1 listed
  cases adds with
  | @data format content _ role isText read isPlace called top =>
    rw [← isPlace, ← called, isText] at isShown
    exact ⟨format, content, isShown, called ▸ role, read⟩

theorem mem_dataFiles_iff (complete : ∀ f ∈ filesIn [] entries, part? f ≠ none) :
    file ∈ dataFiles entries ↔ HasData entries file := by
  unfold dataFiles
  simp only [List.mem_filterMap, data?_eq_some_iff]
  exact ⟨fun ⟨f, listed, adds⟩ => hasData_of_adds listed adds, HasData.adds complete⟩

/-- What is kept of each item of a row does not come twice when it did not before. -/
theorem nodup_map_filterMap {α β γ : Type} {f : α → Option β} {g : β → γ} {h : α → γ} {as : List α}
    (kept : ∀ a b, f a = some b → g b = h a) (distinct : (as.map h).Nodup) :
    ((as.filterMap f).map g).Nodup := by
  refine List.Nodup.sublist ?_ distinct
  clear distinct
  induction as with
  | nil => exact List.Sublist.slnil
  | cons a rest ih =>
    cases result : f a with
    | none =>
      rw [List.filterMap_cons_none result]
      exact ih.cons _
    | some b =>
      rw [List.filterMap_cons_some result, List.map_cons, List.map_cons, kept a b result]
      exact ih.cons_cons _

/-- No data file is loaded twice. -/
theorem nodup_dataFiles (named : (FileTree.dir entries).Named) : (dataFiles entries).Nodup := by
  have kept (f : Found) (file : DataFile) (isData : (part? f).bind Part.data? = some file) :
      file.place.segments ++ [file.name] = f.route := by
    cases data?_eq_some_iff.1 isData with
    | data role isText read isPlace called top => rw [Found.route, isPlace, called]
  have routes := FileTree.routes_filesIn [] entries named
  exact List.Nodup.of_map _ (nodup_map_filterMap kept routes)

/-! ## Policies -/

theorem mem_policyTexts_iff {id content : String} : (id, content) ∈ policyTexts entries ↔
    ∃ place file, Shows entries place file (some content) ∧ FileRole.ofName file = .policy ∧
      id = "/".intercalate (place ++ [file]) := by
  unfold policyTexts
  simp only [List.mem_filterMap, policy?_eq_some_iff]
  constructor
  · rintro ⟨f, listed, adds⟩
    have isShown := FileTree.mem_filesIn_nil_iff.1 listed
    cases adds with
    | policy role isText =>
      rw [isText] at isShown
      exact ⟨f.place, f.name, isShown, role, rfl⟩
  · rintro ⟨place, file, isShown, role, rfl⟩
    exact ⟨⟨place, file, some content⟩, FileTree.mem_filesIn_nil_iff.2 isShown, .policy role rfl⟩

/-- The route to a file that is listed consists of names. -/
theorem segments_of_listed (named : (FileTree.dir entries).Named) (listed : f ∈ filesIn [] entries) :
    ∀ s ∈ f.route, IsSegment s := by
  obtain ⟨last, above⟩ := (FileTree.mem_filesIn_nil_iff.1 listed).segments named
  unfold Found.route
  intro s inside
  rcases List.mem_append.1 inside with inside | isLast
  · exact above s inside
  · rw [List.mem_singleton.1 isLast]
    exact last

/-- No two policies have one id. -/
theorem nodup_policyTexts (named : (FileTree.dir entries).Named) :
    ((policyTexts entries).map (·.1)).Nodup := by
  have kept (f : Found) (entry : String × String) (isPolicy : (part? f).bind Part.policy? = some entry) :
      entry.1 = "/".intercalate f.route := by
    obtain ⟨id, content⟩ := entry
    have adds := policy?_eq_some_iff.1 isPolicy
    generalize isId : Part.policy id content = part at adds
    cases adds with
    | policy role isText => exact (Part.policy.inj isId).1
    | data | nothing => cases isId
  -- Different routes give different ids.
  have slashed : (((filesIn [] entries).map Found.route).map "/".intercalate).Nodup := by
    refine List.Nodup.map_on ?_ (FileTree.routes_filesIn [] entries named)
    intro route inside route' inside' same
    obtain ⟨f, listed, rfl⟩ := List.mem_map.1 inside
    obtain ⟨g, listed', rfl⟩ := List.mem_map.1 inside'
    exact slashed_inj (segments_of_listed named listed) (segments_of_listed named listed') same
  rw [List.map_map] at slashed
  exact nodup_map_filterMap kept slashed

end DocStore.Bundle
