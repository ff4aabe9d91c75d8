import DocStore.Proofs.Bundle.Parts
import DocStore.Proofs.Bundle.Tips
import DocStore.Proofs.Files.Documents

/-!
# What is loaded of a bundle

Loading passes over no policy and no data file, as long as the directories on the way to them can be
looked up. One that cannot is taken for a file, and what lies below it is lost. Policies are kept apart
by the routes of their files. Data is merged, so documents could replace parts of each other. They do
not when their leaves are apart: then all leaves are there in the end, and the order of the files does
not matter.

A document that is an empty object has no leaf if it is that of the directory itself. Anywhere below it
is a leaf, since it puts an empty object at the place of its directory.

Results:
  * `DataFile.leaf_iff`: the leaves of a document, once it is nested at its place;
  * `load_exact`: what is loaded of a bundle;
  * `policy_passed_over`: a policy that is lost.
-/

namespace DocStore.Bundle

open FileTree (Shows filesIn)

variable {entries : List (String × FileTree)} {c : Collected} {name : String} {file : DataFile}
  {files : List DataFile}

/-! ## Leaves of data files -/

namespace DataFile

/-- A leaf of a data file: no object, or an empty one that is not the root of the tree. Its location is
that in the document, below the place of the file. -/
def Leaf (file : DataFile) (location : List String) (w : Value) : Prop :=
  ∃ rest, location = file.place.segments ++ rest ∧ Tree.reach? rest file.value = some w ∧
    (w.isObject = false ∨ w = .empty ∧ location ≠ [])

/-- The document of a data file, nested in objects along its place. -/
def nested (file : DataFile) : Value := Tree.nest file.place.segments file.value

theorem leaf_iff {location : List String} {w : Value} :
    file.Leaf location w ↔ Tree.TipAt file.nested location w :=
  Tree.tipAt_nest_iff.symm

end DataFile

/-- The leaves of different data files are apart. -/
def LeavesApart (entries : List (String × FileTree)) : Prop :=
  ∀ file other, HasData entries file → HasData entries other → file ≠ other →
    ∀ location w location' w', file.Leaf location w → other.Leaf location' w' → Apart location location'

theorem HasData.ordered (hasData : HasData entries file) : file.value.Ordered := by
  obtain ⟨format, text, -, role, read⟩ := hasData
  unfold FileRole.ofName at role
  split_ifs at role
  · cases role
    exact Json.ordered_read? read
  · cases role
    exact Yaml.ordered_read? read

/-- A data file that can be loaded comes to an object with fields in order. -/
theorem HasData.sound (complete : ∀ f ∈ filesIn [] entries, part? f ≠ none)
    (hasData : HasData entries file) : Tree.Sound file.nested := by
  refine Tree.sound_nest hasData.ordered fun root => ?_
  obtain ⟨f, listed, adds⟩ := hasData.adds complete
  cases adds with
  | data role isText read isPlace called top => exact top (List.isEmpty_iff.2 root)

theorem mergeFiles_eq_merges (each : ∀ file ∈ files, file.value.Ordered) (t : Value) :
    mergeFiles t files = Tree.merges t (files.map DataFile.nested) := by
  induction files generalizing t with
  | nil => rfl
  | cons file rest ih =>
    show mergeFiles (Tree.mergeInsert t file.place file.value) rest = _
    rw [ih fun other later => each other (List.mem_cons_of_mem _ later),
      Tree.mergeInsert_eq_merge (each file List.mem_cons_self)]
    rfl

/-! ## The result -/

/-- What a bundle holds of the directory that it has been loaded from. -/
structure Holds (entries : List (String × FileTree)) (b : Bundle) : Prop where
  /-- Every policy and data file that is shown has a text, and that of a data file is a document. -/
  readable : ∀ place file content, Shows entries place file content → FileRole.ofName file ≠ .other →
    ∃ text, content = some text ∧
      ∀ format, FileRole.ofName file = .data format → ∃ v, format.read? text = some v
  /-- The policies are the files that are shown and whose names end in `.rego`, each under its route,
  with its whole text. -/
  policies : ∀ id text, b.policies.find? id = some text ↔ ∃ place file,
    Shows entries place file (some text) ∧ ".rego".toList <:+ file.toList ∧
      id = "/".intercalate (place ++ [file])
  /-- Nothing is listed twice, or out of order. -/
  ordered : b.policies.Ordered ∧ (Value.object b.data).Ordered
  /-- The data is that of all data files, merged in some order. -/
  merged : ∃ order : List DataFile, order.Nodup ∧ (∀ file, file ∈ order ↔ HasData entries file) ∧
    mergeFiles .empty order = .object b.data
  /-- The data has no leaves but those of data files. -/
  others : ∀ location w, Tree.TipAt (.object b.data) location w →
    ∃ file, HasData entries file ∧ file.Leaf location w
  /-- Each leaf of a data file is found at its location when the leaves of the files are apart. -/
  found : LeavesApart entries → ∀ file, HasData entries file → ∀ location w, file.Leaf location w →
    Tree.TipAt (.object b.data) location w
  /-- Then the files can be merged in any order. -/
  unordered : LeavesApart entries → ∀ order : List DataFile, order.Nodup →
    (∀ file, file ∈ order ↔ HasData entries file) → mergeFiles .empty order = .object b.data

theorem HasData.congr {others : List (String × FileTree)}
    (same : ∀ place name text, FileRole.ofName name ≠ .other →
      (Shows entries place name text ↔ Shows others place name text)) :
    HasData entries file ↔ HasData others file := by
  unfold HasData
  refine exists_congr fun format => exists_congr fun text => and_congr_left fun ⟨role, _⟩ => ?_
  exact same _ _ _ fun other => by cases role.symm.trans other

/-- What a bundle holds depends on the policies and data files that are shown. -/
theorem Holds.congr {others : List (String × FileTree)} {b : Bundle} (holds : Holds entries b)
    (named : (FileTree.dir entries).Named) (named' : (FileTree.dir others).Named)
    (same : ∀ place name text, FileRole.ofName name ≠ .other →
      (Shows entries place name text ↔ Shows others place name text)) : Holds others b := by
  have data : HasData entries = HasData others := funext fun file => propext (HasData.congr same)
  have leaves : LeavesApart entries = LeavesApart others := by
    unfold LeavesApart
    rw [data]
  constructor
  case readable =>
    intro place file content isShown role
    exact holds.readable place file content ((same place file content role).2 isShown) role
  case policies =>
    intro id text
    rw [holds.policies]
    refine exists_congr fun place => exists_congr fun file => ?_
    have policy {shown : List (String × FileTree)} (named : (FileTree.dir shown).Named)
        (isShown : Shows shown place file (some text)) :
        ".rego".toList <:+ file.toList → FileRole.ofName file ≠ .other := by
      rw [← ofName_eq_policy_iff (isShown.segments named).1 isShown.visible]
      exact fun isPolicy isOther => by cases isPolicy.symm.trans isOther
    constructor
    · rintro ⟨isShown, ends, isId⟩
      exact ⟨(same place file _ (policy named isShown ends)).1 isShown, ends, isId⟩
    · rintro ⟨isShown, ends, isId⟩
      exact ⟨(same place file _ (policy named' isShown ends)).2 isShown, ends, isId⟩
  case ordered => exact holds.ordered
  case merged =>
    rw [← data]
    exact holds.merged
  case others =>
    rw [← data]
    exact holds.others
  case found =>
    rw [← data, ← leaves]
    exact holds.found
  case unordered =>
    rw [← data, ← leaves]
    exact holds.unordered

/-- What loading a bundle from a directory comes to. -/
structure Loads (files : FileTree) (name dir : String) : Prop where
  /-- What is loaded is what the directory holds as it is seen, looking up each entry. -/
  holds : ∀ b, load files name dir = .ok b →
    ∃ entries, files.readDir dir = .ok entries ∧ Holds (files.seenIn dir entries) b
  /-- Files are seen with their texts when they can be read and each directory on the way can be looked
  up. -/
  seen : ∀ entries, files.readDir dir = .ok entries → ∀ place file text,
    Shows (files.seenIn dir entries) place file (some text) ↔
      Shows entries place file (some text) ∧ files.Passable dir place ∧
        files.readText (FilePath.along dir (place ++ [file])) = .ok text
  /-- What is loaded is what the directory holds when each directory on the way to a policy or a data
  file can be looked up. -/
  whole : ∀ b entries, load files name dir = .ok b → files.readDir dir = .ok entries →
    (∀ place file content, Shows entries place file content → FileRole.ofName file ≠ .other →
      files.Passable dir place) → Holds entries b
  /-- A document of the directory itself that is no object makes loading fail. -/
  topLevel : ∀ entries file, files.readDir dir = .ok entries → HasData entries file →
    file.place = .root → file.value.isObject = false → ∃ e, load files name dir = .error e

theorem takes_of_load {root : FileTree} {dir : String} {b : Bundle}
    (loaded : load root name dir = .ok b) : ∃ entries c, root.readDir dir = .ok entries ∧
      Takes (filesIn [] (root.seenIn dir entries)) ⟨.empty, []⟩ c ∧ b.policies = c.policies ∧
        (c.data.isObject = true → .object b.data = c.data) := by
  unfold load at loaded
  obtain ⟨manifest, -, loaded⟩ := bind_ok loaded
  obtain ⟨entries, read, loaded⟩ := bind_ok loaded
  obtain ⟨c, collected, loaded⟩ := bind_ok loaded
  cases loaded
  refine ⟨entries, c, mapError_ok read, (collectEntries_eq_ok_iff entries).1 collected, rfl, ?_⟩
  intro object
  dsimp only
  rcases c.data.leaf_or_object with leaf | ⟨fields, same⟩
  · rw [leaf] at object
    cases object
  · rw [same]

/-- Where loading succeeds, it has seen each policy and data file that is shown past directories that
can be looked up. -/
theorem shows_seenIn_of_complete {root : FileTree} {dir : String} {place : List String}
    {content : Option String} (leads : root.find dir = .ok (.dir entries))
    (named : (FileTree.dir entries).Named)
    (complete : ∀ f ∈ filesIn [] (root.seenIn dir entries), part? f ≠ none)
    (isShown : Shows entries place name content) (role : FileRole.ofName name ≠ .other)
    (ways : root.Passable dir place) : Shows (root.seenIn dir entries) place name content := by
  obtain ⟨isSeen, only⟩ := isShown.seenIn leads named ways
  obtain ⟨part, adds⟩ := exists_adds complete isSeen
  have text : ∃ text, root.readText (FilePath.along dir (place ++ [name])) = .ok text := by
    cases adds with
    | data isData isText => exact ⟨_, toOption_eq_some_iff.1 isText⟩
    | policy isPolicy isText => exact ⟨_, toOption_eq_some_iff.1 isText⟩
    | nothing isOther => exact absurd isOther role
  obtain ⟨text, read⟩ := text
  rw [only text read]
  rwa [read] at isSeen

/-- Documents with leaves apart come to trees with tips apart. -/
theorem tipsApart_of_leavesApart (apart : LeavesApart entries) (distinct : files.Nodup)
    (each : ∀ file ∈ files, HasData entries file) :
    (files.map DataFile.nested).Pairwise Tree.TipsApart := by
  rw [List.pairwise_map]
  refine List.Pairwise.imp_of_mem (fun {file other} inside inside' differ => ?_) distinct
  intro location w location' w' tip tip'
  exact apart file other (each file inside) (each other inside') differ location w location' w'
    (DataFile.leaf_iff.2 tip) (DataFile.leaf_iff.2 tip')

theorem holds_of_takes {b : Bundle} (named : (FileTree.dir entries).Named)
    (takes : Takes (filesIn [] entries) ⟨.empty, []⟩ c) (policies : b.policies = c.policies)
    (data : c.data.isObject = true → .object b.data = c.data) : Holds entries b := by
  have complete := takes.1
  obtain ⟨mergedData, listed⟩ := takes_filesIn takes
  have inData {file : DataFile} : file ∈ dataFiles entries ↔ HasData entries file :=
    mem_dataFiles_iff complete
  have sound {order : List DataFile} (each : ∀ file ∈ order, HasData entries file) :
      ∀ u ∈ order.map DataFile.nested, Tree.Sound u := by
    intro u inside
    obtain ⟨file, present, rfl⟩ := List.mem_map.1 inside
    exact (each file present).sound complete
  have merges {order : List DataFile} (each : ∀ file ∈ order, HasData entries file) :
      mergeFiles .empty order = Tree.merges .empty (order.map DataFile.nested) :=
    mergeFiles_eq_merges (fun file inside => (each file inside).ordered) .empty
  have empty : Tree.Sound .empty := ⟨Value.ordered_empty, rfl⟩
  have loadedEach : ∀ file ∈ dataFiles entries, HasData entries file := fun file => inData.1
  -- What is merged is an object, so it is the data of the bundle.
  have whole : Tree.Sound c.data := by
    rw [mergedData, merges loadedEach]
    exact Tree.sound_merges empty (sound loadedEach)
  have same : .object b.data = Tree.merges .empty ((dataFiles entries).map DataFile.nested) := by
    rw [data whole.2, mergedData, merges loadedEach]
  constructor
  case readable =>
    intro place file content isShown role
    obtain ⟨part, adds⟩ := exists_adds complete isShown
    cases adds with
    | @data format text file isData isText read =>
      refine ⟨text, isText, fun format' isData' => ?_⟩
      cases isData.symm.trans isData'
      exact ⟨file.value, read⟩
    | @policy text isPolicy isText =>
      exact ⟨text, isText, fun format isData => by cases isPolicy.symm.trans isData⟩
    | nothing isOther => exact absurd isOther role
  case policies =>
    intro id text
    rw [policies, listed]
    have entry : (Dict.ofEntries (policyTexts entries)).find? id = some text ↔
        (id, text) ∈ policyTexts entries := by
      rw [← Dict.mem_ofEntries_iff (nodup_policyTexts named)]
      exact ⟨Dict.mem_of_find?, (Dict.ordered_ofEntries _).find?_of_mem⟩
    rw [entry, mem_policyTexts_iff]
    refine exists_congr fun place => exists_congr fun file => and_congr_right fun isShown => ?_
    rw [ofName_eq_policy_iff (isShown.segments named).1 isShown.visible]
  case ordered =>
    rw [policies, listed, data whole.2]
    exact ⟨Dict.ordered_ofEntries _, whole.1⟩
  case merged =>
    exact ⟨dataFiles entries, nodup_dataFiles named, fun file => inData,
      mergedData.symm.trans (data whole.2).symm⟩
  case others =>
    intro location w tip
    rw [same] at tip
    rcases Tree.tipAt_or_of_merges (fun u inside => (sound loadedEach u inside).1) tip with
      never | ⟨u, inside, tip⟩
    · exact absurd never Tree.not_tipAt_empty
    · obtain ⟨file, present, rfl⟩ := List.mem_map.1 inside
      exact ⟨file, inData.1 present, DataFile.leaf_iff.2 tip⟩
  case found =>
    intro apart file hasData location w leaf
    have pairs := tipsApart_of_leavesApart apart (nodup_dataFiles named) loadedEach
    rw [same, Tree.tipAt_merges_iff empty (sound loadedEach) pairs
      fun u _ p w q x never => absurd never Tree.not_tipAt_empty]
    exact .inr ⟨file.nested, List.mem_map_of_mem (inData.2 hasData), DataFile.leaf_iff.1 leaf⟩
  case unordered =>
    intro apart order distinct exactly
    have each : ∀ file ∈ order, HasData entries file := fun file => (exactly file).1
    have perm : (dataFiles entries).Perm order :=
      (List.perm_ext_iff_of_nodup (nodup_dataFiles named) distinct).2 fun file => by
        rw [inData, exactly]
    have pairs := tipsApart_of_leavesApart apart (nodup_dataFiles named) loadedEach
    rw [merges each, same]
    exact Tree.merges_perm (sound loadedEach) pairs (perm.map _)

/-- Loading a bundle loses nothing that it sees: all policies are there, and all data is, unless documents
get in each other's way. -/
theorem load_exact {files : FileTree} (named : files.Named) (name dir : String) :
    Loads files name dir := by
  have inside {entries : List (String × FileTree)} (read : files.readDir dir = .ok entries) :
      (FileTree.dir entries).Named :=
    FileTree.named_readDir named read
  have holds {entries : List (String × FileTree)} {b : Bundle} (loaded : load files name dir = .ok b)
      (read : files.readDir dir = .ok entries) : Holds (files.seenIn dir entries) b ∧
        ∀ f ∈ filesIn [] (files.seenIn dir entries), part? f ≠ none := by
    obtain ⟨entries', c, read', takes, policies, data⟩ := takes_of_load loaded
    cases read.symm.trans read'
    exact ⟨holds_of_takes ((inside read).seenIn files dir) takes policies data, takes.1⟩
  constructor
  case holds =>
    intro b loaded
    obtain ⟨entries, c, read, -⟩ := takes_of_load loaded
    exact ⟨entries, read, (holds loaded read).1⟩
  case seen =>
    intro entries read place file text
    exact FileTree.shows_seenIn_iff (FileTree.readDir_eq_ok_iff.1 read) (inside read)
  case whole =>
    intro b entries loaded read ways
    have leads := FileTree.readDir_eq_ok_iff.1 read
    obtain ⟨sees, complete⟩ := holds loaded read
    refine sees.congr ((inside read).seenIn files dir) (inside read) fun place file content role => ?_
    constructor
    · intro isSeen
      obtain ⟨text, rfl, -⟩ := sees.readable place file content isSeen role
      exact ((FileTree.shows_seenIn_iff leads (inside read)).1 isSeen).1
    · intro isShown
      exact shows_seenIn_of_complete leads (inside read) complete isShown role
        (ways place file content isShown role)
  case topLevel =>
    intro entries file read hasData top leaf
    cases result : load files name dir with
    | error e => exact ⟨e, rfl⟩
    | ok b =>
      exfalso
      have leads := FileTree.readDir_eq_ok_iff.1 read
      have complete := (holds result read).2
      obtain ⟨format, text, isShown, role, document⟩ := hasData
      have here : files.Passable dir file.place.segments := by
        rw [top]
        exact FileTree.passable_nil leads
      have isSeen := shows_seenIn_of_complete leads (inside read) complete isShown
        (fun isOther => by cases role.symm.trans isOther) here
      have seen : HasData (files.seenIn dir entries) file := ⟨format, text, isSeen, role, document⟩
      obtain ⟨f, listed, adds⟩ := seen.adds complete
      cases adds with
      | data role isText document isPlace called object =>
        rw [object (by rw [top]; rfl)] at leaf
        cases leaf

/-- Documents in directories of which none leads to another one do not get in each other's way. -/
theorem leavesApart_of_places (apart : ∀ file other, HasData entries file → HasData entries other →
    file ≠ other → Apart file.place.segments other.place.segments) : LeavesApart entries := by
  rintro file other hasData hasData' differ _ w _ w' ⟨rest, rfl, -⟩ ⟨rest', rfl, -⟩
  have places := apart file other hasData hasData' differ
  exact ((places.below (List.prefix_append _ rest')).symm.below (List.prefix_append _ rest)).symm

/-- A directory with data in two of its directories, and with policies on three levels. -/
def shelf : List (String × FileTree) := [
  (".git", .dir [("x.rego", .file (some "package x"))]),
  ("a.rego", .file (some "package a")),
  ("left", .dir [("data.json", .file (some "\x7b\"n\": \x7b\x7d\x7d")), ("notes", .file none)]),
  ("right", .dir [("data.yaml", .file (some "m: [2]")),
    ("deep", .dir [("p.rego", .file (some "package p"))])])]

/-- What is loaded of it. -/
def shelved : Bundle :=
  ⟨"s", .empty, [("left", .object [("n", .empty)]), ("right", .object [("m", .array [.int 2])])],
    [("a.rego", "package a"), ("right/deep/p.rego", "package p")]⟩

/-- The data files in it. -/
def shelfData : List DataFile := [
  ⟨⟨["left"], by decide⟩, "data.json", .object [("n", .empty)]⟩,
  ⟨⟨["right"], by decide⟩, "data.yaml", .object [("m", .array [.int 2])]⟩]

theorem load_exact_shelf : (FileTree.dir [("b", .dir shelf)]).Named ∧
    load (.dir [("b", .dir shelf)]) "s" "/b" = .ok shelved ∧ LeavesApart shelf ∧
      Holds shelf shelved ∧ Loads (.dir [("b", .dir shelf)]) "s" "/b" := by
  have named : (FileTree.dir [("b", .dir shelf)]).Named := by
    simp only [shelf, FileTree.Named, FileTree.NamedEntries]
    decide
  have loads := load_exact named "s" "/b"
  have loaded : load (.dir [("b", .dir shelf)]) "s" "/b" = .ok shelved := by
    decide +kernel
  have complete : ∀ f ∈ filesIn [] shelf, part? f ≠ none := by
    decide +kernel
  have listed : dataFiles shelf = shelfData := by
    decide +kernel
  refine ⟨named, loaded, leavesApart_of_places fun file other hasData hasData' differ => ?_,
    loads.whole shelved shelf loaded rfl fun place file content isShown _ => ?_, loads⟩
  · rw [← mem_dataFiles_iff complete, listed] at hasData hasData'
    simp only [shelfData, List.mem_cons, List.not_mem_nil, or_false] at hasData hasData'
    rcases hasData with rfl | rfl <;> rcases hasData' with rfl | rfl
    · exact absurd rfl differ
    · exact apart_cons_cons.2 (.inl (by decide))
    · exact apart_cons_cons.2 (.inl (by decide))
    · exact absurd rfl differ
  · have ways : ∀ f ∈ filesIn [] shelf, ∀ above ∈ f.place.inits,
        (FileTree.dir [("b", .dir shelf)]).isDir (FilePath.along "/b" above) = true := by
      decide +kernel
    intro above isPrefix
    exact ways ⟨place, file, content⟩ (FileTree.mem_filesIn_nil_iff.2 isShown) above
      ((List.mem_inits above place).2 isPrefix)

/-! ### A directory that cannot be looked up -/

theorem loadManifest_of_absent {root : FileTree} {dir : String} (leads : root.find dir = .ok (.dir entries))
    (absent : Dict.find? entries ".manifest" = none) : loadManifest root dir = .ok .empty := by
  have none : root.isFile (FilePath.join dir ".manifest") = false := by
    refine Bool.eq_false_iff.2 fun isFile => ?_
    obtain ⟨text, found⟩ := FileTree.isFile_iff.1 isFile
    obtain ⟨-, -, -, entry⟩ :=
      (FileTree.find_join_eq_ok_iff leads (by decide) (by decide) (by decide)).1 found
    cases absent.symm.trans entry
  unfold loadManifest
  dsimp only
  rw [none]
  rfl

/-- A directory that cannot be looked up is passed over, unless it has a name of a policy or a data
file. A bundle with nothing else is loaded as an empty one. -/
theorem load_of_lost {root : FileTree} {dir : String} {inner : List (String × FileTree)}
    (leads : root.find dir = .ok (.dir [(name, .dir inner)])) (visible : name.toList.head? ≠ some '.')
    (role : FileRole.ofName name = .other) (absent : name ≠ ".manifest")
    (lost : root.isDir (FilePath.join dir name) = false) (bundle : String) :
    load root bundle dir = .ok ⟨bundle, .empty, [], []⟩ := by
  have manifest : Dict.find? [(name, FileTree.dir inner)] ".manifest" = none := by
    rw [Dict.find?_cons, if_neg absent]
    rfl
  have collected (c : Collected) : collectEntries root [] dir [(name, .dir inner)] c = .ok c := by
    rw [collectEntries, if_neg visible, collect, lost, if_neg Bool.false_ne_true, addFile, role]
    rfl
  unfold load
  rw [loadManifest_of_absent leads manifest, FileTree.readDir_eq_ok_iff.2 leads]
  dsimp only [Except.mapError, bind, Except.bind, pure, Except.pure]
  rw [collected]
  rfl

/-- A path with so many slashes behind it. -/
def withSlashes (path : String) : Nat → String
  | 0 => path
  | n + 1 => withSlashes path n ++ "/"

theorem utf8ByteSize_withSlashes (path : String) (n : Nat) :
    (withSlashes path n).utf8ByteSize = path.utf8ByteSize + n := by
  induction n with
  | zero => rfl
  | succ n ih =>
    rw [withSlashes, String.utf8ByteSize_append, ih, Nat.add_assoc]
    rfl

/-- Slashes behind the path of a directory change nothing while the path is not too long. -/
theorem find_withSlashes {root : FileTree} {path : String} {n : Nat}
    (leads : root.find path = .ok (.dir entries))
    (short : path.utf8ByteSize + n ≤ FileTree.maxPathBytes) :
    root.find (withSlashes path n) = .ok (.dir entries) := by
  induction n with
  | zero => exact leads
  | succ n ih =>
    refine FileTree.find_slash (ih (Nat.le_of_succ_le short)) ?_
    rwa [← withSlashes, utf8ByteSize_withSlashes]

/-- A bundle with a policy in one of its directories. -/
def cellar : List (String × FileTree) := [("sub", .dir [("p.rego", .file (some "package p"))])]

/-- A file system with that bundle. -/
def house : FileTree := .dir [("b", .dir cellar)]

/-- A path to the bundle that is as long as paths may be but for one letter. -/
def longPath : String := withSlashes "/b" 4092

theorem find_longPath : house.find longPath = .ok (.dir cellar) :=
  find_withSlashes rfl (by decide)

/-- The path of the directory in it is too long. -/
theorem not_isDir_below_longPath : house.isDir (FilePath.join longPath "sub") = false := by
  have segment : IsSegment "sub" := by decide
  have long := FilePath.utf8ByteSize_le_join (FileTree.ne_empty_of_find find_longPath) segment
  rw [longPath, utf8ByteSize_withSlashes] at long
  refine Bool.eq_false_iff.2 fun isDir => ?_
  obtain ⟨inner, found⟩ := FileTree.isDir_iff.1 isDir
  obtain ⟨-, short, -⟩ :=
    (FileTree.find_join_eq_ok_iff find_longPath segment (by decide) (by decide)).1 found
  exact absurd (long.trans short) (by decide)

/-- A policy is lost with a directory that cannot be looked up, and loading does not fail. -/
theorem policy_passed_over : ¬ ∀ (files : FileTree) name dir b entries, files.Named →
    load files name dir = .ok b → files.readDir dir = .ok entries → ∀ place file text,
      Shows entries place file (some text) → ".rego".toList <:+ file.toList →
        b.policies.find? ("/".intercalate (place ++ [file])) = some text := by
  intro always
  have named : house.Named := by
    simp only [house, cellar, FileTree.Named, FileTree.NamedEntries]
    decide
  have loaded : load house "s" longPath = .ok ⟨"s", .empty, [], []⟩ :=
    load_of_lost find_longPath (by decide) (by decide +kernel) (by decide) not_isDir_below_longPath "s"
  have isShown : Shows cellar ["sub"] "p.rego" (some "package p") :=
    .within List.mem_cons_self (by decide) (.here List.mem_cons_self (by decide))
  have never := always house "s" longPath _ cellar named loaded
    (FileTree.readDir_eq_ok_iff.2 find_longPath) ["sub"] "p.rego" "package p" isShown (by decide)
  cases never

end DocStore.Bundle
