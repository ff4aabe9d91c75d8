import DocStore.Proofs.Files.Listing
import DocStore.Proofs.Files.Names

/-!
# Looking up the entries of directories

A directory says which entries it has. Whether one of them is a directory or a file is found out by
looking it up, and that may fail although the entry is there: its path may be longer than paths may be.
When it does not fail, it finds the entry.

Results:
  * `find_join_eq_ok_iff`: when looking up an entry finds something, and what;
  * `shows_seenIn_iff`: the files that are found by looking up everything on the way to them.
-/

namespace DocStore

namespace FilePath

variable {base name : String}

theorem pieces_concat (base : String) (plain : '/' ∉ name.toList) :
    pieces (base ++ "/" ++ name) = pieces base ++ [name] := by
  have letters : (base ++ "/" ++ name).toList = base.toList ++ '/' :: name.toList := by simp
  unfold pieces
  rw [letters, Text.splitOn_eq, Text.splitOn_eq, List.splitOn_append_cons_self,
    List.splitOn_eq_singleton plain]
  simp

theorem pieces_slash (base : String) : pieces (base ++ "/") = pieces base ++ [""] := by
  have none : '/' ∉ "".toList := by simp
  have pieces := pieces_concat base none
  rwa [String.append_empty] at pieces

/-- A slash is put before the name unless there is one. -/
theorem join_eq (named : base ≠ "") (segment : IsSegment name) :
    join base name = base ++ "/" ++ name ∨
      ∃ front, base = front ++ "/" ∧ join base name = front ++ "/" ++ name := by
  have relative : isAbsolute name = false := by
    unfold isAbsolute
    cases letters : name.toList with
    | nil => rfl
    | cons c rest =>
      have other : c ≠ '/' := by
        rintro rfl
        exact segment.2 (letters ▸ List.mem_cons_self)
      simp [other]
  have some : base.isEmpty = false := by simp [named]
  unfold join
  simp only [relative, some, Bool.or_self, Bool.false_eq_true, if_false]
  split
  · next ends =>
    obtain ⟨front, letters⟩ := List.getLast?_eq_some_iff.1 (beq_iff_eq.1 ends)
    have same : base = String.ofList front ++ "/" := by
      rw [← String.toList_inj, letters]
      simp
    exact .inr ⟨_, same, by rw [same]⟩
  · exact .inl rfl

/-- The names on the way to an entry are those on the way to its directory, and its own. Behind a slash
at the end there is a piece that counts for nothing. -/
theorem pieces_join (named : base ≠ "") (segment : IsSegment name) : ∃ above,
    pieces (join base name) = above ++ [name] ∧ (pieces base = above ∨ pieces base = above ++ [""]) := by
  rcases join_eq named segment with joined | ⟨front, rfl, joined⟩
  · exact ⟨pieces base, joined ▸ pieces_concat base segment.2, .inl rfl⟩
  · exact ⟨pieces front, joined ▸ pieces_concat front segment.2, .inr (pieces_slash front)⟩

/-- The path of an entry is that of its directory with its name behind it, and a slash at most between
them. -/
theorem exists_join (named : base ≠ "") (segment : IsSegment name) :
    ∃ middle, (middle = "" ∨ middle = "/") ∧ join base name = base ++ (middle ++ name) := by
  rcases join_eq named segment with joined | ⟨front, rfl, joined⟩
  · exact ⟨"/", .inr rfl, by rw [joined, String.append_assoc]⟩
  · exact ⟨"", .inl rfl, by rw [joined, String.empty_append]⟩

theorem utf8ByteSize_le_join (named : base ≠ "") (segment : IsSegment name) :
    base.utf8ByteSize + name.utf8ByteSize ≤ (join base name).utf8ByteSize := by
  obtain ⟨middle, -, joined⟩ := exists_join named segment
  rw [joined, String.utf8ByteSize_append, String.utf8ByteSize_append]
  omega

theorem isAbsolute_append (absolute : isAbsolute base = true) (rest : String) :
    isAbsolute (base ++ rest) = true := by
  unfold isAbsolute at absolute ⊢
  rw [beq_iff_eq] at absolute ⊢
  rw [String.toList_append, List.head?_append, absolute]
  rfl

/-- The path to what names lead to from a directory. -/
def along (dir : String) (names : List String) : String := names.foldl join dir

end FilePath

namespace FileTree

variable {files here node : FileTree} {above : List FileTree} {pieces place : List String}
  {path name text : String} {entries : List (String × FileTree)}

/-! ## What is found -/

/-- The entry of a directory with a name. -/
def child (name : String) : FileTree → Except OsError FileTree
  | .file _ => .error .notDirectory
  | .dir entries =>
    if maxNameBytes < name.utf8ByteSize then .error .nameTooLong
    else
      match Dict.find? entries name with
      | none => .error .notFound
      | some node => .ok node

theorem child_eq_ok_iff : child name (.dir entries) = .ok node ↔
    name.utf8ByteSize ≤ maxNameBytes ∧ Dict.find? entries name = some node := by
  unfold child
  dsimp only
  split
  · next long => simp [Nat.not_le.2 long]
  · next short =>
    rw [and_iff_right (Nat.le_of_not_lt short)]
    cases Dict.find? entries name <;> simp

theorem walk_cons (above : List FileTree) (entries : List (String × FileTree)) (piece : String)
    (rest : List String) : walk above (.dir entries) (piece :: rest) =
      if FilePath.isFiller piece then walk above (.dir entries) rest
      else if piece = ".." then walk above.tail (above.headD (.dir entries)) rest
      else child piece (.dir entries) >>= fun next => walk (.dir entries :: above) next rest := by
  conv_lhs => unfold walk
  unfold child
  refine if_congr Iff.rfl rfl (if_congr Iff.rfl ?_ ?_)
  · cases above <;> rfl
  · split_ifs
    · rfl
    · dsimp only
      cases Dict.find? entries piece <;> rfl

theorem walk_concat (counts : FilePath.isFiller name = false) (down : name ≠ "..") :
    walk above here (pieces ++ [name]) = walk above here pieces >>= child name := by
  induction pieces generalizing above here with
  | nil =>
    cases here with
    | file text => rfl
    | dir entries =>
      rw [List.nil_append, walk_cons, if_neg (by simp [counts]), if_neg down]
      unfold walk
      exact bind_pure (child name (.dir entries))
  | cons piece rest ih =>
    cases here with
    | file text => rfl
    | dir entries =>
      rw [List.cons_append, walk_cons, walk_cons]
      split_ifs
      · exact ih
      · exact ih
      · cases child piece (.dir entries) with
        | error e => rfl
        | ok next => exact ih

/-- A piece at the end that counts for nothing changes nothing for a directory. -/
theorem walk_concat_filler {piece : String} (filler : FilePath.isFiller piece = true) :
    walk above here (pieces ++ [piece]) = .ok (.dir entries) ↔
      walk above here pieces = .ok (.dir entries) := by
  induction pieces generalizing above here with
  | nil =>
    cases here with
    | file text => exact iff_of_false (fun never => by cases never) fun never => by cases never
    | dir inner => rw [List.nil_append, walk_cons, if_pos filler]
  | cons first rest ih =>
    cases here with
    | file text => exact iff_of_false (fun never => by cases never) fun never => by cases never
    | dir inner =>
      rw [List.cons_append, walk_cons, walk_cons]
      split_ifs
      · exact ih
      · exact ih
      · cases child first (.dir inner) with
        | error e => exact Iff.rfl
        | ok next => exact ih

theorem find_eq_ok_iff : files.find path = .ok node ↔
    '\x00' ∉ path.toList ∧ path.utf8ByteSize ≤ maxPathBytes ∧ FilePath.isAbsolute path = true ∧
      walk [] files (FilePath.pieces path) = .ok node := by
  unfold find
  simp only [List.contains_iff_mem]
  split_ifs with nul long absolute
  · simp [nul]
  · simp [Nat.not_le.2 long]
  · simp [nul, Nat.le_of_not_lt long, absolute]
  · simp [absolute]

theorem ne_empty_of_find (found : files.find path = .ok node) : path ≠ "" := by
  rintro rfl
  cases found

/-- An entry is found at the path of its directory and its name when neither is too long. -/
theorem find_join_eq_ok_iff (leads : files.find path = .ok (.dir entries)) (segment : IsSegment name)
    (counts : FilePath.isFiller name = false) (down : name ≠ "..") :
    files.find (FilePath.join path name) = .ok node ↔ '\x00' ∉ name.toList ∧
      (FilePath.join path name).utf8ByteSize ≤ maxPathBytes ∧ name.utf8ByteSize ≤ maxNameBytes ∧
      Dict.find? entries name = some node := by
  obtain ⟨nul, -, absolute, walked⟩ := find_eq_ok_iff.1 leads
  have named := ne_empty_of_find leads
  obtain ⟨above, joined, base⟩ := FilePath.pieces_join named segment
  have reached : walk [] files above = .ok (.dir entries) := by
    rcases base with same | same
    · rw [← same, walked]
    · exact (walk_concat_filler rfl).1 (same ▸ walked)
  have found : walk [] files (FilePath.pieces (FilePath.join path name)) = child name (.dir entries) := by
    rw [joined, walk_concat counts down, reached]
    rfl
  obtain ⟨middle, slash, joined'⟩ := FilePath.exists_join named segment
  have clean : '\x00' ∉ (FilePath.join path name).toList ↔ '\x00' ∉ name.toList := by
    have apart : '\x00' ∉ middle.toList := by
      rcases slash with rfl | rfl <;> decide
    simp [joined', nul, apart]
  have starts : FilePath.isAbsolute (FilePath.join path name) = true := by
    rw [joined']
    exact FilePath.isAbsolute_append absolute _
  rw [find_eq_ok_iff, found, child_eq_ok_iff, clean]
  simp only [starts, true_and]

/-- A slash at the end of the path of a directory changes nothing. -/
theorem find_slash (leads : files.find path = .ok (.dir entries))
    (short : (path ++ "/").utf8ByteSize ≤ maxPathBytes) :
    files.find (path ++ "/") = .ok (.dir entries) := by
  obtain ⟨nul, -, absolute, walked⟩ := find_eq_ok_iff.1 leads
  refine find_eq_ok_iff.2 ⟨by simp [nul], short, FilePath.isAbsolute_append absolute "/", ?_⟩
  rw [FilePath.pieces_slash]
  exact (walk_concat_filler rfl).2 walked

/-! ## What somebody sees who looks up every entry -/

mutual

/-- What the node at `path` is found to be: a directory if looking it up says so, else a file with the
text that can be read there. -/
def seen (files : FileTree) (path : String) : FileTree → FileTree
  | .dir entries =>
    if files.isDir path then .dir (seenIn files path entries)
    else .file (files.readText path).toOption
  | .file _ => .file (files.readText path).toOption

/-- What the entries of the directory at `path` are found to be. -/
def seenIn (files : FileTree) (path : String) : List (String × FileTree) → List (String × FileTree)
  | [] => []
  | (name, node) :: rest => (name, seen files (FilePath.join path name) node) :: seenIn files path rest

end

theorem seenIn_eq_map (files : FileTree) (path : String) (entries : List (String × FileTree)) :
    files.seenIn path entries =
      entries.map fun entry => (entry.1, files.seen (FilePath.join path entry.1) entry.2) := by
  induction entries with
  | nil => rfl
  | cons entry rest ih => rw [seenIn, ih, List.map_cons]

theorem mem_seenIn_iff : (name, node) ∈ files.seenIn path entries ↔
    ∃ original, (name, original) ∈ entries ∧ files.seen (FilePath.join path name) original = node := by
  rw [seenIn_eq_map, List.mem_map]
  constructor
  · rintro ⟨⟨_, original⟩, present, same⟩
    cases same
    exact ⟨original, present, rfl⟩
  · rintro ⟨original, present, rfl⟩
    exact ⟨(name, original), present, rfl⟩

theorem names_seenIn (files : FileTree) (path : String) (entries : List (String × FileTree)) :
    (files.seenIn path entries).map (·.1) = entries.map (·.1) := by
  rw [seenIn_eq_map, List.map_map]
  rfl

mutual

theorem named_seen (files : FileTree) (path : String) : (node : FileTree) → node.Named →
    (files.seen path node).Named
  | .file text, _ => trivial
  | .dir entries, ⟨distinct, each⟩ => by
    rw [seen]
    split
    · exact ⟨by rwa [names_seenIn], namedEntries_seenIn files path entries each⟩
    · trivial

theorem namedEntries_seenIn (files : FileTree) (path : String) :
    (entries : List (String × FileTree)) → NamedEntries entries →
      NamedEntries (files.seenIn path entries)
  | [], _ => trivial
  | (_, node) :: rest, ⟨segment, isNamed, others⟩ =>
    ⟨segment, named_seen files _ node isNamed, namedEntries_seenIn files path rest others⟩

end

/-- What a directory is seen as is named as it is. -/
theorem Named.seenIn (named : (FileTree.dir entries).Named) (files : FileTree) (path : String) :
    (FileTree.dir (files.seenIn path entries)).Named :=
  ⟨by rw [names_seenIn]; exact named.1, namedEntries_seenIn files path entries named.2⟩

theorem isDir_iff : files.isDir path = true ↔ ∃ entries, files.find path = .ok (.dir entries) := by
  unfold isDir
  split
  · next entries found => exact iff_of_true rfl ⟨entries, found⟩
  · next other =>
    exact iff_of_false Bool.false_ne_true fun ⟨entries, found⟩ => other entries found

theorem isFile_iff : files.isFile path = true ↔ ∃ text, files.find path = .ok (.file text) := by
  unfold isFile
  split
  · next text found => exact iff_of_true rfl ⟨text, found⟩
  · next other => exact iff_of_false Bool.false_ne_true fun ⟨text, found⟩ => other text found

theorem readText_eq_ok_iff {text : String} :
    files.readText path = .ok text ↔ files.find path = .ok (.file (some text)) := by
  unfold readText
  constructor
  · intro read
    obtain ⟨node, found, read⟩ := bind_ok read
    rw [found]
    cases node with
    | dir entries => cases read
    | file content =>
      cases content with
      | none => cases read
      | some content =>
        cases read
        rfl
  · intro found
    rw [found]
    rfl

theorem readDir_eq_ok_iff : files.readDir path = .ok entries ↔ files.find path = .ok (.dir entries) := by
  unfold readDir
  constructor
  · intro read
    obtain ⟨node, found, read⟩ := bind_ok read
    rw [found]
    cases node with
    | file text => cases read
    | dir inner =>
      cases read
      rfl
  · intro found
    rw [found]
    rfl

/-- Looking up an entry that is shown finds that entry, or fails. -/
theorem eq_of_find_join {found : FileTree} (leads : files.find path = .ok (.dir entries))
    (named : (FileTree.dir entries).Named) (present : (name, node) ∈ entries)
    (visible : name.toList.head? ≠ some '.')
    (isFound : files.find (FilePath.join path name) = .ok found) : found = node := by
  have segment := (named.of_mem present).1
  obtain ⟨counts, down⟩ := FilePath.component_of_segment segment visible
  obtain ⟨-, -, -, entry⟩ := (find_join_eq_ok_iff leads segment counts down).1 isFound
  exact Option.some.inj (entry.symm.trans (Dict.find?_of_mem named.1 present))

/-- A directory that is shown, and is one when it is looked up, is found as it is shown. -/
theorem find_of_isDir {inner : List (String × FileTree)}
    (leads : files.find path = .ok (.dir entries)) (named : (FileTree.dir entries).Named)
    (present : (name, .dir inner) ∈ entries) (visible : name.toList.head? ≠ some '.')
    (isDir : files.isDir (FilePath.join path name) = true) :
    files.find (FilePath.join path name) = .ok (.dir inner) := by
  obtain ⟨found, isFound⟩ := isDir_iff.1 isDir
  rw [isFound, eq_of_find_join leads named present visible isFound]

/-! ## What is seen -/

/-- Looking up the directories on the way from the one at `path` says that they are directories. -/
def Passable (files : FileTree) (path : String) (place : List String) : Prop :=
  ∀ above, above <+: place → files.isDir (FilePath.along path above) = true

theorem passable_nil (leads : files.find path = .ok (.dir entries)) : Passable files path [] := by
  intro above isPrefix
  rw [List.prefix_nil.1 isPrefix]
  exact isDir_iff.2 ⟨entries, leads⟩

theorem passable_cons_iff {first : String} (leads : files.find path = .ok (.dir entries)) :
    Passable files path (first :: place) ↔
      files.isDir (FilePath.join path first) = true ∧
        Passable files (FilePath.join path first) place := by
  constructor
  · intro ways
    exact ⟨ways [first] (by simp), fun above isPrefix =>
      ways (first :: above) (List.cons_prefix_cons.2 ⟨rfl, isPrefix⟩)⟩
  · rintro ⟨-, ways⟩ above isPrefix
    rcases List.prefix_cons_iff.1 isPrefix with rfl | ⟨later, rfl, within⟩
    · exact isDir_iff.2 ⟨entries, leads⟩
    · exact ways later within

/-- A file that is shown is seen when the directories on the way can be passed, with the text that can
be read. That is no other than its text. -/
theorem Shows.seenIn {content : Option String} (leads : files.find path = .ok (.dir entries))
    (named : (FileTree.dir entries).Named) (isShown : Shows entries place name content)
    (ways : Passable files path place) :
    Shows (files.seenIn path entries) place name
        (files.readText (FilePath.along path (place ++ [name]))).toOption ∧
      ∀ text, files.readText (FilePath.along path (place ++ [name])) = .ok text →
        content = some text := by
  induction isShown generalizing path with
  | here present visible =>
    refine ⟨.here (mem_seenIn_iff.2 ⟨_, present, rfl⟩) visible, fun text read => ?_⟩
    have found := eq_of_find_join leads named present visible (readText_eq_ok_iff.1 read)
    exact (FileTree.file.inj found).symm
  | @within entries inner first name place content present visible inside ih =>
    obtain ⟨isDir, later⟩ := (passable_cons_iff leads).1 ways
    obtain ⟨isSeen, only⟩ :=
      ih (find_of_isDir leads named present visible isDir) (named.of_mem present).2 later
    refine ⟨.within (mem_seenIn_iff.2 ⟨_, present, ?_⟩) visible isSeen, only⟩
    rw [seen, if_pos isDir]

/-- What is seen as a file with a text is a text that can be read. -/
theorem read_of_seen {text : String} (same : files.seen path node = .file (some text)) :
    files.readText path = .ok text := by
  have file : FileTree.file (files.readText path).toOption = .file (some text) := by
    cases node with
    | file content => exact same
    | dir entries =>
      rw [seen] at same
      split at same
      · cases same
      · exact same
  exact toOption_eq_some_iff.1 (FileTree.file.inj file)

/-- What is seen as a directory is one, and one when it is looked up. -/
theorem dir_of_seen {shown : List (String × FileTree)} (same : files.seen path node = .dir shown) :
    ∃ inner, node = .dir inner ∧ files.isDir path = true ∧ shown = files.seenIn path inner := by
  cases node with
  | file text => cases same
  | dir inner =>
    rw [seen] at same
    split at same
    · next isDir => exact ⟨inner, rfl, isDir, (FileTree.dir.inj same).symm⟩
    · cases same

/-- The files that are seen with a text are those that are shown and that can be read, past the
directories on the way to them. -/
theorem shows_seenIn_iff {text : String} (leads : files.find path = .ok (.dir entries))
    (named : (FileTree.dir entries).Named) :
    Shows (files.seenIn path entries) place name (some text) ↔
      Shows entries place name (some text) ∧ Passable files path place ∧
        files.readText (FilePath.along path (place ++ [name])) = .ok text := by
  constructor
  · intro isSeen
    induction place generalizing path entries with
    | nil =>
      cases isSeen with
      | here isSeen visible =>
        obtain ⟨original, present, same⟩ := mem_seenIn_iff.1 isSeen
        have read := read_of_seen same
        rw [← eq_of_find_join leads named present visible (readText_eq_ok_iff.1 read)] at present
        exact ⟨.here present visible, passable_nil leads, read⟩
    | cons first rest ih =>
      cases isSeen with
      | within isSeen visible inside =>
        obtain ⟨original, present, same⟩ := mem_seenIn_iff.1 isSeen
        obtain ⟨inner, rfl, isDir, rfl⟩ := dir_of_seen same
        obtain ⟨isShown, ways, read⟩ :=
          ih (find_of_isDir leads named present visible isDir) (named.of_mem present).2 inside
        exact ⟨.within present visible isShown, (passable_cons_iff leads).2 ⟨isDir, ways⟩, read⟩
  · rintro ⟨isShown, ways, read⟩
    have isSeen := (isShown.seenIn leads named ways).1
    rwa [read] at isSeen

end FileTree

end DocStore
