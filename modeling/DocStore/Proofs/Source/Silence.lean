import DocStore.Proofs.Fallible
import DocStore.Source.File

/-!
# When a file source has nothing to report

A source that reads files compares the trace of what it reads with the trace of its last report. The
trace strings together the path and the text of each file, so it says neither where a text begins nor
which directories there are. Different files may have one trace, and the source is then silent although
its document is another one.

What is read can be seen as a sheet: the files with their texts, in the directories where they are. When
two sheets have the same layout and at most one text has another length, then the trace tells them apart.

Results:
  * `load_eq`: a load reads its sheet;
  * `Sheet.eq_of_trace`: when a trace tells sheets apart;
  * `Watch.remembers`: the trace of the last report is remembered;
  * `silence_means`: when a source is silent, and when nothing has changed then;
  * `silent_after_change`: a source that is silent although its document has changed.
-/

namespace DocStore

/-! ## Sheets -/

/-- What is read: a file with its path and the text that it is found to have, or a directory with what is
read in it. -/
inductive Sheet
  | file (path : String) (text : Except OsError String)
  | dir (entries : List (String × Sheet))

namespace FileConfig

/-- What is read inside a directory of what is taken for a file. -/
def leafOf (files : FileTree) (format : Option Format) (path name : String) : Option (String × Sheet) :=
  if isRead format path then
    some ((FilePath.stem? path).getD name, .file path (files.readText path))
  else none

mutual

/-- What is read of a node inside a directory, under its key. -/
def sheetOf (files : FileTree) (format : Option Format) (path name : String) :
    FileTree → Option (String × Sheet)
  | .dir entries =>
    if files.isDir path then some (name, .dir (sheetsOf files format path entries))
    else leafOf files format path name
  | .file _ => leafOf files format path name

/-- What is read of the entries of the directory at `path`. -/
def sheetsOf (files : FileTree) (format : Option Format) (path : String) :
    List (String × FileTree) → List (String × Sheet)
  | [] => []
  | (name, node) :: rest =>
    if name.toList.head? = some '.' then sheetsOf files format path rest
    else
      (sheetOf files format (FilePath.join path name) name node).toList ++
        sheetsOf files format path rest

end

/-- What a load reads. -/
def sheet (c : FileConfig) (files : FileTree) : Except OsError Sheet :=
  (files.find c.path).map fun
    | .dir entries => .dir (sheetsOf files c.format c.path entries)
    | .file _ => .file c.path (files.readText c.path)

end FileConfig

namespace Sheet

mutual

/-- Read a sheet. -/
def read (format : Option Format) : Sheet → Except PluginError FileSnapshot
  | .file path text => FileConfig.readFile format path text
  | .dir entries => readAll format entries [] ""

/-- Read sheets after those that gave `fields` and `trace`. -/
def readAll (format : Option Format) :
    List (String × Sheet) → Dict Value → String → Except PluginError FileSnapshot
  | [], fields, trace => .ok ⟨.object fields, trace⟩
  | (key, s) :: rest, fields, trace =>
    match read format s with
    | .error e => .error e
    | .ok snapshot =>
      readAll format rest (Dict.insert fields key snapshot.value) (trace ++ snapshot.trace)

end

mutual

/-- The path and the text of each file. -/
def pages : Sheet → List (String × String)
  | .file path text => [(path, text.toOption.getD "")]
  | .dir entries => pagesOf entries

def pagesOf : List (String × Sheet) → List (String × String)
  | [] => []
  | (_, s) :: rest => pages s ++ pagesOf rest

end

mutual

/-- The sheet without its texts. -/
def layout : Sheet → Sheet
  | .file path text => .file path (text.map fun _ => "")
  | .dir entries => .dir (layouts entries)

def layouts : List (String × Sheet) → List (String × Sheet)
  | [] => []
  | (key, s) :: rest => (key, layout s) :: layouts rest

end

end Sheet

namespace FileConfig

variable (files : FileTree)

theorem readLeaf_eq (format : Option Format) (path name : String) : readLeaf files format path name =
    match leafOf files format path name with
    | none => .ok none
    | some (key, s) => (s.read format).map fun snapshot => some (key, snapshot) := by
  unfold readLeaf leafOf
  split
  · simp only [Sheet.read]
    cases readFile format path (files.readText path) <;> rfl
  · rfl

mutual

theorem readNode_eq (format : Option Format) (path name : String) : (node : FileTree) →
    readNode files format path name node =
      match sheetOf files format path name node with
      | none => .ok none
      | some (key, s) => (s.read format).map fun snapshot => some (key, snapshot)
  | .dir entries => by
    rw [readNode, sheetOf]
    split
    · rw [readEntries_eq]
      simp only [Sheet.read]
      cases Sheet.readAll format (sheetsOf files format path entries) [] "" <;> rfl
    · exact readLeaf_eq files format path name
  | .file text => by
    rw [readNode, sheetOf]
    exact readLeaf_eq files format path name

theorem readEntries_eq (format : Option Format) (path : String) :
    (entries : List (String × FileTree)) → (fields : Dict Value) → (trace : String) →
    readEntries files format path entries fields trace =
      Sheet.readAll format (sheetsOf files format path entries) fields trace
  | [], _, _ => by rw [readEntries, sheetsOf, Sheet.readAll]
  | (name, node) :: rest, fields, trace => by
    rw [readEntries, sheetsOf]
    split
    · exact readEntries_eq format path rest fields trace
    · rw [readNode_eq]
      cases sheetOf files format (FilePath.join path name) name node with
      | none => exact readEntries_eq format path rest fields trace
      | some entry =>
        obtain ⟨key, s⟩ := entry
        simp only [Option.toList_some, List.singleton_append, Sheet.readAll]
        cases s.read format with
        | error e => rfl
        | ok snapshot =>
          exact readEntries_eq format path rest (Dict.insert fields key snapshot.value)
            (trace ++ snapshot.trace)

end

/-- A load reads its sheet. -/
theorem load_eq (c : FileConfig) (files : FileTree) :
    c.load files = ((c.sheet files).mapError (.io c.path)) >>= Sheet.read c.format := by
  unfold load sheet
  cases found : files.find c.path with
  | error e =>
    have unread : files.readText c.path = .error e := by
      unfold FileTree.readText
      rw [found]
      rfl
    rw [unread]
    rfl
  | ok node =>
    cases node with
    | dir entries => exact readEntries_eq files c.format c.path entries [] ""
    | file text => rfl

end FileConfig

/-! ## Traces -/

/-- The paths and texts one after the other. -/
def strung (pages : List (String × String)) : List Char :=
  pages.flatMap fun page => page.1.toList ++ page.2.toList

@[simp] theorem strung_nil : strung [] = [] := rfl

theorem strung_cons (page : String × String) (rest : List (String × String)) :
    strung (page :: rest) = page.1.toList ++ page.2.toList ++ strung rest :=
  List.flatMap_cons

theorem strung_append (first second : List (String × String)) :
    strung (first ++ second) = strung first ++ strung second :=
  List.flatMap_append

/-- The length of the text at a place of the row. -/
def lengthAt (pages : List (String × String)) (place : Nat) : Option Nat :=
  pages[place]?.map fun (_, text) => text.length

/-- At most one text has another length. -/
def MostlyEven (first second : List (String × String)) : Prop :=
  ∃ odd, ∀ place, place ≠ odd → lengthAt first place = lengthAt second place

variable {first second : List (String × String)}

theorem length_strung (paths : first.map (·.1) = second.map (·.1))
    (even : ∀ place, lengthAt first place = lengthAt second place) :
    (strung first).length = (strung second).length := by
  induction first generalizing second with
  | nil =>
    rw [List.map_eq_nil_iff.1 paths.symm]
  | cons page rest ih =>
    cases second with
    | nil => cases paths
    | cons other more =>
      obtain ⟨path, later⟩ := List.cons.inj paths
      have text : page.2.length = other.2.length := Option.some.inj (even 0)
      have tails := ih later fun place => even (place + 1)
      simp only [strung_cons, List.length_append, String.length_toList, path, text, tails]

/-- When at most one text has another length, what is strung together can be taken apart. -/
theorem eq_of_strung (paths : first.map (·.1) = second.map (·.1)) (even : MostlyEven first second)
    (same : strung first = strung second) : first = second := by
  obtain ⟨odd, even⟩ := even
  induction first generalizing second odd with
  | nil => rw [List.map_eq_nil_iff.1 paths.symm]
  | cons page rest ih =>
    cases second with
    | nil => cases paths
    | cons other more =>
      obtain ⟨(path : page.1 = other.1), later⟩ := List.cons.inj paths
      rw [strung_cons, strung_cons] at same
      -- The texts of the first page end at one place: what comes before is as long, or what comes after.
      have parts : page.1.toList ++ page.2.toList = other.1.toList ++ other.2.toList ∧
          strung rest = strung more := by
        cases odd with
        | zero =>
          refine List.append_inj' same (length_strung later fun place => ?_)
          exact even (place + 1) (Nat.succ_ne_zero place)
        | succ odd =>
          have text : page.2.length = other.2.length :=
            Option.some.inj (even 0 (Nat.succ_ne_zero odd).symm)
          refine List.append_inj same ?_
          simp only [List.length_append, String.length_toList, path, text]
      obtain ⟨head, tail⟩ := parts
      have text : page.2 = other.2 := by
        rw [path] at head
        exact String.toList_inj.1 (List.append_cancel_left head)
      rw [Prod.ext path text]
      congr 1
      refine ih later tail (odd - 1) fun place ne => even (place + 1) ?_
      omega

/-- Whoever has more pages has a longer trace. -/
theorem eq_of_sublist (named : ∀ page ∈ second, page.1 ≠ "") (some : first.Sublist second)
    (same : strung first = strung second) : first = second := by
  have longer {page : String × String} (isPage : page.1 ≠ "") : 0 < page.1.toList.length := by
    rw [List.length_pos_iff]
    exact fun empty => isPage (String.toList_inj.1 empty)
  have le {first second : List (String × String)} (some : first.Sublist second) :
      (strung first).length ≤ (strung second).length := by
    induction some with
    | slnil => exact Nat.le_refl _
    | cons page _ ih =>
      rw [strung_cons, List.length_append]
      omega
    | cons_cons page _ ih =>
      simp only [strung_cons, List.length_append]
      omega
  induction some with
  | slnil => rfl
  | cons page rest ih =>
    have shorter := le rest
    have more := longer (named page List.mem_cons_self)
    have lengths := congrArg List.length same
    simp only [strung_cons, List.length_append] at lengths
    omega
  | cons_cons page _ ih =>
    rw [strung_cons, strung_cons] at same
    rw [ih (fun other later => named other (List.mem_cons_of_mem page later))
      (List.append_cancel_left same)]

namespace Sheet

mutual

theorem trace_of_read {format : Option Format} : (s : Sheet) → {snapshot : FileSnapshot} →
    s.read format = .ok snapshot → snapshot.trace.toList = strung s.pages
  | .file path text, snapshot, ok => by
    rw [read] at ok
    rw [pages, strung_cons, strung_nil, List.append_nil]
    unfold FileConfig.readFile at ok
    cases text with
    | error e => cases ok
    | ok text =>
      dsimp only at ok
      split at ok
      · cases ok
        exact String.toList_append
      · cases ok
  | .dir entries, snapshot, ok => by
    rw [read] at ok
    rw [pages, trace_of_readAll entries ok]
    rfl

theorem trace_of_readAll {format : Option Format} : (entries : List (String × Sheet)) →
    {fields : Dict Value} → {trace : String} → {snapshot : FileSnapshot} →
    readAll format entries fields trace = .ok snapshot →
      snapshot.trace.toList = trace.toList ++ strung (pagesOf entries)
  | [], fields, trace, snapshot, ok => by
    rw [readAll] at ok
    cases ok
    rw [pagesOf, strung_nil, List.append_nil]
  | (key, s) :: rest, fields, trace, snapshot, ok => by
    rw [readAll] at ok
    split at ok
    · cases ok
    · next inner reads =>
      rw [trace_of_readAll rest ok, pagesOf, strung_append, String.toList_append,
        trace_of_read s reads, List.append_assoc]

end

mutual

theorem pages_layout : (s : Sheet) → s.layout.pages.map (·.1) = s.pages.map (·.1)
  | .file path text => by rw [layout, pages, pages]; rfl
  | .dir entries => by rw [layout, pages, pages, pagesOf_layouts entries]

theorem pagesOf_layouts : (entries : List (String × Sheet)) →
    (pagesOf (layouts entries)).map (·.1) = (pagesOf entries).map (·.1)
  | [] => by rw [layouts]
  | (key, s) :: rest => by
    rw [layouts, pagesOf, pagesOf, List.map_append, List.map_append, pages_layout s,
      pagesOf_layouts rest]

end

theorem paths_of_layout {s t : Sheet} (same : s.layout = t.layout) :
    s.pages.map (·.1) = t.pages.map (·.1) := by
  rw [← pages_layout s, same, pages_layout t]

mutual

/-- A sheet is known by its layout and its pages. -/
theorem eq_of_pages : (s t : Sheet) → s.layout = t.layout → s.pages = t.pages → s = t
  | .file path text, .file path' text', placed, paged => by
    simp only [layout, Sheet.file.injEq] at placed
    simp only [pages, List.cons.injEq, Prod.mk.injEq, and_true] at paged
    obtain ⟨rfl, kept⟩ := placed
    cases text with
    | error e =>
      cases text' with
      | error e' => rw [Except.error.inj kept]
      | ok text' => cases kept
    | ok text =>
      cases text' with
      | error e' => cases kept
      | ok text' =>
        obtain ⟨-, (same : text = text')⟩ := paged
        rw [same]
  | .dir entries, .dir entries', placed, paged => by
    simp only [layout, Sheet.dir.injEq] at placed
    simp only [pages] at paged
    rw [eq_of_pagesOf entries entries' placed paged]
  | .file path text, .dir entries, placed, _ => by simp only [layout, reduceCtorEq] at placed
  | .dir entries, .file path text, placed, _ => by simp only [layout, reduceCtorEq] at placed

theorem eq_of_pagesOf : (first second : List (String × Sheet)) → layouts first = layouts second →
    pagesOf first = pagesOf second → first = second
  | [], [], _, _ => rfl
  | (key, s) :: rest, (key', t) :: more, placed, paged => by
    simp only [layouts, List.cons.injEq, Prod.mk.injEq] at placed
    obtain ⟨⟨rfl, head⟩, tail⟩ := placed
    have count := congrArg List.length (paths_of_layout head)
    rw [List.length_map, List.length_map] at count
    rw [pagesOf, pagesOf] at paged
    obtain ⟨mine, others⟩ := List.append_inj paged count
    rw [eq_of_pages s t head mine, eq_of_pagesOf rest more tail others]
  | [], _ :: _, placed, _ => by simp only [layouts, reduceCtorEq] at placed
  | _ :: _, [], placed, _ => by simp only [layouts, reduceCtorEq] at placed

end

/-- Sheets of one layout, in which at most one text has another length, are told apart by their
traces. -/
theorem eq_of_trace {s t : Sheet} (placed : s.layout = t.layout)
    (even : MostlyEven s.pages t.pages) (same : strung s.pages = strung t.pages) : s = t :=
  eq_of_pages s t placed (eq_of_strung (paths_of_layout placed) even same)

end Sheet

namespace FileConfig

theorem join_ne_empty {base name : String} (named : base ≠ "") : FilePath.join base name ≠ "" := by
  have longer (more : String) : base ++ more ≠ "" := by simp [named]
  unfold FilePath.join
  split
  · next whole =>
    rintro rfl
    rw [Bool.or_eq_true, String.isEmpty_iff] at whole
    exact whole.elim (fun absolute => by cases absolute) named
  · split
    · exact longer name
    · rw [String.append_assoc]
      exact longer ("/" ++ name)

theorem named_of_leafOf {files : FileTree} {format : Option Format} {path name : String}
    (named : path ≠ "") : ∀ entry ∈ leafOf files format path name, ∀ page ∈ entry.2.pages, page.1 ≠ "" := by
  intro entry isEntry page isPage
  unfold leafOf at isEntry
  split at isEntry
  · cases isEntry
    rw [Sheet.pages, List.mem_singleton] at isPage
    rw [isPage]
    exact named
  · cases isEntry

mutual

/-- Every file that is read has a path. -/
theorem named_of_sheetOf {files : FileTree} {format : Option Format} {path name : String}
    (named : path ≠ "") : (node : FileTree) →
      ∀ entry ∈ sheetOf files format path name node, ∀ page ∈ entry.2.pages, page.1 ≠ ""
  | .dir entries, entry, isEntry, page, isPage => by
    rw [sheetOf] at isEntry
    split at isEntry
    · cases isEntry
      rw [Sheet.pages] at isPage
      exact named_of_sheetsOf named entries page isPage
    · exact named_of_leafOf named entry isEntry page isPage
  | .file text, entry, isEntry, page, isPage => by
    rw [sheetOf] at isEntry
    exact named_of_leafOf named entry isEntry page isPage

theorem named_of_sheetsOf {files : FileTree} {format : Option Format} {path : String}
    (named : path ≠ "") : (entries : List (String × FileTree)) →
      ∀ page ∈ Sheet.pagesOf (sheetsOf files format path entries), page.1 ≠ ""
  | [], page, isPage => by
    rw [sheetsOf, Sheet.pagesOf] at isPage
    cases isPage
  | (name, node) :: rest, page, isPage => by
    rw [sheetsOf] at isPage
    split at isPage
    · exact named_of_sheetsOf named rest page isPage
    · cases found : sheetOf files format (FilePath.join path name) name node with
      | none =>
        rw [found] at isPage
        exact named_of_sheetsOf named rest page isPage
      | some entry =>
        rw [found, Option.toList_some, List.singleton_append, Sheet.pagesOf] at isPage
        rcases List.mem_append.1 isPage with mine | later
        · exact named_of_sheetOf (join_ne_empty named) node entry found page mine
        · exact named_of_sheetsOf named rest page later

end

/-- What a load gave has the trace of the sheet. -/
theorem trace_of_load {c : FileConfig} {files : FileTree} {s : Sheet} {snapshot : FileSnapshot}
    (seen : c.sheet files = .ok s) (ok : c.load files = .ok snapshot) :
    snapshot.trace.toList = strung s.pages := by
  rw [load_eq, seen] at ok
  exact Sheet.trace_of_read s ok

theorem load_of_sheet {c : FileConfig} {files before : FileTree} {s : Sheet}
    (seen : c.sheet files = .ok s) (seen' : c.sheet before = .ok s) : c.load files = c.load before := by
  rw [load_eq, load_eq, seen, seen']

theorem named_of_sheet {c : FileConfig} {files : FileTree} {s : Sheet}
    (seen : c.sheet files = .ok s) : ∀ page ∈ s.pages, page.1 ≠ "" := by
  obtain ⟨node, found, rfl⟩ := map_ok seen
  have named : c.path ≠ "" := by
    intro empty
    rw [empty] at found
    cases found
  cases node with
  | dir entries =>
    rw [Sheet.pages]
    exact named_of_sheetsOf named entries
  | file text =>
    rw [Sheet.pages]
    exact List.forall_mem_singleton.2 named

end FileConfig

/-! ## Sources over time -/

namespace FileSource

/-- A source as it is watched: what it read for its last report, and what it reported. -/
structure Watch where
  source : FileSource
  report : Option (FileTree × Value)

/-- The source fetches once more. -/
def Watch.next (w : Watch) (files : FileTree) : Watch :=
  match w.source.fetch files with
  | (s, .ok (some v)) => ⟨s, some (files, v)⟩
  | (s, _) => { w with source := s }

/-- A new source after it has fetched in each of these states, one after the other. -/
def watch (c : FileConfig) (states : List FileTree) : Watch :=
  states.foldl Watch.next ⟨.new c, none⟩

/-- The trace of the last report is remembered. -/
structure Watch.Remembers (c : FileConfig) (w : Watch) : Prop where
  config : w.source.config = c
  last : (w.report = none ∧ w.source.last = none) ∨
    ∃ before old, w.report = some (before, old.value) ∧ c.load before = .ok old ∧
      w.source.last = some old.trace

theorem fetch_eq_none_iff {s : FileSource} {files : FileTree} :
    (s.fetch files).2 = .ok none ↔
      ∃ new, s.config.load files = .ok new ∧ s.last = some new.trace := by
  unfold fetch
  cases s.config.load files with
  | error e => simp
  | ok new =>
    dsimp only
    split
    · next same => exact ⟨fun _ => ⟨new, rfl, same⟩, fun _ => rfl⟩
    · next differs =>
      constructor
      · intro never
        cases never
      · rintro ⟨_, loaded, same⟩
        cases loaded
        exact absurd same differs

variable {c : FileConfig} {w : Watch}

/-- A fetch keeps in memory what the last report was about. -/
theorem Watch.Remembers.next (h : w.Remembers c) (files : FileTree) : (w.next files).Remembers c := by
  unfold Watch.next fetch
  rw [h.config]
  cases loaded : c.load files with
  | error e => exact h
  | ok new =>
    by_cases same : w.source.last = some new.trace
    · simp only [if_pos same]
      exact h
    · simp only [if_neg same]
      exact ⟨rfl, .inr ⟨files, new, rfl, loaded, rfl⟩⟩

theorem remembers_watch (c : FileConfig) (states : List FileTree) :
    (watch c states).Remembers c := by
  have run (w : Watch) (h : w.Remembers c) : (states.foldl Watch.next w).Remembers c := by
    induction states generalizing w with
    | nil => exact h
    | cons files rest ih => exact ih _ (h.next files)
  exact run _ ⟨rfl, .inl ⟨rfl, rfl⟩⟩

/-- A source is silent exactly when the trace is that of its last report. -/
theorem silent_iff (c : FileConfig) (states : List FileTree) (files : FileTree) :
    ((watch c states).source.fetch files).2 = .ok none ↔
      ∃ before old new, (watch c states).report = some (before, old.value) ∧
        c.load before = .ok old ∧ c.load files = .ok new ∧ new.trace = old.trace := by
  have memory := remembers_watch c states
  rw [fetch_eq_none_iff, memory.config]
  constructor
  · rintro ⟨new, loaded, same⟩
    obtain ⟨-, nothing⟩ | ⟨before, old, report, reported, last⟩ := memory.last
    · cases nothing.symm.trans same
    · exact ⟨before, old, new, report, reported, loaded, Option.some.inj (same.symm.trans last)⟩
  · rintro ⟨before, old, new, report, reported, loaded, same⟩
    obtain ⟨none, -⟩ | ⟨before', old', report', reported', last⟩ := memory.last
    · cases none.symm.trans report
    · cases Prod.mk.inj (Option.some.inj (report.symm.trans report')) with
      | intro place _ =>
        cases place
        cases reported.symm.trans reported'
        exact ⟨new, loaded, last.trans (congrArg some same.symm)⟩

/-- What the silence of a source means: the trace is that of the last report.

When the same files are read at the same places, and at most one of them has a text of another length,
then nothing has changed, and the document is the one that was reported. When files have only been
added, or have only been removed, then the source is not silent. -/
structure Silence (c : FileConfig) (states : List FileTree) (files : FileTree) : Prop where
  silent : ((watch c states).source.fetch files).2 = .ok none ↔
    ∃ before old new, (watch c states).report = some (before, old.value) ∧
      c.load before = .ok old ∧ c.load files = .ok new ∧ new.trace = old.trace
  unchanged : ∀ before v old new, (watch c states).report = some (before, v) →
    c.sheet before = .ok old → c.sheet files = .ok new → old.layout = new.layout →
    MostlyEven old.pages new.pages → ((watch c states).source.fetch files).2 = .ok none →
    new = old ∧ ∃ snapshot, c.load files = .ok snapshot ∧ snapshot.value = v
  heard : ∀ before v old new, (watch c states).report = some (before, v) →
    c.sheet before = .ok old → c.sheet files = .ok new → old.pages ≠ new.pages →
    old.pages.Sublist new.pages ∨ new.pages.Sublist old.pages →
    ((watch c states).source.fetch files).2 ≠ .ok none

theorem silence_means (c : FileConfig) (states : List FileTree) (files : FileTree) :
    Silence c states files := by
  have silent := silent_iff c states files
  -- A silent source has read the same characters as for its last report.
  have same_trace {before : FileTree} {v : Value} {old new : Sheet}
      (report : (watch c states).report = some (before, v)) (seen : c.sheet before = .ok old)
      (seen' : c.sheet files = .ok new)
      (quiet : ((watch c states).source.fetch files).2 = .ok none) :
      strung old.pages = strung new.pages ∧ ∃ snapshot, c.load before = .ok snapshot ∧
        snapshot.value = v := by
    obtain ⟨before', snapshot, snapshot', report', loaded, loaded', same⟩ := silent.1 quiet
    obtain ⟨rfl, rfl⟩ := Prod.mk.inj (Option.some.inj (report.symm.trans report'))
    refine ⟨?_, snapshot, loaded, rfl⟩
    rw [← FileConfig.trace_of_load seen loaded, ← FileConfig.trace_of_load seen' loaded', same]
  constructor
  case silent => exact silent
  case unchanged =>
    intro before v old new report seen seen' placed even quiet
    obtain ⟨same, snapshot, loaded, value⟩ := same_trace report seen seen' quiet
    have sheets := Sheet.eq_of_trace placed even same
    subst sheets
    exact ⟨rfl, snapshot, (FileConfig.load_of_sheet seen' seen).trans loaded, value⟩
  case heard =>
    intro before v old new report seen seen' differ part quiet
    have same := (same_trace report seen seen' quiet).1
    rcases part with more | fewer
    · exact differ (eq_of_sublist (FileConfig.named_of_sheet seen') more same)
    · exact differ (eq_of_sublist (FileConfig.named_of_sheet seen) fewer same.symm).symm

/-! ### Samples -/

/-- A directory with files, read as JSON whatever their names. -/
def jsonAt (files : List (String × String)) : FileTree :=
  .dir [("d", .dir (files.map fun (name, text) => (name, .file (some text))))]

def jsonConfig : FileConfig := ⟨"/d", some .json⟩

/-- Where one file holds what ends the name of another one, a source is silent although its document
has changed. -/
theorem silent_after_change :
    ¬ ∀ c states files before v, (watch c states).report = some (before, v) →
      ((watch c states).source.fetch files).2 = .ok none →
        ∃ snapshot, c.load files = .ok snapshot ∧ snapshot.value = v := by
  intro always
  obtain ⟨snapshot, loaded, same⟩ := always jsonConfig [jsonAt [("a", "12")]] (jsonAt [("a1", "2")])
    (jsonAt [("a", "12")]) (.object [("a", .int 12)]) rfl rfl
  have now : jsonConfig.load (jsonAt [("a1", "2")]) =
    .ok ⟨.object [("a1", .int 2)], "/d/a12"⟩ := rfl
  cases loaded.symm.trans now
  exact absurd same (by decide)

end FileSource

end DocStore
