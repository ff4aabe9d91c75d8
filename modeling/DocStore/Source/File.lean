import DocStore.Files.Format
import DocStore.Plugin.Error

/-!
# The file source

A file in one of the known formats, or a directory of them. A directory becomes an object: a file
stands under its name without the extension, a directory inside under its name. Names that begin
with a dot are passed over, and so are files of unknown formats unless a format is given. An entry that
cannot be looked up is taken for a file.

The source remembers a trace of what it read, which is the path and the text of each file one after
the other. While the trace stays the same there is no new data.
-/

namespace DocStore

/-- Which file or directory to read, and in what format if not by extension. -/
structure FileConfig where
  path : String
  format : Option Format
deriving DecidableEq, Repr

/-- What reading gave. -/
structure FileSnapshot where
  value : Value
  trace : String
deriving DecidableEq, Repr

namespace FileConfig

/-- The file or directory that an entry names. -/
def pathOf : Option Value → Except FieldError String
  | some (.string path) =>
    if path.isEmpty then .error ⟨"path", .notNonEmptyString⟩ else .ok path
  | some _ => .error ⟨"path", .notNonEmptyString⟩
  | none => .error ⟨"path", .missing⟩

/-- The format that an entry names. -/
def formatOf : Option Value → Except FieldError (Option Format)
  | none | some .null => .ok none
  | some (.string name) =>
    match Format.ofName? name with
    | some format => .ok (some format)
    | none => .error ⟨"format", .unsupportedFormat name⟩
  | some _ => .error ⟨"format", .notString⟩

/-- Read the fields of a file source. -/
def ofFields (fields : Dict Value) : Except FieldError FileConfig := do
  let path ← pathOf (fields.find? "path")
  let format ← formatOf (fields.find? "format")
  pure ⟨path, format⟩

/-- Read a file, which stands at `path`, from the text that it is found to have. -/
def readFile (format : Option Format) (path : String) (text : Except OsError String) :
    Except PluginError FileSnapshot :=
  match text with
  | .error e => .error (.io path e)
  | .ok text =>
    let format := (format.orElse fun _ => Format.ofPath? path).getD .json
    match format.read? text with
    | some value => .ok ⟨value, path ++ text⟩
    | none => .error (.fetch (.malformedFile path))

/-- A file inside a directory is read, having a format. -/
def isRead (format : Option Format) (path : String) : Bool :=
  format.isSome || (Format.ofPath? path).isSome

/-- Read what stands at `path` inside a directory as a file, under the key that it gets there. Nothing
if it is passed over. -/
def readLeaf (files : FileTree) (format : Option Format) (path name : String) :
    Except PluginError (Option (String × FileSnapshot)) :=
  if isRead format path then
    match readFile format path (files.readText path) with
    | .ok snapshot => .ok (some ((FilePath.stem? path).getD name, snapshot))
    | .error e => .error e
  else .ok none

mutual

/-- Read what stands at `path` inside a directory. -/
def readNode (files : FileTree) (format : Option Format) (path name : String) :
    FileTree → Except PluginError (Option (String × FileSnapshot))
  | .dir entries =>
    if files.isDir path then
      match readEntries files format path entries [] "" with
      | .ok snapshot => .ok (some (name, snapshot))
      | .error e => .error e
    else readLeaf files format path name
  | .file _ => readLeaf files format path name

/-- Read the entries of the directory at `path` after those that gave `fields` and `trace`. -/
def readEntries (files : FileTree) (format : Option Format) (path : String) :
    List (String × FileTree) → Dict Value → String → Except PluginError FileSnapshot
  | [], fields, trace => .ok ⟨.object fields, trace⟩
  | (name, node) :: rest, fields, trace =>
    if name.toList.head? = some '.' then readEntries files format path rest fields trace
    else
      match readNode files format (FilePath.join path name) name node with
      | .error e => .error e
      | .ok none => readEntries files format path rest fields trace
      | .ok (some (key, snapshot)) =>
        readEntries files format path rest (Dict.insert fields key snapshot.value)
          (trace ++ snapshot.trace)

end

/-- Read the file or the directory. -/
def load (c : FileConfig) (files : FileTree) : Except PluginError FileSnapshot :=
  match files.find c.path with
  | .ok (.dir entries) => readEntries files c.format c.path entries [] ""
  | _ => readFile c.format c.path (files.readText c.path)

end FileConfig

/-- A file source with the trace of what it reported last. -/
structure FileSource where
  config : FileConfig
  last : Option String
deriving DecidableEq, Repr

namespace FileSource

def new (config : FileConfig) : FileSource := ⟨config, none⟩

/-- Read the files as they are now: a batch, or nothing when they are as they were. -/
def fetch (s : FileSource) (files : FileTree) :
    FileSource × Except PluginError (Option Value) :=
  match s.config.load files with
  | .error e => (s, .error e)
  | .ok snapshot =>
    if s.last = some snapshot.trace then (s, .ok none)
    else ({ s with last := some snapshot.trace }, .ok (some snapshot.value))

end FileSource

end DocStore
