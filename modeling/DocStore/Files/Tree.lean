import DocStore.Dict
import DocStore.Files.Path

/-!
# File trees

A snapshot of a file system: directories with their entries in byte order, and files, each with
its text or with content that is no valid text. Only absolute paths lead anywhere.

Left out are permissions, links, and names that are no valid text. Those who read directories do meet
them: a directory inside one that may be listed but not searched cannot be looked up, just as one with
too long a path, and of a name that is no valid text they take the nearest text, which other names may
have too.
-/

namespace DocStore

/-- Why the file system refuses an access. -/
inductive OsError
  | notFound
  | notDirectory
  | isDirectory
  | nameTooLong
  | embeddedNul
  | notText
deriving DecidableEq, Repr

def OsError.message : OsError → String
  | .notFound => "No such file or directory (os error 2)"
  | .notDirectory => "Not a directory (os error 20)"
  | .isDirectory => "Is a directory (os error 21)"
  | .nameTooLong => "File name too long (os error 36)"
  | .embeddedNul => "file name contained an unexpected NUL byte"
  | .notText => "stream did not contain valid UTF-8"

/-- A file, with its text if it is valid text, or a directory. -/
inductive FileTree
  | file (text : Option String)
  | dir (entries : List (String × FileTree))
deriving Repr, Inhabited

namespace FileTree

def empty : FileTree := .dir []

/-- The bytes that one component of a path may have. -/
def maxNameBytes : Nat := 255

/-- The bytes that a path may have. -/
def maxPathBytes : Nat := 4095

/-- Follow components down from `here`; `above` are the directories passed, the nearest first. -/
def walk (above : List FileTree) (here : FileTree) : List String → Except OsError FileTree
  | [] => .ok here
  | piece :: rest =>
    match here with
    | .file _ => .error .notDirectory
    | .dir entries =>
      if FilePath.isFiller piece then walk above here rest
      else if piece = ".." then
        match above with
        | [] => walk [] here rest
        | parent :: more => walk more parent rest
      else if maxNameBytes < piece.utf8ByteSize then .error .nameTooLong
      else
        match Dict.find? entries piece with
        | none => .error .notFound
        | some next => walk (here :: above) next rest

/-- What a path leads to. -/
def find (root : FileTree) (path : String) : Except OsError FileTree :=
  if path.toList.contains '\x00' then .error .embeddedNul
  else if maxPathBytes < path.utf8ByteSize then .error .nameTooLong
  else if FilePath.isAbsolute path then walk [] root (FilePath.pieces path)
  else .error .notFound

def isDir (root : FileTree) (path : String) : Bool :=
  match root.find path with
  | .ok (.dir _) => true
  | _ => false

def isFile (root : FileTree) (path : String) : Bool :=
  match root.find path with
  | .ok (.file _) => true
  | _ => false

/-- The text of the file at a path. -/
def readText (root : FileTree) (path : String) : Except OsError String := do
  match ← root.find path with
  | .dir _ => throw .isDirectory
  | .file none => throw .notText
  | .file (some text) => pure text

/-- The entries of the directory at a path. -/
def readDir (root : FileTree) (path : String) : Except OsError (List (String × FileTree)) := do
  match ← root.find path with
  | .file _ => throw .notDirectory
  | .dir entries => pure entries

/-- Put a node at the end of components, making directories on the way. A file in the way, or a
directory where a file is to be written, leaves everything as it was. -/
def put (node : FileTree) : List String → FileTree → FileTree
  | [], here =>
    match here, node with
    | .dir entries, .dir _ => .dir entries
    | .dir entries, .file _ => .dir entries
    | .file _, .file text => .file text
    | .file text, .dir _ => .file text
  | piece :: rest, .dir entries =>
    match Dict.find? entries piece with
    | some child => .dir (Dict.insert entries piece (put node rest child))
    | none =>
      let made := rest.foldr (fun name inner => .dir [(name, inner)]) node
      .dir (Dict.insert entries piece made)
  | _ :: _, .file text => .file text

/-- Remove what stands at the end of components. -/
def remove : List String → FileTree → FileTree
  | [], here => here
  | _, .file text => .file text
  | [piece], .dir entries => .dir (Dict.erase entries piece)
  | piece :: rest, .dir entries =>
    match Dict.find? entries piece with
    | some child => .dir (Dict.insert entries piece (remove rest child))
    | none => .dir entries

end FileTree

end DocStore
