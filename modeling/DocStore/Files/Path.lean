import DocStore.Text.Pieces

/-!
# File paths

A file path is kept as the text it was written as. Empty pieces and `.` between slashes do not
count as components; the extension of a file name is what follows its last dot, unless the name
starts there.
-/

namespace DocStore.FilePath

def isAbsolute (path : String) : Bool := path.toList.head? == some '/'

/-- `name` inside the directory `base`; an absolute `name` stands for itself. -/
def join (base name : String) : String :=
  if isAbsolute name || base.isEmpty then name
  else if base.toList.getLast? == some '/' then base ++ name
  else base ++ "/" ++ name

/-- The texts between the slashes. -/
def pieces (path : String) : List String :=
  (Text.splitOn '/' path.toList).map String.ofList

/-- A piece that does not count as a component. -/
def isFiller (piece : String) : Bool := piece.isEmpty || piece == "."

/-- The last component, unless it is `..`. -/
def fileName? (path : String) : Option String :=
  match (pieces path).reverse.dropWhile isFiller with
  | [] => none
  | name :: _ => if name = ".." then none else some name

/-- A file name cut at its last dot, which is not its first character. -/
def cutName (name : String) : String × Option String :=
  let reversed := name.toList.reverse
  let (extension, rest) := reversed.span (· != '.')
  match rest with
  | [] => (name, none)
  | _ :: [] => (name, none)
  | _ :: stem => (String.ofList stem.reverse, some (String.ofList extension.reverse))

/-- What follows the last dot of the file name. -/
def extension? (path : String) : Option String :=
  (fileName? path).bind fun name => (cutName name).2

/-- The file name without its extension. -/
def stem? (path : String) : Option String :=
  (fileName? path).map fun name => (cutName name).1

/-- The directory that a path lies in. -/
def parent? (path : String) : Option String :=
  match (pieces path).reverse.dropWhile isFiller with
  | [] => none
  | _ :: above =>
    let kept := (above.dropWhile isFiller).reverse
    let text := "/".intercalate kept
    some (if isAbsolute path && kept.all isFiller then "/" else text)

example : extension? "/d/a.b.json" = some "json" := by decide +kernel
example : extension? "/d/.json" = none := by decide +kernel
example : stem? "/d/z." = some "z" := by decide +kernel
example : parent? "/d/sub//c.json" = some "/d/sub" := by decide +kernel

end DocStore.FilePath
