import DocStore.Bundle.Basic
import DocStore.Files.Format

/-!
# Bundles on disk

A bundle is a directory with a `.manifest` in JSON. `data.json`, `data.yaml` and `data.yml` hold
data for the place that their directory stands for; files with the extension `rego` are policies.
Directories are read in the order of their names, so where two files speak of one place the later
one is merged over the earlier one. Names that begin with a dot are passed over.

Whether an entry is a directory is found out by looking it up. Where that fails the entry is taken for a
file, and a file that has no part in a bundle is passed over without a word.
-/

namespace DocStore.Bundle

/-- What a file of a bundle is, by its name. -/
inductive FileRole
  | data (format : Format)
  | policy
  | other
deriving DecidableEq, Repr

def FileRole.ofName (name : String) : FileRole :=
  if name = "data.json" then .data .json
  else if name = "data.yaml" || name = "data.yml" then .data .yaml
  else if FilePath.extension? name = some "rego" then .policy
  else .other

/-- What has been read of a bundle. -/
structure Collected where
  data : Value
  policies : Dict String
deriving Repr

/-- The text of the file at `path`. -/
def textOf (files : FileTree) (path : String) : Except BundleError String :=
  (files.readText path).mapError (.io path)

/-- Merge the data of a file in at the place of its directory. -/
def addData (place : List String) (path : String) (v : Value) (c : Collected) :
    Except BundleError Collected := do
  let at_ ← (Path.new place).mapError fun e => .parse path (.path e)
  if at_.isRoot && !v.isObject then throw (.parse path .topLevel)
  pure { c with data := Tree.mergeInsert c.data at_ v }

/-- Add what stands at `path` and is called `name` as a file. -/
def addFile (files : FileTree) (place : List String) (path name : String) (c : Collected) :
    Except BundleError Collected := do
  match FileRole.ofName name with
  | .data format =>
    let text ← textOf files path
    match format.read? text with
    | some v => addData place path v c
    | none => throw (.parse path .malformed)
  | .policy =>
    let text ← textOf files path
    let id := "/".intercalate (place ++ [name])
    pure { c with policies := c.policies.insert id text }
  | .other => pure c

mutual

/-- Add the entry of a directory that stands at `path` and is called `name`. -/
def collect (files : FileTree) (place : List String) (path name : String) :
    FileTree → Collected → Except BundleError Collected
  | .dir entries, c =>
    if files.isDir path then collectEntries files (place ++ [name]) path entries c
    else addFile files place path name c
  | .file _, c => addFile files place path name c

/-- Add the entries of the directory at `path`. -/
def collectEntries (files : FileTree) (place : List String) (path : String) :
    List (String × FileTree) → Collected → Except BundleError Collected
  | [], c => .ok c
  | (name, node) :: rest, c =>
    if name.toList.head? = some '.' then collectEntries files place path rest c
    else
      match collect files place (FilePath.join path name) name node c with
      | .ok c => collectEntries files place path rest c
      | .error e => .error e

end

/-- The manifest of the bundle in a directory; without a file for it, the one that says nothing. -/
def loadManifest (files : FileTree) (dir : String) : Except BundleError Manifest := do
  let path := FilePath.join dir ".manifest"
  if files.isFile path then
    let text ← textOf files path
    match (Json.Doc.read text).bind Manifest.ofDoc? with
    | some manifest => pure manifest
    | none => throw (.parse path .malformed)
  else pure .empty

/-- Load the bundle in a directory. -/
def load (files : FileTree) (name dir : String) : Except BundleError Bundle := do
  let manifest ← loadManifest files dir
  let entries ← (files.readDir dir).mapError (.io dir)
  let c ← collectEntries files [] dir entries ⟨.empty, []⟩
  let data := match c.data with
    | .object fields => fields
    | _ => []
  pure ⟨name, manifest, data, c.policies⟩

end DocStore.Bundle
