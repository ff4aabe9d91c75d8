import DocStore.Bundle.Error
import DocStore.Json.Doc
import DocStore.Json.Record

/-!
# Bundle manifests

A manifest names the revision of a bundle, the roots that the bundle owns, and free metadata. Roots
are written without a leading slash. A manifest without roots owns the whole tree, which is the
one root `""`.
-/

namespace DocStore

/-- What a manifest says; no roots at all means the whole tree. -/
structure Manifest where
  revision : String
  roots : Option (List String)
  metadata : Dict Value
deriving DecidableEq, Repr

namespace Manifest

/-- The manifest that declares nothing. -/
def empty : Manifest := ⟨"", none, []⟩

instance : Inhabited Manifest := ⟨empty⟩

/-- The declared roots, or the root of the tree when none are declared. -/
def effectiveRoots (m : Manifest) : List String := m.roots.getD [""]

/-- The effective roots as paths, or the error of the first that is none. -/
def rootPaths (m : Manifest) (bundle : String) : Except BundleError (List Path) :=
  m.effectiveRoots.mapM fun root =>
    (Path.parse root).mapError (.invalidRoot bundle root)

/-- The first pair of overlapping paths, earlier path first. -/
def firstOverlap? : List Path → Option (Path × Path)
  | [] => none
  | p :: rest =>
    match rest.find? p.overlaps with
    | some q => some (p, q)
    | none => firstOverlap? rest

/-- The roots are paths and no two of them overlap. -/
def validate (m : Manifest) (bundle : String) : Except BundleError Unit := do
  let roots ← m.rootPaths bundle
  match firstOverlap? roots with
  | some (p, q) => throw (.rootOverlap bundle p bundle q)
  | none => pure ()

/-! ## As a value -/

/-- The manifest as it is recorded: what says nothing is left out. -/
def toValue (m : Manifest) : Value :=
  let metadata := if m.metadata.isEmpty then [] else [("metadata", .object m.metadata)]
  let revision := if m.revision.isEmpty then [] else [("revision", .string m.revision)]
  let roots := match m.roots with
    | none => []
    | some roots => [("roots", .array (roots.map .string))]
  .object (metadata ++ revision ++ roots)

/-- The fields of a manifest in their order. -/
def fieldNames : List String := ["revision", "roots", "metadata"]

/-- Every item is a text. -/
def texts? (items : List Value) : Option (List String) :=
  items.mapM fun item =>
    match item with
    | .string s => some s
    | _ => none

/-- A revision is a text. -/
def revision? : Option Value → Option String
  | none => some ""
  | some (.string s) => some s
  | some _ => none

/-- Roots are a list of texts; null declares none. -/
def roots? : Option Value → Option (Option (List String))
  | none => some none
  | some .null => some none
  | some (.array items) => (texts? items).map some
  | some _ => none

/-- Metadata are an object. -/
def metadata? : Option Value → Option (Dict Value)
  | none => some []
  | some (.object entries) => some entries
  | some _ => none

/-- The manifest with the given fields; one that is left out has its default. -/
def ofFields? (fields : List (Option Value)) : Option Manifest := do
  let revision ← revision? (fields[0]?).join
  let roots ← roots? (fields[1]?).join
  let metadata ← metadata? (fields[2]?).join
  pure ⟨revision, roots, metadata⟩

/-- Read a recorded manifest. -/
def ofValue? (v : Value) : Option Manifest :=
  (Json.valueRecord? fieldNames v).bind ofFields?

/-- Read a manifest from a document. -/
def ofDoc? (doc : Json.Doc) : Option Manifest := do
  let fields ← Json.docRecord? fieldNames doc
  let values ← fields.mapM fun field =>
    match field with
    | none => some none
    | some item => (item.toValue? (Json.maxDepth - 1)).map some
  ofFields? values

end Manifest

end DocStore
