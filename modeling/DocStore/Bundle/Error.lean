import DocStore.Files.Tree
import DocStore.Store.Error

/-!
# Bundle errors

Why a bundle cannot be loaded, validated, activated or deactivated.
-/

namespace DocStore

/-- Why a file of a bundle is no manifest or no data. The diagnosis of a reader is not part of
the message; `<parser>` stands for it. -/
inductive ParseFault
  | malformed
  | topLevel
  | path (error : PathError)
deriving DecidableEq, Repr

def ParseFault.reason : ParseFault → String
  | .malformed => "<parser>"
  | .topLevel => "top-level data must be an object"
  | .path error => error.message

/-- A refusal concerning bundles. -/
inductive BundleError
  | io (path : String) (error : OsError)
  | parse (path : String) (fault : ParseFault)
  | invalidRoot (bundle root : String) (error : PathError)
  | rootOverlap (first : String) (firstRoot : Path) (second : String) (secondRoot : Path)
  | outsideRoots (bundle : String) (path : Path)
  | notActive (name : String)
  | store (error : StoreError)
deriving DecidableEq, Repr

def BundleError.message : BundleError → String
  | .io path error => "I/O error at " ++ path ++ ": " ++ error.message
  | .parse path fault => "failed to parse " ++ path ++ ": " ++ fault.reason
  | .invalidRoot bundle root error =>
    "bundle '" ++ bundle ++ "' has an invalid root '" ++ root ++ "': " ++ error.message
  | .rootOverlap first firstRoot second secondRoot =>
    "bundle '" ++ first ++ "' root '" ++ firstRoot.text ++ "' overlaps bundle '" ++ second
      ++ "' root '" ++ secondRoot.text ++ "'"
  | .outsideRoots bundle path =>
    "bundle '" ++ bundle ++ "' has data at " ++ path.text ++ " outside its declared roots"
  | .notActive name => "bundle '" ++ name ++ "' is not active"
  | .store error => error.message

end DocStore
