import DocStore.Path

/-!
# Store errors

Why the store refuses an operation, and the wording of each refusal.
-/

namespace DocStore

/-- Why a patch would break the shape of the tree. -/
inductive Conflict
  | removesRoot
  | rootNotObject
  | throughNonObject
  | occupied
deriving DecidableEq, Repr

def Conflict.reason : Conflict → String
  | .removesRoot => "the root cannot be removed"
  | .rootNotObject => "the root must be an object"
  | .throughNonObject => "cannot write through a non-object value"
  | .occupied => "a non-object value occupies this path"

/-- Why a transaction may not be used for an operation. -/
inductive Misuse
  | readOnly
  | registersReading
  | unregistersReading
  | foreignTrigger
  | foreign (transaction owner used : Nat)
deriving DecidableEq, Repr

def Misuse.reason : Misuse → String
  | .readOnly => "cannot write in a read transaction"
  | .registersReading => "trigger registration requires a write transaction"
  | .unregistersReading => "trigger removal requires a write transaction"
  | .foreignTrigger => "trigger handle belongs to another store"
  | .foreign transaction owner used =>
    s!"transaction {transaction} belongs to store {owner}, not store {used}"

/-- A refusal by the store. -/
inductive StoreError
  | notFound (path : Path)
  | invalidTransaction (misuse : Misuse)
  | writeConflict (path : Path) (conflict : Conflict)
  | pathOwned (plugin : String) (path : Path)
  | invalidPath (error : PathError)
  | policyNotFound (id : String)
deriving DecidableEq, Repr

namespace StoreError

def message : StoreError → String
  | .notFound path => "document not found at " ++ path.text
  | .invalidTransaction misuse => "invalid transaction: " ++ misuse.reason
  | .writeConflict path conflict => "write conflict at " ++ path.text ++ ": " ++ conflict.reason
  | .pathOwned plugin path =>
    "path " ++ path.text ++ " is owned by data plugin \"" ++ plugin ++ "\""
  | .invalidPath error => error.message
  | .policyNotFound id => "policy not found: " ++ id

/-- The error says that nothing is stored there. -/
def isNotFound : StoreError → Bool
  | .notFound _ => true
  | _ => false

end StoreError

end DocStore
