import DocStore.Text.Pieces

/-!
# Rule references

A rule that reshapes fetched data is named `data.` and identifiers with dots between. The text and
the reference determine each other.
-/

namespace DocStore

/-- An identifier: letters, digits and underscores, no digit at its start. -/
def isIdentifier (name : List Char) : Bool :=
  match name with
  | [] => false
  | first :: rest => (first.isAlpha || first == '_') && rest.all fun c => c.isAlphanum || c == '_'

/-- A reference to a rule: the identifiers behind `data`. -/
structure RuleRef where
  segments : List String
  valid : segments ≠ [] ∧ ∀ s ∈ segments, isIdentifier s.toList = true
deriving DecidableEq

/-- Why a text names no rule, or why a rule cannot be prepared. -/
inductive RuleFault
  | noDataRoot
  | notIdentifiers
  | noEngine
  | undefined
  | other (reason : String)
deriving DecidableEq, Repr

def RuleFault.reason : RuleFault → String
  | .noDataRoot => "must start with \"data.\""
  | .notIdentifiers => "segments must be identifiers"
  | .noEngine => "no transform engine is attached"
  | .undefined => "rule is not defined"
  | .other reason => reason

namespace RuleRef

instance : Repr RuleRef := ⟨fun r n => reprPrec r.segments n⟩

/-- What every reference begins with. -/
def root : List Char := ['d', 'a', 't', 'a', '.']

/-- The text without the beginning `root`. -/
def afterRoot? (text : List Char) : Option (List Char) :=
  if root.isPrefixOf text then some (text.drop root.length) else none

/-- Read a reference. -/
def parse (text : String) : Except RuleFault RuleRef :=
  match afterRoot? text.toList with
  | none => .error .noDataRoot
  | some rest =>
    let segments := (Text.splitOn '.' rest).map String.ofList
    if valid : segments ≠ [] ∧ ∀ s ∈ segments, isIdentifier s.toList = true then
      .ok ⟨segments, valid⟩
    else .error .notIdentifiers

/-- The text of a reference. -/
def text (r : RuleRef) : String := "data." ++ ".".intercalate r.segments

example : (parse "data.a_1.b").toOption.map (·.segments) = some ["a_1", "b"] := by decide +kernel
example : (parse "data.1a").toOption = none := by decide +kernel

end RuleRef

end DocStore
