import DocStore.Path
import DocStore.Plugin.Error
import DocStore.Value

/-!
# What values hold as texts

Paths and rule references stand in values as their texts. A value that is no text is none of them; a
text is refused for what is wrong with it.
-/

namespace DocStore

/-- Read what stands in a value as its text. What is no text is refused without a reason. -/
def Value.readText {α ε : Type} (read : String → Except ε α) : Value → Except (Option ε) α
  | .string text => (read text).mapError some
  | _ => .error none

theorem Value.readText_of_ok {α ε : Type} {read : String → Except ε α} {text : String} {a : α}
    (ok : read text = .ok a) : readText read (.string text) = .ok a := by
  show (read text).mapError some = .ok a
  rw [ok]
  rfl

namespace Path

/-- A path as a value. -/
def toValue (p : Path) : Value := .string p.text

/-- Read a path from a value. -/
def ofValue (v : Value) : Except (Option PathError) Path := v.readText parse

end Path

namespace RuleRef

/-- A rule reference as a value. -/
def toValue (r : RuleRef) : Value := .string r.text

/-- Read a rule reference from a value. An error quotes the text. -/
def ofValue (v : Value) : Except (Option RuleError) RuleRef :=
  v.readText fun text => (parse text).mapError fun fault => ⟨text, fault⟩

end RuleRef

end DocStore
