import DocStore.Dict

/-!
# Status

What components report about themselves, the latest report of each.
-/

namespace DocStore

/-- How a component is. -/
inductive Health
  | notReady
  | ok
  | error
deriving DecidableEq, Repr

namespace Health

def text : Health → String
  | .notReady => "not_ready"
  | .ok => "ok"
  | .error => "error"

def ofText? : String → Option Health
  | "not_ready" => some .notReady
  | "ok" => some .ok
  | "error" => some .error
  | _ => none

theorem ofText?_text (h : Health) : ofText? h.text = some h := by cases h <;> rfl

end Health

/-- What a component reports. -/
structure Status where
  health : Health
  message : Option String
deriving DecidableEq, Repr

/-- The latest report of each component. -/
abbrev StatusBoard := Dict Status

end DocStore
