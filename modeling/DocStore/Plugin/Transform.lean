import DocStore.Plugin.Error

/-!
# Transforms

An engine prepares rules into transforms, which reshape a fetched batch before it is stored. What a
rule does may be replaced at any time; a transform keeps what was in force when it was prepared.
Failures while a transform runs are reported under the name of its rule, unless they name a rule
already.

Results:
  * `Engine.prepare_define_self`: a rule that was just defined is prepared with that body;
  * `Engine.prepare_define_ne`: defining one rule leaves the others as they were.
-/

namespace DocStore

/-- What a rule does with its input. -/
abbrev RuleBody := Value → Except PluginError Value

/-- A prepared rule. -/
structure Transform where
  rule : String
  body : RuleBody

namespace Transform

/-- What a transform is given: the batch that comes in, and the value stored before. -/
def input (incoming previous : Value) : Value :=
  .object [("incoming", incoming), ("previous", previous)]

/-- Run a transform. -/
def eval (t : Transform) (input : Value) : Except PluginError Value :=
  (t.body input).mapError fun e =>
    match e with
    | .transform rule reason => .transform rule reason
    | e => .transform t.rule e.message

end Transform

/-- Prepares rules. It knows bodies by the texts of their references, and counts what it prepared;
without an engine no rule can be prepared. -/
inductive Engine
  | absent
  | rules (bodies : Dict RuleBody) (prepared : Nat)

namespace Engine

/-- An engine that knows no rule yet. -/
def empty : Engine := .rules [] 0

instance : Inhabited Engine := ⟨empty⟩

/-- Say what a rule does. -/
def define (e : Engine) (rule : String) (body : RuleBody) : Engine :=
  match e with
  | .absent => .absent
  | .rules bodies prepared => .rules (bodies.insert rule body) prepared

/-- How many transforms have been prepared. -/
def prepareCount? : Engine → Option Nat
  | .absent => none
  | .rules _ prepared => some prepared

/-- Prepare a rule. -/
def prepare (e : Engine) (rule : RuleRef) : Except PluginError (Engine × Transform) :=
  match e with
  | .absent => .error (.rule ⟨rule.text, .noEngine⟩)
  | .rules bodies prepared =>
    match bodies.find? rule.text with
    | none => .error (.rule ⟨rule.text, .undefined⟩)
    | some body => .ok (.rules bodies (prepared + 1), ⟨rule.text, body⟩)

theorem prepare_define_self (bodies : Dict RuleBody) (n : Nat) (rule : RuleRef) (body : RuleBody) :
    ((Engine.rules bodies n).define rule.text body).prepare rule
      = .ok (.rules (bodies.insert rule.text body) (n + 1), ⟨rule.text, body⟩) := by
  simp [define, prepare]

theorem prepare_define_ne (bodies : Dict RuleBody) (n : Nat) (rule : RuleRef) (other : String)
    (body : RuleBody) (ne : rule.text ≠ other) :
    (((Engine.rules bodies n).define other body).prepare rule).map (·.2)
      = ((Engine.rules bodies n).prepare rule).map (·.2) := by
  simp only [define, prepare, Dict.find?_insert_ne bodies body ne]
  cases bodies.find? rule.text <;> rfl

end Engine

/-! ## Bodies by name -/

namespace RuleBody

/-- The batch that comes in; null when there is none. -/
def incoming (input : Value) : Value := (input.field? "incoming").getD .null

/-- The value stored before; null when there is none. -/
def previous (input : Value) : Value := (input.field? "previous").getD .null

def wrap : RuleBody := fun input => .ok (.object [("v", incoming input)])

def wrapPrevious : RuleBody := fun input =>
  .ok (.object [("prev", previous input), ("w", incoming input)])

/-- The length of a list; of anything else, zero. -/
def count : RuleBody := fun input =>
  match incoming input with
  | .array items => .ok (.object [("count", .int items.length)])
  | _ => .ok (.object [("count", .int 0)])

/-- The greatest whole number with 64 bits and a sign. -/
def greatestSigned : Int := 9223372036854775807

/-- Lets whole numbers pass that are not negative. -/
def nonNegative : RuleBody := fun input =>
  match incoming input with
  | .int n =>
    if 0 ≤ n ∧ n ≤ greatestSigned then .ok (.int n) else .error (.transform "inner" "negative")
  | _ => .error (.transform "inner" "negative")

/-- The body that a name stands for. -/
def named? : String → Option RuleBody
  | "identity" => some fun input => .ok (incoming input)
  | "wrap" => some wrap
  | "wrap_prev" => some wrapPrevious
  | "count" => some count
  | "input" => some .ok
  | "nonneg" => some nonNegative
  | "fail_fetch" => some fun _ => .error (.fetch (.other "boom"))
  | "fail_rule" => some fun _ => .error (.rule ⟨"data.other", .other "odd"⟩)
  | _ => none

end RuleBody

end DocStore
