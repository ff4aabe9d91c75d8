import DocStore.Store.Error
import DocStore.Text.Digits
import DocStore.Value

/-!
# The document tree

Reading and changing a tree along a path. Every change either fails and has no result, or is
complete, so a failed patch leaves no half-applied tree behind.

* `Tree.get?` reads a place; items of a list are addressed by their decimal index.
* `Tree.apply` adds, replaces or removes one place below existing objects.
* `Tree.makeDir` makes every prefix of a path an object.
* `Tree.mergeInsert` puts a value at a path whatever stands in the way; objects are merged.
-/

namespace DocStore

/-- What a patch does to a place. -/
inductive PatchOp
  | add
  | replace
  | remove
deriving DecidableEq, Repr

namespace Tree

/-- The index that a segment stands for in a list. -/
def index? (segment : String) : Option Nat := Digits.word64? segment.toList

/-- The value that a list of segments leads to. -/
def at? : List String → Value → Option Value
  | [], v => some v
  | segment :: rest, .object fields =>
    match Dict.find? fields segment with
    | some child => at? rest child
    | none => none
  | segment :: rest, .array items =>
    match (index? segment).bind (items[·]?) with
    | some child => at? rest child
    | none => none
  | _ :: _, _ => none

/-- The value at a path. -/
def get? (root : Value) (path : Path) : Option Value := at? path.segments root

/-- Where a patch fails: nothing at the first `depth` segments, or no object there. -/
inductive Fault
  | missing (depth : Nat)
  | blocked (depth : Nat)
deriving DecidableEq, Repr

/-- Patch the place `key :: rest` below a value that is `depth` segments down. -/
def patchBelow (op : PatchOp) (new : Value) : (depth : Nat) → (key : String) →
    (rest : List String) → Value → Except Fault Value
  | depth, key, [], .object fields =>
    match op with
    | .add => .ok (.object (Dict.insert fields key new))
    | .replace =>
      if Dict.contains fields key then .ok (.object (Dict.insert fields key new))
      else .error (.missing (depth + 1))
    | .remove =>
      if Dict.contains fields key then .ok (.object (Dict.erase fields key))
      else .error (.missing (depth + 1))
  | depth, key, next :: rest, .object fields =>
    match Dict.find? fields key with
    | none => .error (.missing (depth + 1))
    | some child =>
      (patchBelow op new (depth + 1) next rest child).map fun changed =>
        .object (Dict.insert fields key changed)
  | depth, _, _, _ => .error (.blocked depth)

/-- The error of a fault on the way down a path. -/
def Fault.toError (path : Path) : Fault → StoreError
  | .missing depth => .notFound (path.take depth)
  | .blocked depth => .writeConflict (path.take depth) .throughNonObject

/-- Replace the whole tree. -/
def applyRoot (op : PatchOp) (new : Value) : Except StoreError Value :=
  match op with
  | .remove => .error (.writeConflict .root .removesRoot)
  | .add | .replace =>
    if new.isObject then .ok new else .error (.writeConflict .root .rootNotObject)

/-- Apply one patch. -/
def apply (root : Value) (op : PatchOp) (path : Path) (new : Value) : Except StoreError Value :=
  match path.segments with
  | [] => applyRoot op new
  | key :: rest => (patchBelow op new 0 key rest root).mapError (Fault.toError path)

/-- Objects nested along the segments, the last one empty. -/
def chain : List String → Value
  | [] => .empty
  | segment :: rest => .object [(segment, chain rest)]

/-- Make objects along the segments below a value that is `depth` segments down. Fails with the
depth of the first value in the way; says else whether anything was made. -/
def makeBelow : (depth : Nat) → List String → Value → Except Nat (Value × Bool)
  | _, [], .object fields => .ok (.object fields, false)
  | depth, segment :: rest, .object fields =>
    match Dict.find? fields segment with
    | none => .ok (.object (Dict.insert fields segment (chain rest)), true)
    | some child =>
      (makeBelow (depth + 1) rest child).map fun (changed, made) =>
        (.object (Dict.insert fields segment changed), made)
  | depth, _, _ => .error depth

/-- Make every prefix of a path an object. Says whether anything was made. -/
def makeDir (root : Value) (path : Path) : Except StoreError (Value × Bool) :=
  (makeBelow 0 path.segments root).mapError fun depth =>
    .writeConflict (path.take depth) .occupied

mutual

/-- Merge a value into another one: objects entry by entry, anything else replaces. -/
def merge (target : Value) : Value → Value
  | .object incoming =>
    match target with
    | .object existing => .object (mergeFields existing incoming)
    | _ => .object incoming
  | v => v

def mergeFields (existing : Dict Value) : List (String × Value) → Dict Value
  | [] => existing
  | (key, v) :: rest =>
    let merged := match Dict.find? existing key with
      | some old => merge old v
      | none => v
    mergeFields (Dict.insert existing key merged) rest

end

/-- Merge a value in at the segments; whatever is no object on the way becomes one. -/
def mergeAt (new : Value) : List String → Value → Value
  | [], target => merge target new
  | segment :: rest, target =>
    let fields := match target with
      | .object fields => fields
      | _ => []
    .object (Dict.insert fields segment
      (mergeAt new rest ((Dict.find? fields segment).getD .empty)))

/-- Merge a value in at a path. -/
def mergeInsert (root : Value) (path : Path) (new : Value) : Value :=
  mergeAt new path.segments root

end Tree

end DocStore
