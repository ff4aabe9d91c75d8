import DocStore.Bundle.Activation
import DocStore.Store.Subtree

/-!
# Errands

An errand is a transaction of its own: it asks to be admitted, does one thing, and ends. A reading
errand ends at once. A writing one then asks for the state of the store to itself and commits; when
what it does fails, it ends without an effect. It may have to wait in either place.
-/

namespace DocStore

/-- What an errand does. -/
inductive Plan
  | read (path : Path)
  | contents
  | roots
  | patch (op : PatchOp) (path : Path) (value : Value)
  | activate (bundles : List Bundle)
  | deactivate (names : List String)
  | ensure (path : Path)
  | replace (path : Path) (value : Value)
  | removeAll (paths : List Path)
  | register (listener : Listener)
  | unregister (handle : TriggerHandle)
deriving DecidableEq, Repr

/-- What comes of an errand. -/
inductive Outcome
  | done
  | value (v : Value)
  | contents (c : Contents)
  | roots (roots : Dict (List Path))
  | handle (h : TriggerHandle)
deriving DecidableEq, Repr

/-- Why an errand fails. -/
inductive Refusal
  | store (error : StoreError)
  | bundle (error : BundleError)
deriving DecidableEq, Repr

namespace Plan

/-- The errand changes something. -/
def isWrite : Plan → Bool
  | .read _ | .contents | .roots => false
  | _ => true

/-- A change of the transaction alone. -/
def edited (s : Store) (result : Except StoreError Transaction) :
    Except Refusal (Store × Transaction × Outcome) :=
  match result with
  | .ok t => .ok (s, t, .done)
  | .error e => .error (.store e)

/-- The same for bundles. -/
def bundled (s : Store) (result : Except BundleError Transaction) :
    Except Refusal (Store × Transaction × Outcome) :=
  match result with
  | .ok t => .ok (s, t, .done)
  | .error e => .error (.bundle e)

/-- Do the one thing inside a transaction. Triggers come and go with the store itself, everything
else changes the transaction. -/
def perform (s : Store) (t : Transaction) : Plan → Except Refusal (Store × Transaction × Outcome)
  | .read path =>
    match s.read t path with
    | .ok v => .ok (s, t, .value v)
    | .error e => .error (.store e)
  | .contents => .ok (s, t, .contents (s.view t))
  | .roots =>
    match s.read t Bundle.recordsPath with
    | .ok records => .ok (s, t, .roots (Bundle.rootsOf records))
    | .error e => .error (.store e)
  | .patch op path value => edited s (s.write t op path value)
  | .activate bundles => bundled s (Bundle.activateIn s t bundles)
  | .deactivate names => bundled s (Bundle.deactivateIn s t names)
  | .ensure path => edited s (s.ensure t path)
  | .replace path value => edited s (s.replace t path value)
  | .removeAll paths => edited s (s.removeAll t paths)
  | .register listener =>
    match s.register t listener with
    | .ok (s, handle) => .ok (s, t, .handle handle)
    | .error e => .error (.store e)
  | .unregister handle =>
    match s.unregister t handle with
    | .ok s => .ok (s, t, .done)
    | .error _ => .ok (s, t, .done)

end Plan

/-- Where an errand waits: to be admitted, or to commit what it did. -/
inductive ErrandStage
  | opening
  | closing (transaction : Transaction) (outcome : Outcome)
deriving DecidableEq, Repr

/-- An errand under way, at the store with the given place in the row of stores. -/
structure Errand where
  store : Nat
  ticket : Nat
  plan : Plan
  stage : ErrandStage
deriving DecidableEq, Repr

/-- How far an errand has come. -/
inductive Progress
  | waiting (errand : Errand)
  | finished (result : Except Refusal Outcome)

end DocStore
