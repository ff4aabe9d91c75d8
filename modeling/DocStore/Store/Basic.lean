import DocStore.Store.Change
import DocStore.Store.Lock

/-!
# The store

One document tree and a set of policy texts, changed in transactions. Any number of read
transactions may be open at once, and one write transaction.

* A write transaction holds the writer lock from its admission to its end. Its changes go to a
  staged copy, made when it first changes something, so nobody else sees them before the commit.
* A read transaction holds the state lock shared, so what it reads does not change under it.
* A commit takes the state lock exclusively, puts the staged copy in place, announces the changes
  to the triggers, and then gives up both locks.

Claimed paths belong to data plugins; a checked write at or below one is refused.
-/

namespace DocStore

/-- The private state of a write transaction. -/
structure Draft where
  staged : Option Contents
  changes : Changes
deriving DecidableEq, Repr

/-- What a transaction may do. -/
inductive Mode
  | read
  | write (draft : Draft)
deriving DecidableEq, Repr

/-- An open transaction of a store, with the ticket under which it holds its lock. -/
structure Transaction where
  id : Nat
  store : Nat
  ticket : Nat
  mode : Mode
deriving DecidableEq, Repr

namespace Transaction

def isWrite (t : Transaction) : Bool :=
  match t.mode with
  | .read => false
  | .write _ => true

/-- What the transaction has changed so far. -/
def changes (t : Transaction) : Changes :=
  match t.mode with
  | .read => .none
  | .write draft => draft.changes

def hasChanges (t : Transaction) : Bool := !t.changes.isEmpty

end Transaction

/-- Who is called on a commit: a named probe that looks at some paths, or the overlap watch of a
group of data plugins. -/
inductive Listener
  | probe (handle : String) (watched : List Path)
  | overlapWatch (group : Nat)
deriving DecidableEq, Repr

/-- Names a registered trigger. -/
structure TriggerHandle where
  store : Nat
  id : Nat
deriving DecidableEq, Repr

/-- A store. Its numbers for transactions and triggers count up from one; `writer` is held by the
open write transaction, `state` by readers and by a commit. -/
structure Store where
  id : Nat
  contents : Contents
  claims : Dict Path
  triggers : List (Nat × Listener)
  nextTransaction : Nat
  nextTrigger : Nat
  writer : FairLock
  state : FairLock
deriving DecidableEq, Repr

namespace Store

/-- A store with the given root object and nothing else. -/
def new (id : Nat) (data : Value) : Store :=
  { id, contents := ⟨data, []⟩, claims := [], triggers := []
    nextTransaction := 1, nextTrigger := 1, writer := .free, state := .free }

/-! ## Admission and end of transactions -/

/-- Ask to be admitted for reading. -/
def requestRead (s : Store) (ticket : Nat) : Store :=
  { s with state := s.state.request ticket .shared }

/-- Ask to be admitted for writing. -/
def requestWrite (s : Store) (ticket : Nat) : Store :=
  { s with writer := s.writer.request ticket .exclusive }

/-- The admitted reader's transaction. -/
def openRead (s : Store) (ticket : Nat) : Store × Transaction :=
  ({ s with nextTransaction := s.nextTransaction + 1 }, ⟨s.nextTransaction, s.id, ticket, .read⟩)

/-- The admitted writer's transaction. -/
def openWrite (s : Store) (ticket : Nat) : Store × Transaction :=
  ({ s with nextTransaction := s.nextTransaction + 1 },
    ⟨s.nextTransaction, s.id, ticket, .write ⟨none, .none⟩⟩)

/-- Ask for the state of the store to oneself, to commit. -/
def requestCommit (s : Store) (ticket : Nat) : Store :=
  { s with state := s.state.request ticket .exclusive }

/-- End a transaction without an effect, giving up the lock it holds. -/
def close (s : Store) (t : Transaction) : Store :=
  match t.mode with
  | .read => { s with state := s.state.release t.ticket }
  | .write _ => { s with writer := s.writer.release t.ticket }

/-- Put the staged copy of a write transaction in place. -/
def install (s : Store) (t : Transaction) : Store :=
  match t.mode with
  | .write { staged := some contents, .. } => { s with contents }
  | _ => s

/-- Give up both locks after a commit. -/
def finishCommit (s : Store) (t : Transaction) : Store :=
  { s with state := s.state.release t.ticket, writer := s.writer.release t.ticket }

/-! ## Reading -/

/-- The transaction belongs to this store. -/
def check (s : Store) (t : Transaction) : Except StoreError Unit :=
  if t.store = s.id then .ok ()
  else .error (.invalidTransaction (.foreign t.id t.store s.id))

/-- The draft of a write transaction of this store. -/
def draftOf (s : Store) (t : Transaction) (misuse : Misuse) : Except StoreError Draft := do
  s.check t
  match t.mode with
  | .read => throw (.invalidTransaction misuse)
  | .write draft => pure draft

/-- The contents as a transaction sees them: its own staged copy, or what is committed. -/
def view (s : Store) (t : Transaction) : Contents :=
  match t.mode with
  | .write { staged := some contents, .. } => contents
  | _ => s.contents

/-- The value at a path of a tree. -/
def lookup (data : Value) (path : Path) : Except StoreError Value :=
  match Tree.get? data path with
  | some v => .ok v
  | none => .error (.notFound path)

/-- Read the value at a path. -/
def read (s : Store) (t : Transaction) (path : Path) : Except StoreError Value := do
  s.check t
  lookup (s.view t).data path

/-- The ids of all policies, in order. -/
def listPolicies (s : Store) (t : Transaction) : Except StoreError (List String) := do
  s.check t
  pure (s.view t).policies.keys

/-- The text of a policy. -/
def getPolicy (s : Store) (t : Transaction) (id : String) : Except StoreError String := do
  s.check t
  match (s.view t).policies.find? id with
  | some text => pure text
  | none => throw (.policyNotFound id)

/-! ## Claims -/

/-- The first plugin whose claim is at or above a path. -/
def ownerOf? (s : Store) (path : Path) : Option (String × Path) :=
  List.find? (fun claim => path.hasPrefix claim.2) s.claims

/-- Nobody has claimed the path. -/
def checkOwner (s : Store) (path : Path) : Except StoreError Unit :=
  match s.ownerOf? path with
  | some (plugin, _) => .error (.pathOwned plugin path)
  | none => .ok ()

/-- Record that a plugin owns a path, in place of what it owned before. -/
def claim (s : Store) (plugin : String) (path : Path) : Store :=
  { s with claims := s.claims.insert plugin path }

/-- Drop the claim of a plugin. -/
def release (s : Store) (plugin : String) : Store :=
  { s with claims := s.claims.erase plugin }

def releaseAll (s : Store) : Store := { s with claims := [] }

/-! ## Triggers -/

/-- Register a trigger. It fires from now on, so also on the commit of this very transaction. -/
def register (s : Store) (t : Transaction) (listener : Listener) :
    Except StoreError (Store × TriggerHandle) := do
  let _ ← s.draftOf t .registersReading
  let added := { s with
    triggers := s.triggers ++ [(s.nextTrigger, listener)]
    nextTrigger := s.nextTrigger + 1 }
  pure (added, ⟨s.id, s.nextTrigger⟩)

/-- Remove a trigger. A handle that names none is ignored. -/
def unregister (s : Store) (t : Transaction) (handle : TriggerHandle) :
    Except StoreError Store := do
  let _ ← s.draftOf t .unregistersReading
  if handle.store ≠ s.id then throw (.invalidTransaction .foreignTrigger)
  pure { s with triggers := s.triggers.filter (·.1 ≠ handle.id) }

end Store

end DocStore
