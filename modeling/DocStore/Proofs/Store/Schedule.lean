import DocStore.System.Commit
import Mathlib.Logic.Function.Basic

/-!
# Schedules of transactions

All the orders in which transactions of one store can go about their work. Every party has a ticket.
It asks to be admitted, works in its transaction once its lock is held under the ticket, and ends
with a commit or an abort. Claims and triggers come and go in between.

A schedule also notes what its writers do, so that the same work can be done again by one writer
after the other: `serial` is what that comes to.
-/

namespace DocStore

/-- A row of edits, with the claims that stood when it was made. -/
structure Row where
  claims : Dict Path
  edits : List Edit
deriving DecidableEq, Repr

/-- How far the party with a ticket has come. `seen` is the number of writers that had committed when
it was admitted, and `work` what it has done since, first row first. -/
inductive Stage
  | absent
  | awaiting (write : Bool)
  | active (transaction : Transaction) (seen : Nat) (work : List Row)
  | committing (transaction : Transaction) (seen : Nat) (work : List Row)
deriving DecidableEq, Repr

/-- A store with the parties that use it, the work of the committed writers in the order of their
commits, and what the triggers were told. -/
structure Schedule where
  store : Store
  stages : Nat → Stage
  committed : List (List Row)
  told : List Delivery

/-! ## Serial execution -/

namespace Store

/-- The store with other claims. -/
def claimedAs (s : Store) (claims : Dict Path) : Store := { s with claims }

/-- The transaction after a row of edits, made under the claims of the row. -/
def makeRow (s : Store) (t : Transaction) (row : Row) : Transaction :=
  ((s.claimedAs row.claims).editAll t row.edits).1

/-- A store after a writer that is alone with it: it opens its transaction, does its work and
commits. -/
def carryOut (s : Store) (work : List Row) : Store :=
  let (s, t) := s.openWrite 0
  s.install (work.foldl s.makeRow t)

/-- The contents of a store after writers that come one after the other. -/
def serial (s : Store) (works : List (List Row)) : Contents := (works.foldl carryOut s).contents

/-- The answers to all questions of a transaction are those of the given contents. -/
structure Answers (s : Store) (t : Transaction) (c : Contents) : Prop where
  read : ∀ path, s.read t path = lookup c.data path
  ids : s.listPolicies t = .ok c.policies.keys
  text : ∀ id, s.getPolicy t id =
    match c.policies.find? id with
    | some text => .ok text
    | none => .error (.policyNotFound id)

end Store

/-! ## Steps -/

namespace Schedule

/-- Nobody uses the store. -/
def start (s : Store) : Schedule where
  store := { s with writer := .free, state := .free }
  stages := fun _ => .absent
  committed := []
  told := []

/-- Change the store. -/
def change (σ : Schedule) (s : Store) : Schedule := { σ with store := s }

/-- A party comes to a stage. -/
def move (σ : Schedule) (ticket : Nat) (stage : Stage) : Schedule :=
  { σ with stages := Function.update σ.stages ticket stage }

/-- A writer that has the state of the store to itself commits. -/
def commit (σ : Schedule) (ticket : Nat) (t : Transaction) (work : List Row) : Schedule :=
  let installed := σ.store.install t
  { store := installed.finishCommit t
    stages := Function.update σ.stages ticket .absent
    committed := σ.committed ++ [work]
    told := σ.told ++ System.deliveriesOf 0 installed t }

/-- One step of a schedule. -/
inductive Step (σ : Schedule) : Schedule → Prop
  | askRead (ticket : Nat) (absent : σ.stages ticket = .absent) :
      Step σ ((σ.change (σ.store.requestRead ticket)).move ticket (.awaiting false))
  | askWrite (ticket : Nat) (absent : σ.stages ticket = .absent) :
      Step σ ((σ.change (σ.store.requestWrite ticket)).move ticket (.awaiting true))
  | admitRead (ticket : Nat) (asked : σ.stages ticket = .awaiting false)
      (held : σ.store.state.isHeldBy ticket = true) :
      Step σ ((σ.change (σ.store.openRead ticket).1).move ticket
        (.active (σ.store.openRead ticket).2 σ.committed.length []))
  | admitWrite (ticket : Nat) (asked : σ.stages ticket = .awaiting true)
      (held : σ.store.writer.isHeldBy ticket = true) :
      Step σ ((σ.change (σ.store.openWrite ticket).1).move ticket
        (.active (σ.store.openWrite ticket).2 σ.committed.length []))
  | edit (ticket : Nat) {t : Transaction} {seen : Nat} {work : List Row}
      (active : σ.stages ticket = .active t seen work) (edits : List Edit) :
      Step σ (σ.move ticket
        (.active (σ.store.editAll t edits).1 seen (work ++ [⟨σ.store.claims, edits⟩])))
  | close (ticket : Nat) {t : Transaction} {seen : Nat} {work : List Row}
      (active : σ.stages ticket = .active t seen work) :
      Step σ ((σ.change (σ.store.close t)).move ticket .absent)
  | askCommit (ticket : Nat) {t : Transaction} {seen : Nat} {work : List Row}
      (active : σ.stages ticket = .active t seen work) (write : t.isWrite = true) :
      Step σ ((σ.change (σ.store.requestCommit ticket)).move ticket (.committing t seen work))
  | commit (ticket : Nat) {t : Transaction} {seen : Nat} {work : List Row}
      (committing : σ.stages ticket = .committing t seen work)
      (held : σ.store.state.isHeldBy ticket = true) : Step σ (σ.commit ticket t work)
  | claim (plugin : String) (path : Path) : Step σ (σ.change (σ.store.claim plugin path))
  | release (plugin : String) : Step σ (σ.change (σ.store.release plugin))
  | releaseAll : Step σ (σ.change σ.store.releaseAll)
  | register {ticket : Nat} {t : Transaction} {seen : Nat} {work : List Row} {listener : Listener}
      {s : Store} {handle : TriggerHandle} (active : σ.stages ticket = .active t seen work)
      (ok : σ.store.register t listener = .ok (s, handle)) : Step σ (σ.change s)
  | unregister {ticket : Nat} {t : Transaction} {seen : Nat} {work : List Row}
      {handle : TriggerHandle} {s : Store} (active : σ.stages ticket = .active t seen work)
      (ok : σ.store.unregister t handle = .ok s) : Step σ (σ.change s)

/-- The schedules that parties can come to, from a store that nobody uses. -/
inductive Reachable : Store → Schedule → Prop
  | start (s : Store) : Reachable s (start s)
  | step {s : Store} {σ τ : Schedule} (reached : Reachable s σ) (step : Step σ τ) : Reachable s τ

end Schedule

end DocStore
