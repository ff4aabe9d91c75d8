import DocStore.Store.Edit

/-!
# Owned subtrees

What data plugins do to the places they own, each inside a write transaction: make sure that a
place exists, replace what stands there, and remove places that are given up.

* `ensure` leaves alone whatever stands at the path already.
* `replace` makes what is missing above the path.
* `removeAll` also removes every object above a removed place that was left empty by it, up to the
  root, which stays.
-/

namespace DocStore.Store

/-- Make sure that something stands at a path. -/
def ensure (s : Store) (t : Transaction) (path : Path) : Except StoreError Transaction :=
  match s.read t path with
  | .ok _ => .ok t
  | .error e => if e.isNotFound then s.makeDir t path else .error e

/-- Put a value at a path, whatever is missing above it. -/
def replace (s : Store) (t : Transaction) (path : Path) (value : Value) :
    Except StoreError Transaction := do
  let t ← match path.parent? with
    | some parent => s.makeDir t parent
    | none => pure t
  s.writeUnchecked t .add path value

/-- Remove the empty objects at the first `depth` segments of a path, and at fewer, up to the first
that is no empty object. -/
def prune (s : Store) (t : Transaction) (path : Path) :
    (depth : Nat) → Except StoreError Transaction
  | 0 => .ok t
  | depth + 1 =>
    let ancestor := path.take (depth + 1)
    match s.read t ancestor with
    | .ok (.object []) => do
      let t ← s.writeUnchecked t .remove ancestor .null
      s.prune t path depth
    | _ => .ok t

/-- Remove what stands at a path, if anything does, and the objects above that it leaves empty. -/
def removePruned (s : Store) (t : Transaction) (path : Path) : Except StoreError Transaction := do
  let t ← match s.writeUnchecked t .remove path .null with
    | .ok changed => pure changed
    | .error e => if e.isNotFound then pure t else throw e
  s.prune t path (path.length - 1)

/-- Remove what stands at each of the paths. -/
def removeAll (s : Store) (t : Transaction) (paths : List Path) : Except StoreError Transaction :=
  paths.foldlM (s.removePruned ·) t

end DocStore.Store
