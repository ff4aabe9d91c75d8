import DocStore.Store.Basic

/-!
# Edits

The operations of a write transaction. One edit either fails and leaves the transaction as it was,
or changes the staged copy and adds to the list of changes. A row of edits stops at the first one
that fails and keeps what was done before it.

* A checked write is refused at or below a claimed path, whatever the transaction.
* `makeDir` counts as a change only when it made something.
* `clear` removes what stands at a path and is content with nothing there; `discard` is a checked
  removal that is content with nothing there.
* `dropPolicies` deletes every policy whose id starts with the given text.
-/

namespace DocStore

/-- One operation on the staged copy. -/
inductive Edit
  | write (op : PatchOp) (path : Path) (value : Value)
  | writeUnchecked (op : PatchOp) (path : Path) (value : Value)
  | makeDir (path : Path)
  | clear (path : Path)
  | discard (path : Path)
  | requireOwnerless (path : Path)
  | requireNoClaims
  | upsertPolicy (id : String) (text : String)
  | deletePolicy (id : String)
  | dropPolicies (start : String)
deriving DecidableEq, Repr

namespace Store

/-- A write transaction with another draft. -/
def withDraft (t : Transaction) (contents : Contents) (changes : Changes) : Transaction :=
  { t with mode := .write ⟨some contents, changes⟩ }

/-- Apply a patch, whoever owns the path. -/
def writeUnchecked (s : Store) (t : Transaction) (op : PatchOp) (path : Path) (value : Value) :
    Except StoreError Transaction := do
  let draft ← s.draftOf t .readOnly
  let before := s.view t
  let data ← Tree.apply before.data op path value
  let recorded := if op = .remove then .null else value
  pure (withDraft t { before with data } (draft.changes.addData ⟨path, op, recorded⟩))

/-- Apply a patch, unless the path is claimed. -/
def write (s : Store) (t : Transaction) (op : PatchOp) (path : Path) (value : Value) :
    Except StoreError Transaction := do
  s.checkOwner path
  s.writeUnchecked t op path value

/-- Make every prefix of a path an object. -/
def makeDir (s : Store) (t : Transaction) (path : Path) : Except StoreError Transaction := do
  let draft ← s.draftOf t .readOnly
  let before := s.view t
  let (data, made) ← Tree.makeDir before.data path
  let changes := if made then draft.changes.addData ⟨path, .add, .empty⟩ else draft.changes
  pure (withDraft t { before with data } changes)

/-- Remove what stands at a path, if anything does, unless the path is claimed. -/
def clear (s : Store) (t : Transaction) (path : Path) : Except StoreError Transaction :=
  match s.read t path with
  | .ok _ => s.write t .remove path .null
  | .error e => if e.isNotFound then .ok t else .error e

/-- Remove the value at a path, unless the path is claimed; nothing there is no failure. -/
def discard (s : Store) (t : Transaction) (path : Path) : Except StoreError Transaction :=
  match s.write t .remove path .null with
  | .ok changed => .ok changed
  | .error e => if e.isNotFound then .ok t else .error e

def upsertPolicy (s : Store) (t : Transaction) (id text : String) :
    Except StoreError Transaction := do
  let draft ← s.draftOf t .readOnly
  let before := s.view t
  pure (withDraft t { before with policies := before.policies.insert id text }
    (draft.changes.addPolicy ⟨id, false⟩))

def deletePolicy (s : Store) (t : Transaction) (id : String) :
    Except StoreError Transaction := do
  let draft ← s.draftOf t .readOnly
  let before := s.view t
  if before.policies.contains id then
    pure (withDraft t { before with policies := before.policies.erase id }
      (draft.changes.addPolicy ⟨id, true⟩))
  else throw (.policyNotFound id)

/-- Delete every policy whose id starts with `start`. -/
def dropPolicies (s : Store) (t : Transaction) (start : String) :
    Except StoreError Transaction := do
  let ids ← s.listPolicies t
  (ids.filter fun id => start.toList.isPrefixOf id.toList).foldlM (s.deletePolicy ·) t

/-- Nothing at all is claimed; the error names the first plugin that claims something. -/
def checkUnclaimed (s : Store) : Except StoreError Unit :=
  match s.claims with
  | [] => .ok ()
  | (plugin, _) :: _ => .error (.pathOwned plugin .root)

/-- Apply one edit. -/
def edit (s : Store) (t : Transaction) : Edit → Except StoreError Transaction
  | .write op path value => s.write t op path value
  | .writeUnchecked op path value => s.writeUnchecked t op path value
  | .makeDir path => s.makeDir t path
  | .clear path => s.clear t path
  | .discard path => s.discard t path
  | .requireOwnerless path => do
    s.checkOwner path
    pure t
  | .requireNoClaims => do
    s.checkUnclaimed
    pure t
  | .upsertPolicy id text => s.upsertPolicy t id text
  | .deletePolicy id => s.deletePolicy t id
  | .dropPolicies start => s.dropPolicies t start

/-- Apply edits in order up to the first that fails. -/
def editAll (s : Store) (t : Transaction) : List Edit → Transaction × Except StoreError Unit
  | [] => (t, .ok ())
  | e :: rest =>
    match s.edit t e with
    | .ok changed => s.editAll changed rest
    | .error err => (t, .error err)

end Store

end DocStore
