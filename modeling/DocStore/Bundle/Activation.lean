import DocStore.Bundle.Basic

/-!
# Activation of bundles

Activating bundles is the work of one write transaction: drop the policies of their earlier
revisions, replace their roots by their data and policies, and record each manifest at
`/system/bundles/<name>/manifest`. The recorded manifests are how the roots of active bundles are
found again: by deactivation, and by whoever watches for overlaps.
-/

namespace DocStore.Bundle

/-- Where manifests are recorded. -/
def recordsPath : Path := ⟨["system", "bundles"], by decide⟩

/-- Where the manifest of a bundle is recorded. -/
def manifestPath (name : String) : Except BundleError Path :=
  (Path.new ["system", "bundles", name, "manifest"]).mapError fun e => .store (.invalidPath e)

/-- Where everything recorded about a bundle stands. -/
def recordPath (name : String) : Except BundleError Path :=
  (recordsPath.child name).mapError fun e => .store (.invalidPath e)

/-! ## Sets of bundles -/

/-- Add the roots of a bundle to those seen, unless one of them overlaps one seen before. -/
def addRoots (bundle : String) : List (String × Path) → List Path →
    Except BundleError (List (String × Path))
  | seen, [] => .ok seen
  | seen, root :: rest =>
    match seen.find? fun entry => entry.2.overlaps root with
    | some (other, otherRoot) => .error (.rootOverlap other otherRoot bundle root)
    | none => addRoots bundle (seen ++ [(bundle, root)]) rest

def validateFrom (seen : List (String × Path)) : List Bundle → Except BundleError Unit
  | [] => .ok ()
  | b :: rest => do
    b.validate
    let roots ← b.manifest.rootPaths b.name
    let seen ← addRoots b.name seen roots
    validateFrom seen rest

/-- Every bundle is valid and no two roots overlap. -/
def validateSet (bundles : List Bundle) : Except BundleError Unit := validateFrom [] bundles

/-- An activation: the bundles are looked at as a set before anything is set out on. -/
def activate {α : Type} (bundles : List Bundle) (setOut : List Bundle → Except BundleError α) :
    Except BundleError α := do
  validateSet bundles
  setOut bundles

/-- An activation succeeds for a valid set, if what it sets out on does. -/
theorem activate_eq_ok_iff {α : Type} {bundles : List Bundle}
    {setOut : List Bundle → Except BundleError α} {a : α} :
    activate bundles setOut = .ok a ↔ validateSet bundles = .ok () ∧ setOut bundles = .ok a := by
  unfold activate
  cases validateSet bundles with
  | ok _ => exact (and_iff_right rfl).symm
  | error e => exact iff_of_false (fun never => by cases never) fun never => by cases never.1

/-! ## Inside a write transaction -/

/-- The ids of a bundle's policies start with this. -/
def policyStart (name : String) : String := name ++ "/"

/-- The roots of all bundles. -/
def allRoots (bundles : List Bundle) : Except BundleError (List Path) := do
  let roots ← bundles.mapM fun b => b.manifest.rootPaths b.name
  pure roots.flatten

/-- Edits of a store, as a step of bundle work. -/
def applyEdits (s : Store) (t : Transaction) (edits : List Edit) :
    Except BundleError Transaction :=
  match s.editAll t edits with
  | (changed, .ok ()) => .ok changed
  | (_, .error e) => .error (.store e)

/-- Record the manifests. -/
def recordManifests (s : Store) (t : Transaction) : List Bundle → Except BundleError Transaction
  | [] => .ok t
  | b :: rest => do
    let path ← manifestPath b.name
    let above := match path.parent? with
      | some parent => [.makeDir parent]
      | none => []
    let t ← applyEdits s t (above ++ [.write .add path b.manifest.toValue])
    recordManifests s t rest

/-- Put the bundles into the staged copy of a write transaction. -/
def activateIn (s : Store) (t : Transaction) (bundles : List Bundle) :
    Except BundleError Transaction := do
  let t ← applyEdits s t (bundles.map fun b => .dropPolicies (policyStart b.name))
  let roots ← allRoots bundles
  let t ← applyEdits s t (Truncate.edits roots (bundles.flatMap updates))
  recordManifests s t bundles

/-- The roots recorded for a bundle that is active in the transaction's view. -/
def recordedRoots (s : Store) (t : Transaction) (name : String) :
    Except BundleError (List Path) := do
  let path ← manifestPath name
  match s.read t path with
  | .error e => throw (if e.isNotFound then .notActive name else .store e)
  | .ok raw =>
    match Manifest.ofValue? raw with
    | none => throw (.parse path.text .malformed)
    | some manifest => manifest.rootPaths name

/-- Collect the recorded roots of bundles and drop their policies, one bundle after the other. -/
def dismantle (s : Store) (t : Transaction) (roots : List Path) :
    List String → Except BundleError (Transaction × List Path)
  | [] => .ok (t, roots)
  | name :: rest => do
    let found ← recordedRoots s t name
    let t ← applyEdits s t [.dropPolicies (policyStart name)]
    dismantle s t (roots ++ found) rest

/-- Remove what is recorded about bundles. -/
def dropRecords (s : Store) (t : Transaction) : List String → Except BundleError Transaction
  | [] => .ok t
  | name :: rest => do
    let path ← recordPath name
    let t ← applyEdits s t [.discard path]
    dropRecords s t rest

/-- Take the named bundles out of the staged copy of a write transaction. -/
def deactivateIn (s : Store) (t : Transaction) (names : List String) :
    Except BundleError Transaction := do
  let (t, roots) ← dismantle s t [] names
  let t ← applyEdits s t (Truncate.edits roots [])
  dropRecords s t names

/-! ## Recorded roots -/

/-- The roots of one recorded bundle; nothing when its manifest cannot be read. -/
def entryRoots? (name : String) (entry : Value) : Option (List Path) := do
  let raw ← entry.field? "manifest"
  let manifest ← Manifest.ofValue? raw
  match manifest.rootPaths name with
  | .ok roots => some roots
  | .error _ => none

/-- The roots by bundle, from the value recorded for all bundles. Entries that cannot be read are
skipped. -/
def rootsOf (records : Value) : Dict (List Path) :=
  match records with
  | .object entries =>
    entries.filterMap fun (name, entry) => (entryRoots? name entry).map fun roots => (name, roots)
  | _ => []

/-- The roots of all bundles recorded in a tree. -/
def rootsIn (data : Value) : Dict (List Path) :=
  match Tree.get? data recordsPath with
  | some records => rootsOf records
  | none => []

end DocStore.Bundle
