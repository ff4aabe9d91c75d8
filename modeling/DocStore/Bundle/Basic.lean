import DocStore.Bundle.Manifest
import DocStore.Store.Truncate

/-!
# Bundles

A bundle carries data and policies under a name. All its data has to lie at or under the roots
that its manifest declares.
-/

namespace DocStore

/-- A bundle: its data, and its policies by file. -/
structure Bundle where
  name : String
  manifest : Manifest
  data : Dict Value
  policies : Dict String
deriving DecidableEq, Repr, Inhabited

namespace Bundle

mutual

/-- Nothing in `v`, which stands at `here`, lies outside the roots. Descends only while a root
lies deeper; the first place outside is the error. -/
def checkUnder (bundle : String) (roots : List Path) (here : Path) :
    Value → Except BundleError Unit
  | .object fields =>
    if roots.any here.hasPrefix then .ok ()
    else if roots.any (·.hasPrefix here) then checkFields bundle roots here fields
    else .error (.outsideRoots bundle here)
  | _ =>
    if roots.any here.hasPrefix then .ok () else .error (.outsideRoots bundle here)

def checkFields (bundle : String) (roots : List Path) (here : Path) :
    List (String × Value) → Except BundleError Unit
  | [] => .ok ()
  | (key, v) :: rest =>
    match here.child key with
    | .error e => .error (.store (.invalidPath e))
    | .ok below =>
      match checkUnder bundle roots below v with
      | .error e => .error e
      | .ok () => checkFields bundle roots here rest

end

/-- The roots are sound and all data lies under them. -/
def validate (b : Bundle) : Except BundleError Unit := do
  b.manifest.validate b.name
  let roots ← b.manifest.rootPaths b.name
  checkUnder b.name roots .root (.object b.data)

/-- The id under which a policy file of the bundle is stored. -/
def policyId (b : Bundle) (file : String) : String := b.name ++ "/" ++ file

/-- The data and the policies as updates. -/
def updates (b : Bundle) : List Update :=
  .data .root (.object b.data) ::
    b.policies.map fun (file, text) => .policy (b.policyId file) text

end Bundle

end DocStore
