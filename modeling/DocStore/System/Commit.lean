import DocStore.System.Basic

/-!
# Commits and errands in the system

A commit puts the staged contents in place, tells every trigger, in the order of registration, and
only then gives up its locks. The watch of a group marks prepared transforms stale when policies
changed, and then looks for roots of bundles that overlap the paths of its running plugins.
-/

namespace DocStore

/-! ## The watch of a group -/

namespace Group

/-- The message of each overlap of a plugin's path and a bundle's root. -/
def conflicts (active : Dict ActivePlugin) (bundles : Dict (List Path)) : List String :=
  active.flatMap fun (name, plugin) =>
    bundles.flatMap fun (bundle, roots) =>
      (roots.filter (·.overlaps plugin.path)).map fun root =>
        "data plugin \"" ++ name ++ "\" path " ++ plugin.path.text ++ " overlaps bundle \""
          ++ bundle ++ "\" root " ++ root.text

/-- Report overlaps, or that there are none any more. What is reported already stays as it is. -/
def check (g : Group) (bundles : Dict (List Path)) : Group :=
  match conflicts g.active bundles with
  | [] =>
    if g.overlap.isSome then { g with overlap := none, status := ⟨.ok, none⟩ } else g
  | found =>
    let message := "; ".intercalate found
    if g.overlap = some message then g
    else { g with overlap := some message, status := ⟨.error, some message⟩ }

end Group

namespace System

/-- Forget what was prepared for the running plugins of a group. -/
def markStale (sys : System) (g : Group) : System :=
  let stale := g.active.filterMap (·.2.slot)
  { sys with
    slots := sys.slots.mapIdx fun i slot =>
      if stale.contains i then { slot with prepared := none } else slot }

/-- Tell the watch of a group about a commit. -/
def watch (sys : System) (place : Nat) (d : Delivery) : System :=
  match sys.groups[place]? with
  | none => sys
  | some g =>
    let sys := if d.announcement.changes.policyChanged then sys.markStale g else sys
    sys.updateGroup place (·.check (Bundle.rootsIn d.contents.data))

/-- Tell a trigger about a commit. -/
def deliver (sys : System) (d : Delivery) : System :=
  match d.listener with
  | .probe .. => { sys with deliveries := sys.deliveries ++ [d] }
  | .overlapWatch group => sys.watch group d

/-- What the triggers of a store are told when a transaction has been put in place. -/
def deliveriesOf (place : Nat) (s : Store) (t : Transaction) : List Delivery :=
  s.triggers.map fun (_, listener) => ⟨place, listener, s.contents, ⟨t.id, t.changes⟩⟩

/-- Commit a write transaction that has the state of its store to itself. -/
def commit (sys : System) (place : Nat) (t : Transaction) : System :=
  let sys := sys.updateStore place (·.install t)
  -- Both locks are still held here, so the triggers see exactly what was committed.
  let sys := (deliveriesOf place (sys.storeAt place) t).foldl deliver sys
  sys.updateStore place (·.finishCommit t)

/-! ## Errands -/

/-- Carry out an admitted errand. A reading one ends with that; a writing one asks to commit. -/
def performErrand (sys : System) (e : Errand) : System × Progress :=
  let s := sys.storeAt e.store
  let (s, t) := if e.plan.isWrite then s.openWrite e.ticket else s.openRead e.ticket
  match e.plan.perform s t with
  | .error refusal => (sys.updateStore e.store fun _ => s.close t, .finished (.error refusal))
  | .ok (s, t, outcome) =>
    if e.plan.isWrite then
      let sys := sys.updateStore e.store fun _ => s.requestCommit e.ticket
      if (sys.storeAt e.store).state.isHeldBy e.ticket then
        (sys.commit e.store t, .finished (.ok outcome))
      else (sys, .waiting { e with stage := .closing t outcome })
    else (sys.updateStore e.store fun _ => s.close t, .finished (.ok outcome))

/-- Go on with an errand as far as possible. -/
def pollErrand (sys : System) (e : Errand) : System × Progress :=
  let s := sys.storeAt e.store
  match e.stage with
  | .opening =>
    let lock := if e.plan.isWrite then s.writer else s.state
    if lock.isHeldBy e.ticket then sys.performErrand e else (sys, .waiting e)
  | .closing t outcome =>
    if s.state.isHeldBy e.ticket then (sys.commit e.store t, .finished (.ok outcome))
    else (sys, .waiting e)

/-- Set out on an errand. -/
def beginErrand (sys : System) (place ticket : Nat) (plan : Plan) : System × Progress :=
  let request := if plan.isWrite then Store.requestWrite else Store.requestRead
  let sys := sys.updateStore place fun s => request s ticket
  sys.pollErrand ⟨place, ticket, plan, .opening⟩

end System

end DocStore
