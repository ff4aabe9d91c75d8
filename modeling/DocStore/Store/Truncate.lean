import DocStore.Store.Edit

/-!
# Bulk replacement of subtrees

The updates are merged into a scratch tree first. Then every base path of the live tree gets what
the scratch tree holds there, or is cleared when it holds nothing there. A root among the base
paths replaces the whole tree, which is refused while anything is claimed. The policies follow.
-/

namespace DocStore

/-- One item of a bulk load. -/
inductive Update
  | data (path : Path) (value : Value)
  | policy (id : String) (text : String)
deriving DecidableEq, Repr

namespace Truncate

/-- The scratch tree: all data updates merged in order. -/
def payload (updates : List Update) : Value :=
  updates.foldl
    (fun tree update =>
      match update with
      | .data path value => Tree.mergeInsert tree path value
      | .policy _ _ => tree)
    .empty

/-- The policy updates in order. -/
def policyEdits (updates : List Update) : List Edit :=
  updates.filterMap fun update =>
    match update with
    | .data _ _ => none
    | .policy id text => some (.upsertPolicy id text)

/-- Give a base path below the root what the scratch tree holds there. -/
def baseEdits (scratch : Value) (base : Path) : List Edit :=
  match Tree.get? scratch base with
  | none => [.clear base]
  | some value =>
    let above := match base.parent? with
      | some parent => [.makeDir parent]
      | none => []
    .requireOwnerless base :: above ++ [.writeUnchecked .add base value]

/-- The edits that replace the base paths by the updates. -/
def edits (bases : List Path) (updates : List Update) : List Edit :=
  let scratch := payload updates
  let data :=
    if bases.any Path.isRoot then [.requireNoClaims, .writeUnchecked .add .root scratch]
    else bases.flatMap (baseEdits scratch)
  data ++ policyEdits updates

end Truncate

end DocStore
