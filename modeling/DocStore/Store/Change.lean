import DocStore.Tree

/-!
# Contents and changes

What a store holds, and the list of changes that a transaction makes to it.
-/

namespace DocStore

/-- What a store holds: one document tree and the policy texts by id. -/
structure Contents where
  data : Value
  policies : Dict String
deriving DecidableEq, Repr

/-- No data and no policies. -/
def Contents.empty : Contents := ⟨.empty, []⟩

instance : Inhabited Contents := ⟨.empty⟩

/-- One change of the tree; a removal carries no value, which is kept as null. -/
structure DataChange where
  path : Path
  op : PatchOp
  value : Value
deriving DecidableEq, Repr

/-- One change of a policy. -/
structure PolicyChange where
  id : String
  removed : Bool
deriving DecidableEq, Repr

/-- What a transaction has changed, in the order of its operations. -/
structure Changes where
  data : List DataChange
  policy : List PolicyChange
deriving DecidableEq, Repr

namespace Changes

def none : Changes := ⟨[], []⟩

instance : Inhabited Changes := ⟨none⟩

def dataChanged (c : Changes) : Bool := !c.data.isEmpty

def policyChanged (c : Changes) : Bool := !c.policy.isEmpty

def isEmpty (c : Changes) : Bool := c.data.isEmpty && c.policy.isEmpty

def addData (c : Changes) (change : DataChange) : Changes :=
  { c with data := c.data ++ [change] }

def addPolicy (c : Changes) (change : PolicyChange) : Changes :=
  { c with policy := c.policy ++ [change] }

end Changes

/-- What a commit announces to the triggers: which transaction it was and what it changed. -/
structure Announcement where
  transaction : Nat
  changes : Changes
deriving DecidableEq, Repr

end DocStore
