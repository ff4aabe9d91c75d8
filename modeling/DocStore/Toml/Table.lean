import DocStore.Value

/-!
# Tables of a TOML document

A table grows while a document is read, and who may add to it depends on how it came about. A table
that was only passed on the way to another one is *implicit* and may still be opened by a header of
its own, once. A table made by dotted keys may only be continued by dotted keys. A header that
passes a list of tables means the last table of it.
-/

namespace DocStore.Toml

/-- How a table came about. -/
structure Origin where
  isImplicit : Bool
  isDotted : Bool
deriving DecidableEq, Repr

/-- Opened by a header of its own, or written in braces. -/
def Origin.header : Origin := ⟨false, false⟩

/-- Passed by a header on the way. -/
def Origin.passed : Origin := ⟨true, false⟩

/-- Made by a dotted key. -/
def Origin.dotted : Origin := ⟨true, true⟩

/-- What stands under a key: a value, a table, or a list of tables. -/
inductive Entry
  | value (v : Value)
  | table (origin : Origin) (entries : List (String × Entry))
  | tables (elements : List (List (String × Entry)))
deriving Repr, Inhabited

/-- The keys of a table with what stands under them. -/
abbrev Table := List (String × Entry)

mutual

/-- The value of what stands under a key. -/
def Entry.toValue : Entry → Value
  | .value v => v
  | .table _ entries => .object (fieldsOf entries)
  | .tables elements => .array (elementsOf elements)

def fieldsOf : List (String × Entry) → List (String × Value)
  | [] => []
  | (key, e) :: rest => (key, e.toValue) :: fieldsOf rest

def elementsOf : List (List (String × Entry)) → List Value
  | [] => []
  | entries :: rest => .object (fieldsOf entries) :: elementsOf rest

end

namespace Table

/-- Set a key that is still free. -/
def setHere (t : Table) (key : String) (v : Value) : Option Table :=
  if Dict.contains t key then none else some (Dict.insert t key (.value v))

/-- Set `key` in the table that dotted keys lead to. -/
def setAt (key : String) (v : Value) : List String → Table → Option Table
  | [], t => t.setHere key v
  | next :: rest, t =>
    match Dict.find? t next with
    | none => (setAt key v rest []).map fun inner => Dict.insert t next (.table .dotted inner)
    | some (.value _) => none
    | some (.table origin entries) =>
      -- A table with a header of its own is closed to dotted keys, and so is one that headers
      -- passed, unless the key goes on below it.
      if !origin.isImplicit || (rest.isEmpty && !origin.isDotted) then none
      else (setAt key v rest entries).map fun inner => Dict.insert t next (.table origin inner)
    | some (.tables elements) =>
      if rest.isEmpty then none
      else
        match elements.reverse with
        | [] => none
        | last :: before =>
          (setAt key v rest last).map fun inner =>
            Dict.insert t next (.tables (before.reverse ++ [inner]))

/-- Change the table that the keys of a header lead to; tables on the way are made. -/
def change (f : Table → Option Table) : List String → Table → Option Table
  | [], t => f t
  | next :: rest, t =>
    match Dict.find? t next with
    | none => (change f rest []).map fun inner => Dict.insert t next (.table .passed inner)
    | some (.value _) => none
    | some (.table origin entries) =>
      (change f rest entries).map fun inner => Dict.insert t next (.table origin inner)
    | some (.tables elements) =>
      match elements.reverse with
      | [] => none
      | last :: before =>
        (change f rest last).map fun inner =>
          Dict.insert t next (.tables (before.reverse ++ [inner]))

/-- Open the table `key` by a header. -/
def openTable (key : String) (t : Table) : Option Table :=
  match Dict.find? t key with
  | none => some (Dict.insert t key (.table .header []))
  | some (.table origin entries) =>
    if origin = .passed then some (Dict.insert t key (.table .header entries)) else none
  | some _ => none

/-- Open the next table of the list `key` by a header. -/
def openElement (key : String) (t : Table) : Option Table :=
  match Dict.find? t key with
  | none => some (Dict.insert t key (.tables [[]]))
  | some (.tables elements) => some (Dict.insert t key (.tables (elements ++ [[]])))
  | some _ => none

end Table

end DocStore.Toml
