import DocStore.Json.Doc

/-!
# Records

A record with known fields is written as an object, whose other members do not count, or as a list
of its fields in order, whose tail may be missing. In a document no known field is written twice,
and the names of all members are texts.
-/

namespace DocStore.Json

/-- Items by position, missing ones at the end. -/
def positional {α : Type} : List String → List α → Option (List (Option α))
  | [], [] => some []
  | [], _ :: _ => none
  | _ :: names, [] => (positional names []).map (none :: ·)
  | _ :: names, item :: items => (positional names items).map (some item :: ·)

/-- The items written under a name. -/
def written {α : Type} (members : List (String × α)) (name : String) : List α :=
  members.filterMap fun member => if member.1 = name then some member.2 else none

/-- The known fields among members, none of them twice. -/
def named {α : Type} (members : List (String × α)) : List String → Option (List (Option α))
  | [] => some []
  | name :: names =>
    match written members name with
    | [] => (named members names).map (none :: ·)
    | [item] => (named members names).map (some item :: ·)
    | _ => none

/-- The fields of a record in a document. -/
def docRecord? (names : List String) : Doc → Option (List (Option Doc))
  | .object members => do
    let members ← members.mapM fun (name, item) => name.map (·, item)
    named members names
  | .array items => positional names items
  | _ => none

/-- The fields of a record in a value. -/
def valueRecord? (names : List String) : Value → Option (List (Option Value))
  | .object fields => named fields names
  | .array items => positional names items
  | _ => none

end DocStore.Json
