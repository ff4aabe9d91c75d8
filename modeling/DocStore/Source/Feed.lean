import DocStore.Plugin.Error

/-!
# The feed source

A feed is a queue of items that are pushed from outside, and a fetch takes the first. An item can
hold a batch, make the fetch fail or break down, and delay it before that.
-/

namespace DocStore

/-- What a fetch comes to. -/
inductive FeedResult
  | batch (value : Value)
  | nothing
  | failure
  | breakdown
deriving DecidableEq, Repr

/-- What a fetch does: it takes a while, then comes to a result. -/
structure FeedItem where
  delay : Nat
  result : FeedResult
deriving DecidableEq, Repr

namespace FeedItem

/-- The fetch that finds nothing. -/
def nothing : FeedItem := ⟨0, .nothing⟩

/-- Read an item. -/
def ofValue (v : Value) : FeedItem :=
  let delay := match v.field? "delay" with
    | some (.int n) => n.toNat
    | _ => 0
  let result : FeedResult :=
    if (v.field? "fail").isSome then .failure
    else if (v.field? "panic").isSome then .breakdown
    else
      match v.field? "batch" with
      | some batch => .batch batch
      | none => .nothing
  ⟨delay, result⟩

end FeedItem

/-- A feed: what is still to be fetched, and how often it has been connected to and fetched from. -/
structure Feed where
  pending : List FeedItem
  sources : Nat
  fetches : Nat
deriving DecidableEq, Repr, Inhabited

namespace Feed

def empty : Feed := ⟨[], 0, 0⟩

def push (f : Feed) (items : List FeedItem) : Feed := { f with pending := f.pending ++ items }

def connect (f : Feed) : Feed := { f with sources := f.sources + 1 }

/-- Take the first item. -/
def fetch (f : Feed) : Feed × FeedItem :=
  match f.pending with
  | [] => ({ f with fetches := f.fetches + 1 }, .nothing)
  | item :: rest => ({ f with pending := rest, fetches := f.fetches + 1 }, item)

end Feed

/-- Which feed to take from. A broken one cannot be connected to. -/
structure FeedConfig where
  feed : String
  broken : Bool
deriving DecidableEq, Repr

/-- Read the fields of a feed source. -/
def FeedConfig.ofFields (fields : Dict Value) : Except FieldError FeedConfig :=
  match fields.find? "feed" with
  | some (.string feed) => .ok ⟨feed, (fields.find? "broken").isSome⟩
  | _ => .error ⟨"feed", .missing⟩

end DocStore
