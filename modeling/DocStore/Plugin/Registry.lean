import DocStore.Source.Feed
import DocStore.Source.File
import DocStore.Source.Http

/-!
# Kinds of sources

The `type` of a plugin entry names a kind of source. A kind knows how often it is polled unless an
entry says otherwise, how often at most, and which fields it needs. Files and documents on the web
are built in, and any other kind can be made known under a name that is not taken.
-/

namespace DocStore

/-- What a validated entry says about its source. -/
inductive SourceConfig
  | file (config : FileConfig)
  | http (config : HttpConfig)
  | feed (config : FeedConfig)
deriving DecidableEq, Repr

/-- A kind of source. -/
structure SourceKind where
  /-- The interval of an entry that gives none. -/
  defaultInterval : Duration
  /-- The least interval that an entry may give. -/
  leastInterval : Duration
  /-- Check the fields of an entry that belong to its kind. -/
  configure : Dict Value → Except PluginError SourceConfig

namespace SourceKind

/-- A kind that reads its fields by names. -/
def reading {α : Type} (defaultInterval leastInterval : Duration)
    (read : Dict Value → Except FieldError α) (make : α → SourceConfig) : SourceKind where
  defaultInterval
  leastInterval
  configure fields := ((read fields).map make).mapError .field

def file : SourceKind := reading (.ofSeconds 30) (.ofSeconds 1) FileConfig.ofFields .file

def http : SourceKind := reading (.ofSeconds 30) (.ofSeconds 10) HttpConfig.ofFields .http

def feed : SourceKind := reading (.ofSeconds 20) (.ofMillis 1500) FeedConfig.ofFields .feed

end SourceKind

/-- The known kinds by name. -/
abbrev Registry := Dict SourceKind

namespace Registry

def empty : Registry := []

def builtin : Registry := [("file", .file), ("http", .http)]

/-- Make a kind known under a new name. -/
def register (r : Registry) (name : String) (kind : SourceKind) : Except PluginError Registry :=
  if r.contains name then .error (.duplicateKind name) else .ok (r.insert name kind)

end Registry

end DocStore
