import DocStore.Duration.Human
import DocStore.Files.Tree
import DocStore.Plugin.Rule
import DocStore.Store.Error
import DocStore.Url.Basic

/-!
# Plugin errors

Why a configuration of data plugins is refused, why a plugin cannot start, and why a tick of it
fails, each with its wording.
-/

namespace DocStore

/-- Why a field of a source is refused. -/
inductive FieldFault
  | missing
  | notString
  | notNonEmptyString
  | unsupportedFormat (name : String)
  | url (error : UrlError)
  | unsupportedScheme (scheme : String)
  | headersNotObject
  | headerNotString (name : String)
  | headerName (name : String)
  | headerValue (name : String)
  | duration (error : DurationError)
deriving DecidableEq, Repr

def FieldFault.reason : FieldFault → String
  | .missing => "is required"
  | .notString => "must be a string"
  | .notNonEmptyString => "must be a non-empty string"
  | .unsupportedFormat name => "unsupported format \"" ++ name ++ "\""
  | .url error => error.message
  | .unsupportedScheme scheme => "unsupported scheme \"" ++ scheme ++ "\""
  | .headersNotObject => "must be an object of strings"
  | .headerNotString name => "value of \"" ++ name ++ "\" must be a string"
  | .headerName name => "\"" ++ name ++ "\": invalid HTTP header name"
  | .headerValue name => "\"" ++ name ++ "\": failed to parse header value"
  | .duration error => error.message

/-- A field of a source that is refused. -/
structure FieldError where
  field : String
  fault : FieldFault
deriving DecidableEq, Repr

def FieldError.message (e : FieldError) : String :=
  "field \"" ++ e.field ++ "\": " ++ e.fault.reason

/-- A rule that is refused. -/
structure RuleError where
  rule : String
  fault : RuleFault
deriving DecidableEq, Repr

def RuleError.message (e : RuleError) : String :=
  "transform rule \"" ++ e.rule ++ "\": " ++ e.fault.reason

/-- Why an entry of a configuration is refused. -/
inductive EntryFault
  | path (error : PathError)
  | notObject (value : Value)
  | typeNotString (value : Value)
  | typeMissing
  | interval (error : DurationError)
  | intervalTooShort (given least : Duration) (kind : String)
  | ruleNotString (value : Value)
  | rule (error : RuleError)
  /-- What the kind of the entry has to say about its other fields. -/
  | source (reason : String)
deriving DecidableEq, Repr

def EntryFault.reason : EntryFault → String
  | .path error => error.message
  | .notObject value => "expected an object, got " ++ value.kindName
  | .typeNotString value => "\"type\" must be a string, got " ++ value.kindName
  | .typeMissing => "\"type\" is required"
  | .interval error => "polling_interval: " ++ error.message
  | .intervalTooShort given least kind =>
    "polling_interval " ++ given.text ++ " is below the minimum " ++ least.text ++ " for type \""
      ++ kind ++ "\""
  | .ruleNotString value => "rego_transform must be a string, got " ++ value.kindName
  | .rule error => error.message
  | .source reason => reason

/-- Why a source has no batch, or cannot be set up at all. The diagnosis of a reader is not part of
the message; `<parser>` stands for it. -/
inductive FetchFault
  | malformedFile (path : String)
  | unreachable (url : String)
  | unexpectedStatus (url : String) (status : String)
  | malformedBody (url : String)
  | other (reason : String)
deriving DecidableEq, Repr

def FetchFault.reason : FetchFault → String
  | .malformedFile path => path ++ ": <parser>"
  | .unreachable url => "GET " ++ url ++ ": unreachable"
  | .unexpectedStatus url status => "GET " ++ url ++ ": unexpected status " ++ status
  | .malformedBody url => "GET " ++ url ++ ": invalid JSON body: <parser>"
  | .other reason => reason

/-- A refusal concerning data plugins. -/
inductive PluginError
  | malformed (value : Value)
  | pathOverlap (first second : String)
  | unknownKind (plugin kind : String)
  | duplicateKind (kind : String)
  | invalidEntry (plugin : String) (fault : EntryFault)
  | field (error : FieldError)
  | rule (error : RuleError)
  | transform (rule : String) (reason : String)
  | fetch (fault : FetchFault)
  | io (path : String) (error : OsError)
  | store (error : StoreError)
deriving DecidableEq, Repr

def PluginError.message : PluginError → String
  | .malformed value =>
    "malformed data plugin configuration: expected an object of plugin entries, got "
      ++ value.kindName
  | .pathOverlap first second =>
    "data plugin paths overlap: \"" ++ first ++ "\" and \"" ++ second ++ "\""
  | .unknownKind plugin kind =>
    "data plugin \"" ++ plugin ++ "\" has unknown type \"" ++ kind ++ "\""
  | .duplicateKind kind =>
    "a data source factory for type \"" ++ kind ++ "\" is already registered"
  | .invalidEntry plugin fault =>
    "invalid configuration for data plugin \"" ++ plugin ++ "\": " ++ fault.reason
  | .field error => error.message
  | .rule error => error.message
  | .transform name reason => "transform " ++ name ++ " failed: " ++ reason
  | .fetch fault => "fetch failed: " ++ fault.reason
  | .io path error => "I/O error at " ++ path ++ ": " ++ error.message
  | .store error => error.message

end DocStore
