import DocStore.Json.Reader
import DocStore.Plugin.Error
import DocStore.Text.Base64

/-!
# The web source

A document in JSON that a web server holds. The entity tag that came with the document reported
last is sent along as `if-none-match`, so the server can answer that nothing has changed. User name
and password of the address are sent as basic authorization.
-/

namespace DocStore

/-- What an entry says about a document on the web. -/
structure HttpConfig where
  url : Url
  headers : Dict String
  timeout : Duration
deriving DecidableEq, Repr

namespace HttpConfig

/-- The marks that a header name may hold besides letters and digits. -/
def tokenMarks : List Char :=
  ['!', '#', '$', '%', '&', '\'', '*', '+', '-', '.', '^', '_', '`', '|', '~']

/-- A character of a header name. -/
def isTokenChar (c : Char) : Bool := c.isAlphanum || tokenMarks.contains c

/-- How long a header name may be. -/
def maxNameLength : Nat := 65535

def isHeaderName (name : String) : Bool :=
  !name.isEmpty && name.length ≤ maxNameLength && name.toList.all isTokenChar

/-- A header value holds no control character but the tab. -/
def isHeaderValue (value : String) : Bool :=
  value.toList.all fun c => c == '\t' || (0x20 ≤ c.toNat && c.toNat != 0x7F)

/-- Add configured headers; their names count in lower case. -/
def addHeaders (headers : Dict String) : List (String × Value) → Except FieldFault (Dict String)
  | [] => .ok headers
  | (name, .string value) :: rest =>
    if !isHeaderName name then .error (.headerName name)
    else
      let name := name.toLower
      if !isHeaderValue value then .error (.headerValue name)
      else addHeaders (headers.insert name value) rest
  | (name, _) :: _ => .error (.headerNotString name)

/-- The address of a document on the web. -/
def webUrl : Option Value → Except FieldFault Url
  | some (.string text) =>
    match Url.parse text with
    | .error e => .error (.url e)
    | .ok (.web url) =>
      if url.scheme = "http" || url.scheme = "https" then .ok url
      else .error (.unsupportedScheme url.scheme)
    | .ok (.other scheme) => .error (.unsupportedScheme scheme)
  | some _ => .error .notString
  | none => .error .missing

/-- How long to wait when nothing else is said. -/
def defaultTimeout : Duration := .ofSeconds 10

/-- The configured headers. -/
def headersOf : Option Value → Except FieldError (Dict String)
  | none | some .null => .ok []
  | some (.object entries) => (addHeaders [] entries).mapError (FieldError.mk "headers")
  | some _ => .error ⟨"headers", .headersNotObject⟩

/-- How long to wait. -/
def timeoutOf : Option Value → Except FieldError Duration
  | none | some .null => .ok defaultTimeout
  | some v => (Duration.ofValue v).mapError fun e => ⟨"timeout", .duration e⟩

/-- Read the fields of a web source. -/
def ofFields (fields : Dict Value) : Except FieldError HttpConfig := do
  let url ← (webUrl (fields.find? "url")).mapError (FieldError.mk "url")
  let headers ← headersOf (fields.find? "headers")
  let timeout ← timeoutOf (fields.find? "timeout")
  pure ⟨url, headers, timeout⟩

end HttpConfig

/-! ## Requests and answers -/

/-- A request: what it names of the server, and its headers. -/
structure HttpRequest where
  target : String
  headers : Dict String
deriving DecidableEq, Repr

/-- The first line of a request. -/
def HttpRequest.line (r : HttpRequest) : String := "GET " ++ r.target ++ " HTTP/1.1"

/-- An answer, with the entity tag of the document if it comes with one. -/
structure HttpAnswer where
  status : Nat
  entityTag : Option String
  body : String
deriving DecidableEq, Repr

namespace HttpAnswer

/-- The standard reason phrases. -/
def reasons : List (Nat × String) := [
  (100, "Continue"), (101, "Switching Protocols"), (102, "Processing"),
  (200, "OK"), (201, "Created"), (202, "Accepted"), (203, "Non Authoritative Information"),
  (204, "No Content"), (205, "Reset Content"), (206, "Partial Content"), (207, "Multi-Status"),
  (208, "Already Reported"), (226, "IM Used"),
  (300, "Multiple Choices"), (301, "Moved Permanently"), (302, "Found"), (303, "See Other"),
  (304, "Not Modified"), (305, "Use Proxy"), (307, "Temporary Redirect"),
  (308, "Permanent Redirect"),
  (400, "Bad Request"), (401, "Unauthorized"), (402, "Payment Required"), (403, "Forbidden"),
  (404, "Not Found"), (405, "Method Not Allowed"), (406, "Not Acceptable"),
  (407, "Proxy Authentication Required"), (408, "Request Timeout"), (409, "Conflict"),
  (410, "Gone"), (411, "Length Required"), (412, "Precondition Failed"),
  (413, "Payload Too Large"), (414, "URI Too Long"), (415, "Unsupported Media Type"),
  (416, "Range Not Satisfiable"), (417, "Expectation Failed"), (418, "I'm a teapot"),
  (421, "Misdirected Request"), (422, "Unprocessable Entity"), (423, "Locked"),
  (424, "Failed Dependency"), (426, "Upgrade Required"), (428, "Precondition Required"),
  (429, "Too Many Requests"), (431, "Request Header Fields Too Large"),
  (451, "Unavailable For Legal Reasons"),
  (500, "Internal Server Error"), (501, "Not Implemented"), (502, "Bad Gateway"),
  (503, "Service Unavailable"), (504, "Gateway Timeout"), (505, "HTTP Version Not Supported"),
  (506, "Variant Also Negotiates"), (507, "Insufficient Storage"), (508, "Loop Detected"),
  (510, "Not Extended"), (511, "Network Authentication Required")]

/-- A status with its reason phrase. -/
def statusText (status : Nat) : String :=
  let reason := (reasons.lookup status).getD "<unknown status code>"
  s!"{status} {reason}"

/-- The body as it arrives; some statuses have none. -/
def received (a : HttpAnswer) : String :=
  if a.status = 204 || a.status < 200 then "" else a.body

end HttpAnswer

/-- A web source with the entity tag of the document that it reported last. -/
structure HttpSource where
  config : HttpConfig
  entityTag : Option String
deriving DecidableEq, Repr

namespace HttpSource

def new (config : HttpConfig) : HttpSource := ⟨config, none⟩

/-- The text that a percent-encoded part of an address stands for, if it is one. -/
def decoded? (text : String) : Option String := Host.percentDecode? text.toList

/-- The basic authorization that the address asks for. A password that is no text is left out. -/
def authorization? (url : Url) : Option String := do
  let username ← decoded? url.username
  let password := url.password.bind decoded?
  if username.isEmpty && password.isNone then none
  else
    let plain := username ++ ":" ++ password.getD ""
    pure ("Basic " ++ Base64.encode plain.toUTF8.toList)

/-- The next request: the configured headers, but for those that the source sends itself. -/
def request (s : HttpSource) : HttpRequest :=
  let headers := match authorization? s.config.url with
    | some value => s.config.headers.insert "authorization" value
    | none => s.config.headers
  let headers := match s.entityTag with
    | some tag => headers.insert "if-none-match" tag
    | none => headers
  ⟨s.config.url.target, headers⟩

/-- What an answer means: a batch, nothing new, or a failure. -/
def receive (s : HttpSource) (a : HttpAnswer) : HttpSource × Except PluginError (Option Value) :=
  if a.status = 304 then (s, .ok none)
  else if a.status < 200 || 300 ≤ a.status then
    (s, .error (.fetch (.unexpectedStatus s.config.url.text (HttpAnswer.statusText a.status))))
  else
    match Json.read? a.received with
    | none => (s, .error (.fetch (.malformedBody s.config.url.text)))
    | some body => ({ s with entityTag := a.entityTag }, .ok (some body))

/-- No server answers. -/
def unreachable (s : HttpSource) : PluginError := .fetch (.unreachable s.config.url.text)

end HttpSource

end DocStore
