import DocStore.Url.Host

/-!
# Web addresses

Addresses are read as the URL standard says, without a base. Blanks and control characters at the
ends do not count, nor do tabs and line ends anywhere. For `http` and `https` a backslash is a
slash and any number of slashes may stand before the host. Of other addresses only the scheme is
kept, once they are known to be sound.
-/

namespace DocStore

/-- A web address. The parts are kept as they are written out again. -/
structure Url where
  scheme : String
  username : String
  password : Option String
  host : Host
  port : Option Nat
  path : List String
  query : Option String
  fragment : Option String
deriving DecidableEq, Repr, Inhabited

namespace Url

/-! ## Sets of characters that are percent-encoded -/

def fragmentSet : List Char := [' ', '"', '<', '>', '`']

def querySet : List Char := [' ', '"', '#', '<', '>', '\'']

def pathSet : List Char := fragmentSet ++ ['#', '?', '\x7b', '\x7d']

def userSet : List Char := pathSet ++ ['/', ':', ';', '=', '@', '[', '\\', ']', '^', '|']

/-! ## Pieces of the text -/

/-- Blanks and control characters. -/
def isEdge (c : Char) : Bool := c.toNat ≤ 0x20

def isTabOrLineEnd (c : Char) : Bool := c == '\t' || c == '\n' || c == '\r'

/-- The characters that count. -/
def clean (text : List Char) : List Char :=
  let trimmed := ((text.dropWhile isEdge).reverse.dropWhile isEdge).reverse
  trimmed.filter fun c => !isTabOrLineEnd c

def isSchemeChar (c : Char) : Bool := c.isAlphanum || c == '+' || c == '-' || c == '.'

/-- The scheme in lower case, and what follows the colon. -/
def cutScheme? (text : List Char) : Option (String × List Char) :=
  match text with
  | [] => none
  | first :: _ =>
    if first.isAlpha then
      match text.span isSchemeChar with
      | (scheme, ':' :: rest) => some (String.ofList (scheme.map Char.toLower), rest)
      | _ => none
    else none

/-- The port that a scheme has by itself. -/
def defaultPort? : String → Option Nat
  | "http" | "ws" => some 80
  | "https" | "wss" => some 443
  | "ftp" => some 21
  | _ => none

/-- Schemes whose addresses need a host. -/
def needsHost (scheme : String) : Bool := (defaultPort? scheme).isSome

def isSlash (special : Bool) (c : Char) : Bool := c == '/' || (special && c == '\\')

/-- The end of the part with user and host. -/
def endsAuthority (special : Bool) (c : Char) : Bool :=
  isSlash special c || c == '?' || c == '#'

/-! ## User, host and port -/

/-- The part before the last `@`, if there is one, and the part after it. -/
def cutUser (authority : List Char) : Option (List Char) × List Char :=
  let (host, before) := authority.reverse.span (· != '@')
  match before with
  | [] => (none, authority)
  | _ :: user => (some user.reverse, host.reverse)

/-- User name and password, encoded. An empty password is none. -/
def readUser (user : List Char) : String × Option String :=
  let (name, rest) := user.span (· != ':')
  let encode (text : List Char) := String.ofList (Host.percentEncode userSet text)
  match rest with
  | [] => (encode name, none)
  | _ :: [] => (encode name, none)
  | _ :: password => (encode name, some (encode password))

/-- The host and what follows it, from the colon before the port on. -/
def cutHost (inBrackets : Bool) : List Char → List Char × List Char
  | [] => ([], [])
  | c :: rest =>
    if c = ':' && !inBrackets then ([], c :: rest)
    else
      let inBrackets := if c = '[' then true else if c = ']' then false else inBrackets
      let (host, after) := cutHost inBrackets rest
      (c :: host, after)

/-- The port after the host; none when it is left out or the scheme's own. A backslash ends it. -/
def readPort (scheme : String) : List Char → Except UrlError (Option Nat)
  | [] => .ok none
  | _ :: rest =>
    let digits := rest.takeWhile (· != '\\')
    if digits.isEmpty then .ok none
    else
      match Digits.number? 10 digits with
      | none => .error .invalidPort
      | some port =>
        if 65535 < port then .error .invalidPort
        else .ok (if defaultPort? scheme = some port then none else some port)

/-- User, host and port; `after` is what follows them. Where there is a user, there is a host. -/
def readAuthority (scheme : String) (authority after : List Char) :
    Except UrlError ((String × Option String) × Host × Option Nat) := do
  let special := needsHost scheme
  let (user, hostPort) := cutUser authority
  if user = some [] && hostPort.isEmpty && !after.isEmpty then throw .emptyHost
  let (hostText, portText) := cutHost false hostPort
  if special && hostText.isEmpty then throw .emptyHost
  let host ← if special then Host.parse hostText else Host.parseOpaque hostText
  if hostText.isEmpty && !portText.isEmpty then throw .emptyHost
  let port ← readPort scheme portText
  let user := readUser (user.getD [])
  if hostText.isEmpty && user ≠ ("", none) then throw .emptyHost
  pure (user, host, port)

/-! ## Path, query and fragment -/

/-- Cut before the first character that `stop` accepts. -/
def cutBefore (stop : Char → Bool) (text : List Char) : List Char × List Char :=
  text.span fun c => !stop c

/-- A segment that stands for the place itself. -/
def isSingleDot (segment : List Char) : Bool :=
  [".", "%2e"].contains (String.ofList (segment.map Char.toLower))

/-- A segment that stands for the place above. -/
def isDoubleDot (segment : List Char) : Bool :=
  ["..", ".%2e", "%2e.", "%2e%2e"].contains (String.ofList (segment.map Char.toLower))

/-- Follow the segments of a path; `done` holds those kept, last first. -/
def followPath (done : List String) : List (List Char) → List String
  | [] => done.reverse
  | segment :: rest =>
    let last := rest.isEmpty
    if isDoubleDot segment then
      followPath (if last then "" :: done.drop 1 else done.drop 1) rest
    else if isSingleDot segment then
      followPath (if last then "" :: done else done) rest
    else followPath (String.ofList (Host.percentEncode pathSet segment) :: done) rest

/-- The segments of a path. -/
def readPath (text : List Char) : List String :=
  let slashes := text.map fun c => if c = '\\' then '/' else c
  let inner := match slashes with
    | '/' :: rest => rest
    | _ => slashes
  followPath [] (Text.splitOn '/' inner)

/-! ## Addresses -/

/-- What a sound address is: one of the web, or one of another scheme. -/
inductive Parsed
  | web (url : Url)
  | other (scheme : String)
deriving DecidableEq, Repr

def Parsed.scheme : Parsed → String
  | .web url => url.scheme
  | .other scheme => scheme

/-- Read what follows the scheme and the slashes of an address with a host. -/
def readHosted (scheme : String) (text : List Char) : Except UrlError Url := do
  let special := needsHost scheme
  let (authority, rest) := cutBefore (endsAuthority special) text
  let ((username, password), host, port) ← readAuthority scheme authority rest
  let (path, rest) := cutBefore (fun c => c == '?' || c == '#') rest
  let (query, rest) := match rest with
    | '?' :: rest =>
      let (query, rest) := cutBefore (· == '#') rest
      (some (String.ofList (Host.percentEncode querySet query)), rest)
    | _ => (none, rest)
  let fragment := match rest with
    | '#' :: rest => some (String.ofList (Host.percentEncode fragmentSet rest))
    | _ => none
  pure { scheme, username, password, host, port, path := readPath path, query, fragment }

/-- A drive letter stands where a host would. -/
def isDrive : List Char → Bool
  | [letter, mark] => letter.isAlpha && (mark == ':' || mark == '|')
  | _ => false

/-- The host of a file address is sound. -/
def checkFile (text : List Char) : Except UrlError Unit :=
  match text with
  | a :: b :: rest =>
    if isSlash true a && isSlash true b then
      let (host, _) := cutBefore (endsAuthority true) rest
      if host.isEmpty || isDrive host then .ok () else (Host.parse host).map fun _ => ()
    else .ok ()
  | _ => .ok ()

/-- Read an address. -/
def parse (text : String) : Except UrlError Parsed := do
  match cutScheme? (clean text.toList) with
  | none => throw .relativeWithoutBase
  | some (scheme, rest) =>
    if needsHost scheme then
      let url ← readHosted scheme (rest.dropWhile (isSlash true))
      pure (.web url)
    else if scheme = "file" then
      checkFile rest
      pure (.other scheme)
    else
      match rest with
      | '/' :: '/' :: rest =>
        let _ ← readHosted scheme rest
        pure (.other scheme)
      | _ => pure (.other scheme)

/-! ## Writing -/

/-- Path and query, as a request names them. -/
def target (u : Url) : String :=
  String.join (u.path.map ("/" ++ ·)) ++ (match u.query with
    | some query => "?" ++ query
    | none => "")

/-- User name and password as they stand before the host. -/
def userText (u : Url) : String :=
  match u.password with
  | some password => u.username ++ ":" ++ password ++ "@"
  | none => if u.username.isEmpty then "" else u.username ++ "@"

/-- The address written out. -/
def text (u : Url) : String :=
  u.scheme ++ "://" ++ u.userText ++ u.host.text
    ++ (match u.port with
      | some port => s!":{port}"
      | none => "")
    ++ u.target
    ++ (match u.fragment with
      | some fragment => "#" ++ fragment
      | none => "")

end Url

end DocStore
