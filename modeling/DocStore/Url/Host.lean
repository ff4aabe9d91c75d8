import DocStore.Text.Digits
import DocStore.Text.Pieces
import DocStore.Url.Domain

/-!
# Hosts of addresses

A host in brackets is an IPv6 address. Any other host is percent-decoded and taken as a domain
name, in its ASCII form; one whose last label is a number is an IPv4 address.
-/

namespace DocStore

/-- Why a text is no address. -/
inductive UrlError
  | relativeWithoutBase
  | emptyHost
  | invalidPort
  | invalidIpv4
  | invalidIpv6
  | invalidDomainName
  | invalidDomainCharacter
deriving DecidableEq, Repr

def UrlError.message : UrlError → String
  | .relativeWithoutBase => "relative URL without a base"
  | .emptyHost => "empty host"
  | .invalidPort => "invalid port number"
  | .invalidIpv4 => "invalid IPv4 address"
  | .invalidIpv6 => "invalid IPv6 address"
  | .invalidDomainName => "invalid international domain name"
  | .invalidDomainCharacter => "invalid domain character"

/-- The host of an address: a domain name, a number of 32 bits, or eight pieces of 16 bits. -/
inductive Host
  | domain (name : String)
  | ipv4 (address : Nat)
  | ipv6 (pieces : List Nat)
deriving DecidableEq, Repr, Inhabited

namespace Host

/-! ## Percent encoding -/

def hexUpper (n : Nat) : Char := ((Nat.toDigits 16 n).headD '0').toUpper

/-- `%` and two digits for each byte of a character. -/
def percent (c : Char) : List Char :=
  (String.ofList [c]).toUTF8.toList.flatMap fun byte =>
    ['%', hexUpper (byte.toNat / 16), hexUpper (byte.toNat % 16)]

/-- Encode the characters of a set, and everything outside printable ASCII. -/
def percentEncode (set : List Char) (text : List Char) : List Char :=
  text.flatMap fun c =>
    if c.toNat < 0x20 || 0x7E < c.toNat || set.contains c then percent c else [c]

/-- The bytes of a text with `%` and two digits as the byte they name. -/
def percentBytes : List Char → List UInt8
  | '%' :: a :: b :: rest =>
    match Digits.number? 16 [a, b] with
    | some n => n.toUInt8 :: percentBytes rest
    | none => '%'.toNat.toUInt8 :: percentBytes (a :: b :: rest)
  | c :: rest => (String.ofList [c]).toUTF8.toList ++ percentBytes rest
  | [] => []

/-- The percent-decoded text, if it is valid text. -/
def percentDecode? (text : List Char) : Option String :=
  String.fromUTF8? ⟨(percentBytes text).toArray⟩

/-! ## IPv4 -/

/-- A part of an IPv4 address: decimal, octal after `0`, hexadecimal after `0x`. -/
def ipv4Number? : List Char → Option Nat
  | [] => none
  | '0' :: 'x' :: rest | '0' :: 'X' :: rest =>
    if rest.isEmpty then some 0 else Digits.number? 16 rest
  | '0' :: c :: rest => Digits.number? 8 (c :: rest)
  | digits => Digits.number? 10 digits

/-- The labels of a name, a final empty one left out. -/
def labels (name : List Char) : List (List Char) :=
  let parts := Text.splitOn '.' name
  if parts.length > 1 && parts.getLast? == some [] then parts.dropLast else parts

/-- The last label is a number. -/
def endsInNumber (name : List Char) : Bool :=
  match (labels name).getLast? with
  | none => false
  | some [] => false
  | some last => last.all Char.isDigit || (ipv4Number? last).isSome

/-- The address of parts, all but the last of them bytes. -/
def ipv4OfParts? : List Nat → (room : Nat) → Option Nat
  | [], _ => none
  | [last], room => if last < Nat.pow 256 room then some last else none
  | part :: rest, room =>
    if part < 256 then (ipv4OfParts? rest (room - 1)).map (part * Nat.pow 256 (room - 1) + ·) else none

/-- The IPv4 address that a name stands for. -/
def ipv4? (name : List Char) : Option Nat := do
  let parts := labels name
  if parts.length > 4 then none
  let numbers ← parts.mapM ipv4Number?
  ipv4OfParts? numbers 4

/-! ## IPv6 -/

/-- Four decimal bytes without leading zeros, as two pieces. -/
def embeddedIpv4? (text : List Char) : Option (List Nat) := do
  let parts := Text.splitOn '.' text
  if parts.length ≠ 4 then none
  let bytes ← parts.mapM fun part =>
    if part.length > 3 || (part.length > 1 && part.head? == some '0') then none
    else (Digits.number? 10 part).filter (· < 256)
  match bytes with
  | [a, b, c, d] => some [a * 256 + b, c * 256 + d]
  | _ => none

/-- Pieces between single colons; the last one may be an IPv4 address. -/
def ipv6Pieces? : List (List Char) → Option (List Nat)
  | [] => some []
  | [last] =>
    if last.contains '.' then embeddedIpv4? last
    else if last.length > 4 then none
    else (Digits.number? 16 last).map ([·])
  | piece :: rest => do
    if piece.length > 4 then none
    let n ← Digits.number? 16 piece
    let more ← ipv6Pieces? rest
    pure (n :: more)

/-- Cut at the first double colon. -/
def cutDoubleColon : List Char → Option (List Char × List Char)
  | ':' :: ':' :: rest => some ([], rest)
  | c :: rest => (cutDoubleColon rest).map fun (before, after) => (c :: before, after)
  | [] => none

/-- The IPv6 address between two brackets. -/
def ipv6? (text : List Char) : Option (List Nat) := do
  let side (part : List Char) : Option (List Nat) :=
    if part.isEmpty then some [] else ipv6Pieces? (Text.splitOn ':' part)
  match cutDoubleColon text with
  | none =>
    let pieces ← side text
    if pieces.length = 8 then some pieces else none
  | some (before, after) =>
    let front ← side before
    let back ← side after
    if before.contains '.' || front.length + back.length > 7 then none
    else some (front ++ List.replicate (8 - front.length - back.length) 0 ++ back)

/-! ## Reading -/

/-- The inside of brackets, if a text is in brackets. -/
def bracketed (text : List Char) : Except UrlError Host :=
  if text.getLast? = some ']' then
    match ipv6? (text.drop 1).dropLast with
    | some pieces => .ok (.ipv6 pieces)
    | none => .error .invalidIpv6
  else .error .invalidIpv6

/-- Read the host of an address on the web. -/
def parse (text : List Char) : Except UrlError Host :=
  if text.head? = some '[' then bracketed text
  else
    match (percentDecode? text).bind Domain.ascii? with
    | none => .error .invalidDomainName
    | some [] => .error .emptyHost
    | some name =>
      if endsInNumber name then
        match ipv4? name with
        | some address => .ok (.ipv4 address)
        | none => .error .invalidIpv4
      else .ok (.domain (String.ofList name))

/-- Read the host of any other address. -/
def parseOpaque (text : List Char) : Except UrlError Host :=
  if text.head? = some '[' then bracketed text
  else if text.any ['\x00', '\t', '\n', '\r', ' ', '#', '/', ':', '<', '>', '?', '@', '[', '\\',
      ']', '^', '|'].contains then .error .invalidDomainCharacter
  else .ok (.domain (String.ofList (percentEncode [] text)))

/-! ## Writing -/

/-- The longest run of zero pieces, of two or more: where it starts and how long it is. -/
def longestZeros (pieces : List Nat) : Option (Nat × Nat) :=
  let runs := (List.range pieces.length).map fun i =>
    (i, ((pieces.drop i).takeWhile (· == 0)).length)
  let best := runs.foldl (fun (b : Nat × Nat) r => if b.2 < r.2 then r else b) (0, 0)
  if best.2 < 2 then none else some best

def ipv6Text (pieces : List Nat) : String :=
  let row (ps : List Nat) : String := ":".intercalate (ps.map fun n => String.ofList (Digits.hex n))
  match longestZeros pieces with
  | none => row pieces
  | some (start, count) => row (pieces.take start) ++ "::" ++ row (pieces.drop (start + count))

def text : Host → String
  | .domain name => name
  | .ipv4 address =>
    ".".intercalate ([3, 2, 1, 0].map fun i => toString (address / Nat.pow 256 i % 256))
  | .ipv6 pieces => "[" ++ ipv6Text pieces ++ "]"

example : (parse "0x7f.1".toList).toOption = some (.ipv4 0x7f000001) := by decide +kernel
example : ((parse "[1::8]".toList).map text).toOption = some "[1::8]" := by decide +kernel

end Host

end DocStore
