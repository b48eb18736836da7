/-
PackageRelease/Service/Url.lean

Addresses of a service that is reached without encryption.

    http://user@host:port/path?query#fragment

An address is read leniently.  Tabs and line breaks do not count, any number
of slashes may follow the colon, a backslash is a slash, and a path is freed of
the steps `.` and `..` and escaped where a request cannot hold a character.
Only the host and the port can be wrong; see `Host` for the host.  The port is
a number up to 65535, and 80 goes without saying.
-/
import PackageRelease.Service.Host

namespace PackageRelease

/-- Where a request goes, and what it asks for there. -/
structure Url where
  /-- The host. -/
  host : List Char
  /-- The port, if it has to be said. -/
  port : Option Nat
  /-- The path and perhaps a query, as they stand in a request. -/
  target : List Char
deriving DecidableEq, Repr

namespace Url

/-! ### Host and port -/

/-- The character separates parts of a path. -/
def isSlash (c : Char) : Bool := c == '/' || c == '\\'

/-- The character ends the part of an address that names the host. -/
def endsAuthority (c : Char) : Bool := isSlash c || c == '?' || c == '#'

/-- The text behind the last at-sign. -/
def withoutUser (authority : List Char) : List Char :=
  (authority.reverse.takeWhile (· ≠ '@')).reverse

/-- The text up to a colon that does not lie in brackets, and the text from there on. -/
def splitPort (inBrackets : Bool) : List Char → List Char × List Char
  | [] => ([], [])
  | c :: rest =>
    if c = ':' ∧ !inBrackets then ([], c :: rest)
    else
      let (host, port) :=
        splitPort (if c = '[' then true else if c = ']' then false else inBrackets) rest
      (c :: host, port)

/-- The port that goes without saying. -/
def defaultPort : Nat := 80

/-- The greatest port. -/
def portLimit : Nat := 65535

/-- The port behind a host, if it is a good one; none if it goes without saying. -/
def parsePort? : List Char → Option (Option Nat)
  | [] => some none
  | _ :: digits => do
    let port ← Host.digits? 10 digits
    if portLimit < port then none
    else if digits.isEmpty ∨ port = defaultPort then some none
    else some (some port)

/-! ### Path and query -/

/-- An escaped byte. -/
def escapeByte (b : UInt8) : List Char :=
  let digit (v : Nat) : Char := if v < 10 then Char.ofNat (48 + v) else Char.ofNat (55 + v)
  ['%', digit (b.toNat / 16), digit (b.toNat % 16)]

/-- The text with every character escaped that is outside ASCII, a control character, or in
`set`. -/
def escape (set : List Char) (text : List Char) : List Char :=
  text.flatMap fun c =>
    if c.toNat < 0x20 ∨ 0x7f ≤ c.toNat ∨ set.contains c then
      (Utf8.encodeChar c).flatMap escapeByte
    else [c]

/-- The characters that are escaped in a path. -/
def pathSet : List Char := " \"#<>?`\x7b\x7d".toList

/-- The characters that are escaped in a query. -/
def querySet : List Char := " \"#<>'".toList

/-- The segment is a step that stays. -/
def isSingleDot (segment : List Char) : Bool :=
  [".", "%2e"].contains (String.ofList (segment.map Char.toLower))

/-- The segment is a step back. -/
def isDoubleDot (segment : List Char) : Bool :=
  ["..", ".%2e", "%2e.", "%2e%2e"].contains (String.ofList (segment.map Char.toLower))

/-- The segments of a path behind those in `before`, without the steps that stay or go back. -/
def settle (before : List (List Char)) : List (List Char) → List (List Char)
  | [] => before
  | segment :: rest =>
    if isDoubleDot segment then
      settle (before.dropLast ++ if rest.isEmpty then [[]] else []) rest
    else if isSingleDot segment then settle (before ++ if rest.isEmpty then [[]] else []) rest
    else settle (before ++ [escape pathSet segment]) rest

/-- A path as it stands in a request. -/
def path (text : List Char) : List Char :=
  match text.map fun c => if isSlash c then '/' else c with
  | [] => ['/']
  | _ :: rest => (settle [] (segments '/' rest)).flatMap ('/' :: ·)

/-- The path and the query of an address as they stand in a request. -/
def requestTarget (text : List Char) : List Char :=
  let visible := text.takeWhile (· ≠ '#')
  path (visible.takeWhile (· ≠ '?')) ++
    match visible.dropWhile (· ≠ '?') with
    | [] => []
    | _ :: query => '?' :: escape querySet query

/-! ### Addresses -/

/-- The beginning of every address. -/
def scheme : List Char := "http:".toList

/-- The character does not count in an address. -/
def isIgnored (c : Char) : Bool := c == '\t' || c == '\n' || c == '\r'

/-- The parts of an address. -/
def parse? (text : String) : Option Url := do
  let text := text.toList.filter (!isIgnored ·)
  if text.take scheme.length ≠ scheme then none
  else
    let rest := (text.drop scheme.length).dropWhile isSlash
    let authority := withoutUser (rest.takeWhile (!endsAuthority ·))
    let (host, port) := splitPort false authority
    let host ← Host.parse? host
    let port ← parsePort? port
    return ⟨host, port, requestTarget (rest.dropWhile (!endsAuthority ·))⟩

/-- The host and the port where they are named in a request. -/
def hostHeader (url : Url) : String :=
  match url.port with
  | none => String.ofList url.host
  | some port => String.ofList url.host ++ ":" ++ toString port

end Url

end PackageRelease
