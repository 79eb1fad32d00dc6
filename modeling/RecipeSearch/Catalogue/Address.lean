import RecipeSearch.Internet.Host
import RecipeSearch.Text.Percent

/-!
# Addresses of the catalogue

The address of a request is the base address of the catalogue with an endpoint after it; its query is continued by one
form field. `Address.ofText?` reads an address: after the scheme stand the host and perhaps a port, before which the
name of a user, up to the last `@`, does not count. Backslashes are slashes, `.` and `..` are steps along the path that
do not leave a drive letter, characters that may not stand in an address are percent-encoded, and a fragment is not
sent. An address that is malformed or too long is never asked.
-/

namespace RecipeSearch.Catalogue

open Internet (Host)
open Text (percentEncode formEncode)

/-- The protocols that the catalogue may speak. -/
inductive Scheme where
  | http
  | https
  deriving DecidableEq, Repr

namespace Scheme

/-- The scheme as it is written. -/
def text : Scheme → String
  | http => "http"
  | https => "https"

/-- The port of an address that gives none. -/
def port : Scheme → Nat
  | http => 80
  | https => 443

/-- The scheme that a text spells, in either case. -/
def ofText? (cs : List Char) : Option Scheme :=
  [http, https].find? fun scheme => cs.map Char.toLower == scheme.text.toList

end Scheme

/-! ## The parts of an address -/

/-- Controls and spaces, which may stand around an address. -/
def isMargin (c : Char) : Bool :=
  c.toNat ≤ 32

/-- The text without margins, and without tabs and line ends anywhere. -/
def stripMargins (cs : List Char) : List Char :=
  let inner := ((cs.dropWhile isMargin).reverse.dropWhile isMargin).reverse
  inner.filter fun c => c ≠ '\t' && c ≠ '\n' && c ≠ '\r'

/-- The scheme, and what follows its colon and any slashes after that. -/
def splitScheme? (cs : List Char) : Option (Scheme × List Char) := do
  let scheme ← Scheme.ofText? (cs.takeWhile (· ≠ ':'))
  match cs.dropWhile (· ≠ ':') with
  | [] => none
  | _ :: rest => some (scheme, rest.dropWhile fun c => c == '/' || c == '\\')

/-- The end of the part of an address that names the host. -/
def endsHost (c : Char) : Bool :=
  c == '/' || c == '\\' || c == '?' || c == '#'

/-- What follows the last `@`. -/
def withoutUser (cs : List Char) : List Char :=
  (cs.reverse.takeWhile (· ≠ '@')).reverse

/-- The text up to the first colon outside square brackets, and the rest. -/
def splitPort (bracketed : Bool) : List Char → List Char × List Char
  | [] => ([], [])
  | c :: cs =>
    if c == ':' && !bracketed then ([], c :: cs)
    else
      let (host, rest) := splitPort (c == '[' || bracketed && c != ']') cs
      (c :: host, rest)

/-- The port that stands after a colon, the one of the scheme if there is none. -/
def readPort? (scheme : Scheme) (cs : List Char) : Option Nat :=
  let digits := cs.drop 1
  let port := digits.foldl (fun n c => n * 10 + (c.toNat - 48)) 0
  if digits = [] then some scheme.port
  else if digits.all Char.isDigit && port < 65536 then some port
  else none

/-! ## Path and query -/

/-- A printable ASCII character that is not among the given ones. -/
def isPlain (others : List Char) (c : Char) : Bool :=
  32 < c.toNat && c.toNat < 127 && !others.contains c

/-- Characters that stand in a path as they are. -/
def isPathPlain : Char → Bool := isPlain ['"', '<', '>', '`', '#', '?', '\x7b', '\x7d']

/-- Characters that stand in a query as they are. -/
def isQueryPlain : Char → Bool := isPlain ['"', '#', '<', '>', '\'']

/-- A step that stays, plain or with its dot encoded. -/
def isHere (segment : List Char) : Bool :=
  [".", "%2e"].any fun s => segment.map Char.toLower == s.toList

/-- A step back, plain or with dots encoded. -/
def isBack (segment : List Char) : Bool :=
  ["..", ".%2e", "%2e.", "%2e%2e"].any fun s => segment.map Char.toLower == s.toList

/-- The name of a drive: a letter and a colon or a bar. -/
def isDrive : List Char → Bool
  | [letter, mark] => letter.isAlpha && (mark == ':' || mark == '|')
  | _ => false

/-- The path one step back (the last segment first), which does not leave a drive. -/
def stepBack : List (List Char) → List (List Char)
  | [] => []
  | segment :: path => if isDrive segment then segment :: path else path

/-- What stands between the segments of a path. -/
def isSlash (c : Char) : Bool :=
  c == '/' || c == '\\'

/-- The path that the segments lead along after those in `path` (the last one first). A step at the end leaves an empty
segment. -/
def walk (path : List (List Char)) : List (List Char) → List (List Char)
  | [] => path.reverse
  | segment :: rest =>
    let ending := if rest.isEmpty then [[]] else []
    if isBack segment then walk (ending ++ stepBack path) rest
    else if isHere segment then walk (ending ++ path) rest
    else walk (segment :: path) rest

/-- A path as it is sent, from what follows the host. -/
def sentPath (cs : List Char) : List Char :=
  let path := match cs with
    | c :: rest => if isSlash c then rest else cs
    | [] => []
  (walk [] (Text.parts (!isSlash ·) path)).flatMap fun segment => '/' :: percentEncode isPathPlain segment

/-! ## Addresses -/

/-- An address. -/
structure Address where
  scheme : Scheme
  host : Host
  port : Nat
  /-- The path, which starts with a slash. -/
  path : String
  /-- The query, empty if there is none. -/
  query : String

namespace Address

/-- The address that a text spells. -/
def ofText? (s : String) : Option Address := do
  let (scheme, cs) ← splitScheme? (stripMargins s.toList)
  let (host, port) := splitPort false (withoutUser (cs.takeWhile (!endsHost ·)))
  let resource := (cs.dropWhile (!endsHost ·)).takeWhile (· ≠ '#')
  return {
    scheme
    host := ← Host.ofText? host
    port := ← readPort? scheme port
    path := String.ofList (sentPath (resource.takeWhile (· ≠ '?')))
    query := String.ofList (percentEncode isQueryPlain ((resource.dropWhile (· ≠ '?')).drop 1)) }

/-- The address with one more form field in its query. -/
def withField (key value : String) (address : Address) : Address :=
  let field := String.ofList (formEncode key.toList ++ '=' :: formEncode value.toList)
  { address with query := if address.query = "" then field else address.query ++ "&" ++ field }

/-- The path and query, as a request gives them. -/
def target (address : Address) : String :=
  if address.query = "" then address.path else address.path ++ "?" ++ address.query

/-- The whole address. The port of the scheme is left out. -/
def text (address : Address) : String :=
  let port := if address.port = address.scheme.port then "" else ":" ++ toString address.port
  address.scheme.text ++ "://" ++ address.host.text ++ port ++ address.target

/-- The most characters of an address that is asked. -/
def maxLength : Nat := 65534

/-- The address is short enough to be asked. -/
def isSendable (address : Address) : Bool :=
  address.text.length ≤ maxLength

end Address

end RecipeSearch.Catalogue
