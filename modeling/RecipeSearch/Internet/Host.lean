import RecipeSearch.Internet.IpAddress
import RecipeSearch.Text.AsciiForm
import RecipeSearch.Text.Percent
import RecipeSearch.Text.Pieces

/-!
# Hosts

A host is an address of the Internet protocol, or has a name. `ofText?` reads one from an address of the web. An address
of version 6 stands there in square brackets. One of version 4 is up to four numbers with dots between, decimal, octal
after a `0` or of base sixteen after `0x`: each number before the last is a byte, and the last one gives all bytes that
remain. What ends in a number names no host otherwise. Names may hold percent-encoded characters, and count by their
form in ASCII; which names there are is for the network to know.
-/

namespace RecipeSearch.Internet

/-- A host. -/
inductive Host where
  | address (ip : IpAddress)
  | name (s : String)
  deriving DecidableEq, Repr

namespace Host

/-! ## Addresses of version 4 -/

/-- The number that digits spell, zero if there are none. -/
def readDigits? (base : Nat) (cs : List Char) : Option Nat :=
  (cs.mapM fun c => (Text.hexValue? c).filter (· < base)).map fun digits =>
    digits.foldl (fun n d => n * base + d) 0

/-- A number in an address of version 4. -/
def readNumber? : List Char → Option Nat
  | [] => none
  | '0' :: 'x' :: cs => readDigits? 16 cs
  | '0' :: c :: cs => readDigits? 8 (c :: cs)
  | cs => readDigits? 10 cs

/-- A number as `room` bytes, the highest first, if it has no more. -/
def bytesOf? : (room : Nat) → Nat → Option (List Nat)
  | 0, n => if n = 0 then some [] else none
  | room + 1, n => (bytesOf? room (n / 256)).map (· ++ [n % 256])

/-- The four bytes that up to four numbers give. -/
def v4OfNumbers? (numbers : List Nat) : Option (List Nat) := do
  let last ← numbers.getLast?
  let bytes := numbers.dropLast
  if bytes.length < 4 && bytes.all (· < 256) then (bytesOf? (4 - bytes.length) last).map (bytes ++ ·) else none

/-- The last one of the parts between dots is meant as a number. -/
def endsInNumber (parts : List (List Char)) : Bool :=
  parts.getLast?.any fun part => part ≠ [] && part.all Char.isDigit || (readNumber? part).isSome

/-! ## Reading and writing -/

/-- The host with a given form in ASCII. A dot may stand at its end. -/
def ofForm? (form : List Char) : Option Host :=
  let parts := Text.parts (· ≠ '.') form
  let parts := if parts.getLast? = some [] then parts.dropLast else parts
  if form = [] then none
  else if endsInNumber parts then
    ((parts.mapM readNumber?).bind v4OfNumbers?).map fun bytes => address (.v4 bytes)
  else some (name (String.ofList form))

/-- The host between the square brackets that `cs` follows the first of. -/
def ofBracketed? (cs : List Char) : Option Host := do
  let (groups, rest) ← IpAddress.scanV6 cs
  if rest = [']'] then some (address (.v6 groups)) else none

/-- The host that a whole text spells. -/
def ofText? : List Char → Option Host
  | '[' :: cs => ofBracketed? cs
  | cs => (Text.ofUtf8? (Text.percentDecode cs)).bind fun cs => ofForm? (Text.asciiForm cs)

/-- The host as it is written in an address. -/
def text : Host → String
  | address (.v4 bytes) => IpAddress.textV4 bytes
  | address (.v6 groups) => "[" ++ IpAddress.shortGroups groups ++ "]"
  | name s => s

end Host

end RecipeSearch.Internet
