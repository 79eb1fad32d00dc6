import RecipeSearch.Internet.IpAddress

/-!
# Socket addresses

An address of the Internet protocol, of version 4 or 6, with a port. `ofText?` reads one and `text` writes it. Addresses
of version 6 stand in square brackets and may name a scope after a `%`.
-/

namespace RecipeSearch.Settings

open Internet.IpAddress (Scan scanChar scanDecimal scanV4 scanV6 textV4 textV6)

/-- An address and a port. -/
inductive SocketAddress where
  /-- Four bytes. -/
  | v4 (bytes : List Nat) (port : Nat)
  /-- Eight groups of 16 bits, and the number of the scope. -/
  | v6 (groups : List Nat) (scope port : Nat)
  deriving DecidableEq, Repr

namespace SocketAddress

/-- The address with another port. -/
def withPort (port : Nat) : SocketAddress → SocketAddress
  | v4 bytes _ => v4 bytes port
  | v6 groups scope _ => v6 groups scope port

/-! ## Reading -/

/-- The scope of an address, zero if none is written. -/
def scanScope (cs : List Char) : Nat × List Char :=
  ((do
    let ((), cs) ← scanChar '%' cs
    scanDecimal 4294967296 cs) : Option (Nat × List Char)).getD (0, cs)

/-- A colon and a port. -/
def scanPort : Scan Nat := fun cs => do
  let ((), cs) ← scanChar ':' cs
  scanDecimal 65536 cs

/-- An address of version 4 with its port. -/
def scanSocketV4 : Scan SocketAddress := fun cs => do
  let (bytes, cs) ← scanV4 cs
  let (port, cs) ← scanPort cs
  return (v4 bytes port, cs)

/-- An address of version 6 in square brackets, with its scope and port. -/
def scanSocketV6 : Scan SocketAddress := fun cs => do
  let ((), cs) ← scanChar '[' cs
  let (groups, cs) ← scanV6 cs
  let (scope, cs) := scanScope cs
  let ((), cs) ← scanChar ']' cs
  let (port, cs) ← scanPort cs
  return (v6 groups scope port, cs)

/-- The socket address that a whole text spells. -/
def ofText? (cs : List Char) : Option SocketAddress := do
  let (address, rest) ← scanSocketV4 cs <|> scanSocketV6 cs
  guard (rest = [])
  return address

/-! ## Writing -/

/-- The address and the port. -/
def text : SocketAddress → String
  | v4 bytes port => textV4 bytes ++ ":" ++ toString port
  | v6 groups scope port =>
    "[" ++ textV6 groups ++ (if scope = 0 then "" else "%" ++ toString scope) ++ "]:" ++ toString port

end SocketAddress

end RecipeSearch.Settings
