import RecipeSearch.Text.Percent

/-!
# Addresses of the Internet protocol

An address of version 4 is four bytes, and one of version 6 eight groups of 16 bits. `scanV4` and `scanV6` read them at
the start of a text, `textV4` and `textV6` write them. A `::` among the groups stands for one or more groups of zeros,
and they are written with the longest run of two or more such groups left out, the first of equally long ones. The last
32 bits may be spelled as an address of version 4, and are written so if the address stands for one.
-/

namespace RecipeSearch.Internet

/-- An address. -/
inductive IpAddress where
  /-- Four bytes. -/
  | v4 (bytes : List Nat)
  /-- Eight groups of 16 bits. -/
  | v6 (groups : List Nat)
  deriving DecidableEq, Repr

namespace IpAddress

/-! ## Reading -/

/-- Reads something at the start of a text and gives what follows it. -/
abbrev Scan (α : Type) := List Char → Option (α × List Char)

/-- The character `c`. -/
def scanChar (c : Char) : Scan Unit
  | d :: cs => if c = d then some ((), cs) else none
  | [] => none

/-- The value of a decimal digit. -/
def decimalValue? (c : Char) : Option Nat :=
  if c.isDigit then some (c.toNat - 48) else none

/-- The digits at the start of a text, up to the first character without a value, and what follows them. -/
def scanDigits (value? : Char → Option Nat) (cs : List Char) : List Nat × List Char :=
  let digits := cs.takeWhile fun c => (value? c).isSome
  (digits.filterMap value?, cs.drop digits.length)

/-- A decimal number below `bound`. -/
def scanDecimal (bound : Nat) : Scan Nat := fun cs => do
  let (digits, cs) := scanDigits decimalValue? cs
  let n := digits.foldl (fun n d => n * 10 + d) 0
  guard (digits ≠ [] ∧ n < bound)
  return (n, cs)

/-- A byte: up to three digits, without a leading zero. -/
def scanByte : Scan Nat := fun cs => do
  let digits := (scanDigits decimalValue? cs).1
  guard (digits.length ≤ 3 ∧ (digits.head? ≠ some 0 ∨ digits.length = 1))
  scanDecimal 256 cs

/-- An address of version 4. -/
def scanV4 : Scan (List Nat) := fun cs => do
  let (a, cs) ← scanByte cs
  let ((), cs) ← scanChar '.' cs
  let (b, cs) ← scanByte cs
  let ((), cs) ← scanChar '.' cs
  let (c, cs) ← scanByte cs
  let ((), cs) ← scanChar '.' cs
  let (d, cs) ← scanByte cs
  return ([a, b, c, d], cs)

/-- A group of an address of version 6: up to four digits. -/
def scanGroup : Scan Nat := fun cs => do
  let (digits, cs) := scanDigits Text.hexValue? cs
  guard (digits ≠ [] ∧ digits.length ≤ 4)
  return (digits.foldl (fun n d => n * 16 + d) 0, cs)

/-- The two groups that four bytes make. -/
def pairBytes : List Nat → List Nat
  | [a, b, c, d] => [a * 256 + b, c * 256 + d]
  | _ => []

/-- At most `room` groups after those before them, with colons between, and whether they end in an address of version
4, for which two groups of room are needed. -/
def scanGroups (first : Bool) : Nat → List Char → (List Nat × Bool) × List Char
  | 0, cs => (([], false), cs)
  | room + 1, cs =>
    let next (scan : Scan (List Nat)) : Option (List Nat × List Char) :=
      if first then scan cs else (scanChar ':' cs).bind fun ((), cs) => scan cs
    match if room = 0 then none else next scanV4 with
    | some (bytes, cs) => ((pairBytes bytes, true), cs)
    | none =>
      match next fun cs => (scanGroup cs).map fun (group, cs) => ([group], cs) with
      | some (group, cs) =>
        let ((groups, endsInV4), cs) := scanGroups false room cs
        ((group ++ groups, endsInV4), cs)
      | none => (([], false), cs)

/-- An address of version 6: eight groups, or fewer with `::` among them. -/
def scanV6 : Scan (List Nat) := fun cs => do
  let ((head, endsInV4), cs) := scanGroups true 8 cs
  if head.length = 8 then return (head, cs)
  guard !endsInV4
  let ((), cs) ← scanChar ':' cs
  let ((), cs) ← scanChar ':' cs
  let ((tail, _), cs) := scanGroups true (7 - head.length) cs
  return (head ++ List.replicate (8 - head.length - tail.length) 0 ++ tail, cs)

/-! ## Writing -/

/-- Four bytes with dots between them. -/
def textV4 (bytes : List Nat) : String :=
  ".".intercalate (bytes.map toString)

/-- Groups with colons between them. -/
def textGroups (groups : List Nat) : String :=
  ":".intercalate (groups.map fun group => String.ofList (Nat.toDigits 16 group))

/-- Where the longest run of zeros starts in the groups from place `i` on, and its length; of equally long runs the
first counts. `current` zeros stand just before place `i`. -/
def longestZeros (best : Nat × Nat) (current i : Nat) : List Nat → Nat × Nat
  | [] => best
  | group :: groups =>
    if group = 0 then
      let best := if best.2 < current + 1 then (i - current, current + 1) else best
      longestZeros best (current + 1) (i + 1) groups
    else longestZeros best 0 (i + 1) groups

/-- Groups without the longest run of zeros. -/
def shortGroups (groups : List Nat) : String :=
  let (start, length) := longestZeros (0, 0) 0 0 groups
  if length > 1 then textGroups (groups.take start) ++ "::" ++ textGroups (groups.drop (start + length))
  else textGroups groups

/-- An address of version 6. -/
def textV6 (groups : List Nat) : String :=
  match groups with
  | [0, 0, 0, 0, 0, 0xffff, high, low] =>
    "::ffff:" ++ textV4 [high / 256, high % 256, low / 256, low % 256]
  | _ => shortGroups groups

end IpAddress

end RecipeSearch.Internet
