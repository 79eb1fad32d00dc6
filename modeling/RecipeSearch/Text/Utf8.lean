/-!
# Text as bytes

`utf8 cs` are the bytes of a text. Reading bytes goes two ways: `ofUtf8? bs` accepts well-formed bytes only, and
`ofUtf8Lossy bs` puts a replacement character in the place of each malformed stretch, the longest start of a character
or else a single byte.
-/

namespace RecipeSearch.Text

/-- The bytes of a text. -/
def utf8 (cs : List Char) : List UInt8 :=
  cs.flatMap String.utf8EncodeChar

/-- What stands at the start of some bytes: a character, or a malformed stretch, and how many bytes it takes. -/
inductive Lead where
  | char (c : Char) (size : Nat)
  | malformed (size : Nat)
  deriving DecidableEq, Repr

namespace Lead

/-- How many bytes to go on by, at least one. -/
def size : Lead → Nat
  | char _ n => n
  | malformed n => n

/-- The byte continues a character. -/
def isContinuation (b : UInt8) : Bool :=
  0x80 ≤ b && b ≤ 0xbf

/-- The byte may come second in a character that starts with `b0`; the narrower ranges rule out overlong forms,
surrogates and numbers above U+10FFFF. -/
def isSecond (b0 b : UInt8) : Bool :=
  if b0 = 0xe0 then 0xa0 ≤ b && b ≤ 0xbf
  else if b0 = 0xed then 0x80 ≤ b && b ≤ 0x9f
  else if b0 = 0xf0 then 0x90 ≤ b && b ≤ 0xbf
  else if b0 = 0xf4 then 0x80 ≤ b && b ≤ 0x8f
  else isContinuation b

/-- The number of bytes that a character starting with `b` takes, none if no character starts so. -/
def width (b : UInt8) : Option Nat :=
  if b < 0x80 then some 1
  else if 0xc2 ≤ b && b ≤ 0xdf then some 2
  else if 0xe0 ≤ b && b ≤ 0xef then some 3
  else if 0xf0 ≤ b && b ≤ 0xf4 then some 4
  else none

/-- The character whose first byte carries the number `high` and whose other bytes are `more`. -/
def assemble (high : Nat) (more : List UInt8) : Char :=
  Char.ofNat (more.foldl (fun n b => n * 64 + b.toNat % 64) high)

/-- The lead of the bytes `b0 :: rest`. -/
def ofBytes (b0 : UInt8) (rest : List UInt8) : Lead :=
  match width b0, rest with
  | some 1, _ => char (Char.ofNat b0.toNat) 1
  | some 2, b1 :: _ =>
    if isSecond b0 b1 then char (assemble (b0.toNat % 32) [b1]) 2 else malformed 1
  | some 3, b1 :: more =>
    if isSecond b0 b1 then
      match more with
      | b2 :: _ => if isContinuation b2 then char (assemble (b0.toNat % 16) [b1, b2]) 3 else malformed 2
      | [] => malformed 2
    else malformed 1
  | some 4, b1 :: more =>
    if isSecond b0 b1 then
      match more with
      | b2 :: more =>
        if isContinuation b2 then
          match more with
          | b3 :: _ => if isContinuation b3 then char (assemble (b0.toNat % 8) [b1, b2, b3]) 4 else malformed 3
          | [] => malformed 3
        else malformed 2
      | [] => malformed 2
    else malformed 1
  | _, _ => malformed 1

end Lead

/-- The leads of some bytes, from left to right. -/
def leads : List UInt8 → List Lead
  | [] => []
  | b :: bs =>
    let lead := Lead.ofBytes b bs
    lead :: leads (bs.drop (lead.size - 1))
termination_by bs => bs.length
decreasing_by
  simp only [List.length_drop, List.length_cons]
  omega

/-- The text of well-formed bytes. -/
def ofUtf8? (bs : List UInt8) : Option (List Char) :=
  (leads bs).mapM fun
    | .char c _ => some c
    | .malformed _ => none

/-- The text of any bytes, with a replacement character for each malformed stretch. -/
def ofUtf8Lossy (bs : List UInt8) : List Char :=
  (leads bs).map fun
    | .char c _ => c
    | .malformed _ => '\ufffd'

end RecipeSearch.Text
