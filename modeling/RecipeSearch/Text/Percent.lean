import RecipeSearch.Text.Pieces
import RecipeSearch.Text.Utf8

/-!
# Percent-encoding

A digit of base sixteen is read in either case (`hexValue?`) and written in upper case (`hexDigit`). Bytes outside a
class are written as `%` and two such digits (`percentEncode`); reading turns each such triple back into its byte and
leaves every other character alone, a stray `%` included (`percentDecode`). Form fields write a space as `+` besides
(`formEncode`, `formFields`).
-/

namespace RecipeSearch.Text

/-! ## Digits -/

/-- A digit of base sixteen in upper case. -/
def hexDigit (n : Nat) : Char :=
  if n < 10 then Char.ofNat (48 + n) else Char.ofNat (55 + n)

/-- The value of a digit of base sixteen, in either case. -/
def hexValue? (c : Char) : Option Nat :=
  if '0' ≤ c && c ≤ '9' then some (c.toNat - 48)
  else if 'a' ≤ c && c ≤ 'f' then some (c.toNat - 87)
  else if 'A' ≤ c && c ≤ 'F' then some (c.toNat - 55)
  else none

/-! ## Bytes -/

/-- The byte as `%` and two digits. -/
def percentByte (b : UInt8) : List Char :=
  ['%', hexDigit (b.toNat / 16), hexDigit (b.toNat % 16)]

/-- The text with every character outside the class `keep` written byte by byte. -/
def percentEncode (keep : Char → Bool) (cs : List Char) : List Char :=
  cs.flatMap fun c => if keep c then [c] else (String.utf8EncodeChar c).flatMap percentByte

/-- The bytes of a text in which `%` and two digits stand for a byte. -/
def percentDecode : List Char → List UInt8
  | [] => []
  | '%' :: a :: b :: cs =>
    match hexValue? a, hexValue? b with
    | some high, some low => UInt8.ofNat (high * 16 + low) :: percentDecode cs
    | _, _ => String.utf8EncodeChar '%' ++ percentDecode (a :: b :: cs)
  | c :: cs => String.utf8EncodeChar c ++ percentDecode cs

/-! ## Form fields -/

/-- Characters that a form field holds as they are. -/
def isFormPlain (c : Char) : Bool :=
  c.isAlphanum || c == '*' || c == '-' || c == '.' || c == '_'

/-- The value of a form field as it is sent. -/
def formEncode (cs : List Char) : List Char :=
  cs.flatMap fun c => if c = ' ' then ['+'] else percentEncode isFormPlain [c]

/-- The value of a form field as it was meant. -/
def formDecode (cs : List Char) : List Char :=
  ofUtf8Lossy (percentDecode (cs.map fun c => if c = '+' then ' ' else c))

/-- The fields of a form, separated by `&`, each a name and, after the first `=`, a value. -/
def formFields (cs : List Char) : List (String × String) :=
  (runs (· ≠ '&') cs).map fun field =>
    (String.ofList (formDecode (field.takeWhile (· ≠ '='))),
      String.ofList (formDecode ((field.dropWhile (· ≠ '=')).drop 1)))

end RecipeSearch.Text
