/-!
# JSON values

The values that requests and answers are made of. An object keeps its members in the order in which they are written,
and a number the way it is spelled.

A `Numeral` is a number as a text spells it: a sign, a whole part without leading zeros, decimals, and an exponent. The
numbers a record can hold are the natural numbers of 64 bits (`nat?`). Any other number is only ever passed over or
kept with the value it is part of, and to be kept it has to fit a double: `isHuge` says when it does not.

A double is reached in two steps, each of which rounds to the nearest number of 53 bits, a tie to the even one: the
leading digits that fit a word of 64 bits are read as a natural number, and that number is scaled by a power of ten.
-/

namespace RecipeSearch

/-- A number as a text spells it. -/
structure Numeral where
  negative : Bool
  whole : Nat
  /-- The decimals, none if no decimal point is written. -/
  decimals : List (Fin 10)
  /-- The power of ten after `e`, if there is one. -/
  exponent : Option Int
  deriving DecidableEq, Repr

namespace Numeral

/-- The bound of the natural numbers that fit 64 bits. -/
def wordBound : Nat := 18446744073709551616

/-- A natural number. -/
def ofNat (n : Nat) : Numeral := ⟨false, n, [], none⟩

/-- The value of a plain natural number of 64 bits. -/
def nat? (n : Numeral) : Option Nat :=
  if !n.negative && n.decimals.isEmpty && n.exponent.isNone && n.whole < wordBound then some n.whole else none

theorem nat?_ofNat {n : Nat} (h : n < wordBound) : (ofNat n).nat? = some n := by
  simp [ofNat, nat?, h]

theorem lt_of_nat? {n : Numeral} {k : Nat} (h : n.nat? = some k) : k < wordBound := by
  rw [nat?] at h
  split at h
  · next hfits =>
    cases h
    simp only [Bool.and_eq_true, decide_eq_true_eq] at hfits
    exact hfits.2
  · cases h

/-! ## Range of doubles -/

/-- `n` extended by as many of the digits as fit 64 bits, and the number of digits left over. -/
def extend (n : Nat) : List Nat → Nat × Nat
  | [] => (n, 0)
  | d :: ds => if n * 10 + d < wordBound then extend (n * 10 + d) ds else (n, ds.length + 1)

/-- The nearest number with at most 53 significant bits, of two equally near ones the even one. -/
def round53 (n : Nat) : Nat :=
  let unit := Nat.pow 2 (n.log2 - 52)
  let (q, r) := (n / unit, n % unit)
  if 2 * r < unit || (2 * r == unit && q % 2 == 0) then q * unit else (q + 1) * unit

/-- The least number that rounds to infinity as a double. -/
def infinityBound : Nat := (Nat.pow 2 54 - 1) * Nat.pow 2 970

/-- The decimal digits of the whole part. -/
def wholeDigits (n : Numeral) : List Nat :=
  (Nat.toDigits 10 n.whole).map fun c => c.toNat - 48

/-- The number is too large for a double. -/
def isHuge (n : Numeral) : Bool :=
  let (leading, leftOfWhole) := extend 0 n.wholeDigits
  let (significand, leftOfDecimals) := extend leading (n.decimals.map Fin.val)
  let scale : Int := leftOfWhole - (n.decimals.length - leftOfDecimals) + n.exponent.getD 0
  significand ≠ 0 &&
    (scale > 308 || (scale ≥ 0 && infinityBound ≤ round53 significand * round53 (Nat.pow 10 scale.toNat)))

/-! ## Written form -/

/-- The characters of a decimal digit. -/
def digitChar (d : Fin 10) : Char := Char.ofNat (48 + d.val)

/-- The shortest spelling of the number. -/
def text (n : Numeral) : List Char :=
  (if n.negative then ['-'] else []) ++ Nat.toDigits 10 n.whole ++
    (if n.decimals.isEmpty then [] else '.' :: n.decimals.map digitChar) ++
    match n.exponent with
    | none => []
    | some (.ofNat e) => 'e' :: Nat.toDigits 10 e
    | some (.negSucc e) => 'e' :: '-' :: Nat.toDigits 10 (e + 1)

end Numeral

/-! ## Values -/

/-- A JSON value. -/
inductive Json where
  | null
  | bool (b : Bool)
  | number (n : Numeral)
  | string (s : String)
  | array (items : List Json)
  | object (members : List (String × Json))
  deriving Repr

namespace Json

/-- A natural number as a value. -/
def nat (n : Nat) : Json := number (.ofNat n)

/-- A list of strings as a value. -/
def strings (ss : List String) : Json := array (ss.map string)

/-- A value that may be missing, as `null` if it is. -/
def orNull (toJson : α → Json) : Option α → Json
  | none => null
  | some a => toJson a

/-- The text of a string value. -/
def text? : Json → Option String
  | string s => some s
  | _ => none

end Json

end RecipeSearch
