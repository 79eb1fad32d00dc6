import RecipeSearch.Json.Basic
import RecipeSearch.Text.Percent

/-!
# Tokens of JSON texts

`lex` cuts a text into tokens: brackets, separators, literals, numbers and strings, with blanks of the four JSON kinds
between them. Where a text stops being made of tokens the list ends in `malformed`. A string that escapes half of a
surrogate pair is still a token (`unpaired`): such a string can be passed over, but has no text to keep.
-/

namespace RecipeSearch.Json

open Text (hexValue?)

/-- A token of a JSON text. -/
inductive Token where
  | openObject
  | closeObject
  | openArray
  | closeArray
  | comma
  | colon
  | null
  | bool (b : Bool)
  | number (n : Numeral)
  | string (s : String)
  /-- A string with an escaped surrogate that has no partner. -/
  | unpaired
  /-- The text goes on with something that is no token. -/
  | malformed
  deriving DecidableEq, Repr

/-- The blanks that may stand between tokens. -/
def isGap (c : Char) : Bool :=
  c == ' ' || c == '\n' || c == '\t' || c == '\r'

/-! ## Strings -/

/-- The number spelled by four digits of base sixteen. -/
def hexFour? (a b c d : Char) : Option Nat := do
  return (((← hexValue? a) * 16 + (← hexValue? b)) * 16 + (← hexValue? c)) * 16 + (← hexValue? d)

/-- The character that a backslash and `c` stand for. -/
def simpleEscape? (c : Char) : Option Char :=
  match c with
  | '"' => some '"'
  | '\\' => some '\\'
  | '/' => some '/'
  | 'b' => some '\x08'
  | 'f' => some '\x0c'
  | 'n' => some '\n'
  | 'r' => some '\r'
  | 't' => some '\t'
  | _ => none

/-- The code points and escaped surrogates up to the closing quote, after those in `before` (the last one first), and
what follows the quote. -/
def scanString (before : List Nat) : List Char → Option (List Nat × List Char)
  | '"' :: cs => some (before.reverse, cs)
  | '\\' :: 'u' :: a :: b :: c :: d :: cs => (hexFour? a b c d).bind fun n => scanString (n :: before) cs
  | '\\' :: c :: cs => (simpleEscape? c).bind fun e => scanString (e.toNat :: before) cs
  | c :: cs => if c.toNat < 32 || c == '\\' then none else scanString (c.toNat :: before) cs
  | [] => none

/-- The first half of a surrogate pair. -/
def isHighSurrogate (n : Nat) : Bool := 0xd800 ≤ n && n ≤ 0xdbff

/-- The second half of a surrogate pair. -/
def isLowSurrogate (n : Nat) : Bool := 0xdc00 ≤ n && n ≤ 0xdfff

/-- The characters of code points and surrogates, if each surrogate has its partner. -/
def joinSurrogates : List Nat → Option (List Char)
  | [] => some []
  | n :: ns =>
    if isHighSurrogate n then
      match ns with
      | low :: ns =>
        if isLowSurrogate low then
          (joinSurrogates ns).map (Char.ofNat (0x10000 + (n - 0xd800) * 1024 + (low - 0xdc00)) :: ·)
        else none
      | [] => none
    else if isLowSurrogate n then none
    else (joinSurrogates ns).map (Char.ofNat n :: ·)

/-! ## Numbers -/

/-- The digit that a character is. -/
def digitOf (c : Char) : Fin 10 := Fin.ofNat 10 (c.toNat - 48)

/-- The value of decimal digits. -/
def natOf (cs : List Char) : Nat :=
  cs.foldl (fun n c => n * 10 + (c.toNat - 48)) 0

/-- A sign, if one comes first, and what follows it. -/
def scanSign : List Char → Bool × List Char
  | '-' :: cs => (true, cs)
  | '+' :: cs => (false, cs)
  | cs => (false, cs)

/-- At least one digit, and what follows the digits. -/
def scanDigits (cs : List Char) : Option (List Char × List Char) :=
  if (cs.takeWhile Char.isDigit).isEmpty then none
  else some (cs.takeWhile Char.isDigit, cs.dropWhile Char.isDigit)

/-- Decimals, if a point comes first, and what follows them. -/
def scanDecimals : List Char → Option (List (Fin 10) × List Char)
  | '.' :: cs => (scanDigits cs).map fun (digits, rest) => (digits.map digitOf, rest)
  | cs => some ([], cs)

/-- An exponent, if an `e` comes first, and what follows it. -/
def scanExponent : List Char → Option (Option Int × List Char)
  | c :: cs =>
    if c == 'e' || c == 'E' then
      (scanDigits (scanSign cs).2).map fun (digits, rest) =>
        (some (if (scanSign cs).1 then -(natOf digits : Int) else natOf digits), rest)
    else some (none, c :: cs)
  | [] => some (none, [])

/-- A number without its sign, and what follows it. A whole part of several digits does not start with zero. -/
def scanNumeral (negative : Bool) (cs : List Char) : Option (Numeral × List Char) :=
  (scanDigits cs).bind fun (whole, cs) =>
    if whole.head? = some '0' ∧ whole.length ≠ 1 then none
    else
      (scanDecimals cs).bind fun (decimals, cs) =>
        (scanExponent cs).map fun (exponent, cs) => (⟨negative, natOf whole, decimals, exponent⟩, cs)

/-! ## Tokens -/

/-- The token of the literal `word`, whose first character has been read. -/
def scanLiteral (word : List Char) (token : Token) (cs : List Char) : Token × List Char :=
  if word.isPrefixOf cs then (token, cs.drop word.length) else (.malformed, [])

/-- The token that starts with `c`, and what follows it; nothing follows a malformed one. -/
def scanToken (c : Char) (cs : List Char) : Token × List Char :=
  match c with
  | '{' => (.openObject, cs)
  | '}' => (.closeObject, cs)
  | '[' => (.openArray, cs)
  | ']' => (.closeArray, cs)
  | ',' => (.comma, cs)
  | ':' => (.colon, cs)
  | 'n' => scanLiteral ['u', 'l', 'l'] .null cs
  | 't' => scanLiteral ['r', 'u', 'e'] (.bool true) cs
  | 'f' => scanLiteral ['a', 'l', 's', 'e'] (.bool false) cs
  | '"' =>
    match scanString [] cs with
    | some (units, cs) => (((joinSurrogates units).map (Token.string <| String.ofList ·)).getD .unpaired, cs)
    | none => (.malformed, [])
  | '-' => ((scanNumeral true cs).map fun (n, cs) => (.number n, cs)).getD (.malformed, [])
  | c => ((scanNumeral false (c :: cs)).map fun (n, cs) => (.number n, cs)).getD (.malformed, [])

theorem length_scanString_le {before units : List Nat} {cs rest : List Char}
    (h : scanString before cs = some (units, rest)) : rest.length ≤ cs.length := by
  fun_induction scanString before cs with
  | case1 => simp_all
  | case2 before a b c d cs ih =>
    obtain ⟨n, -, hn⟩ := Option.bind_eq_some_iff.1 h
    have := ih n hn
    simp only [List.length_cons]
    omega
  | case3 before c cs _ ih =>
    obtain ⟨e, -, he⟩ := Option.bind_eq_some_iff.1 h
    have := ih e he
    simp only [List.length_cons]
    omega
  | case4 => simp at h
  | case5 before c cs _ _ _ _ ih =>
    have := ih h
    simp only [List.length_cons]
    omega
  | case6 => simp at h

theorem length_scanSign_le (cs : List Char) : (scanSign cs).2.length ≤ cs.length := by
  unfold scanSign
  split <;> simp

theorem length_scanDigits_lt {cs digits rest : List Char} (h : scanDigits cs = some (digits, rest)) :
    rest.length < cs.length := by
  simp only [scanDigits] at h
  split at h
  · simp at h
  · rename_i nonempty
    simp only [Option.some.injEq, Prod.mk.injEq] at h
    have := congrArg List.length (List.takeWhile_append_dropWhile (p := Char.isDigit) (l := cs))
    have : 0 < (cs.takeWhile Char.isDigit).length := by
      rw [List.length_pos_iff]
      simpa using nonempty
    rw [List.length_append, h.2] at *
    omega

theorem length_scanDecimals_le {cs rest : List Char} {ds : List (Fin 10)} (h : scanDecimals cs = some (ds, rest)) :
    rest.length ≤ cs.length := by
  unfold scanDecimals at h
  split at h
  · obtain ⟨⟨digits, rest'⟩, hd, he⟩ := Option.map_eq_some_iff.1 h
    have := length_scanDigits_lt hd
    simp_all
    omega
  · simp_all

theorem length_scanExponent_le {cs rest : List Char} {e : Option Int} (h : scanExponent cs = some (e, rest)) :
    rest.length ≤ cs.length := by
  unfold scanExponent at h
  split at h
  · rename_i c cs
    split at h
    · obtain ⟨⟨digits, rest'⟩, hd, he⟩ := Option.map_eq_some_iff.1 h
      have := length_scanDigits_lt hd
      have := length_scanSign_le cs
      simp_all
      omega
    · simp_all
  · simp_all

/-- A number takes at least one character. -/
theorem length_scanNumeral_lt {negative : Bool} {cs rest : List Char} {n : Numeral}
    (h : scanNumeral negative cs = some (n, rest)) : rest.length < cs.length := by
  obtain ⟨⟨whole, cs₁⟩, h₁, h⟩ := Option.bind_eq_some_iff.1 h
  dsimp only at h
  split at h
  · cases h
  · obtain ⟨⟨ds, cs₂⟩, h₂, h⟩ := Option.bind_eq_some_iff.1 h
    obtain ⟨⟨e, cs₃⟩, h₃, h⟩ := Option.map_eq_some_iff.1 h
    have := length_scanDigits_lt h₁
    have := length_scanDecimals_le h₂
    have := length_scanExponent_le h₃
    have := congrArg List.length (Prod.mk.inj h).2
    dsimp only at *
    omega

theorem length_scanLiteral_le (word : List Char) (token : Token) (cs : List Char) :
    (scanLiteral word token cs).2.length ≤ cs.length := by
  unfold scanLiteral
  split <;> simp

/-- What follows a token is shorter than the text that starts with it. -/
theorem length_scanToken_le (c : Char) (cs : List Char) : (scanToken c cs).2.length ≤ cs.length := by
  unfold scanToken
  split
  all_goals try exact Nat.le_refl _
  all_goals try exact length_scanLiteral_le _ _ _
  · split
    · rename_i h
      exact length_scanString_le h
    · simp
  · cases h : scanNumeral true cs with
    | none => simp
    | some r => exact Nat.le_of_lt (length_scanNumeral_lt h)
  · cases h : scanNumeral false (c :: cs) with
    | none => simp
    | some r => exact Nat.le_of_lt_succ (length_scanNumeral_lt h)

/-- The tokens of a text. -/
def lex : List Char → List Token
  | [] => []
  | c :: cs =>
    if isGap c then lex cs
    else
      let next := scanToken c cs
      next.1 :: lex next.2
termination_by cs => cs.length
decreasing_by
  · exact Nat.lt_succ_self _
  · exact Nat.lt_succ_of_le (length_scanToken_le c cs)

end RecipeSearch.Json
