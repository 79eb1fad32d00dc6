import RecipeSearch.Json.Printer
import RecipeSearch.Text.Utf8

/-!
# Tokens of a text

A text lays out tokens (`Layout`) if it writes them one after the other, each in one of the ways in which it can be
written (`Token.Spells`), with as many blanks between them as one likes. **A text that lays out the tokens of a value is
cut into these tokens again** (`lex_layout`), however it is laid out. Each token is found from its own spelling
(`lex_spells`): a string because every way to write a character is read as that character (`scanString_append`), and a
number as long as what follows it does not go on with it (`EndsNumber`). The text that is written for a value is one of
its layouts (`layout_render`).
-/

namespace RecipeSearch.Json

open Text (hexText utf8)

/-! ## Strings -/

/-- The ways to write a character in a string: as itself, or escaped, by one character, by four digits of base sixteen,
or by four digits for each half of a surrogate pair. -/
inductive SpellsChar : Char → List Char → Prop
  | plain {c : Char} : 32 ≤ c.toNat → c ≠ '"' → c ≠ '\\' → SpellsChar c [c]
  | short {c x : Char} : simpleEscape? x = some c → SpellsChar c ['\\', x]
  | unit {c x y z w : Char} : hexFour? x y z w = some c.toNat → SpellsChar c ['\\', 'u', x, y, z, w]
  | pair {c x y z w x' y' z' w' : Char} {high low : Nat} :
      hexFour? x y z w = some high → hexFour? x' y' z' w' = some low →
      isHighSurrogate high = true → isLowSurrogate low = true →
      c.toNat = 0x10000 + (high - 0xd800) * 1024 + (low - 0xdc00) →
      SpellsChar c ['\\', 'u', x, y, z, w, '\\', 'u', x', y', z', w']

/-- The ways to write the characters of a string, one after the other. -/
inductive SpellsChars : List Char → List Char → Prop
  | nil : SpellsChars [] []
  | cons {c : Char} {cs written rest : List Char} :
      SpellsChar c written → SpellsChars cs rest → SpellsChars (c :: cs) (written ++ rest)

section Strings

variable {c : Char} {cs written : List Char}

/-- Code points are no surrogates. -/
theorem joinSurrogates_toNat_cons (c : Char) (units : List Nat) :
    joinSurrogates (c.toNat :: units) = (joinSurrogates units).map (c :: ·) := by
  have hvalid : c.toNat < 0xd800 ∨ 0xdfff < c.toNat ∧ c.toNat < 0x110000 := c.valid
  have hhigh : ¬ isHighSurrogate c.toNat = true := by simp [isHighSurrogate]; omega
  have hlow : ¬ isLowSurrogate c.toNat = true := by simp [isLowSurrogate]; omega
  rw [joinSurrogates.eq_def]
  simp only [if_neg hhigh, if_neg hlow, Char.ofNat_toNat]

theorem joinSurrogates_pair {high low : Nat} (hhigh : isHighSurrogate high = true) (hlow : isLowSurrogate low = true)
    (hc : c.toNat = 0x10000 + (high - 0xd800) * 1024 + (low - 0xdc00)) (units : List Nat) :
    joinSurrogates (high :: low :: units) = (joinSurrogates units).map (c :: ·) := by
  rw [joinSurrogates, if_pos hhigh, if_pos hlow, ← hc, Char.ofNat_toNat]

theorem scanString_unit {x y z w : Char} {n : Nat} (h : hexFour? x y z w = some n) (before : List Nat)
    (rest : List Char) :
    scanString before ('\\' :: 'u' :: x :: y :: z :: w :: rest) = scanString (n :: before) rest := by
  rw [scanString, h, Option.bind_some]

theorem scanString_short {x : Char} (h : simpleEscape? x = some c) (before : List Nat) (rest : List Char) :
    scanString before ('\\' :: x :: rest) = scanString (c.toNat :: before) rest := by
  rw [scanString, h, Option.bind_some]
  rintro a b d e cs rfl
  cases h

theorem scanString_plain (hle : 32 ≤ c.toNat) (hquote : c ≠ '"') (hback : c ≠ '\\') (before : List Nat)
    (rest : List Char) : scanString before (c :: rest) = scanString (c.toNat :: before) rest := by
  have hnot : ¬ (decide (c.toNat < 32) || c == '\\') = true := by simp [hback]; omega
  rw [scanString, if_neg hnot]
  · exact hquote
  · intro x y z w cs h
    exact absurd h hback
  · intro x cs h
    exact absurd h hback

/-- A character is read as itself from each way to write it. -/
theorem SpellsChar.scan (h : SpellsChar c written) :
    ∃ units : List Nat,
      (∀ before rest, scanString before (written ++ rest) = scanString (units.reverse ++ before) rest) ∧
        ∀ more, joinSurrogates (units ++ more) = (joinSurrogates more).map (c :: ·) := by
  cases h with
  | plain hle hquote hback =>
    exact ⟨[c.toNat], scanString_plain hle hquote hback, joinSurrogates_toNat_cons c⟩
  | short hx => exact ⟨[c.toNat], scanString_short hx, joinSurrogates_toNat_cons c⟩
  | unit hfour => exact ⟨[c.toNat], scanString_unit hfour, joinSurrogates_toNat_cons c⟩
  | @pair _ _ _ _ _ _ _ _ high low hhigh hlow hhigh' hlow' hc =>
    refine ⟨[high, low], fun before rest => ?_, joinSurrogates_pair hhigh' hlow' hc⟩
    exact (scanString_unit hhigh before _).trans (scanString_unit hlow (high :: before) rest)

/-- **A string is read as its characters** from each way to write them. -/
theorem SpellsChars.scan (h : SpellsChars cs written) :
    ∃ units : List Nat, joinSurrogates units = some cs ∧
      ∀ before rest, scanString before (written ++ '"' :: rest) = some (before.reverse ++ units, rest) := by
  induction h with
  | nil => exact ⟨[], rfl, fun before rest => by simp [scanString]⟩
  | @cons c cs written rest hc _ ih =>
    obtain ⟨units, hunits, hscan⟩ := ih
    obtain ⟨first, hfirst, hjoin⟩ := hc.scan
    refine ⟨first ++ units, by rw [hjoin, hunits, Option.map_some], fun before more => ?_⟩
    rw [List.append_assoc, hfirst, hscan, List.reverse_append, List.reverse_reverse, List.append_assoc]

/-- Only controls, quotes and backslashes are escaped. -/
theorem escapeChar_eq_self (h : 32 ≤ c.toNat) (hquote : c ≠ '"') (hback : c ≠ '\\') : escapeChar c = [c] := by
  unfold escapeChar
  split
  case h_8 => rw [if_neg (by omega), if_neg (by omega)]
  case h_1 => exact absurd rfl hquote
  case h_2 => exact absurd rfl hback
  all_goals exact absurd h (by decide)

/-- A character is written as itself, or in at most six bytes. -/
theorem escapeChar_eq_self_or (c : Char) : escapeChar c = [c] ∨ (utf8 (escapeChar c)).length ≤ 6 := by
  by_cases hc : c.toNat < 32
  · have hcontrol : ∀ n < 32, (utf8 (escapeChar (Char.ofNat n))).length ≤ 6 := by decide
    have h := hcontrol c.toNat hc
    rw [Char.ofNat_toNat] at h
    exact .inr h
  · by_cases hquote : c = '"'
    · subst hquote
      exact .inr (by decide)
    by_cases hback : c = '\\'
    · subst hback
      exact .inr (by decide)
    exact .inl (escapeChar_eq_self (Nat.le_of_not_lt hc) hquote hback)

theorem spellsChar_escapeChar (c : Char) : SpellsChar c (escapeChar c) := by
  have hshort : ∀ n < 16, hexText n = [Nat.digitChar n] ∧ hexFour? '0' '0' '0' (Nat.digitChar n) = some n := by
    decide
  have hlong : ∀ n < 32, 16 ≤ n → hexText n = ['1', Nat.digitChar (n % 16)] ∧
      hexFour? '0' '0' '1' (Nat.digitChar (n % 16)) = some n := by
    decide
  unfold escapeChar
  split
  case h_8 =>
    split
    · next h =>
      obtain ⟨htext, hfour⟩ := hshort c.toNat h
      rw [htext]
      exact .unit hfour
    · next h =>
      split
      · next h' =>
        obtain ⟨htext, hfour⟩ := hlong c.toNat h' (Nat.le_of_not_lt h)
        rw [htext]
        exact .unit hfour
      · exact .plain (by omega) (by assumption) (by assumption)
  all_goals exact .short rfl

theorem spellsChars_flatMap (cs : List Char) : SpellsChars cs (cs.flatMap escapeChar) := by
  induction cs with
  | nil => exact .nil
  | cons c cs ih =>
    rw [List.flatMap_cons]
    exact .cons (spellsChar_escapeChar c) ih

end Strings

/-! ## Numbers -/

/-- The ways to write an exponent: after a mark in either case, with or without a plus sign, and with zeros before its
digits. -/
inductive SpellsExponent : Option Int → List Char → Prop
  | absent : SpellsExponent none []
  | present {mark : Char} {sign digits : List Char} :
      mark = 'e' ∨ mark = 'E' → sign = [] ∨ sign = ['+'] ∨ sign = ['-'] →
      digits ≠ [] → (∀ c ∈ digits, c.isDigit = true) →
      SpellsExponent (some (if sign = ['-'] then -(natOf digits : Int) else natOf digits)) (mark :: (sign ++ digits))

/-- The ways to write a number, which differ in the exponent. -/
def SpellsNumber (n : Numeral) (written : List Char) : Prop :=
  ∃ exponent, SpellsExponent n.exponent exponent ∧ written = { n with exponent := none }.text ++ exponent

/-- The text does not start with a digit. -/
def EndsDigits (rest : List Char) : Prop :=
  ∀ c cs, rest = c :: cs → c.isDigit = false

/-- The text does not start with a character with which a number could go on. -/
def EndsNumber (rest : List Char) : Prop :=
  ∀ c cs, rest = c :: cs → c.isDigit = false ∧ c ≠ '.' ∧ c ≠ 'e' ∧ c ≠ 'E'

theorem endsNumber_nil : EndsNumber [] := nofun

theorem endsNumber_cons {c : Char} {cs : List Char}
    (h : c.isDigit = false ∧ c ≠ '.' ∧ c ≠ 'e' ∧ c ≠ 'E') : EndsNumber (c :: cs) := by
  rintro _ _ ⟨⟩
  exact h

theorem EndsNumber.endsDigits {rest : List Char} (h : EndsNumber rest) : EndsDigits rest := fun c cs heq =>
  (h c cs heq).1

section Number

variable {rest : List Char}

theorem scanDigits_append {digits : List Char} (hne : digits ≠ []) (hdigits : ∀ c ∈ digits, c.isDigit = true)
    (hrest : EndsDigits rest) : scanDigits (digits ++ rest) = some (digits, rest) := by
  have hstop : rest.takeWhile Char.isDigit = [] ∧ rest.dropWhile Char.isDigit = rest := by
    cases rest with
    | nil => exact ⟨rfl, rfl⟩
    | cons c cs =>
      have hc := hrest c cs rfl
      exact ⟨List.takeWhile_cons_of_neg (by simp [hc]), List.dropWhile_cons_of_neg (by simp [hc])⟩
  rw [scanDigits, List.takeWhile_append_of_pos hdigits, List.dropWhile_append_of_pos hdigits, hstop.1, hstop.2,
    List.append_nil, if_neg (by simpa using hne)]

theorem digitOf_digitChar (d : Fin 10) : digitOf (Numeral.digitChar d) = d ∧ (Numeral.digitChar d).isDigit = true := by
  revert d
  decide

/-- Decimals are read from their digits after a point. -/
theorem scanDecimals_append (decimals : List (Fin 10)) (hrest : EndsDigits rest) (hpoint : ∀ cs, rest ≠ '.' :: cs) :
    scanDecimals ((if decimals.isEmpty then [] else '.' :: decimals.map Numeral.digitChar) ++ rest) =
      some (decimals, rest) := by
  cases decimals with
  | nil =>
    rw [List.isEmpty_nil, if_pos rfl, List.nil_append]
    unfold scanDecimals
    split
    · next cs => exact absurd rfl (hpoint cs)
    · rfl
  | cons d ds =>
    have hdigits : ∀ c ∈ (d :: ds).map Numeral.digitChar, c.isDigit = true := by
      intro c hc
      obtain ⟨d', -, rfl⟩ := List.mem_map.1 hc
      exact (digitOf_digitChar d').2
    have hback : ((d :: ds).map Numeral.digitChar).map digitOf = d :: ds := by
      have hsame : digitOf ∘ Numeral.digitChar = id := funext fun d' => (digitOf_digitChar d').1
      rw [List.map_map, hsame, List.map_id]
    have hne : (d :: ds).map Numeral.digitChar ≠ [] := List.cons_ne_nil _ _
    have hscan := scanDigits_append hne hdigits hrest
    rw [List.isEmpty_cons, if_neg Bool.false_ne_true, List.cons_append, scanDecimals, hscan, Option.map_some]
    exact congrArg (fun ds => some (ds, rest)) hback

theorem scanSign_append {sign digits : List Char} (hsign : sign = [] ∨ sign = ['+'] ∨ sign = ['-']) (hne : digits ≠ [])
    (hdigits : ∀ c ∈ digits, c.isDigit = true) (rest : List Char) :
    scanSign (sign ++ digits ++ rest) = (decide (sign = ['-']), digits ++ rest) := by
  obtain ⟨c, cs, rfl⟩ := List.exists_cons_of_ne_nil hne
  have hc := hdigits c List.mem_cons_self
  rcases hsign with rfl | rfl | rfl
  · have hminus : c ≠ '-' := by rintro rfl; cases hc
    have hplus : c ≠ '+' := by rintro rfl; cases hc
    simp [scanSign, hminus, hplus]
  · rfl
  · rfl

/-- An exponent is read from each way to write it. -/
theorem SpellsExponent.scan {exponent : Option Int} {written : List Char} (h : SpellsExponent exponent written)
    (hrest : EndsNumber rest) : scanExponent (written ++ rest) = some (exponent, rest) := by
  cases h with
  | absent =>
    cases rest with
    | nil => rfl
    | cons c cs =>
      obtain ⟨-, -, hlower, hupper⟩ := hrest c cs rfl
      rw [List.nil_append, scanExponent, if_neg (by simp [hlower, hupper])]
  | @present mark sign digits hmark hsign hne hdigits =>
    have hscan := scanSign_append hsign hne hdigits rest
    have hmark' : (mark == 'e' || mark == 'E') = true := by simpa using hmark
    rw [List.cons_append, scanExponent, if_pos hmark', hscan, scanDigits_append hne hdigits hrest.endsDigits,
      Option.map_some]
    simp only [decide_eq_true_eq]

/-- An exponent starts with its mark. -/
theorem SpellsExponent.append_cases {exponent : Option Int} {written : List Char} (h : SpellsExponent exponent written)
    (hrest : EndsNumber rest) : EndsDigits (written ++ rest) ∧ ∀ cs, written ++ rest ≠ '.' :: cs := by
  cases h with
  | absent => exact ⟨hrest.endsDigits, fun cs heq => (hrest '.' cs heq).2.1 rfl⟩
  | present hmark =>
    rcases hmark with rfl | rfl
    · exact ⟨by rintro _ _ ⟨⟩; rfl, nofun⟩
    · exact ⟨by rintro _ _ ⟨⟩; rfl, nofun⟩

theorem natOf_toDigits (n : Nat) : natOf (Nat.toDigits 10 n) = n := by
  have hstep : (fun (n : Nat) (c : Char) => n * 10 + (c.toNat - 48)) = fun n c => 10 * n + (c.toNat - '0'.toNat) := by
    funext n c
    rw [Nat.mul_comm]
    rfl
  rw [natOf, hstep]
  exact Nat.ofDigitChars_ten_toDigits

theorem isDigit_toDigits (n : Nat) : ∀ c ∈ Nat.toDigits 10 n, c.isDigit = true := fun _ hc =>
  Nat.isDigit_of_mem_toDigits (by decide) (by decide) hc

/-- No other number than zero starts with the digit zero. -/
theorem head?_toDigits_ne {n : Nat} (h : 0 < n) : (Nat.toDigits 10 n).head? ≠ some '0' := by
  induction n using Nat.strongRecOn with
  | _ n ih =>
    rw [Nat.toDigits_eq_if (by decide)]
    split
    · next hn =>
      have hdigit : ∀ n < 10, 0 < n → Nat.digitChar n ≠ '0' := by decide
      rw [List.head?_cons, ne_eq, Option.some.injEq]
      exact hdigit n hn h
    · next hn =>
      have hhead := ih (n / 10) (by omega) (by omega)
      rwa [List.head?_append, Option.or_of_isSome (by simp [Nat.toDigits_ne_nil])]

/-- A number without its sign is read from its digits, decimals and exponent. -/
theorem scanNumeral_append (n : Numeral) {exponent : List Char} (hexponent : SpellsExponent n.exponent exponent)
    (hrest : EndsNumber rest) :
    scanNumeral n.negative (Nat.toDigits 10 n.whole ++
      ((if n.decimals.isEmpty then [] else '.' :: n.decimals.map Numeral.digitChar) ++ (exponent ++ rest))) =
        some (n, rest) := by
  have hzero : ¬ ((Nat.toDigits 10 n.whole).head? = some '0' ∧ (Nat.toDigits 10 n.whole).length ≠ 1) := by
    rintro ⟨hhead, hlength⟩
    rcases Nat.eq_zero_or_pos n.whole with hwhole | hpos
    · rw [hwhole] at hlength
      exact hlength rfl
    · exact head?_toDigits_ne hpos hhead
  obtain ⟨hdigits, hpoint⟩ := hexponent.append_cases hrest
  have hends : EndsDigits ((if n.decimals.isEmpty then [] else '.' :: n.decimals.map Numeral.digitChar) ++
      (exponent ++ rest)) := by
    split
    · exact hdigits
    · rintro _ _ ⟨⟩
      rfl
  rw [scanNumeral, scanDigits_append Nat.toDigits_ne_nil (isDigit_toDigits _) hends]
  simp only [Option.bind_some, if_neg hzero]
  rw [scanDecimals_append _ hdigits hpoint, Option.bind_some, hexponent.scan hrest, Option.map_some, natOf_toDigits]

theorem spellsExponent_digits (e : Nat) : SpellsExponent (some (.ofNat e)) ('e' :: Nat.toDigits 10 e) := by
  have h := SpellsExponent.present (.inl rfl) (.inl rfl) Nat.toDigits_ne_nil (isDigit_toDigits e)
  rwa [natOf_toDigits] at h

theorem spellsExponent_minus (e : Nat) :
    SpellsExponent (some (.negSucc e)) ('e' :: '-' :: Nat.toDigits 10 (e + 1)) := by
  have h := SpellsExponent.present (.inl rfl) (.inr (.inr rfl)) Nat.toDigits_ne_nil (isDigit_toDigits (e + 1))
  rwa [natOf_toDigits] at h

theorem spellsNumber_text (n : Numeral) : SpellsNumber n n.text := by
  obtain ⟨negative, whole, decimals, exponent⟩ := n
  rcases exponent with _ | e | e
  · exact ⟨[], .absent, (List.append_nil _).symm⟩
  · exact ⟨_, spellsExponent_digits e, by simp [Numeral.text]⟩
  · exact ⟨_, spellsExponent_minus e, by simp [Numeral.text]⟩

end Number

/-! ## Tokens -/

namespace Token

/-- The ways to write a token. -/
def Spells : Token → List Char → Prop
  | .number n, written => SpellsNumber n written
  | .string s, written => ∃ inner, SpellsChars s.toList inner ∧ written = '"' :: inner ++ ['"']
  | .unpaired, _ => False
  | .malformed, _ => False
  | t, written => written = t.text

end Token

theorem isGap_iff {c : Char} : isGap c = true ↔ c = ' ' ∨ c = '\n' ∨ c = '\t' ∨ c = '\r' := by
  simp [isGap, or_assoc]

theorem lex_gap {gap : List Char} (h : ∀ c ∈ gap, isGap c = true) (rest : List Char) :
    lex (gap ++ rest) = lex rest := by
  induction gap with
  | nil => rfl
  | cons c gap ih =>
    rw [List.cons_append, lex, if_pos (h c List.mem_cons_self), ih fun d hd => h d (List.mem_cons_of_mem _ hd)]

/-- Blanks do not go on with a number. -/
theorem EndsNumber.gap_append {gap rest : List Char} (h : ∀ c ∈ gap, isGap c = true) (hrest : EndsNumber rest) :
    EndsNumber (gap ++ rest) := by
  cases gap with
  | nil => exact hrest
  | cons c gap =>
    refine endsNumber_cons ?_
    rcases isGap_iff.1 (h c List.mem_cons_self) with rfl | rfl | rfl | rfl <;> decide

theorem lex_cons {c : Char} {cs rest : List Char} {t : Token} (hgap : isGap c = false)
    (h : scanToken c cs = (t, rest)) : lex (c :: cs) = t :: lex rest := by
  rw [lex, if_neg (by simp [hgap]), h]

theorem scanToken_of_isDigit {c : Char} (hc : c.isDigit = true) (cs : List Char) :
    scanToken c cs = ((scanNumeral false (c :: cs)).map fun (n, cs) => (.number n, cs)).getD (.malformed, []) := by
  unfold scanToken
  split
  case h_12 => rfl
  all_goals cases hc

theorem isGap_of_isDigit {c : Char} (hc : c.isDigit = true) : isGap c = false := by
  rw [Bool.eq_false_iff, ne_eq, isGap_iff]
  rintro (rfl | rfl | rfl | rfl) <;> cases hc

/-- A number is found from each way to write it. -/
theorem lex_number {n : Numeral} {written rest : List Char} (h : SpellsNumber n written) (hrest : EndsNumber rest) :
    lex (written ++ rest) = .number n :: lex rest := by
  obtain ⟨exponent, hexponent, rfl⟩ := h
  have hscan := scanNumeral_append n hexponent hrest
  have htext : { n with exponent := none }.text ++ exponent ++ rest =
      (if n.negative then ['-'] else []) ++ (Nat.toDigits 10 n.whole ++
        ((if n.decimals.isEmpty then [] else '.' :: n.decimals.map Numeral.digitChar) ++ (exponent ++ rest))) := by
    simp [Numeral.text]
  rw [htext]
  cases hnegative : n.negative with
  | true =>
    rw [hnegative] at hscan
    rw [if_pos rfl, List.singleton_append]
    refine lex_cons rfl ?_
    simp only [scanToken, hscan, Option.map_some, Option.getD_some]
  | false =>
    rw [hnegative] at hscan
    rw [if_neg Bool.false_ne_true, List.nil_append]
    obtain ⟨c, cs, hwhole⟩ := List.exists_cons_of_ne_nil (Nat.toDigits_ne_nil (b := 10) (n := n.whole))
    have hc : c.isDigit = true := isDigit_toDigits n.whole c (hwhole ▸ List.mem_cons_self)
    rw [hwhole, List.cons_append] at hscan ⊢
    refine lex_cons (isGap_of_isDigit hc) ?_
    rw [scanToken_of_isDigit hc, hscan, Option.map_some, Option.getD_some]

/-- A string is found from each way to write it. -/
theorem lex_string {s : String} {inner : List Char} (h : SpellsChars s.toList inner) (rest : List Char) :
    lex ('"' :: inner ++ ['"'] ++ rest) = .string s :: lex rest := by
  obtain ⟨units, hunits, hscan⟩ := h.scan
  have htext : '"' :: inner ++ ['"'] ++ rest = '"' :: (inner ++ '"' :: rest) := by simp
  rw [htext]
  refine lex_cons rfl ?_
  simp [scanToken, hscan, hunits]

/-- **A token is found from each way to write it**, if it is no number that what follows goes on with. -/
theorem lex_spells {t : Token} {written : List Char} (h : t.Spells written) {rest : List Char}
    (hrest : ∀ n, t = .number n → EndsNumber rest) : lex (written ++ rest) = t :: lex rest := by
  cases t with
  | number n => exact lex_number h (hrest n rfl)
  | string s =>
    obtain ⟨inner, hinner, rfl⟩ := h
    exact lex_string hinner rest
  | unpaired => cases h
  | malformed => cases h
  | bool b => subst h; cases b <;> exact lex_cons rfl rfl
  | _ => subst h; exact lex_cons rfl rfl

/-! ## Layouts -/

/-- The text writes the tokens one after the other, with blanks before, between and after them. -/
inductive Layout : List Token → List Char → Prop
  | nil {gap : List Char} : (∀ c ∈ gap, isGap c = true) → Layout [] gap
  | cons {gap written rest : List Char} {t : Token} {ts : List Token} :
      (∀ c ∈ gap, isGap c = true) → t.Spells written → Layout ts rest → Layout (t :: ts) (gap ++ written ++ rest)

theorem Layout.of_append : ∀ {ts us : List Token} {text : List Char}, Layout (ts ++ us) text →
    ∃ front back, text = front ++ back ∧ Layout ts front ∧ Layout us back
  | [], _, text, h => ⟨[], text, rfl, .nil (by simp), h⟩
  | _ :: _, _, _, .cons hgap ht h => by
    obtain ⟨front, back, rfl, hfront, hback⟩ := of_append h
    exact ⟨_, back, (List.append_assoc _ _ _).symm, .cons hgap ht hfront, hback⟩

/-- Laid out in any way, the tokens are found again in front of any text that goes on with no number. -/
def Legible (ts : List Token) : Prop :=
  ∀ text rest, Layout ts text → EndsNumber rest → lex (text ++ rest) = ts ++ lex rest

theorem legible_nil : Legible [] := by
  rintro text rest (hgap | _) -
  exact lex_gap hgap rest

theorem legible_singleton (t : Token) : Legible [t] := by
  rintro _ rest (_ | ⟨hgap, ht, (hgap' | _)⟩) hrest
  rw [List.append_assoc, List.append_assoc, lex_gap hgap, lex_spells ht fun _ _ => hrest.gap_append hgap',
    lex_gap hgap', List.singleton_append]

/-- A token that is no number, and tokens after it. -/
theorem Legible.cons {t : Token} {ts : List Token} (h : Legible ts) (hne : ∀ n, t ≠ .number n) :
    Legible (t :: ts) := by
  rintro _ rest (_ | ⟨hgap, ht, hts⟩) hrest
  rw [List.append_assoc, List.append_assoc, lex_gap hgap, lex_spells ht fun n heq => absurd heq (hne n),
    h _ rest hts hrest, List.cons_append]

/-- Tokens on both sides of a comma or a closing bracket. -/
theorem Legible.append_cons {ts us : List Token} (h : Legible ts) {t : Token}
    (ht : t = .comma ∨ t = .closeArray ∨ t = .closeObject) (h' : Legible us) : Legible (ts ++ t :: us) := by
  intro text rest htext hrest
  have hus : Legible (t :: us) := by
    rcases ht with rfl | rfl | rfl <;> exact h'.cons nofun
  obtain ⟨front, back, rfl, hfront, hback⟩ := htext.of_append
  have hends : EndsNumber (back ++ rest) := by
    obtain _ | ⟨hgap, hwritten, -⟩ := hback
    rw [List.append_assoc, List.append_assoc]
    refine EndsNumber.gap_append hgap ?_
    rcases ht with rfl | rfl | rfl <;> subst hwritten <;> exact endsNumber_cons (by decide)
  rw [List.append_assoc, h _ _ hfront hends, hus _ _ hback hrest, List.append_assoc]

/-- The name of a member, and tokens after it. -/
theorem Legible.member {ts : List Token} (h : Legible ts) (name : String) :
    Legible (.string name :: .colon :: ts) := by
  have hcolon : Legible (.colon :: ts) := h.cons nofun
  exact hcolon.cons nofun

mutual

theorem legible_tokens : ∀ v : Json, Legible (tokens v)
  | .null | .bool _ | .number _ | .string _ => legible_singleton _
  | .array items => by
    have hitems : Legible (tokensOfItems items) := legible_tokensOfItems items
    exact (hitems.append_cons (.inr (.inl rfl)) legible_nil).cons nofun
  | .object members => by
    have hmembers : Legible (tokensOfMembers members) := legible_tokensOfMembers members
    exact (hmembers.append_cons (.inr (.inr rfl)) legible_nil).cons nofun

theorem legible_tokensOfItems : ∀ items : List Json, Legible (tokensOfItems items)
  | [] => legible_nil
  | [v] => legible_tokens v
  | v :: w :: items => by
    have hv : Legible (tokens v) := legible_tokens v
    have hrest : Legible (tokensOfItems (w :: items)) := legible_tokensOfItems (w :: items)
    exact hv.append_cons (.inl rfl) hrest

theorem legible_tokensOfMembers : ∀ members : List (String × Json), Legible (tokensOfMembers members)
  | [] => legible_nil
  | [(name, v)] => by
    have hv : Legible (tokens v) := legible_tokens v
    exact hv.member name
  | (name, v) :: m :: members => by
    have hv : Legible (tokens v) := legible_tokens v
    have hrest : Legible (tokensOfMembers (m :: members)) := legible_tokensOfMembers (m :: members)
    exact (hv.append_cons (.inl rfl) hrest).member name

end

/-- **A text that lays out a value is cut into the tokens of the value.** -/
theorem lex_layout {v : Json} {text : List Char} (h : Layout v.tokens text) : lex text = v.tokens := by
  have hlex := legible_tokens v text [] h endsNumber_nil
  rwa [List.append_nil, lex, List.append_nil] at hlex

/-! ## The text that is written -/

theorem spells_string (s : String) : (Token.string s).Spells (Token.string s).text :=
  ⟨_, spellsChars_flatMap s.toList, rfl⟩

mutual

/-- Each token of a value is spelled by its own text. -/
theorem spells_text : ∀ v : Json, ∀ t ∈ tokens v, t.Spells t.text
  | .null | .bool _ => List.forall_mem_singleton.2 rfl
  | .number n => List.forall_mem_singleton.2 (spellsNumber_text n)
  | .string s => List.forall_mem_singleton.2 (spells_string s)
  | .array items => by
    rw [tokens, List.forall_mem_append, List.forall_mem_cons, List.forall_mem_singleton]
    exact ⟨⟨rfl, spells_text_items items⟩, rfl⟩
  | .object members => by
    rw [tokens, List.forall_mem_append, List.forall_mem_cons, List.forall_mem_singleton]
    exact ⟨⟨rfl, spells_text_members members⟩, rfl⟩

theorem spells_text_items : ∀ items : List Json, ∀ t ∈ tokensOfItems items, t.Spells t.text
  | [] => nofun
  | [v] => spells_text v
  | v :: w :: items => by
    rw [tokensOfItems, List.forall_mem_append, List.forall_mem_cons]
    · exact ⟨spells_text v, rfl, spells_text_items (w :: items)⟩
    · nofun

theorem spells_text_members : ∀ members : List (String × Json), ∀ t ∈ tokensOfMembers members, t.Spells t.text
  | [] => nofun
  | [(name, v)] => by
    rw [tokensOfMembers, List.forall_mem_cons, List.forall_mem_cons]
    exact ⟨spells_string name, rfl, spells_text v⟩
  | (name, v) :: m :: members => by
    rw [tokensOfMembers, List.forall_mem_append, List.forall_mem_cons, List.forall_mem_cons, List.forall_mem_cons]
    · exact ⟨⟨spells_string name, rfl, spells_text v⟩, rfl, spells_text_members (m :: members)⟩
    · nofun

end

theorem layout_text {gap : List Char} (hgap : ∀ c ∈ gap, isGap c = true) {ts : List Token}
    (h : ∀ t ∈ ts, t.Spells t.text) : Layout ts (ts.flatMap fun t => gap ++ t.text) := by
  induction ts with
  | nil => exact .nil nofun
  | cons t ts ih =>
    rw [List.flatMap_cons]
    exact .cons hgap (h t List.mem_cons_self) (ih fun u hu => h u (List.mem_cons_of_mem _ hu))

/-- **The text that is written for a value lays it out**, without any blanks. -/
theorem layout_render (v : Json) : Layout v.tokens (render v).toList := by
  rw [render, String.toList_ofList]
  have hgap : ∀ c ∈ ([] : List Char), isGap c = true := nofun
  exact layout_text hgap (spells_text v)

end RecipeSearch.Json
