import Mathlib.Data.List.TakeWhile
import Mathlib.Data.Option.Basic
import RecipeSearch.Proofs.Text.Replace
import RecipeSearch.Query.Clause

/-!
# What the rows for NOT make of a text

A negation is NOT, in any case, some blanks, and a tail that begins with a token (`IsNegation`). Each of the two rules
recognises negations only, and which of them follows from the tail and the number of blanks before it
(`notGroupRule_eq_some_iff`, `notTokenRule_eq_some_iff`). The rule for tokens is a search that gives back blanks until
it can read one character other than a parenthesis, blank or not, and a token (`notTokenRule_eq_giveBack?`).

Both rows write `NOT` in capitals and shorten the blanks behind it to one space, or shorten the first of them only.
`Tidied` says this of two texts, whichever row it was and wherever the letters stand; all else is kept as it is.
-/

namespace RecipeSearch.Query

open Text

/-! ## Negations -/

/-- The token that a text begins with, if it does not begin with a blank. -/
def firstToken (cs : List Char) : List Char :=
  cs.takeWhile (!isBlank ·)

/-- The token that the text begins with keeps a blank before it: it is opened by a parenthesis, or is a single
character. -/
def keepsBlank (cs : List Char) : Bool :=
  cs.head? == some '(' || (firstToken cs).length == 1

/-- The text is NOT, in any case, some blanks, and a tail that begins with a token. -/
structure IsNegation (cs letters gap tail : List Char) : Prop where
  text : cs = letters ++ (gap ++ tail)
  spelled : isKeyword "not" letters = true
  gap_ne_nil : gap ≠ []
  blank : ∀ g ∈ gap, isBlank g = true
  token : tail.head?.any (!isBlank ·) = true

section Negation

variable {cs rest letters gap tail : List Char}

theorem afterNot?_eq_some {cs rest : List Char} (h : afterNot? cs = some rest) :
    ∃ n o t, cs = n :: o :: t :: rest ∧ isKeyword "not" [n, o, t] = true := by
  unfold afterNot? at h
  split at h
  · next n o t rest' =>
    split at h
    · next hnot =>
      cases h
      exact ⟨n, o, t, rfl, hnot⟩
    · cases h
  · cases h

/-- The longest front of a text in a class, and what follows it. -/
theorem takeWhile_append_drop (p : Char → Bool) (cs : List Char) :
    cs.takeWhile p ++ cs.drop (cs.takeWhile p).length = cs :=
  List.prefix_iff_eq_append.1 (List.takeWhile_prefix p)

/-- What follows the longest front in a class does not begin with a member of it. -/
theorem head?_drop_takeWhile (p : Char → Bool) (cs : List Char) :
    (cs.drop (cs.takeWhile p).length).head?.any p = false := by
  have hdrop : cs.drop (cs.takeWhile p).length = cs.dropWhile p :=
    List.append_cancel_left ((takeWhile_append_drop p cs).trans (List.takeWhile_append_dropWhile ..).symm)
  have hhead := List.head?_dropWhile_not p cs
  rw [hdrop]
  cases hd : cs.dropWhile p with
  | nil => rfl
  | cons c ds => simpa [hd] using hhead

theorem exists_letters (h : isKeyword "not" letters = true) : ∃ n o t, letters = [n, o, t] := by
  have hlength : letters.length = 3 := by
    rw [← List.length_map foldLetter, isKeyword_iff.1 h]
    rfl
  match letters, hlength with
  | [n, o, t], _ => exact ⟨n, o, t, rfl⟩

theorem afterNot?_append (h : isKeyword "not" letters = true) (rest : List Char) :
    afterNot? (letters ++ rest) = some rest := by
  obtain ⟨n, o, t, rfl⟩ := exists_letters h
  show (if isKeyword "not" [n, o, t] then some rest else none) = some rest
  rw [if_pos h]

theorem head?_any_not (cs : List Char) : cs.head?.any (!isBlank ·) = true → cs.head?.any isBlank = false := by
  cases cs <;> simp

/-- A front in a class, behind which the class ends. -/
theorem takeWhile_append_of_head? {p : Char → Bool} {xs ys : List Char} (hx : ∀ c ∈ xs, p c = true)
    (hy : ys.head?.any p = false) : (xs ++ ys).takeWhile p = xs := by
  have hnone : ys.takeWhile p = [] := by
    cases ys with
    | nil => rfl
    | cons c ys => exact List.takeWhile_cons_of_neg (by simpa using hy)
  rw [List.takeWhile_append_of_pos hx, hnone, List.append_nil]

theorem IsNegation.takeWhile_gap (h : IsNegation cs letters gap tail) : (gap ++ tail).takeWhile isBlank = gap :=
  takeWhile_append_of_head? h.blank (head?_any_not tail h.token)

/-- What is left of a negation behind its blanks. -/
theorem IsNegation.drop (h : IsNegation cs letters gap tail) (n : Nat) :
    cs.drop (3 + gap.length + n) = tail.drop n := by
  obtain ⟨n', o, t, rfl⟩ := exists_letters h.spelled
  rw [h.text, Nat.add_assoc, ← List.drop_drop, ← List.drop_drop]
  exact congrArg (List.drop n) List.drop_left

/-- A text is a negation in one way only. -/
theorem IsNegation.unique {letters' gap' tail' : List Char} (h : IsNegation cs letters gap tail)
    (h' : IsNegation cs letters' gap' tail') : letters = letters' ∧ gap = gap' ∧ tail = tail' := by
  have hafter := afterNot?_append h.spelled (gap ++ tail)
  rw [← h.text, h'.text, afterNot?_append h'.spelled, Option.some.injEq] at hafter
  have hgap : gap' = gap := by rw [← h.takeWhile_gap, ← hafter, h'.takeWhile_gap]
  have htext : letters ++ (gap ++ tail) = letters' ++ (gap ++ tail) := by rw [← h.text, h'.text, hafter]
  subst hgap
  exact ⟨List.append_cancel_right htext, rfl, (List.append_cancel_left hafter).symm⟩

/-- A text that begins with NOT and blanks is a negation if anything stands behind these. -/
theorem isNegation_of_afterNot? (h : afterNot? cs = some rest) (hgap : rest.takeWhile isBlank ≠ [])
    (htail : rest.drop (rest.takeWhile isBlank).length ≠ []) :
    ∃ letters, IsNegation cs letters (rest.takeWhile isBlank) (rest.drop (rest.takeWhile isBlank).length) := by
  obtain ⟨n, o, t, rfl, hnot⟩ := afterNot?_eq_some h
  refine ⟨[n, o, t], ?_, hnot, hgap, fun g hg => List.mem_takeWhile_imp hg, ?_⟩
  · rw [takeWhile_append_drop]
    rfl
  · have hhead := head?_drop_takeWhile isBlank rest
    obtain ⟨c, ds, hd⟩ := List.exists_cons_of_ne_nil htail
    rw [hd] at hhead ⊢
    exact congrArg (!·) hhead

/-- The letters, the blanks and the tail of a text that is a negation. -/
def negation? (cs : List Char) : Option (List Char × List Char × List Char) := do
  let rest ← afterNot? cs
  let gap := rest.takeWhile isBlank
  let tail := rest.drop gap.length
  guard (gap ≠ [] ∧ tail ≠ [])
  return (cs.take 3, gap, tail)

theorem negation?_eq_some_iff : negation? cs = some (letters, gap, tail) ↔ IsNegation cs letters gap tail := by
  constructor
  · intro h
    simp only [negation?, Option.bind_eq_bind, Option.bind_eq_some_iff, Option.guard_eq_some', Option.pure_def,
      Option.some.injEq, Prod.mk.injEq] at h
    obtain ⟨rest, hrest, -, ⟨hgap, htail⟩, rfl, rfl, rfl⟩ := h
    obtain ⟨letters, hneg⟩ := isNegation_of_afterNot? hrest hgap htail
    obtain ⟨n, o, t, rfl⟩ := exists_letters hneg.spelled
    rwa [show cs.take 3 = [n, o, t] by rw [hneg.text]; rfl]
  · intro hneg
    have htail : tail ≠ [] := by
      rintro rfl
      exact absurd hneg.token (by decide)
    obtain ⟨n, o, t, rfl⟩ := exists_letters hneg.spelled
    simp only [negation?, hneg.text, afterNot?_append hneg.spelled, Option.bind_eq_bind, Option.bind_some,
      hneg.takeWhile_gap, List.drop_left, Option.bind_eq_some_iff, Option.guard_eq_some']
    exact ⟨(), ⟨hneg.gap_ne_nil, htail⟩, rfl⟩

theorem notGroupRule_eq_some_iff {out : List Char} {size : Nat} :
    notGroupRule cs = some (out, size) ↔
      ∃ letters gap tail, IsNegation cs letters gap tail ∧ tail.head? = some '(' ∧
        out = ['N', 'O', 'T', ' ', '('] ∧ size = 3 + gap.length + 1 := by
  constructor
  · intro h
    simp only [notGroupRule, Option.bind_eq_bind, Option.bind_eq_some_iff, Option.guard_eq_some', Option.pure_def,
      Option.some.injEq, Prod.mk.injEq] at h
    obtain ⟨rest, hrest, -, ⟨hgap, hparen⟩, hout, hsize⟩ := h
    obtain ⟨letters, hneg⟩ := isNegation_of_afterNot? hrest hgap (by rintro hnil; rw [hnil] at hparen; cases hparen)
    exact ⟨letters, _, _, hneg, hparen, hout.symm, hsize.symm⟩
  · rintro ⟨letters, gap, tail, hneg, hparen, rfl, rfl⟩
    simp only [notGroupRule, hneg.text, afterNot?_append hneg.spelled, Option.bind_eq_bind, Option.bind_some,
      hneg.takeWhile_gap, List.drop_left, Option.bind_eq_some_iff, Option.guard_eq_some']
    exact ⟨(), ⟨hneg.gap_ne_nil, hparen⟩, rfl⟩

theorem head?_firstToken (h : tail.head?.any (!isBlank ·) = true) : (firstToken tail).head? = tail.head? := by
  cases tail with
  | nil => rfl
  | cons c tail => rw [firstToken, List.takeWhile_cons_of_pos (p := (!isBlank ·)) h, List.head?_cons, List.head?_cons]

theorem firstToken_ne_nil (h : tail.head?.any (!isBlank ·) = true) : firstToken tail ≠ [] := by
  intro hnil
  rw [← head?_firstToken h, hnil] at h
  cases h

/-- A gap in two parts, the second of which is what is kept before the tail. -/
theorem exists_kept {gap : List Char} (h : gap ≠ []) (tail : List Char) :
    ∃ front kept, gap = front ++ kept ∧ kept.length = if keepsBlank tail then 1 else 0 := by
  split
  · exact ⟨gap.dropLast, [gap.getLast h], (List.dropLast_concat_getLast h).symm, rfl⟩
  · exact ⟨gap, [], (List.append_nil gap).symm, rfl⟩

theorem eq_nil_of_not_keepsBlank {kept : List Char} (hkept : kept.length = if keepsBlank tail then 1 else 0)
    (h : keepsBlank tail = false) : kept = [] := by
  rw [h, if_neg Bool.false_ne_true] at hkept
  exact List.length_eq_zero_iff.1 hkept

/-- What the rule for tokens makes of a negation. -/
theorem notTokenRule_negation {kept : List Char} {r : List Char × Nat}
    (h : IsNegation cs letters (gap ++ kept) tail) (hkept : kept.length = if keepsBlank tail then 1 else 0) :
    notTokenRule cs = some r ↔ gap ≠ [] ∧ r = (['N', 'O', 'T', ' '] ++ kept ++ firstToken tail,
      3 + (gap ++ kept).length + (firstToken tail).length) := by
  have hhead := head?_firstToken h.token
  have hne := firstToken_ne_nil h.token
  have hlast : (if (firstToken tail).head? = some '(' ∨ (firstToken tail).length = 1
      then (gap ++ kept).drop ((gap ++ kept).length - 1) else []) = kept := by
    rw [hhead]
    cases hkeeps : keepsBlank tail with
    | true =>
      rw [hkeeps, if_pos rfl] at hkept
      rw [if_pos (by simpa [keepsBlank] using hkeeps), List.length_append, hkept, Nat.add_sub_cancel, List.drop_left]
    | false =>
      rw [if_neg (by simpa [keepsBlank] using hkeeps), eq_nil_of_not_keepsBlank hkept hkeeps]
  have hshort : kept.length < (gap ++ kept).length ↔ gap ≠ [] := by
    rw [List.length_append, ← List.length_pos_iff]
    omega
  simp only [notTokenRule, h.text, afterNot?_append h.spelled, Option.bind_eq_bind, Option.bind_some,
    h.takeWhile_gap, List.drop_left, Option.bind_eq_some_iff, Option.guard_eq_some', Option.pure_def,
    Option.some.injEq]
  rw [firstToken] at hlast hne ⊢
  rw [hlast, hshort]
  constructor
  · rintro ⟨-, -, -, hgap, rfl⟩
    exact ⟨hgap, rfl⟩
  · rintro ⟨hgap, rfl⟩
    exact ⟨(), ⟨h.gap_ne_nil, hne⟩, (), hgap, rfl⟩

theorem notTokenRule_eq_some_iff {out : List Char} {size : Nat} :
    notTokenRule cs = some (out, size) ↔
      ∃ letters gap kept tail, IsNegation cs letters (gap ++ kept) tail ∧ gap ≠ [] ∧
        kept.length = (if keepsBlank tail then 1 else 0) ∧ out = ['N', 'O', 'T', ' '] ++ kept ++ firstToken tail ∧
        size = 3 + (gap ++ kept).length + (firstToken tail).length := by
  constructor
  · intro h
    obtain ⟨letters, gap, tail, hneg⟩ : ∃ letters gap tail, IsNegation cs letters gap tail := by
      simp only [notTokenRule, Option.bind_eq_bind, Option.bind_eq_some_iff, Option.guard_eq_some'] at h
      obtain ⟨rest, hrest, -, ⟨hgap, htoken⟩, -⟩ := h
      obtain ⟨letters, hneg⟩ := isNegation_of_afterNot? hrest hgap
        (by rintro hnil; rw [hnil] at htoken; exact htoken rfl)
      exact ⟨letters, _, _, hneg⟩
    obtain ⟨front, kept, rfl, hkept⟩ := exists_kept hneg.gap_ne_nil tail
    obtain ⟨hfront, heq⟩ := (notTokenRule_negation hneg hkept).1 h
    cases heq
    exact ⟨letters, front, kept, tail, hneg, hfront, hkept, rfl, rfl⟩
  · rintro ⟨letters, gap, kept, tail, hneg, hgap, hkept, rfl, rfl⟩
    exact (notTokenRule_negation hneg hkept).2 ⟨hgap, rfl⟩

end Negation

/-! ## The rule for tokens as a search -/

section Search

variable {cs rest letters gap tail : List Char}

/-- A character other than a parenthesis, which may be a blank, and the token behind it. -/
def readToken? : List Char → Option (List Char)
  | [] => none
  | c :: cs => if c ≠ '(' ∧ firstToken cs ≠ [] then some (c :: firstToken cs) else none

theorem firstToken_cons {c : Char} (hc : isBlank c = false) : firstToken (c :: cs) = c :: firstToken cs :=
  List.takeWhile_cons_of_pos (by simpa using hc)

theorem readToken?_blank {b : Char} (hb : isBlank b = true) (hcs : firstToken cs ≠ []) :
    readToken? (b :: cs) = some (b :: firstToken cs) := by
  refine if_pos ⟨?_, hcs⟩
  rintro rfl
  exact absurd hb (by decide)

theorem readToken?_blanks (h : ∀ c ∈ cs, isBlank c = true) : readToken? cs = none := by
  match cs with
  | [] => rfl
  | [c] => exact if_neg fun hboth => hboth.2 rfl
  | c :: d :: cs =>
    have hd : isBlank d = true := h d (by simp)
    exact if_neg fun hboth => hboth.2 (List.takeWhile_cons_of_neg (by simp [hd]))

/-- A token is read from its first character on unless it keeps a blank. -/
theorem readToken?_token (h : tail.head?.any (!isBlank ·) = true) :
    readToken? tail = if keepsBlank tail then none else some (firstToken tail) := by
  cases tail with
  | nil => cases h
  | cons c cs =>
    have hc : isBlank c = false := by simpa using h
    rw [readToken?, keepsBlank, firstToken_cons hc]
    by_cases hparen : c = '(' <;> by_cases hcs : firstToken cs = [] <;> simp [hparen, hcs]

/-- The replacement for a token that is read behind NOT and the number of blanks. -/
def replaceToken? (rest : List Char) (blanks : Nat) : Option (List Char × Nat) :=
  (readToken? (rest.drop blanks)).map fun token => (['N', 'O', 'T', ' '] ++ token, 3 + blanks + token.length)

/-- The replacement for the first token that is read when blanks are given back one after the other. -/
def giveBack? (rest : List Char) : Nat → Option (List Char × Nat)
  | 0 => none
  | blanks + 1 => (replaceToken? rest (blanks + 1)).or (giveBack? rest blanks)

theorem giveBack?_append (hgap : gap ≠ []) (rest : List Char) :
    giveBack? (gap ++ rest) gap.length =
      ((readToken? rest).map fun token => (['N', 'O', 'T', ' '] ++ token, 3 + gap.length + token.length)).or
        (giveBack? (gap ++ rest) (gap.length - 1)) := by
  obtain ⟨n, hn⟩ : ∃ n, gap.length = n + 1 :=
    Nat.exists_eq_succ_of_ne_zero (mt List.length_eq_zero_iff.1 hgap)
  have hdrop : (gap ++ rest).drop (n + 1) = rest := by rw [← hn, List.drop_left]
  rw [hn, giveBack?, replaceToken?, hdrop]
  rfl

/-- Where nothing but blanks stands behind NOT no token is read. -/
theorem giveBack?_blanks (h : ∀ c ∈ rest, isBlank c = true) (blanks : Nat) : giveBack? rest blanks = none := by
  induction blanks with
  | zero => rfl
  | succ n ih =>
    rw [giveBack?, ih, replaceToken?, readToken?_blanks fun c hc => h c (List.mem_of_mem_drop hc)]
    rfl

/-- What is read behind a negation. -/
theorem IsNegation.notTokenRule_eq (h : IsNegation cs letters gap tail) :
    notTokenRule cs = giveBack? (gap ++ tail) gap.length := by
  rw [giveBack?_append h.gap_ne_nil, readToken?_token h.token]
  obtain ⟨gap, kept, rfl, hkept⟩ := exists_kept h.gap_ne_nil tail
  rw [Option.ext_iff]
  intro r
  rw [notTokenRule_negation h hkept]
  cases hkeeps : keepsBlank tail with
  | false =>
    obtain rfl := eq_nil_of_not_keepsBlank hkept hkeeps
    have hgap : gap ≠ [] := by simpa using h.gap_ne_nil
    simp [hgap, eq_comm]
  | true =>
    rw [hkeeps, if_pos rfl] at hkept
    obtain ⟨b, rfl⟩ := List.length_eq_one_iff.1 hkept
    have hb : isBlank b = true := h.blank b (by simp)
    rw [if_pos rfl, Option.map_none, Option.none_or, List.length_append, hkept, Nat.add_sub_cancel,
      List.append_assoc gap]
    rcases eq_or_ne gap [] with rfl | hgap
    · simp [giveBack?]
    · have hsize :
          3 + (gap.length + 1) + (firstToken tail).length = 3 + gap.length + (b :: firstToken tail).length := by
        rw [List.length_cons]
        omega
      rw [giveBack?_append hgap, List.singleton_append, readToken?_blank hb (firstToken_ne_nil h.token), hsize]
      simp [hgap, eq_comm]

/-- **The rule for tokens gives blanks back**: it takes all blanks behind NOT, or else as many as it can, so that a
character other than a parenthesis and a token can be read behind them. -/
theorem notTokenRule_eq_giveBack? (cs : List Char) :
    notTokenRule cs = (afterNot? cs).bind fun rest => giveBack? rest (rest.takeWhile isBlank).length := by
  cases hrest : afterNot? cs with
  | none => rw [notTokenRule, hrest]; rfl
  | some rest =>
    rw [Option.bind_some]
    by_cases hneg : ∃ letters gap tail, IsNegation cs letters gap tail
    · obtain ⟨letters, gap, tail, hneg⟩ := hneg
      rw [hneg.text, afterNot?_append hneg.spelled, Option.some.injEq] at hrest
      rw [hneg.notTokenRule_eq, ← hrest, hneg.takeWhile_gap]
    · have hnone : notTokenRule cs = none := by
        rw [Option.eq_none_iff_forall_ne_some]
        rintro ⟨out, size⟩ h
        obtain ⟨letters, gap, kept, tail, h, -⟩ := notTokenRule_eq_some_iff.1 h
        exact hneg ⟨letters, _, tail, h⟩
      rw [hnone]
      by_cases hgap : rest.takeWhile isBlank = []
      · rw [hgap]
        rfl
      by_cases htail : rest.drop (rest.takeWhile isBlank).length = []
      · have hrest := takeWhile_append_drop isBlank rest
        rw [htail, List.append_nil] at hrest
        exact (giveBack?_blanks (List.takeWhile_eq_self_iff.1 hrest) _).symm
      obtain ⟨letters, h⟩ := isNegation_of_afterNot? hrest hgap htail
      exact absurd ⟨letters, _, _, h⟩ hneg

end Search

/-! ## Tidying -/

/-- The second text is the first one with some NOTs written in capitals, and with some blanks behind each of these
written as one space. -/
inductive Tidied : List Char → List Char → Prop
  | nil : Tidied [] []
  | keep (c : Char) {xs ys : List Char} : Tidied xs ys → Tidied (c :: xs) (c :: ys)
  | tidy {n o t : Char} {gap xs ys : List Char} (hnot : isKeyword "not" [n, o, t] = true) (hgap : gap ≠ [])
      (blank : ∀ g ∈ gap, isBlank g = true) :
      Tidied xs ys → Tidied (n :: o :: t :: (gap ++ xs)) ('N' :: 'O' :: 'T' :: ' ' :: ys)

theorem Tidied.append_left {xs ys : List Char} (h : Tidied xs ys) (front : List Char) :
    Tidied (front ++ xs) (front ++ ys) := by
  induction front with
  | nil => exact h
  | cons c front ih => exact ih.keep c

/-- The rule writes NOT in capitals and some blanks behind it as one space, and keeps what it looks at behind them. -/
def Tidies (rule : Rule) : Prop :=
  ∀ cs out size, rule cs = some (out, size) → 0 < size ∧ ∃ n o t gap body, isKeyword "not" [n, o, t] = true ∧
    gap ≠ [] ∧ (∀ g ∈ gap, isBlank g = true) ∧ cs = n :: o :: t :: (gap ++ (body ++ cs.drop size)) ∧
    out = 'N' :: 'O' :: 'T' :: ' ' :: body

/-- **Rules that tidy make a tidied text.** -/
theorem tidied_replaceAll {rule : Rule} (hrule : Tidies rule) (cs : List Char) : Tidied cs (replaceAll rule cs) := by
  refine replaceAll_related .nil (fun c _ _ h => h.keep c) ?_ (fun cs out size h => (hrule cs out size h).1) cs
  intro cs out size ys h hys
  obtain ⟨-, n, o, t, gap, body, hnot, hgap, blank, hcs, rfl⟩ := hrule cs out size h
  rw [hcs]
  exact .tidy hnot hgap blank (hys.append_left body)

theorem tidies_notGroupRule : Tidies notGroupRule := by
  intro cs out size h
  obtain ⟨letters, gap, tail, hneg, hparen, rfl, rfl⟩ := notGroupRule_eq_some_iff.1 h
  obtain ⟨n, o, t, rfl⟩ := exists_letters hneg.spelled
  obtain ⟨rest, rfl⟩ := List.head?_eq_some_iff.1 hparen
  refine ⟨by omega, n, o, t, gap, ['('], hneg.spelled, hneg.gap_ne_nil, hneg.blank, ?_, rfl⟩
  rw [hneg.drop]
  exact hneg.text

theorem tidies_notTokenRule : Tidies notTokenRule := by
  intro cs out size h
  obtain ⟨letters, gap, kept, tail, hneg, hgap, -, rfl, rfl⟩ := notTokenRule_eq_some_iff.1 h
  obtain ⟨n, o, t, rfl⟩ := exists_letters hneg.spelled
  refine ⟨by omega, n, o, t, gap, kept ++ firstToken tail, hneg.spelled, hgap,
    fun g hg => hneg.blank g (List.mem_append_left kept hg), ?_, by simp⟩
  have htext := hneg.text
  rw [List.append_assoc] at htext
  rw [hneg.drop, List.append_assoc, firstToken, takeWhile_append_drop]
  exact htext

/-! ## Both rows -/

theorem tidied_notGroup (cs : List Char) : Tidied cs (Substitution.notGroup.apply cs) :=
  tidied_replaceAll tidies_notGroupRule cs

theorem tidied_notToken (cs : List Char) : Tidied cs (Substitution.notToken.apply cs) :=
  tidied_replaceAll tidies_notTokenRule cs

end RecipeSearch.Query
