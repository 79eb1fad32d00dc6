import Mathlib.Algebra.GroupWithZero.Nat
import RecipeSearch.Proofs.Query.Skeleton
import RecipeSearch.Proofs.Query.Tokens

/-!
# The two scans of a query agree

The operators of a breakdown are searched for in the query, and the terms are what is left of it when first the words
that join terms and then the parentheses have been replaced with blanks (`scanOperators_eq_found`,
`scanTerms_eq_runs_replace`). Neither scan knows of the other, and yet both read the one split of the query: a text that
is split has the operators of the split in capitals (`IsSplit.scanOperators_textOf`), and cutting leaves just the blanks
and terms of the split (`IsSplit.cut_textOf`). Hence **the breakdown of a query accounts for all of it, and for nothing
twice** (`decompose_split`).
-/

namespace RecipeSearch.Query

open Text

/-- The operators among some tokens. -/
def operatorsOf (ts : List Token) : List (List Char) :=
  ts.filterMap Token.operator?

/-- The terms among some tokens. -/
def termsOf (ts : List Token) : List (List Char) :=
  ts.filterMap Token.term?

section Of

variable (c : Char) (cs : List Char) (ts : List Token)

@[simp] theorem operatorsOf_blank : operatorsOf (.blank c :: ts) = operatorsOf ts := rfl

@[simp] theorem operatorsOf_operator : operatorsOf (.operator cs :: ts) = cs :: operatorsOf ts := rfl

@[simp] theorem operatorsOf_term : operatorsOf (.term cs :: ts) = operatorsOf ts := rfl

@[simp] theorem termsOf_blank : termsOf (.blank c :: ts) = termsOf ts := rfl

@[simp] theorem termsOf_operator : termsOf (.operator cs :: ts) = termsOf ts := rfl

@[simp] theorem termsOf_term : termsOf (.term cs :: ts) = cs :: termsOf ts := rfl

end Of

/-! ## The scans as searches -/

/-- The words that join terms, and the parentheses. -/
def operatorPattern : Pattern :=
  ⟨operatorWords, isParenthesis⟩

/-- The words that join terms. -/
def keywordPattern : Pattern :=
  ⟨operatorWords, fun _ => false⟩

/-- The parentheses. -/
def parenthesisPattern : Pattern :=
  ⟨[], isParenthesis⟩

theorem operatorWords_of_words :
    ∀ keyword ∈ operatorWords, keyword.toList ≠ [] ∧ (keyword.toList.all isWordChar) = true := by
  decide

theorem isOfWords_operatorPattern : operatorPattern.IsOfWords :=
  ⟨operatorWords_of_words, fun _ => not_isParenthesis_of_isWordChar⟩

theorem isOfWords_keywordPattern : keywordPattern.IsOfWords :=
  ⟨operatorWords_of_words, fun _ _ => rfl⟩

theorem isOfWords_parenthesisPattern : parenthesisPattern.IsOfWords :=
  ⟨nofun, fun _ => not_isParenthesis_of_isWordChar⟩

/-- The operators of a text are searched for in it. -/
theorem scanOperators_eq_found (cs : List Char) :
    scanOperators cs = (operatorPattern.found cs).map (·.map Char.toUpper) := by
  rw [Pattern.found_eq isOfWords_operatorPattern, List.map_filterMap, scanOperators]
  refine List.filterMap_congr fun q _ => ?_
  cases q with
  | run w =>
    show (if isAnyKeyword operatorWords w then some (w.map Char.toUpper) else none) =
      (if isAnyKeyword operatorWords w then some w else none).map (·.map Char.toUpper)
    split <;> rfl
  | other c =>
    show (if isParenthesis c then some [c] else none) =
      (if isParenthesis c then some [c] else none).map (·.map Char.toUpper)
    split
    · next hc => simp [toUpper_of_not_isWordChar (isWordChar_of_isParenthesis hc)]
    · rfl

theorem cutOperators_eq_replace (cs : List Char) : cutOperators cs = keywordPattern.replace (fun _ => [' ']) cs := by
  rw [Pattern.replace_eq isOfWords_keywordPattern, cutOperators]
  refine List.flatMap_congr fun q _ => ?_
  cases q <;> rfl

theorem cutParentheses_eq_replace (cs : List Char) :
    cutParentheses cs = parenthesisPattern.replace (fun _ => [' ']) cs := by
  rw [Pattern.replace_eq isOfWords_parenthesisPattern, cutParentheses]
  conv_lhs => rw [← pieces_text isWordChar cs]
  rw [List.map_flatMap]
  refine List.flatMap_congr fun q hq => ?_
  cases q with
  | run w =>
    have hw := ((isCut_pieces _ cs).run_of_mem hq).2
    show w.map (fun c => if isParenthesis c then ' ' else c) = w
    refine (List.map_congr_left fun c hc => ?_).trans (List.map_id w)
    exact if_neg (by simp [not_isParenthesis_of_isWordChar (hw c hc)])
  | other c =>
    show [if isParenthesis c then ' ' else c] = if isParenthesis c then [' '] else [c]
    split <;> rfl

/-- The terms of a text are what is left between the blanks of it after two replacements. -/
theorem scanTerms_eq_runs_replace (cs : List Char) :
    scanTerms cs = runs (fun c => !isBlank c)
      (parenthesisPattern.replace (fun _ => [' ']) (keywordPattern.replace (fun _ => [' ']) cs)) := by
  rw [scanTerms, cutOperators_eq_replace, cutParentheses_eq_replace]

/-! ## What the scans make of a split -/

/-- A text with a blank in the place of every operator and parenthesis. -/
def cut (cs : List Char) : List Char :=
  cutParentheses (cutOperators cs)

/-- What is left of a token when operators are cut out. -/
def Token.cut : Token → List Char
  | blank c => [c]
  | operator _ => [' ']
  | term cs => cs

section Parts

variable {c : Char} {cs xs ys : List Char}

theorem scanOperators_append (h : Apart isWordChar xs ys) :
    scanOperators (xs ++ ys) = scanOperators xs ++ scanOperators ys :=
  scan_append h

theorem cut_append (h : Apart isWordChar xs ys) : cut (xs ++ ys) = cut xs ++ cut ys := by
  rw [cut, cutOperators, pieces_append h, List.flatMap_append, cutParentheses, List.map_append]
  rfl

theorem scanOperators_parenthesis (hc : isParenthesis c = true) : scanOperators [c] = [[c]] := by
  simp [scanOperators, pieces_cons_of_neg (isWordChar_of_isParenthesis hc), operator?, hc]

theorem cut_other (hc : isWordChar c = false) : cut [c] = [if isParenthesis c then ' ' else c] := by
  simp [cut, cutOperators, pieces_cons_of_neg hc, cutOperator, cutParentheses]

theorem scanOperators_keyword (hkey : isAnyKeyword operatorWords cs = true) :
    scanOperators cs = [cs.map Char.toUpper] := by
  rw [scanOperators_word (operatorWord_ne_nil hkey) (isWordChar_of_operatorWord hkey), operator?, if_pos hkey]
  rfl

theorem cut_keyword (hkey : isAnyKeyword operatorWords cs = true) : cut cs = [' '] := by
  rw [cut, cutOperators, pieces_word (operatorWord_ne_nil hkey) (isWordChar_of_operatorWord hkey),
    List.flatMap_singleton, cutOperator, if_pos hkey]
  rfl

/-- A term has no operators. -/
theorem IsTerm.scanOperators_eq_nil (h : IsTerm cs) : scanOperators cs = [] := by
  refine List.filterMap_eq_nil_iff.2 fun q hq => ?_
  cases q with
  | run w => rw [operator?, if_neg (by simp [h.not_isAnyKeyword hq])]
  | other c => rw [operator?, if_neg (by simp [h.not_isParenthesis (mem_of_mem_pieces hq (List.mem_singleton.2 rfl))])]

/-- Nothing is cut out of a term. -/
theorem IsTerm.cut_eq (h : IsTerm cs) : cut cs = cs := by
  have hwords : cutOperators cs = cs := by
    conv_rhs => rw [← pieces_text isWordChar cs]
    refine List.flatMap_congr fun q hq => ?_
    cases q with
    | run w => rw [cutOperator, if_neg (by simp [h.not_isAnyKeyword hq]), Piece.text_run]
    | other c => rfl
  rw [cut, hwords, cutParentheses]
  refine (List.map_congr_left fun c hc => ?_).trans (List.map_id cs)
  exact if_neg (by simp [h.not_isParenthesis hc])

end Parts

section Split

variable {before : List Char} {ts : List Token}

/-- **The operators of a text are those of its split**, in capitals. -/
theorem IsSplit.scanOperators_textOf (h : IsSplit [] ts) :
    scanOperators (textOf ts) = (operatorsOf ts).map (·.map Char.toUpper) := by
  refine h.token_induction
    (motive := fun ts => scanOperators (textOf ts) = (operatorsOf ts).map (·.map Char.toUpper)) rfl ?_ ?_ ?_ ?_
    (.inl rfl)
  · intro c ts hc ih
    have hgap : scanOperators ([c] ++ textOf ts) = scanOperators (textOf ts) :=
      scanOperators_gap_append (by simpa using hc) _
    rw [textOf_cons, Token.text, hgap, ih, operatorsOf_blank]
  · intro c ts hc ih
    have hword := isWordChar_of_isParenthesis hc
    rw [textOf_cons, Token.text, scanOperators_append (apart_of_neg hword _), scanOperators_parenthesis hc, ih,
      operatorsOf_operator, List.map_cons, List.map_singleton, toUpper_of_not_isWordChar hword]
    rfl
  · intro cs ts hkey hafter ih
    rw [textOf_cons, Token.text, scanOperators_append (.inr hafter), scanOperators_keyword hkey, ih,
      operatorsOf_operator]
    rfl
  · intro cs ts hterm hafter _ ih
    rw [textOf_cons, Token.text, scanOperators_append hafter, hterm.scanOperators_eq_nil, ih, operatorsOf_term]
    rfl

/-- **Of a text its blanks and terms are left**, and blanks in the place of its operators. -/
theorem IsSplit.cut_textOf (h : IsSplit [] ts) : cut (textOf ts) = ts.flatMap Token.cut := by
  refine h.token_induction (motive := fun ts => cut (textOf ts) = ts.flatMap Token.cut) rfl ?_ ?_ ?_ ?_
    (.inl rfl)
  · intro c ts hc ih
    have hword := isWordChar_of_isBlank hc
    rw [textOf_cons, Token.text, cut_append (apart_of_neg hword _), cut_other hword,
      if_neg (by simp [not_isParenthesis_of_isBlank hc]), ih]
    rfl
  · intro c ts hc ih
    have hword := isWordChar_of_isParenthesis hc
    rw [textOf_cons, Token.text, cut_append (apart_of_neg hword _), cut_other hword, if_pos hc, ih]
    rfl
  · intro cs ts hkey hafter ih
    rw [textOf_cons, Token.text, cut_append (.inr hafter), cut_keyword hkey, ih]
    rfl
  · intro cs ts hterm hafter _ ih
    rw [textOf_cons, Token.text, cut_append hafter, hterm.cut_eq, ih]
    rfl

/-- What is left of a text does not go on a term that it stands behind. -/
theorem IsSplit.head?_cut (h : IsSplit before ts) (hlongest : ∀ t, ts.head? = some t → t.term? = none) :
    (ts.flatMap Token.cut).head?.any (fun c => !isBlank c) = false := by
  cases h with
  | nil => rfl
  | blank hc => simpa [Token.cut] using hc
  | operator => rfl
  | term => exact absurd (hlongest _ rfl) (by simp [Token.term?])

/-- Between the blanks that are left of a text are its terms. -/
theorem IsSplit.runs_cut (h : IsSplit before ts) : runs (fun c => !isBlank c) (ts.flatMap Token.cut) = termsOf ts := by
  induction h with
  | nil => rfl
  | blank hc _ ih => rw [List.flatMap_cons, Token.cut, List.singleton_append, runs_cons_of_neg (by simpa using hc), ih,
      termsOf_blank]
  | operator _ _ ih => rw [List.flatMap_cons, Token.cut, List.singleton_append, runs_cons_of_neg (by decide), ih,
      termsOf_operator]
  | term hne hblank _ hlongest htail ih =>
    rw [List.flatMap_cons, Token.cut, runs_word_append hne (by simpa using hblank) (htail.head?_cut hlongest), ih,
      termsOf_term]

/-- **The terms of a text are those of its split.** -/
theorem IsSplit.scanTerms_textOf (h : IsSplit [] ts) : scanTerms (textOf ts) = termsOf ts :=
  (congrArg _ h.cut_textOf).trans h.runs_cut

/-! ## What a split tells of its text -/

theorem IsOperatorAt.not_blank {cs after : List Char} (h : IsOperatorAt before cs after) :
    ∀ c ∈ cs, isBlank c = false := by
  rcases h with ⟨c, hc, rfl⟩ | ⟨hkey, -⟩
  · simpa using isBlank_of_isParenthesis hc
  · exact fun c hc => isBlank_of_isWordChar (isWordChar_of_operatorWord hkey c hc)

theorem countP_of_not_blank {cs : List Char} (h : ∀ c ∈ cs, isBlank c = false) :
    cs.countP (fun c => !isBlank c) = cs.length := by
  simpa using h

/-- The characters of a text that are no blanks are those of its terms and operators. -/
theorem IsSplit.countP_textOf (h : IsSplit before ts) :
    (textOf ts).countP (fun c => !isBlank c) =
      ((termsOf ts).map List.length).sum + ((operatorsOf ts).map List.length).sum := by
  induction h with
  | nil => rfl
  | blank hc _ ih => simp [Token.text, hc, ih]
  | operator hop _ ih =>
    simp only [textOf_cons, Token.text, List.countP_append, countP_of_not_blank hop.not_blank, ih, termsOf_operator,
      operatorsOf_operator, List.map_cons, List.sum_cons]
    omega
  | term _ hblank _ _ _ ih =>
    simp only [textOf_cons, Token.text, List.countP_append, countP_of_not_blank hblank, ih, termsOf_term,
      operatorsOf_term, List.map_cons, List.sum_cons]
    omega

/-- The texts of operators in capitals. -/
def operatorTexts : List String :=
  ["AND", "OR", "NOT", "(", ")"]

theorem toUpper_of_operatorWord {cs : List Char} (hkey : isAnyKeyword operatorWords cs = true) :
    String.ofList (cs.map Char.toUpper) ∈ operatorTexts := by
  obtain ⟨keyword, hk, hspelled⟩ := List.any_eq_true.1 hkey
  have hplain : ∀ keyword ∈ operatorWords, 's' ∉ keyword.toList ∧ 'k' ∉ keyword.toList ∧
      String.ofList (keyword.toList.map Char.toUpper) ∈ operatorTexts := by
    decide
  obtain ⟨hs, hk', hmem⟩ := hplain keyword hk
  rwa [map_toUpper_of_isKeyword hs hk' hspelled]

theorem IsOperatorAt.toUpper_mem {cs after : List Char} (h : IsOperatorAt before cs after) :
    String.ofList (cs.map Char.toUpper) ∈ operatorTexts := by
  rcases h with ⟨c, hc, rfl⟩ | ⟨hkey, -⟩
  · rcases isParenthesis_iff.1 hc with rfl | rfl <;> decide
  · exact toUpper_of_operatorWord hkey

theorem IsSplit.exists_isOperatorAt {cs : List Char} (h : IsSplit before ts) (hcs : cs ∈ operatorsOf ts) :
    ∃ front back, IsOperatorAt front cs back := by
  induction h with
  | nil => cases hcs
  | blank _ _ ih => exact ih hcs
  | operator hop _ ih =>
    rcases List.mem_cons.1 hcs with rfl | hcs
    · exact ⟨_, _, hop⟩
    · exact ih hcs
  | term _ _ _ _ _ ih => exact ih hcs

theorem IsSplit.isTerm_of_mem {cs : List Char} (h : IsSplit [] ts) (hcs : cs ∈ termsOf ts) : IsTerm cs := by
  revert hcs
  refine h.token_induction (motive := fun ts => cs ∈ termsOf ts → IsTerm cs) nofun ?_ ?_ ?_ ?_ (.inl rfl)
  · exact fun _ ih => ih
  · exact fun _ ih => ih
  · exact fun _ _ ih => ih
  · intro ds ts hterm _ _ ih hcs
    rcases List.mem_cons.1 hcs with rfl | hcs
    · exact hterm
    · exact ih hcs

/-- A text has a parenthesis if it is one of its operators. -/
theorem IsSplit.mem_textOf_iff {c : Char} (hc : isParenthesis c = true) (h : IsSplit [] ts) :
    c ∈ textOf ts ↔ [c] ∈ (operatorsOf ts).map (·.map Char.toUpper) := by
  refine h.token_induction
    (motive := fun ts => c ∈ textOf ts ↔ [c] ∈ (operatorsOf ts).map (·.map Char.toUpper)) ?_ ?_ ?_ ?_ ?_ (.inl rfl)
  · exact ⟨nofun, nofun⟩
  · intro d ts hd ih
    have hne : c ≠ d := by
      rintro rfl
      rw [isBlank_of_isParenthesis hc] at hd
      cases hd
    rw [textOf_cons, Token.text, List.singleton_append, List.mem_cons, ih, operatorsOf_blank]
    exact or_iff_right hne
  · intro d ts hd ih
    rw [textOf_cons, Token.text, List.singleton_append, List.mem_cons, ih, operatorsOf_operator, List.map_cons,
      List.mem_cons, List.map_singleton, toUpper_of_not_isWordChar (isWordChar_of_isParenthesis hd), List.singleton_inj]
  · intro cs ts hkey _ ih
    have hword := isWordChar_of_operatorWord hkey
    have hcs : c ∉ cs := by
      intro hmem
      rw [not_isParenthesis_of_isWordChar (hword c hmem)] at hc
      cases hc
    have hupper : [c] ≠ cs.map Char.toUpper := by
      intro heq
      obtain ⟨d, hd, rfl⟩ := List.mem_map.1 (heq ▸ List.mem_cons_self : c ∈ cs.map Char.toUpper)
      rw [not_isParenthesis_of_isWordChar ((isWordChar_toUpper d).trans (hword d hd))] at hc
      cases hc
    rw [textOf_cons, Token.text, List.mem_append, or_iff_right hcs, ih, operatorsOf_operator, List.map_cons,
      List.mem_cons, or_iff_right hupper]
  · intro cs ts hterm _ _ ih
    have hcs : c ∉ cs := by
      intro hmem
      rw [hterm.not_isParenthesis hmem] at hc
      cases hc
    rw [textOf_cons, Token.text, List.mem_append, or_iff_right hcs, ih, operatorsOf_term]

end Split

/-! ## The breakdown of a query -/

/-- A breakdown lists what the tokens of a text are, and these are the only ones that the text can be split into. -/
structure Breakdown.AccountsFor (b : Breakdown) (cs : List Char) (ts : List Token) : Prop where
  /-- There is one split of the text. -/
  split : ∀ ts', IsSplit [] ts' ∧ textOf ts' = cs ↔ ts' = ts
  operators : b.operators = (operatorsOf ts).map fun o => String.ofList (o.map Char.toUpper)
  terms : b.terms = (termsOf ts).map String.ofList
  /-- One scan searches for the operators. -/
  operators_found : b.operators = (operatorPattern.found cs).map fun o => String.ofList (o.map Char.toUpper)
  /-- The other scan replaces words and parentheses, one after the other, with blanks. -/
  terms_left : b.terms = (runs (fun c => !isBlank c) (parenthesisPattern.replace (fun _ => [' '])
    (keywordPattern.replace (fun _ => [' ']) cs))).map String.ofList
  /-- Nothing but blanks is lost. -/
  countP_not_blank : cs.countP (fun c => !isBlank c) =
    (b.terms.map String.length).sum + (b.operators.map String.length).sum
  operator_mem : ∀ o ∈ b.operators, o ∈ operatorTexts
  isTerm : ∀ t ∈ b.terms, IsTerm t.toList
  hasParentheses : b.hasParentheses = true ↔ "(" ∈ b.operators ∨ ")" ∈ b.operators

theorem any_isParenthesis_iff {cs : List Char} : cs.any isParenthesis = true ↔ '(' ∈ cs ∨ ')' ∈ cs := by
  simp only [List.any_eq_true, isParenthesis_iff]
  constructor
  · rintro ⟨c, hc, rfl | rfl⟩
    · exact .inl hc
    · exact .inr hc
  · rintro (hc | hc)
    · exact ⟨'(', hc, .inl rfl⟩
    · exact ⟨')', hc, .inr rfl⟩

theorem scanOperators_eq_operatorsOf (cs : List Char) :
    scanOperators cs = (operatorsOf (tokens cs)).map (·.map Char.toUpper) := by
  rw [← (isSplit_tokens cs).scanOperators_textOf, textOf_tokens]

theorem scanTerms_eq_termsOf (cs : List Char) : scanTerms cs = termsOf (tokens cs) := by
  rw [← (isSplit_tokens cs).scanTerms_textOf, textOf_tokens]

theorem mem_scanOperators_iff {c : Char} (hc : isParenthesis c = true) {cs : List Char} :
    [c] ∈ scanOperators cs ↔ c ∈ cs := by
  rw [scanOperators_eq_operatorsOf, ← (isSplit_tokens cs).mem_textOf_iff hc, textOf_tokens]

/-- A parenthesis is among the operators of a text as often as in the text. -/
theorem count_scanOperators {c : Char} (hc : isParenthesis c = true) (cs : List Char) :
    (scanOperators cs).count [c] = cs.count c := by
  have hnotin {w : List Char} (hw : ∀ d ∈ w, isWordChar d = true) : c ∉ w := by
    intro hmem
    have hword := hw c hmem
    rw [isWordChar_of_isParenthesis hc] at hword
    cases hword
  induction cs using cut_induction (p := isWordChar) with
  | nil => rfl
  | word w hne hw =>
    have hupper : ∀ d ∈ w.map Char.toUpper, isWordChar d = true := by
      simpa using hw
    rw [List.count_eq_zero.2 (hnotin hw), List.count_eq_zero, scanOperators_word hne hw, operator?]
    intro hmem
    split at hmem
    · obtain heq : [c] = w.map Char.toUpper := by simpa using hmem
      exact hnotin hupper (heq ▸ List.mem_cons_self)
    · cases hmem
  | cut xs d ys hd ihx ihy =>
    have hother : ((operator? (.other d)).toList).count [c] = [d].count c := by
      rw [operator?]
      split
      · simp [List.count_singleton]
      · next hparen =>
        have hne : d ≠ c := by
          rintro rfl
          exact hparen hc
        simp [hne]
    rw [scanOperators_append_other hd, List.count_append, List.count_append, ihx, ihy, hother, List.append_cons xs,
      List.count_append, List.count_append, Nat.add_assoc]

/-- What the two scans list accounts for a text. -/
theorem accountsFor_tokens {b : Breakdown} {cs : List Char} (hterms : b.terms = (scanTerms cs).map String.ofList)
    (hoperators : b.operators = (scanOperators cs).map String.ofList)
    (hparen : b.hasParentheses = cs.any isParenthesis) : b.AccountsFor cs (tokens cs) := by
  have hsplit := isSplit_tokens cs
  have hwords : b.operators = (operatorsOf (tokens cs)).map fun o => String.ofList (o.map Char.toUpper) := by
    rw [hoperators, scanOperators_eq_operatorsOf, List.map_map]
    rfl
  have hleft : b.terms = (termsOf (tokens cs)).map String.ofList := by rw [hterms, scanTerms_eq_termsOf]
  exact {
    split := fun ts => by rw [← tokens_eq_iff, eq_comm]
    operators := hwords
    terms := hleft
    operators_found := by rw [hoperators, scanOperators_eq_found, List.map_map]; rfl
    terms_left := by rw [hterms, scanTerms_eq_runs_replace]
    countP_not_blank := by
      have hcount := hsplit.countP_textOf
      rw [textOf_tokens] at hcount
      rw [hcount, hleft, hwords]
      simp [Function.comp_def]
    operator_mem := by
      rw [hwords]
      intro o ho
      obtain ⟨word, hword, rfl⟩ := List.mem_map.1 ho
      obtain ⟨front, back, hop⟩ := hsplit.exists_isOperatorAt hword
      exact hop.toUpper_mem
    isTerm := by
      rw [hleft]
      intro t ht
      obtain ⟨term, hterm, rfl⟩ := List.mem_map.1 ht
      rw [String.toList_ofList]
      exact hsplit.isTerm_of_mem hterm
    hasParentheses := by
      have hmem (c : Char) (hc : isParenthesis c = true) : String.ofList [c] ∈ b.operators ↔ c ∈ cs := by
        rw [hoperators, List.mem_map_of_injective fun _ _ => String.ofList_injective, mem_scanOperators_iff hc]
      have hopen : "(" ∈ b.operators ↔ '(' ∈ cs := hmem '(' (by decide)
      have hclose : ")" ∈ b.operators ↔ ')' ∈ cs := hmem ')' (by decide)
      rw [hparen, any_isParenthesis_iff, hopen, hclose] }

/-- **The breakdown of a query that is not blank accounts for all of it**, and for nothing twice: its operators and
terms are those of the one split of the query, in order, although each list comes from a scan of its own. -/
theorem decompose_split (query : String) (h : isBlankString query = false) :
    ∃ b ts, decompose query = some b ∧ b.AccountsFor query.toList ts := by
  have hblank : ¬ isBlankText query.toList = true := by rw [← isBlankString, h]; exact Bool.false_ne_true
  exact ⟨_, tokens query.toList, if_neg hblank, accountsFor_tokens rfl rfl rfl⟩

theorem decompose_split_glued :
    isBlankString "(foo-AND(bar)nOt x_and" = false ∧
      ∃ ts, Breakdown.AccountsFor
        { kind := booleanQuery, query := "(foo-AND(bar)nOt x_and", terms := ["foo-", "bar", "x_and"],
          operators := ["(", "AND", "(", ")", "NOT"], hasParentheses := true, hasNot := false }
        "(foo-AND(bar)nOt x_and".toList ts := by
  have hblank : isBlankString "(foo-AND(bar)nOt x_and" = false := by decide +kernel
  refine ⟨hblank, ?_⟩
  obtain ⟨b, ts, hb, h⟩ := decompose_split _ hblank
  have hdecompose : decompose "(foo-AND(bar)nOt x_and" =
      some { kind := booleanQuery, query := "(foo-AND(bar)nOt x_and", terms := ["foo-", "bar", "x_and"],
             operators := ["(", "AND", "(", ")", "NOT"], hasParentheses := true, hasNot := false } := by
    decide +kernel
  obtain rfl := Option.some.inj (hdecompose.symm.trans hb)
  exact ⟨ts, h⟩

end RecipeSearch.Query
