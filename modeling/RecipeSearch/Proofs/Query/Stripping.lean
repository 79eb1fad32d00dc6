import RecipeSearch.Proofs.Query.Scans
import RecipeSearch.Proofs.Text.Blanking
import RecipeSearch.Proofs.Text.Distinct
import RecipeSearch.Query.Breakdown

/-!
# Search terms and the terms of a breakdown

The words that are blanked out of a query before it is split at spaces do not begin inside one another, so that it does
not matter that this is done one word after the other (`strip_eq_blankOutAny`). They are looked for anywhere, in
capitals only, while a breakdown cuts out whole words in any case. Where this makes no difference (`PlainOperators`),
both leave the same text (`strip_eq_cut`), and **the search terms are the terms of the breakdown that are longer than
two characters**, the first ones of those that agree in lower case (`searchTerms_eq_terms`).
-/

namespace RecipeSearch.Query

open Text

/-! ## Blanking out operators -/

/-- No stripped word begins inside another one. -/
theorem separate_strippedWords : Separate strippedWords where
  ne_nil := by decide
  no_blank := by decide
  apart := by decide

/-- **The stripped words are blanked out in a single pass.** -/
theorem strip_eq_blankOutAny (cs : List Char) : strip cs = blankOutAny strippedWords cs :=
  foldl_blankOut separate_strippedWords cs

/-- No two stripped words begin with the same character. -/
theorem wordAt_strippedWords {w : List Char} (hw : w ∈ strippedWords) (rest : List Char) :
    wordAt strippedWords (w ++ rest) = some w := by
  simp only [strippedWords, List.mem_cons, List.not_mem_nil, or_false] at hw
  rcases hw with rfl | rfl | rfl | rfl | rfl <;> rfl

/-- A stripped word is a parenthesis or made of word characters. -/
theorem strippedWords_cases {w : List Char} (hw : w ∈ strippedWords) :
    w.length = 1 ∨ ∀ c ∈ w, isWordChar c = true := by
  have hcases : ∀ w ∈ strippedWords, w.length = 1 ∨ (w.all isWordChar) = true := by decide
  simpa using hcases w hw

/-- A word at the start of two texts in a row lies in the first one, or goes on from there to the second. -/
theorem isPrefix_append_cases {w back rest : List Char} (h : w <+: back ++ rest) :
    w <+: back ∨ ∃ x, x ≠ [] ∧ w = back ++ x ∧ x <+: rest := by
  rcases List.prefix_or_prefix_of_prefix h (List.prefix_append back rest) with hin | ⟨x, rfl⟩
  · exact .inl hin
  · rcases eq_or_ne x [] with rfl | hx
    · exact .inl (by simp)
    · exact .inr ⟨x, hx, rfl, (List.prefix_append_right_inj back).1 h⟩

/-! ## Operators in capitals -/

/-- The words that join terms, in capitals. -/
def capitalWords : List (List Char) :=
  [['A', 'N', 'D'], ['O', 'R'], ['N', 'O', 'T']]

/-- Between two texts stands a word that joins terms, in any case and as a whole word. -/
def IsKeywordAt (before word after : List Char) : Prop :=
  isAnyKeyword operatorWords word = true ∧ isBoundary before.getLast? word.head? = true ∧
    isBoundary word.getLast? after.head? = true

instance (before word after : List Char) : Decidable (IsKeywordAt before word after) :=
  inferInstanceAs (Decidable (_ ∧ _ ∧ _))

/-- Wherever AND, OR or NOT stands in a text in capitals it is a whole word, and as whole words they stand there in
capitals only. -/
def PlainOperators (cs : List Char) : Prop :=
  ∀ before word after, cs = before ++ (word ++ after) → (word ∈ capitalWords ↔ IsKeywordAt before word after)

theorem plainOperators_iff {cs : List Char} :
    PlainOperators cs ↔ ∀ i < cs.length + 1, ∀ j < cs.length + 1,
      ((cs.drop i).take j ∈ capitalWords ↔ IsKeywordAt (cs.take i) ((cs.drop i).take j) ((cs.drop i).drop j)) := by
  constructor
  · intro h i _ j _
    exact h _ _ _ (by simp)
  · rintro h before word after rfl
    have hlength : (before ++ (word ++ after)).length = before.length + (word.length + after.length) := by
      rw [List.length_append, List.length_append]
    have hcut := h before.length (by omega) word.length (by omega)
    simpa using hcut

instance (cs : List Char) : Decidable (PlainOperators cs) :=
  decidable_of_iff _ plainOperators_iff.symm

section Plain

variable {before : List Char} {ts : List Token} {t : Token}

theorem IsSplit.tail (h : IsSplit before (t :: ts)) : IsSplit (before ++ t.text) ts := by
  cases h with
  | blank _ htail => exact htail
  | operator _ htail => exact htail
  | term _ _ _ _ htail => exact htail

/-- Where a token of a split stands. -/
theorem IsSplit.exists_of_mem (h : IsSplit before ts) (ht : t ∈ ts) :
    ∃ front rest, textOf ts = front ++ textOf (t :: rest) ∧ IsSplit (before ++ front) (t :: rest) := by
  induction ts generalizing before with
  | nil => cases ht
  | cons u ts ih =>
    rcases List.mem_cons.1 ht with rfl | ht
    · exact ⟨[], ts, rfl, by simpa using h⟩
    · obtain ⟨front, rest, htext, hsplit⟩ := ih h.tail ht
      exact ⟨u.text ++ front, rest, by simp [htext], by simpa using hsplit⟩

/-- Blanking out finds just the token if it is an operator, and else nothing in it. -/
def Token.IsPlain : Token → Prop
  | blank _ => True
  | operator cs => cs ∈ strippedWords
  | term cs => ∀ w ∈ strippedWords, ¬ w <:+: cs

theorem mem_strippedWords_iff {w : List Char} :
    w ∈ strippedWords ↔ w ∈ capitalWords ∨ ∃ c, isParenthesis c = true ∧ w = [c] := by
  simp only [strippedWords, capitalWords, List.mem_cons, List.not_mem_nil, or_false, isParenthesis_iff]
  constructor
  · rintro (h | h | h | rfl | rfl)
    · exact .inl (.inl h)
    · exact .inl (.inr (.inl h))
    · exact .inl (.inr (.inr h))
    · exact .inr ⟨'(', .inl rfl, rfl⟩
    · exact .inr ⟨')', .inr rfl, rfl⟩
  · rintro ((h | h | h) | ⟨c, rfl | rfl, rfl⟩) <;> simp [*]

/-- In a text with plain operators all tokens are plain. -/
theorem IsSplit.isPlain (h : IsSplit [] ts) (hplain : PlainOperators (textOf ts)) (ht : t ∈ ts) : t.IsPlain := by
  obtain ⟨front, rest, htext, hsplit⟩ := h.exists_of_mem ht
  rw [List.nil_append] at hsplit
  rw [textOf_cons] at htext
  cases hsplit with
  | blank => trivial
  | @operator _ cs _ hop =>
    rw [Token.IsPlain, mem_strippedWords_iff]
    rcases hop with hparen | hkeyword
    · exact .inr hparen
    · exact .inl ((hplain front cs (textOf rest) htext).2 hkeyword)
  | @term _ cs _ _ _ hnone =>
    rintro w hw ⟨a, b, rfl⟩
    refine hnone a w b rfl ?_
    rcases mem_strippedWords_iff.1 hw with hcapital | hparen
    · exact .inr ((hplain (front ++ a) w (b ++ textOf rest) (by simp [htext, Token.text])).1 hcapital)
    · exact .inl hparen

end Plain

/-! ## Both leave the same text -/

/-- No stripped word begins in a term that has none in it. -/
theorem wordAt_of_term {cs rest : List Char} (hplain : (Token.term cs).IsPlain) (hapart : Apart isWordChar cs rest)
    {front back : List Char} (heq : cs = front ++ back) (hback : back ≠ []) :
    wordAt strippedWords (back ++ rest) = none := by
  refine wordAt_eq_none_iff.2 fun w hw hpre => ?_
  rcases isPrefix_append_cases hpre with hin | ⟨x, hx, rfl, hrest⟩
  · refine hplain w hw ?_
    rw [heq]
    exact hin.isInfix.trans (List.suffix_append front back).isInfix
  · -- a word would go on from the term to what is behind it
    have hlong : 2 ≤ (back ++ x).length := by
      have := List.length_pos_iff.2 hback
      have := List.length_pos_iff.2 hx
      rw [List.length_append]
      omega
    have hword : ∀ c ∈ back ++ x, isWordChar c = true := by
      rcases strippedWords_cases hw with hone | hword
      · omega
      · exact hword
    have hlast : cs.getLast?.any isWordChar = true := by
      rw [heq, List.getLast?_append_of_ne_nil front hback]
      exact getLast?_any_of_forall hback fun c hc => hword c (List.mem_append_left x hc)
    have hhead : rest.head?.any isWordChar = true := by
      obtain ⟨y, rfl⟩ := hrest
      rw [List.head?_append_of_ne_nil x hx]
      exact head?_any_of_forall hx fun c hc => hword c (List.mem_append_right back hc)
    rcases hapart with h | h
    · rw [hlast] at h
      cases h
    · rw [hhead] at h
      cases h

/-- Of plain tokens blanking out leaves what cutting does. -/
theorem IsSplit.blankOutAny_textOf {ts : List Token} (h : IsSplit [] ts) (hplain : ∀ t ∈ ts, t.IsPlain) :
    blankOutAny strippedWords (textOf ts) = ts.flatMap Token.cut := by
  revert hplain
  refine h.token_induction
    (motive := fun ts => (∀ t ∈ ts, t.IsPlain) → blankOutAny strippedWords (textOf ts) = ts.flatMap Token.cut)
    (fun _ => blankOutAny_nil _) ?_ ?_ ?_ ?_ (.inl rfl)
  · intro c ts hc ih hplain
    have hnone : wordAt strippedWords (c :: textOf ts) = none := by
      refine wordAt_eq_none_iff.2 fun w hw hpre => ?_
      obtain ⟨d, w, rfl⟩ := List.exists_cons_of_ne_nil (separate_strippedWords.ne_nil w hw)
      obtain rfl : d = c := (List.cons_prefix_cons.1 hpre).1
      have hnot : ∀ w ∈ strippedWords, (w.all fun d => !isBlank d) = true := by decide
      have := hnot _ hw
      simp [hc] at this
    rw [textOf_cons, Token.text, List.singleton_append, blankOutAny_cons hnone,
      ih fun t ht => hplain t (List.mem_cons_of_mem _ ht)]
    rfl
  · intro c ts hc ih hplain
    have hword : [c] ∈ strippedWords := hplain _ List.mem_cons_self
    rw [textOf_cons, Token.text, blankOutAny_word (List.cons_ne_nil c []) (wordAt_strippedWords hword _),
      ih fun t ht => hplain t (List.mem_cons_of_mem _ ht)]
    rfl
  · intro cs ts hkey _ ih hplain
    have hword : cs ∈ strippedWords := hplain _ List.mem_cons_self
    rw [textOf_cons, Token.text, blankOutAny_word (operatorWord_ne_nil hkey) (wordAt_strippedWords hword _),
      ih fun t ht => hplain t (List.mem_cons_of_mem _ ht)]
    rfl
  · intro cs ts _ hapart _ ih hplain
    have hterm : (Token.term cs).IsPlain := hplain _ List.mem_cons_self
    rw [textOf_cons, Token.text, blankOutAny_append fun front back heq hback => wordAt_of_term hterm hapart heq hback,
      ih fun t ht => hplain t (List.mem_cons_of_mem _ ht)]
    rfl

/-- **Where operators are plain, stripping leaves what cutting does.** -/
theorem strip_eq_cut {cs : List Char} (hplain : PlainOperators cs) : strip cs = cut cs := by
  have hsplit := isSplit_tokens cs
  have htext := textOf_tokens cs
  rw [strip_eq_blankOutAny]
  rw [← htext] at hplain ⊢
  rw [hsplit.blankOutAny_textOf fun t ht => hsplit.isPlain hplain ht, hsplit.cut_textOf]

/-! ## The terms of a query -/

theorem mem_cut {cs : List Char} {c : Char} (hc : c ∈ cut cs) : c = ' ' ∨ c ∈ cs := by
  have hcut := (isSplit_tokens cs).cut_textOf
  rw [textOf_tokens] at hcut
  rw [hcut] at hc
  obtain ⟨t, ht, hmem⟩ := List.mem_flatMap.1 hc
  have htext (h : c ∈ t.text) : c ∈ cs := by
    rw [← textOf_tokens cs]
    exact List.mem_flatMap.2 ⟨t, ht, h⟩
  cases t with
  | blank d => exact .inr (htext hmem)
  | operator ds => exact .inl (List.mem_singleton.1 hmem)
  | term ds => exact .inr (htext hmem)

/-- Where spaces are the only blanks, the terms of a text stand between spaces. -/
theorem scanTerms_eq_runs_cut {cs : List Char} (hblank : ∀ c ∈ cs, isBlank c = true → c = ' ') :
    scanTerms cs = runs (· ≠ ' ') (cut cs) := by
  refine runs_congr fun c hc => ?_
  have hspace : isBlank ' ' = true := by decide
  have hiff : isBlank c = true ↔ c = ' ' := by
    constructor
    · intro h
      rcases mem_cut hc with rfl | hmem
      · rfl
      · exact hblank c hmem h
    · rintro rfl
      exact hspace
  rw [Bool.eq_iff_iff, Bool.not_eq_true', ← Bool.not_eq_true, hiff]
  simp

theorem isSplit_blanks {before cs : List Char} (h : ∀ c ∈ cs, isBlank c = true) :
    IsSplit before (cs.map Token.blank) := by
  induction cs generalizing before with
  | nil => exact .nil
  | cons c cs ih => exact .blank (h c List.mem_cons_self) (ih fun d hd => h d (List.mem_cons_of_mem c hd))

/-- A blank text has no terms. -/
theorem scanTerms_of_blank {cs : List Char} (h : isBlankText cs = true) : scanTerms cs = [] := by
  have htokens : tokens cs = cs.map Token.blank :=
    tokens_eq_iff.2 ⟨isSplit_blanks (List.all_eq_true.1 h), by simp [textOf, List.flatMap_map, Token.text]⟩
  rw [scanTerms_eq_termsOf, htokens, termsOf, List.filterMap_map]
  exact List.filterMap_eq_nil_iff.2 fun c _ => rfl

/-- The terms of the breakdown of a query, none if it has no breakdown. -/
theorem terms_decompose (query : String) :
    ((decompose query).map Breakdown.terms).getD [] = (scanTerms query.toList).map String.ofList := by
  rw [decompose]
  split
  · next hblank => rw [scanTerms_of_blank hblank]; rfl
  · rfl

/-- **The search terms of a query are the terms of its breakdown that are longer than two characters**, of those that
agree in lower case the first one, if it has no blanks other than spaces and its operators are plain. -/
theorem searchTerms_eq_terms (query : String) (hblank : ∀ c ∈ query.toList, isBlank c = true → c = ' ')
    (hplain : PlainOperators query.toList) :
    searchTerms query =
      distinctOn lowercase ((((decompose query).map Breakdown.terms).getD []).filter fun t => 2 < t.length) := by
  have hlong : (((scanTerms query.toList).map String.ofList).filter fun t => 2 < t.length) =
      (longWords (cut query.toList)).map String.ofList := by
    rw [List.filter_map, scanTerms_eq_runs_cut hblank, longWords]
    congr 1
    refine List.filter_congr fun w _ => ?_
    simp
  have hlower (w : List Char) : lowercase (String.ofList w) = String.ofList (lower w) := by
    rw [lowercase, String.toList_ofList]
  rw [terms_decompose, hlong, distinctOn_map (fun _ _ => String.ofList_injective) hlower, searchTerms,
    strip_eq_cut hplain]

/-- Operators next to parentheses, a term that comes again in another case, and one that is too short. -/
theorem searchTerms_eq_terms_repeated :
    (∀ c ∈ "(Rice AND NOT ox)OR rICE mix".toList, isBlank c = true → c = ' ') ∧
      PlainOperators "(Rice AND NOT ox)OR rICE mix".toList ∧
      searchTerms "(Rice AND NOT ox)OR rICE mix" = ["Rice", "mix"] ∧
      searchTerms "(Rice AND NOT ox)OR rICE mix" = distinctOn lowercase
        ((((decompose "(Rice AND NOT ox)OR rICE mix").map Breakdown.terms).getD []).filter fun t => 2 < t.length) :=
  have hall : ("(Rice AND NOT ox)OR rICE mix".toList.all fun c => !isBlank c || c == ' ') = true := by decide +kernel
  have hblank : ∀ c ∈ "(Rice AND NOT ox)OR rICE mix".toList, isBlank c = true → c = ' ' := by
    intro c hc hb
    simpa [hb] using List.all_eq_true.1 hall c hc
  have hplain : PlainOperators "(Rice AND NOT ox)OR rICE mix".toList := by decide +kernel
  ⟨hblank, hplain, by decide +kernel, searchTerms_eq_terms _ hblank hplain⟩

end RecipeSearch.Query
