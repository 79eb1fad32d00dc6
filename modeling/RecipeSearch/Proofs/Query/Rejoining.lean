import RecipeSearch.Proofs.Query.Grammar
import RecipeSearch.Proofs.Query.Stripping
import RecipeSearch.Proofs.Text.Joining

/-!
# Terms that are joined to a query again

The terms of a breakdown have no operators in them, and where spaces join them none comes up, since a space ends every
word (`scanOperators_intercalate`, `cut_intercalate`). So **the terms joined with spaces are a query with the same terms
and no operators** (`decompose_of_joined`). If the query was accepted, its terms are words of letters and underscores
that join nothing (`isPlainWord_of_mem_scanTerms`), and the joined terms are accepted as they are
(`decompose_intercalate`).
-/

namespace RecipeSearch.Query

open Text

/-! ## Scanning joined terms -/

section Scanning

variable {words : List (List Char)}

/-- Joining terms makes no operators. -/
theorem scanOperators_intercalate (h : ∀ w ∈ words, IsTerm w) : scanOperators ([' '].intercalate words) = [] := by
  refine intercalate_induction (motive := fun text => scanOperators text = []) rfl ?_ ?_
  · exact fun w hw => (h w hw).scanOperators_eq_nil
  · intro w hw text ih
    rw [scanOperators_append_other (by decide), (h w hw).scanOperators_eq_nil, ih]
    decide

/-- Nothing is cut out of joined terms. -/
theorem cut_intercalate (h : ∀ w ∈ words, IsTerm w) : cut ([' '].intercalate words) = [' '].intercalate words := by
  refine intercalate_induction (motive := fun text => cut text = text) rfl ?_ ?_
  · exact fun w hw => (h w hw).cut_eq
  · intro w hw text ih
    have hspace : isWordChar ' ' = false := by decide
    have hafter : Apart isWordChar w (' ' :: text) := .inr hspace
    rw [cut_append hafter, (h w hw).cut_eq, ← List.singleton_append, cut_append (apart_of_neg hspace text),
      cut_other hspace, ih]
    rfl

/-- **The terms of joined terms are the same.** -/
theorem scanTerms_intercalate (h : ∀ w ∈ words, IsTerm w) : scanTerms ([' '].intercalate words) = words := by
  have hruns : runs (fun c => !isBlank c) (cut ([' '].intercalate words)) = words := by
    rw [cut_intercalate h]
    refine runs_intercalate (by decide) fun w hw => ⟨(h w hw).ne_nil, fun c hc => ?_⟩
    rw [(h w hw).not_blank c hc]
    rfl
  exact hruns

theorem any_isParenthesis_intercalate (h : ∀ w ∈ words, IsTerm w) :
    ([' '].intercalate words).any isParenthesis = false := by
  rw [List.any_eq_false]
  intro c hc
  rcases mem_of_mem_intercalate hc with rfl | ⟨w, hw, hc⟩
  · decide
  · rw [(h w hw).not_isParenthesis hc]
    exact Bool.false_ne_true

end Scanning

/-! ## Terms of accepted queries -/

/-- One or more letters and underscores. -/
structure IsPlainWord (w : List Char) : Prop where
  ne_nil : w ≠ []
  letters : ∀ c ∈ w, isLetter c = true ∨ c = '_'

theorem isLetter_or_of_isQueryChar {c : Char} (h : isQueryChar c = true) (hblank : isBlank c = false)
    (hparen : isParenthesis c = false) : isLetter c = true ∨ c = '_' := by
  simp only [isParenthesis, Bool.or_eq_false_iff] at hparen
  simpa [isQueryChar, hblank, hparen.1, hparen.2] using h

theorem isQueryChar_of_letter {c : Char} (h : isLetter c = true ∨ c = '_') : isQueryChar c = true := by
  rcases h with h | h <;> simp [isQueryChar, h]

theorem isWordChar_of_letter {c : Char} (h : isLetter c = true ∨ c = '_') : isWordChar c = true := by
  rcases h with h | rfl
  · have hascii : (foldLetter c).toNat < 128 := by
      by_contra hnot
      have halpha := (Bool.or_eq_false_iff.1 (not_isAlpha_of_not_ascii hnot)).2
      rw [isLetter, halpha] at h
      cases h
    rw [← isWordChar_foldLetter]
    exact of_ascii (P := fun c => c.isLower = true → isWordChar c = true) (by decide) hascii h
  · decide

theorem IsPlainWord.not_isBlank {w : List Char} (h : IsPlainWord w) : ∀ c ∈ w, isBlank c = false := fun c hc =>
  isBlank_of_isWordChar (isWordChar_of_letter (h.letters c hc))

theorem IsPlainWord.not_isParenthesis {w : List Char} (h : IsPlainWord w) {c : Char} (hc : c ∈ w) :
    isParenthesis c = false :=
  not_isParenthesis_of_isWordChar (isWordChar_of_letter (h.letters c hc))

/-- A term that is one word is no operator in any case. -/
theorem IsTerm.not_isAnyKeyword_of_word {w : List Char} (h : IsTerm w) (hw : IsPlainWord w) :
    isAnyKeyword operatorWords w = false := by
  refine h.not_isAnyKeyword ?_
  rw [pieces_word h.ne_nil fun c hc => isWordChar_of_letter (hw.letters c hc)]
  exact List.mem_singleton_self _

theorem isTerm_of_mem_scanTerms {cs w : List Char} (h : w ∈ scanTerms cs) : IsTerm w := by
  rw [scanTerms_eq_termsOf] at h
  exact (isSplit_tokens cs).isTerm_of_mem h

theorem mem_of_mem_scanTerms {cs w : List Char} {c : Char} (h : w ∈ scanTerms cs) (hc : c ∈ w) : c ∈ cs := by
  have hcut : c ∈ cut cs := (mem_runs h).2.2.subset hc
  refine (mem_cut hcut).resolve_left ?_
  rintro rfl
  exact absurd ((isTerm_of_mem_scanTerms h).not_blank ' ' hc) (by decide)

/-- **The terms of an accepted query are words of letters and underscores.** -/
theorem isPlainWord_of_mem_scanTerms {query normalized : String} (h : validate query = .ok normalized)
    {w : List Char} (hw : w ∈ scanTerms query.toList) : IsPlainWord w := by
  have hterm := isTerm_of_mem_scanTerms hw
  refine ⟨hterm.ne_nil, fun c hc => ?_⟩
  have hblank := hterm.not_blank c hc
  obtain ⟨hnormalized, -, hchars⟩ := validate_eq_ok h
  have hmem : c ∈ normalized.toList := by
    rw [hnormalized, ← List.count_pos_iff, count_trim hblank, List.count_pos_iff]
    exact mem_of_mem_scanTerms hw hc
  exact isLetter_or_of_isQueryChar (hchars c hmem) hblank (hterm.not_isParenthesis hc)

/-- A query of words that are joined with spaces is accepted as it is. -/
theorem validate_eq_self {query : String} {words : List (List Char)} (hquery : query.toList = [' '].intercalate words)
    (h : ∀ w ∈ words, IsPlainWord w) (hne : words ≠ []) : validate query = .ok query := by
  have hwords : ∀ w ∈ words, w ≠ [] ∧ ∀ c ∈ w, isBlank c = false := fun w hw => ⟨(h w hw).ne_nil, (h w hw).not_isBlank⟩
  have hchars : ∀ c ∈ query.toList, isQueryChar c = true ∧ isParenthesis c = false := by
    rw [hquery]
    intro c hc
    rcases mem_of_mem_intercalate hc with rfl | ⟨w, hw, hc⟩
    · decide
    · exact ⟨isQueryChar_of_letter ((h w hw).letters c hc), (h w hw).not_isParenthesis hc⟩
  have hcount (c : Char) (hc : isParenthesis c = true) : query.toList.count c = 0 := by
    refine List.count_eq_zero.2 fun hmem => ?_
    rw [(hchars c hmem).2] at hc
    cases hc
  have hblank : isBlankText query.toList = false := by rw [hquery, isBlankText_intercalate hwords hne]
  have htrim : trim query.toList = query.toList := by rw [hquery, trim_intercalate hwords]
  have hform : trim query.toList ∈ grammar := by
    refine mem_grammar_iff.2 ⟨trim_ne_nil hblank, fun c hc => isQueryChar_iff.1 (hchars c ?_).1⟩
    rwa [← htrim]
  have haccepted := validate_of_mem_grammar hblank (by rw [hcount '(' (by decide), hcount ')' (by decide)]) hform
  rwa [trimmed, htrim, String.ofList_toList] at haccepted

/-! ## The joined terms -/

/-- A query of terms that are joined with spaces has just these terms. -/
theorem decompose_of_joined {query : String} {words : List (List Char)}
    (hquery : query.toList = [' '].intercalate words) (h : ∀ w ∈ words, IsTerm w) (hne : words ≠ []) :
    ∃ b, decompose query = some b ∧ b.terms = words.map String.ofList ∧ b.operators = [] ∧
      b.hasParentheses = false := by
  have hblank : ¬ isBlankText query.toList = true := by
    rw [hquery, isBlankText_intercalate (fun w hw => ⟨(h w hw).ne_nil, (h w hw).not_blank⟩) hne]
    exact Bool.false_ne_true
  refine ⟨_, if_neg hblank, ?_, ?_, ?_⟩
  · dsimp only
    rw [hquery, scanTerms_intercalate h]
  · dsimp only
    rw [hquery, scanOperators_intercalate h]
    rfl
  · dsimp only
    rw [hquery, any_isParenthesis_intercalate h]

theorem terms_of_decompose {query : String} {b : Breakdown} (h : decompose query = some b) :
    b.terms = (scanTerms query.toList).map String.ofList := by
  rw [decompose] at h
  split at h
  · cases h
  · cases h
    rfl

/-- **The terms of a breakdown that are joined with spaces** are a query with the same terms and neither operators nor
parentheses. Those of an accepted query are words of letters and underscores, none of them an operator, and are accepted
as they are when they are joined. -/
theorem decompose_intercalate {query : String} {b : Breakdown} (h : decompose query = some b) (hne : b.terms ≠ []) :
    (∃ b', decompose (" ".intercalate b.terms) = some b' ∧ b'.terms = b.terms ∧ b'.operators = [] ∧
        b'.hasParentheses = false) ∧
      ∀ normalized, validate query = .ok normalized →
        validate (" ".intercalate b.terms) = .ok (" ".intercalate b.terms) ∧
          ∀ term ∈ b.terms, IsPlainWord term.toList ∧ isAnyKeyword operatorWords term.toList = false := by
  have hterms := terms_of_decompose h
  have hwords : b.terms.map String.toList = scanTerms query.toList := by
    rw [hterms, List.map_map]
    simp [Function.comp_def]
  have hjoined : (" ".intercalate b.terms).toList = [' '].intercalate (scanTerms query.toList) := by
    have hspace : " ".toList = [' '] := rfl
    rw [String.toList_intercalate, hspace, hwords]
  have hsome : scanTerms query.toList ≠ [] := by
    rintro hnil
    rw [hterms, hnil] at hne
    exact hne rfl
  have hall : ∀ w ∈ scanTerms query.toList, IsTerm w := fun w hw => isTerm_of_mem_scanTerms hw
  refine ⟨?_, fun normalized hvalid => ?_⟩
  · have hagain := decompose_of_joined hjoined hall hsome
    rwa [← hterms] at hagain
  · have hplain : ∀ w ∈ scanTerms query.toList, IsPlainWord w := fun w hw => isPlainWord_of_mem_scanTerms hvalid hw
    refine ⟨validate_eq_self hjoined hplain hsome, fun term hterm => ?_⟩
    have hmem : term.toList ∈ scanTerms query.toList := hwords ▸ List.mem_map_of_mem hterm
    exact ⟨hplain _ hmem, (hall _ hmem).not_isAnyKeyword_of_word (hplain _ hmem)⟩

/-- Operators in any case next to parentheses and to words that have their letters in them. -/
theorem decompose_intercalate_lookalike :
    let query := "(rice)AND x_and\tnOt((dry_fish)oR)k and_"
    let terms := ["rice", "x_and", "dry_fish", "k", "and_"]
    (decompose query).map Breakdown.terms = some terms ∧ validate query = .ok query ∧
      " ".intercalate terms = "rice x_and dry_fish k and_" ∧
      (∃ b', decompose (" ".intercalate terms) = some b' ∧ b'.terms = terms ∧ b'.operators = [] ∧
        b'.hasParentheses = false) ∧
      validate (" ".intercalate terms) = .ok (" ".intercalate terms) := by
  intro query terms
  have hterms : (decompose query).map Breakdown.terms = some terms := by decide +kernel
  have hvalid : validate query = .ok query := by decide
  obtain ⟨b, hb, hbterms⟩ := Option.map_eq_some_iff.1 hterms
  have hne : b.terms ≠ [] := by
    rw [hbterms]
    exact List.cons_ne_nil _ _
  have hjoined := decompose_intercalate hb hne
  rw [hbterms] at hjoined
  exact ⟨hterms, hvalid, rfl, hjoined.1, (hjoined.2 query hvalid).1⟩

end RecipeSearch.Query
