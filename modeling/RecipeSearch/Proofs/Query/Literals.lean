import Mathlib.Data.List.Chain
import RecipeSearch.Proofs.Query.Cascade
import RecipeSearch.Proofs.Query.Spacing
import RecipeSearch.Proofs.Query.Verdict
import RecipeSearch.Proofs.Text.Literal

/-!
# The literals of a clause

The quotes of a clause come from the rows of the table alone, in pairs around a word or a condition (`IsLiteral`,
`quoted_wordSubstitutions`). The rows for NOT leave what is between the quotes of a pair as it is, for no blank in there
follows NOT, and so **they keep the literals** (`Tidied.quoted`).
-/

namespace RecipeSearch.Query

open Text

/-- What the clause of a query may have between quotes. -/
inductive IsLiteral : List Char → Prop
  | area {w : List Char} (h : isAnyKeyword areas w = true) : IsLiteral w
  | category {w : List Char} (h : isAnyKeyword categories w = true) : IsLiteral w
  | ingredient {w : List Char} (h : isAnyKeyword ingredients w = true) : IsLiteral ('%' :: (w ++ ['%']))
  | vegan : IsLiteral "r.IsVegan = 1".toList
  | vegetarian : IsLiteral "r.IsVegetarian = 1".toList
  | easy : IsLiteral "Easy".toList

/-- No blank of the text can be one behind NOT. -/
def HasNoGap (cs : List Char) : Prop :=
  cs.IsChain fun t g => isBlank g = true → foldLetter t ≠ 't'

theorem HasNoGap.ne_of_isBlank {front back : List Char} {t g : Char} (h : HasNoGap (front ++ t :: g :: back))
    (hg : isBlank g = true) : foldLetter t ≠ 't' :=
  List.isChain_iff_forall_rel_of_append_cons_cons.1 h rfl hg

theorem hasNoGap_of_no_blank {cs : List Char} (h : ∀ c ∈ cs, isBlank c = false) : HasNoGap cs := by
  refine List.isChain_iff_forall_rel_of_append_cons_cons.2 fun t g front back hcs hblank => ?_
  have hg : g ∈ cs := by simp [hcs]
  rw [h g hg] at hblank
  cases hblank

/-- A text of word characters has neither quotes nor blanks. -/
theorem not_mem_quote_of_word {w : List Char} (hw : ∀ c ∈ w, isWordChar c = true) : '\'' ∉ w :=
  fun hmem => absurd (hw _ hmem) (by decide)

/-- Vocabulary is made of word characters. -/
theorem isWordChar_of_vocabulary {keywords : List String} (h : keywords ∈ [areas, ingredients, categories])
    {w : List Char} (hw : isAnyKeyword keywords w = true) : ∀ c ∈ w, isWordChar c = true := by
  have hall : ∀ keywords ∈ [areas, ingredients, categories],
      (keywords.all fun keyword => keyword.toList.all isWordChar) = true := by decide
  exact isWordChar_of_isAnyKeyword (hall keywords h) hw

theorem IsLiteral.not_mem_quote_and_hasNoGap {l : List Char} (h : IsLiteral l) : '\'' ∉ l ∧ HasNoGap l := by
  have word {w : List Char} (hw : ∀ c ∈ w, isWordChar c = true) : '\'' ∉ w ∧ HasNoGap w :=
    ⟨not_mem_quote_of_word hw, hasNoGap_of_no_blank fun c hc => isBlank_of_isWordChar (hw c hc)⟩
  cases h with
  | area h => exact word (isWordChar_of_vocabulary (by simp) h)
  | category h => exact word (isWordChar_of_vocabulary (by simp) h)
  | @ingredient w h =>
    have hw := isWordChar_of_vocabulary (by simp) h
    refine ⟨by simp [not_mem_quote_of_word hw], hasNoGap_of_no_blank fun c hc => ?_⟩
    simp only [List.mem_cons, List.mem_append, List.not_mem_nil, or_false] at hc
    rcases hc with rfl | hc | rfl
    · decide
    · exact isBlank_of_isWordChar (hw c hc)
    · decide
  | vegan => exact ⟨by decide, by unfold HasNoGap; decide⟩
  | vegetarian => exact ⟨by decide, by unfold HasNoGap; decide⟩
  | easy => exact ⟨by decide, by unfold HasNoGap; decide⟩

/-! ## The rows for words -/

/-- The place of a word is taken by the word itself, or by the condition of an attribute that it spells. -/
theorem attributeOrWord_cases (w : List Char) :
    attributeOrWord attributes w = w ∨
      ∃ a ∈ attributes, isKeyword a.1 w = true ∧ attributeOrWord attributes w = a.2.toList := by
  unfold attributeOrWord
  split
  · next keyword condition hfind =>
    exact .inr ⟨(keyword, condition), List.mem_of_find?_eq_some hfind, by simpa using List.find?_some hfind, rfl⟩
  · exact .inl rfl

/-- Between the quotes of a category stands the category, or one of the two conditions for a diet. -/
theorem isLiteral_attributeOrWord {w : List Char} (h : isAnyKeyword categories w = true) :
    IsLiteral (attributeOrWord attributes w) := by
  rcases attributeOrWord_cases w with hword | ⟨a, ha, hkey, hcondition⟩
  · rw [hword]
    exact .category h
  have hdiet : ∀ a ∈ attributes, a.1 ∈ categories → a.2 = "r.IsVegan = 1" ∨ a.2 = "r.IsVegetarian = 1" := by
    decide
  have hcategory : a.1 ∈ categories := by
    obtain ⟨keyword, hk, hfold⟩ := isAnyKeyword_iff.1 h
    rw [isKeyword_iff, hfold, String.toList_inj] at hkey
    exact hkey ▸ hk
  rw [hcondition]
  rcases hdiet a ha hcategory with heq | heq
  · rw [heq]
    exact .vegan
  · rw [heq]
    exact .vegetarian

theorem quoted_attributeOrWord {w : List Char} (hw : ∀ c ∈ w, isWordChar c = true) :
    Quoted IsLiteral (attributeOrWord attributes w) := by
  rcases attributeOrWord_cases w with hword | ⟨a, ha, -, hcondition⟩
  · rw [hword]
    exact .of_not_mem (not_mem_quote_of_word hw)
  have hquote : ∀ a ∈ attributes, '\'' ∉ a.2.toList ∨
      a.2.toList = "r.DifficultyLevel = ".toList ++ '\'' :: ("Easy".toList ++ '\'' :: []) := by
    decide
  rw [hcondition]
  rcases hquote a ha with hnone | heasy
  · exact .of_not_mem hnone
  · rw [heasy]
    exact (Quoted.of_not_mem (by decide)).append (.literal .easy (by decide) .nil)

theorem quoted_translateWord {w : List Char} (hw : ∀ c ∈ w, isWordChar c = true) :
    Quoted IsLiteral (translateWord w) := by
  have between {front : List Char} (hfront : '\'' ∉ front) {l : List Char} (hl : IsLiteral l) :
      Quoted IsLiteral (front ++ '\'' :: (l ++ '\'' :: [])) :=
    (Quoted.of_not_mem hfront).append (.literal hl hl.not_mem_quote_and_hasNoGap.1 .nil)
  unfold translateWord
  split
  · next harea => exact between (by decide) (.area harea)
  split
  · next hingredient =>
    have hregroup : "i.IngredientName LIKE '".toList ++ '%' :: (w ++ '%' :: "'".toList) =
        "i.IngredientName LIKE ".toList ++ '\'' :: (('%' :: (w ++ ['%'])) ++ '\'' :: []) := by simp
    rw [hregroup]
    exact between (by decide) (.ingredient hingredient)
  split
  · next hcategory => exact between (by decide) (isLiteral_attributeOrWord hcategory)
  · exact quoted_attributeOrWord hw

/-- **All quotes that the rows for words insert are those of literals.** -/
theorem quoted_wordSubstitutions {cs : List Char} (h : '\'' ∉ cs) :
    Quoted IsLiteral (applyAll wordSubstitutions cs) := by
  induction cs using cut_induction (p := isWordChar) with
  | nil =>
    rw [applyAll_nil_text isForWords_wordSubstitutions]
    exact .nil
  | word w hne hw =>
    rw [applyAll_wordSubstitutions_word hne hw]
    exact quoted_translateWord hw
  | cut xs c ys hc ihx ihy =>
    simp only [List.mem_append, List.mem_cons, not_or] at h
    rw [applyAll_append_other isForWords_wordSubstitutions hc]
    exact (ihx h.1).append (.keep (Ne.symm h.2.1) (ihy h.2.2))

/-! ## The rows for NOT -/

theorem Tidied.of_quote {xs ys : List Char} (h : Tidied ('\'' :: xs) ys) : ∃ zs, ys = '\'' :: zs ∧ Tidied xs zs := by
  generalize hcs : '\'' :: xs = cs at h
  cases h with
  | nil => cases hcs
  | keep c htail =>
    cases hcs
    exact ⟨_, rfl, htail⟩
  | tidy hnot =>
    obtain ⟨rfl, -⟩ := List.cons.inj hcs
    exact absurd (isKeyword_not_iff.1 hnot).1 (by decide)

/-- A literal stays when the text that begins with it is tidied, for a NOT in it is followed by no blank. -/
theorem Tidied.of_literal {l xs ys : List Char} (hquote : '\'' ∉ l) (hgap : HasNoGap l)
    (h : Tidied (l ++ '\'' :: xs) ys) : ∃ zs, ys = l ++ '\'' :: zs ∧ Tidied xs zs := by
  induction l generalizing ys with
  | nil => exact h.of_quote
  | cons c l ih =>
    rw [List.mem_cons, not_or] at hquote
    generalize hcs : c :: l ++ '\'' :: xs = cs at h
    cases h with
    | nil => cases hcs
    | keep d htail =>
      cases hcs
      obtain ⟨zs, rfl, hzs⟩ := ih hquote.2 hgap.tail htail
      exact ⟨zs, rfl, hzs⟩
    | @tidy n o t gap xs' ys' hnot hne blank htail =>
      -- the blank behind the NOT lies before the closing quote, which is neither a letter of it nor a blank
      obtain ⟨-, ho, ht⟩ := isKeyword_not_iff.1 hnot
      obtain ⟨g, gap, rfl⟩ := List.exists_cons_of_ne_nil hne
      have hg : isBlank g = true := blank g List.mem_cons_self
      match l with
      | [] =>
        obtain ⟨rfl, rfl, -⟩ : c = n ∧ '\'' = o ∧ _ := by simpa using hcs
        exact absurd ho (by decide)
      | [_] =>
        obtain ⟨rfl, rfl, rfl, -⟩ : c = n ∧ _ = o ∧ '\'' = t ∧ _ := by simpa using hcs
        exact absurd ht (by decide)
      | [_, _] =>
        obtain ⟨rfl, rfl, rfl, rfl, -⟩ : c = n ∧ _ = o ∧ _ = t ∧ '\'' = g ∧ _ := by simpa using hcs
        exact absurd hg (by decide)
      | _ :: _ :: _ :: l =>
        obtain ⟨rfl, rfl, rfl, rfl, -⟩ : c = n ∧ _ = o ∧ _ = t ∧ _ = g ∧ _ := by simpa using hcs
        exact absurd ht (HasNoGap.ne_of_isBlank (show HasNoGap ([_, _] ++ _ :: _ :: l) from hgap) hg)

/-- **Tidying keeps the literals.** -/
theorem Tidied.quoted {xs ys : List Char} (h : Tidied xs ys) (hx : Quoted IsLiteral xs) : Quoted IsLiteral ys := by
  induction hx generalizing ys with
  | nil =>
    cases h
    exact .nil
  | @keep c cs hc _ ih =>
    cases h with
    | keep _ htail => exact .keep hc (ih htail)
    | @tidy n o t gap xs ys hnot hne blank htail =>
      obtain ⟨-, ho, ht⟩ := isKeyword_not_iff.1 hnot
      have hfront : '\'' ∉ o :: t :: gap := by
        simp only [List.mem_cons, not_or]
        refine ⟨?_, ?_, fun hgap => absurd (blank _ hgap) (by decide)⟩
        · rintro rfl
          exact absurd ho (by decide)
        · rintro rfl
          exact absurd ht (by decide)
      have hrest : Quoted IsLiteral ys := (ih (htail.append_left (o :: t :: gap))).of_append hfront
      have hnot : Quoted IsLiteral ['N', 'O', 'T', ' '] := .of_not_mem (by decide)
      exact hnot.append hrest
  | @literal l cs hl hquote _ ih =>
    obtain ⟨ys, rfl, htail⟩ := h.of_quote
    obtain ⟨zs, rfl, hzs⟩ := htail.of_literal hquote hl.not_mem_quote_and_hasNoGap.2
    exact .literal hl hquote (ih hzs)

end RecipeSearch.Query
