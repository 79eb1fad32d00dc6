import Mathlib.Data.List.Nodup
import RecipeSearch.Proofs.Query.Cascade
import RecipeSearch.Proofs.Text.Search

/-!
# The rows for words are one pass over the words

Each row for words searches the whole text for its keywords, what the rows before it have inserted included
(`apply_words_eq_replace`). Nevertheless a word becomes what its own spelling says and all else stays where it is:
**the rows one after the other put for every maximal run of word characters its meaning** (`applyAll_rows_for_words`).
A text without words of the vocabulary stays as it is (`applyAll_wordSubstitutions_eq_self`).
-/

namespace RecipeSearch.Query

open Text

/-! ## What words mean -/

/-- What a word becomes: a condition with the word as it is spelled, for areas, ingredients and categories; the
condition of an attribute; both at once for the two diets, which are categories too; or the word itself, if it is not
in the vocabulary. -/
def meaning (w : List Char) : List Char :=
  if isAnyKeyword areas w then "a.AreaName = '".toList ++ w ++ "'".toList
  else if isAnyKeyword ingredients w then "i.IngredientName LIKE '%".toList ++ w ++ "%'".toList
  else if isKeyword "vegan" w then "c.CategoryName = 'r.IsVegan = 1'".toList
  else if isKeyword "vegetarian" w then "c.CategoryName = 'r.IsVegetarian = 1'".toList
  else if isAnyKeyword categories w then "c.CategoryName = '".toList ++ w ++ "'".toList
  else if isKeyword "gluten_free" w then "r.IsGlutenFree = 1".toList
  else if isKeyword "quick" w then "r.CookTimeMinutes <= 30".toList
  else if isKeyword "easy" w then "r.DifficultyLevel = 'Easy'".toList
  else w

/-- What a piece of a text becomes. -/
def meaningPiece : Piece → List Char
  | .run w => meaning w
  | .other c => [c]

theorem eq_of_isKeyword {keyword other : String} {w : List Char} (h : isKeyword keyword w = true)
    (h' : isKeyword other w = true) : keyword = other := by
  rw [isKeyword_iff] at h h'
  exact String.toList_inj.1 (h.symm.trans h')

/-- A word that spells an attribute stands for its condition. -/
theorem attributeOrWord_of_isKeyword {a : String × String} (ha : a ∈ attributes) {w : List Char}
    (hw : isKeyword a.1 w = true) : attributeOrWord attributes w = a.2.toList := by
  have hkeys : (attributes.map Prod.fst).Nodup := by decide
  cases hfind : attributes.find? fun a => isKeyword a.1 w with
  | none =>
    have := List.find?_eq_none.1 hfind a ha
    exact absurd hw this
  | some b =>
    have hb : isKeyword b.1 w = true := by simpa using List.find?_some hfind
    obtain rfl : b = a :=
      List.inj_on_of_nodup_map hkeys (List.mem_of_find?_eq_some hfind) ha (eq_of_isKeyword hb hw)
    rw [attributeOrWord, hfind]

theorem attributeOrWord_of_none {w : List Char} (h : ∀ a ∈ attributes, isKeyword a.1 w = false) :
    attributeOrWord attributes w = w := by
  have hfind : (attributes.find? fun a => isKeyword a.1 w) = none := by
    simpa [List.find?_eq_none] using h
  rw [attributeOrWord, hfind]

/-- A category other than a diet is no attribute. -/
theorem attributeOrWord_of_category {w : List Char} (h : isAnyKeyword categories w = true)
    (hvegan : isKeyword "vegan" w = false) (hvegetarian : isKeyword "vegetarian" w = false) :
    attributeOrWord attributes w = w := by
  refine attributeOrWord_of_none fun a ha => ?_
  rw [← Bool.not_eq_true]
  intro hkey
  obtain ⟨keyword, hk, hw⟩ := List.any_eq_true.1 h
  obtain rfl : a.1 = keyword := eq_of_isKeyword hkey hw
  have hdiet : ∀ a ∈ attributes, a.1 ∈ categories → a.1 = "vegan" ∨ a.1 = "vegetarian" := by decide
  rcases hdiet a ha hk with heq | heq
  · rw [heq, hvegan] at hkey
    cases hkey
  · rw [heq, hvegetarian] at hkey
    cases hkey

theorem isAnyKeyword_of_mem {keywords : List String} {keyword : String} (hk : keyword ∈ keywords) {w : List Char}
    (hw : isKeyword keyword w = true) : isAnyKeyword keywords w = true :=
  List.any_eq_true.2 ⟨keyword, hk, hw⟩

/-- The condition of an attribute stands between the quotes of a category only where it is a diet. -/
theorem translateWord_eq_meaning (w : List Char) : translateWord w = meaning w := by
  unfold translateWord meaning
  split
  · simp
  split
  · simp
  cases hvegan : isKeyword "vegan" w with
  | true =>
    rw [if_pos (isAnyKeyword_of_mem (by decide) hvegan),
      attributeOrWord_of_isKeyword (a := ("vegan", "r.IsVegan = 1")) (by decide) hvegan]
    simp
  | false =>
    cases hvegetarian : isKeyword "vegetarian" w with
    | true =>
      rw [if_pos (isAnyKeyword_of_mem (by decide) hvegetarian),
        attributeOrWord_of_isKeyword (a := ("vegetarian", "r.IsVegetarian = 1")) (by decide) hvegetarian]
      simp
    | false =>
      rw [if_neg Bool.false_ne_true, if_neg Bool.false_ne_true]
      split
      · next hcategory =>
        rw [attributeOrWord_of_category hcategory hvegan hvegetarian]
        simp
      split
      · next h => exact attributeOrWord_of_isKeyword (a := ("gluten_free", "r.IsGlutenFree = 1")) (by decide) h
      split
      · next h => exact attributeOrWord_of_isKeyword (a := ("quick", "r.CookTimeMinutes <= 30")) (by decide) h
      split
      · next h => exact attributeOrWord_of_isKeyword (a := ("easy", "r.DifficultyLevel = 'Easy'")) (by decide) h
      · next hgluten hquick heasy =>
        refine attributeOrWord_of_none fun a ha => ?_
        simp only [attributes, List.mem_cons, List.not_mem_nil, or_false] at ha
        rcases ha with rfl | rfl | rfl | rfl | rfl <;> simp_all only [Bool.not_eq_true]

/-! ## The rows as searches -/

/-- The pattern of a row for words: any of its keywords. -/
def wordPattern (keywords : List String) : Pattern :=
  ⟨keywords, fun _ => false⟩

theorem isOfWords_wordPattern {keywords : List String}
    (h : ∀ keyword ∈ keywords, keyword.toList ≠ [] ∧ (keyword.toList.all isWordChar) = true) :
    (wordPattern keywords).IsOfWords :=
  ⟨h, fun _ _ => rfl⟩

/-- A row for words searches the text for its keywords. -/
theorem apply_words_eq_replace {keywords : List String}
    (h : ∀ keyword ∈ keywords, keyword.toList ≠ [] ∧ (keyword.toList.all isWordChar) = true) (r : Replacement)
    (cs : List Char) : (Substitution.words keywords r).apply cs = (wordPattern keywords).replace r.fill cs := by
  rw [Pattern.replace_eq (isOfWords_wordPattern h)]
  rfl

/-- The words that the rows for words replace, in lower case. -/
def vocabulary : List String :=
  areas ++ ingredients ++ categories ++ attributes.map Prod.fst

theorem mem_vocabulary : ∀ row ∈ wordSubstitutions, ∀ keyword ∈ row.keywords, keyword ∈ vocabulary := by
  intro row hrow keyword hkeyword
  simp only [vocabulary, List.mem_append, List.mem_map, or_assoc]
  rcases List.mem_append.1 hrow with h | h
  · simp only [List.mem_cons, List.not_mem_nil, or_false] at h
    rcases h with rfl | rfl | rfl
    · exact .inl hkeyword
    · exact .inr (.inl hkeyword)
    · exact .inr (.inr (.inl hkeyword))
  · obtain ⟨a, ha, rfl⟩ := List.mem_map.1 h
    exact .inr (.inr (.inr ⟨a, ha, (List.mem_singleton.1 hkeyword).symm⟩))

/-- The words of the vocabulary are words, and have four letters or more. -/
theorem words_vocabulary :
    (vocabulary.all fun keyword => decide (4 ≤ keyword.toList.length) && keyword.toList.all isWordChar) = true := by
  decide

theorem keywords_wordSubstitutions :
    ∀ row ∈ wordSubstitutions, ∀ keyword ∈ row.keywords,
      keyword.toList ≠ [] ∧ (keyword.toList.all isWordChar) = true := by
  intro row hrow keyword hkeyword
  have hword := List.all_eq_true.1 words_vocabulary keyword (mem_vocabulary row hrow keyword hkeyword)
  rw [Bool.and_eq_true, decide_eq_true_eq] at hword
  exact ⟨List.length_pos_iff.1 (by omega), hword.2⟩

/-! ## The pass -/

theorem applyAll_wordSubstitutions (cs : List Char) :
    applyAll wordSubstitutions cs = (pieces isWordChar cs).flatMap meaningPiece := by
  induction cs using cut_induction (p := isWordChar) with
  | nil => exact applyAll_nil_text isForWords_wordSubstitutions
  | word w hne hw =>
    rw [applyAll_wordSubstitutions_word hne hw, translateWord_eq_meaning, pieces_word hne hw, List.flatMap_singleton]
    rfl
  | cut xs c ys hc ihx ihy =>
    rw [applyAll_append_other isForWords_wordSubstitutions hc, pieces_append_other hc, List.flatMap_append,
      List.flatMap_cons, ihx, ihy]
    rfl

/-- **The rows for words are one pass over the words**: although each row searches the whole text for its keywords, what
the rows before it have inserted included, a text becomes the meanings of its maximal runs of word characters, and the
characters between these stay where they are. -/
theorem applyAll_rows_for_words (cs : List Char) :
    (∀ row ∈ substitutions.take 8, ∃ keywords r, row = .words keywords r ∧
        ∀ ds, row.apply ds = (wordPattern keywords).replace r.fill ds) ∧
      ∃ ps, IsCut isWordChar ps ∧ ps.flatMap Piece.text = cs ∧
        applyAll (substitutions.take 8) cs = ps.flatMap meaningPiece := by
  have hrows : substitutions.take 8 = wordSubstitutions := rfl
  rw [hrows]
  refine ⟨fun row hrow => ?_, pieces isWordChar cs, isCut_pieces _ _, pieces_text _ _, applyAll_wordSubstitutions cs⟩
  obtain ⟨keywords, r, rfl⟩ := isForWords_wordSubstitutions row hrow
  exact ⟨keywords, r, rfl, apply_words_eq_replace (keywords_wordSubstitutions _ hrow) r⟩

/-- The long s spells an ingredient, and a longer word spells no diet. -/
example : applyAll (substitutions.take 8) "ſalmon-VEGAN_x Vegan".toList =
    "i.IngredientName LIKE '%ſalmon%'-VEGAN_x c.CategoryName = 'r.IsVegan = 1'".toList := by
  decide

/-! ## Words outside the vocabulary -/

section Words

variable {w cs : List Char}

theorem isAnyKeyword_vocabulary_eq_false_iff :
    isAnyKeyword vocabulary w = false ↔ isAnyKeyword areas w = false ∧ isAnyKeyword ingredients w = false ∧
      isAnyKeyword categories w = false ∧ ∀ a ∈ attributes, isKeyword a.1 w = false := by
  simp only [isAnyKeyword, vocabulary, List.any_append, Bool.or_eq_false_iff, and_assoc, List.any_map,
    List.any_eq_false (l := attributes), Function.comp_apply, Bool.not_eq_true]

theorem meaning_eq_self (h : isAnyKeyword vocabulary w = false) : meaning w = w := by
  obtain ⟨hareas, hingredients, hcategories, hattributes⟩ := isAnyKeyword_vocabulary_eq_false_iff.1 h
  rw [← translateWord_eq_meaning, translateWord, hareas, hingredients, hcategories, if_neg Bool.false_ne_true,
    if_neg Bool.false_ne_true, if_neg Bool.false_ne_true, attributeOrWord_of_none hattributes]

theorem isAnyKeyword_vocabulary_of_length (h : w.length < 4) : isAnyKeyword vocabulary w = false := by
  rw [← Bool.not_eq_true, isAnyKeyword_iff]
  rintro ⟨keyword, hk, hfold⟩
  have hword := List.all_eq_true.1 words_vocabulary keyword hk
  rw [Bool.and_eq_true, decide_eq_true_eq, ← hfold, List.length_map] at hword
  omega

/-- The rows for words leave a text without words of the vocabulary as it is. -/
theorem applyAll_wordSubstitutions_eq_self (h : ∀ w ∈ runs isWordChar cs, isAnyKeyword vocabulary w = false) :
    applyAll wordSubstitutions cs = cs := by
  have hpieces : ∀ q ∈ pieces isWordChar cs, meaningPiece q = q.text := by
    intro q hq
    cases q with
    | run w => exact meaning_eq_self (h w (List.mem_filterMap.2 ⟨_, hq, rfl⟩))
    | other c => rfl
  calc applyAll wordSubstitutions cs
      = (pieces isWordChar cs).flatMap meaningPiece := applyAll_wordSubstitutions cs
    _ = (pieces isWordChar cs).flatMap Piece.text := List.flatMap_congr hpieces
    _ = cs := pieces_text isWordChar cs

end Words

end RecipeSearch.Query
