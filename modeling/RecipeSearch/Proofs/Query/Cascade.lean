import RecipeSearch.Proofs.Text.Pieces
import RecipeSearch.Proofs.Text.Word
import RecipeSearch.Query.Clause

/-!
# What the rows for words make of a text

A row for words looks at each word by itself: characters at which a text is cut stay where they are, and what stands on
one side of them has no part in what becomes of the other (`applyAll_append_other`). So it is enough to know what the
rows one after the other make of a single word. A later row may find a word in what an earlier one has written, but this
happens in one place only, where a category is an attribute as well (`applyAll_wordSubstitutions_word`).
-/

namespace RecipeSearch.Query

open Text

/-! ## One row -/

theorem replaceWords_append_other (keywords : List String) (r : Replacement) {c : Char} (hc : isWordChar c = false)
    (xs ys : List Char) :
    replaceWords keywords r (xs ++ c :: ys) = replaceWords keywords r xs ++ c :: replaceWords keywords r ys := by
  simp [replaceWords, pieces_append_other hc, replaceWord]

theorem replaceWords_word (keywords : List String) (r : Replacement) {w : List Char} (hne : w ≠ [])
    (hw : ∀ c ∈ w, isWordChar c = true) :
    replaceWords keywords r w = if isAnyKeyword keywords w then r.fill w else w := by
  simp [replaceWords, pieces_word hne hw, replaceWord]

/-- The row is one that replaces words. -/
def Substitution.IsForWords (row : Substitution) : Prop :=
  ∃ keywords r, row = .words keywords r

/-- The keywords of a row. -/
def Substitution.keywords : Substitution → List String
  | words keywords _ => keywords
  | notGroup => []
  | notToken => []

/-- What is written beside a word, or instead of it. -/
def Replacement.inserted : Replacement → List Char
  | around before after => before.toList ++ after.toList
  | fixed text => text.toList

/-- What a row writes of its own. -/
def Substitution.inserted : Substitution → List Char
  | words _ r => r.inserted
  | notGroup => ['N', 'O', 'T', ' ', '(']
  | notToken => ['N', 'O', 'T', ' ']

/-! ## Rows one after the other -/

section Rows

variable {rows : List Substitution}

theorem applyAll_cons (row : Substitution) (rows : List Substitution) (cs : List Char) :
    applyAll (row :: rows) cs = applyAll rows (row.apply cs) := rfl

theorem applyAll_append (rows rows' : List Substitution) (cs : List Char) :
    applyAll (rows ++ rows') cs = applyAll rows' (applyAll rows cs) :=
  List.foldl_append

/-- What every row keeps is kept by all of them. -/
theorem applyAll_keeps {P : List Char → Prop} (h : ∀ row ∈ rows, ∀ ds, P ds → P (row.apply ds)) {cs : List Char}
    (hcs : P cs) : P (applyAll rows cs) := by
  induction rows generalizing cs with
  | nil => exact hcs
  | cons row rows ih =>
    rw [applyAll_cons]
    exact ih (fun row' hrow' => h row' (List.mem_cons_of_mem _ hrow')) (h row List.mem_cons_self cs hcs)

/-- A text that no row changes. -/
theorem applyAll_eq_self {cs : List Char} (h : ∀ row ∈ rows, row.apply cs = cs) : applyAll rows cs = cs := by
  refine applyAll_keeps (P := fun ds => ds = cs) (fun row hrow ds hds => ?_) rfl
  rw [hds, h row hrow]

theorem applyAll_nil_text (hrows : ∀ row ∈ rows, row.IsForWords) : applyAll rows [] = [] := by
  refine applyAll_eq_self fun row hrow => ?_
  obtain ⟨keywords, r, rfl⟩ := hrows row hrow
  rfl

/-- **A cut stays where it is**, and the rows go on on each side of it. -/
theorem applyAll_append_other (hrows : ∀ row ∈ rows, row.IsForWords) {c : Char} (hc : isWordChar c = false)
    (xs ys : List Char) : applyAll rows (xs ++ c :: ys) = applyAll rows xs ++ c :: applyAll rows ys := by
  induction rows generalizing xs ys with
  | nil => rfl
  | cons row rows ih =>
    obtain ⟨keywords, r, rfl⟩ := hrows row List.mem_cons_self
    simp only [applyAll_cons, Substitution.apply]
    rw [replaceWords_append_other keywords r hc]
    exact ih (fun row' hrow' => hrows row' (List.mem_cons_of_mem _ hrow')) _ _

/-- A word that spells no keyword of the rows stays. -/
theorem applyAll_word_eq_self (hrows : ∀ row ∈ rows, row.IsForWords) {w : List Char} (hne : w ≠ [])
    (hw : ∀ c ∈ w, isWordChar c = true) (h : ∀ row ∈ rows, isAnyKeyword row.keywords w = false) :
    applyAll rows w = w := by
  refine applyAll_eq_self fun row hrow => ?_
  obtain ⟨keywords, r, rfl⟩ := hrows row hrow
  have hnot := h _ hrow
  rw [Substitution.keywords] at hnot
  rw [Substitution.apply, replaceWords_word keywords r hne hw, hnot]
  rfl

/-- A word between two cuts, with texts around it that no row changes. -/
theorem applyAll_between (hrows : ∀ row ∈ rows, row.IsForWords) {front back : List Char}
    (hfront : applyAll rows front = front) (hback : applyAll rows back = back) {c d : Char} (hc : isWordChar c = false)
    (hd : isWordChar d = false) (w : List Char) :
    applyAll rows (front ++ c :: (w ++ d :: back)) = front ++ c :: (applyAll rows w ++ d :: back) := by
  rw [applyAll_append_other hrows hc, applyAll_append_other hrows hd, hfront, hback]

end Rows

/-! ## The rows of the table -/

/-- The rows for attributes. -/
def attributeRows (attributes : List (String × String)) : List Substitution :=
  attributes.map fun (keyword, condition) => .words [keyword] (.fixed condition)

theorem isForWords_attributeRows (attributes : List (String × String)) :
    ∀ row ∈ attributeRows attributes, row.IsForWords := by
  intro row hrow
  obtain ⟨⟨keyword, condition⟩, -, rfl⟩ := List.mem_map.1 hrow
  exact ⟨_, _, rfl⟩

/-- The condition of the attribute that a word spells, or the word itself if it spells none. -/
def attributeOrWord (attributes : List (String × String)) (w : List Char) : List Char :=
  match attributes.find? fun a => isKeyword a.1 w with
  | some (_, condition) => condition.toList
  | none => w

/-- The rows for attributes put a condition in the place of a word and leave it alone afterwards, if no condition has
the keyword of a later attribute in it. -/
theorem applyAll_attributeRows {attributes : List (String × String)}
    (h : attributes.Pairwise fun a b => replaceWords [b.1] (.fixed b.2) a.2.toList = a.2.toList) {w : List Char}
    (hne : w ≠ []) (hw : ∀ c ∈ w, isWordChar c = true) :
    applyAll (attributeRows attributes) w = attributeOrWord attributes w := by
  induction attributes with
  | nil => rfl
  | cons a attributes ih =>
    obtain ⟨hlater, htail⟩ := List.pairwise_cons.1 h
    rw [attributeRows, List.map_cons, applyAll_cons, ← attributeRows]
    simp only [Substitution.apply]
    rw [replaceWords_word _ _ hne hw, attributeOrWord, List.find?_cons]
    cases hkey : isKeyword a.1 w with
    | true =>
      rw [if_pos (by simp [isAnyKeyword, hkey])]
      refine applyAll_eq_self fun row hrow => ?_
      obtain ⟨b, hb, rfl⟩ := List.mem_map.1 hrow
      exact hlater b hb
    | false =>
      rw [if_neg (by simp [isAnyKeyword, hkey])]
      exact ih htail

/-- What the rows for words make of a word. -/
def translateWord (w : List Char) : List Char :=
  if isAnyKeyword areas w then "a.AreaName = ".toList ++ '\'' :: (w ++ '\'' :: [])
  else if isAnyKeyword ingredients w then "i.IngredientName LIKE '".toList ++ '%' :: (w ++ '%' :: "'".toList)
  else if isAnyKeyword categories w then
    "c.CategoryName = ".toList ++ '\'' :: (attributeOrWord attributes w ++ '\'' :: [])
  else attributeOrWord attributes w

theorem isForWords_wordSubstitutions : ∀ row ∈ wordSubstitutions, row.IsForWords := by
  intro row hrow
  rcases List.mem_append.1 hrow with h | h
  · simp only [List.mem_cons, List.not_mem_nil, or_false] at h
    rcases h with rfl | rfl | rfl <;> exact ⟨_, _, rfl⟩
  · exact isForWords_attributeRows attributes row h

/-- The rows of the table from the row in the place `n` on. -/
def rowsFrom (n : Nat) : List Substitution :=
  wordSubstitutions.drop n

theorem isForWords_rowsFrom (n : Nat) : ∀ row ∈ rowsFrom n, row.IsForWords :=
  fun row hrow => isForWords_wordSubstitutions row (List.mem_of_mem_drop hrow)

/-- A word with a keyword that none of the later rows has is left alone by them. -/
theorem applyAll_rowsFrom_word {n : Nat} {keywords : List String}
    (h : ∀ row ∈ rowsFrom n, ∀ keyword ∈ keywords, keyword ∉ row.keywords) {w : List Char} (hne : w ≠ [])
    (hw : ∀ c ∈ w, isWordChar c = true) (hkey : isAnyKeyword keywords w = true) : applyAll (rowsFrom n) w = w :=
  applyAll_word_eq_self (isForWords_rowsFrom n) hne hw fun row hrow => isAnyKeyword_of_disjoint (h row hrow) hkey

theorem applyAll_rowsFrom_attributes {w : List Char} (hne : w ≠ []) (hw : ∀ c ∈ w, isWordChar c = true) :
    applyAll (rowsFrom 3) w = attributeOrWord attributes w :=
  applyAll_attributeRows (by decide) hne hw

/-- A row that puts texts around a word, and the rows after it, which leave these texts alone. -/
theorem applyAll_rowsFrom_around (n : Nat) {keywords : List String} {before after : String} (front : List Char)
    (c : Char) (back : List Char) {w : List Char}
    (hrows : rowsFrom n = .words keywords (.around before after) :: rowsFrom (n + 1))
    (hbefore : before.toList = front ++ [c]) (hafter : after.toList = c :: back)
    (hfront : applyAll (rowsFrom (n + 1)) front = front) (hback : applyAll (rowsFrom (n + 1)) back = back)
    (hc : isWordChar c = false) (hne : w ≠ []) (hw : ∀ c ∈ w, isWordChar c = true) :
    applyAll (rowsFrom n) w =
      if isAnyKeyword keywords w then front ++ c :: (applyAll (rowsFrom (n + 1)) w ++ c :: back)
      else applyAll (rowsFrom (n + 1)) w := by
  rw [hrows, applyAll_cons, Substitution.apply, replaceWords_word _ _ hne hw]
  split
  · rw [Replacement.fill, hbefore, hafter, List.append_assoc, List.append_assoc]
    exact applyAll_between (isForWords_rowsFrom _) hfront hback hc hc w
  · rfl

/-- **What the rows for words make of a word.** -/
theorem applyAll_wordSubstitutions_word {w : List Char} (hne : w ≠ []) (hw : ∀ c ∈ w, isWordChar c = true) :
    applyAll wordSubstitutions w = translateWord w := by
  have harea := applyAll_rowsFrom_around 0 "a.AreaName = ".toList '\'' [] rfl (by decide) (by decide)
    (by decide) (by decide) (by decide) hne hw
  have hingredient := applyAll_rowsFrom_around 1 "i.IngredientName LIKE '".toList '%' "'".toList rfl
    (by decide) (by decide) (by decide) (by decide) (by decide) hne hw
  have hcategory := applyAll_rowsFrom_around 2 "c.CategoryName = ".toList '\'' [] rfl (by decide)
    (by decide) (by decide) (by decide) (by decide) hne hw
  rw [applyAll_rowsFrom_attributes hne hw] at hcategory
  rw [translateWord, ← hcategory]
  refine harea.trans ?_
  split
  · next hkey => rw [applyAll_rowsFrom_word (by decide) hne hw hkey]
  rw [hingredient]
  split
  · next hkey => rw [applyAll_rowsFrom_word (by decide) hne hw hkey]
  · rfl

theorem toList_whereClause {query : String} (h : isBlankString query = false) :
    (whereClause query).toList = applyAll substitutions query.toList := by
  rw [whereClause, h, if_neg Bool.false_ne_true, String.toList_ofList]

end RecipeSearch.Query
