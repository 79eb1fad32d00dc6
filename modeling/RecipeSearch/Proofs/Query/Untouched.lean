import RecipeSearch.Proofs.Query.Spacing
import RecipeSearch.Proofs.Query.Translation
import RecipeSearch.Proofs.Text.Scan

/-!
# What the rows leave to a scan

A row may write into a text and take words away from it, and still a scan finds the same before and after it: if there
is nothing for the scan in what the rows write and replace, if it takes nothing from blanks, and if it makes no
difference to it whether NOT at the end of a word is in capitals (`Untouched`). A row for words keeps what is outside
the words it replaces, and texts around a word are cut off from it; the rows for NOT leave a blank behind it. Hence
**the clause of a query has for such a scan just what the query has** (`Untouched.scan_whereClause`).

This holds of a search for any words that are not in the vocabulary, do not end in NOT and are not written by the rows
(`untouched_foundPiece`).
-/

namespace RecipeSearch.Query

open Text

variable {α : Type} {f : Piece → Option α}

/-- There is nothing for the scan in what the rows do to a text. -/
structure Untouched (f : Piece → Option α) : Prop where
  blank : PassesBlanks f
  /-- It takes nothing from what is written beside words or instead of them. -/
  written : ∀ row ∈ wordSubstitutions, scan f row.inserted = []
  /-- It takes nothing from words that give way to a condition. -/
  replaced : ∀ a ∈ attributes, ∀ w, isKeyword a.1 w = true → f (.run w) = none
  /-- It takes the same from a word that ends in NOT whatever the case of this. -/
  negation : ∀ w letters, isKeyword "not" letters = true → f (.run (w ++ letters)) = f (.run (w ++ ['N', 'O', 'T']))

/-- The scan finds the same before and after the row. -/
def Substitution.Keeps (row : Substitution) (f : Piece → Option α) : Prop :=
  ∀ cs, scan f (row.apply cs) = scan f cs

/-! ## The rows for words -/

/-- Replacing words keeps what a scan finds if it finds in what is put in the place of a word what it finds in the
word. -/
theorem keeps_words {keywords : List String} {r : Replacement}
    (h : ∀ w, w ≠ [] → (∀ c ∈ w, isWordChar c = true) → isAnyKeyword keywords w = true →
      scan f (r.fill w) = scan f w) : (Substitution.words keywords r).Keeps f := by
  intro cs
  show scan f (replaceWords keywords r cs) = scan f cs
  induction cs using cut_induction (p := isWordChar) with
  | nil => rfl
  | word w hne hw =>
    rw [replaceWords_word keywords r hne hw]
    split
    · next hkey => exact h w hne hw hkey
    · rfl
  | cut xs c ys hc ihx ihy =>
    rw [replaceWords_append_other keywords r hc, scan_append_other hc, ihx, ihy, scan_append_other hc]

/-- Texts around a word that are cut off from it and have nothing for the scan. -/
theorem keeps_around {keywords : List String} {before after : String}
    (hbefore : before.toList.getLast?.any isWordChar = false) (hafter : after.toList.head?.any isWordChar = false)
    (hwritten : scan f (Replacement.around before after).inserted = []) :
    (Substitution.words keywords (.around before after)).Keeps f := by
  refine keeps_words fun w _ _ _ => ?_
  rw [Replacement.inserted, scan_append (.inl hbefore), List.append_eq_nil_iff] at hwritten
  rw [Replacement.fill, List.append_assoc, scan_append (.inl hbefore), scan_append (.inr hafter), hwritten.1,
    hwritten.2, List.nil_append, List.append_nil]

/-- A text that has nothing for the scan in the place of words that have nothing for it either. -/
theorem keeps_fixed {keywords : List String} {text : String} (hwritten : scan f text.toList = [])
    (hreplaced : ∀ w, isAnyKeyword keywords w = true → f (.run w) = none) :
    (Substitution.words keywords (.fixed text)).Keeps f := by
  refine keeps_words fun w hne hw hkey => ?_
  rw [Replacement.fill, hwritten, scan_word hne hw, hreplaced w hkey]
  rfl

/-! ## The rows for NOT -/

/-- The case of NOT at the end of a text. -/
theorem Untouched.scan_append_not (hf : Untouched f) (front : List Char) {letters : List Char}
    (hnot : isKeyword "not" letters = true) : scan f (front ++ letters) = scan f (front ++ ['N', 'O', 'T']) := by
  obtain ⟨begin, w, rfl, hw, hbegin⟩ := exists_last_word (p := isWordChar) front
  have hlast {ds : List Char} (hds : isKeyword "not" ds = true) :
      scan f (begin ++ w ++ ds) = scan f begin ++ (f (.run (w ++ ds))).toList := by
    have hword : ∀ c ∈ ds, isWordChar c = true := isWordChar_of_isKeyword (by decide) hds
    have hne : w ++ ds ≠ [] := by
      obtain ⟨n, o, t, rfl⟩ := exists_letters hds
      simp
    rw [List.append_assoc, scan_append (.inl hbegin),
      scan_word hne fun c hc => (List.mem_append.1 hc).elim (hw c) (hword c)]
  rw [hlast hnot, hlast (by decide), hf.negation w letters hnot]

/-- Tidying a text that stands behind another one. The other text is there because a word may begin before the place
where the induction stands. -/
theorem Tidied.scan_append {xs ys : List Char} (h : Tidied xs ys) (hf : Untouched f) :
    ∀ front : List Char, scan f (front ++ ys) = scan f (front ++ xs) := by
  induction h with
  | nil => exact fun _ => rfl
  | @keep c xs ys _ ih =>
    intro front
    rw [List.append_cons front c ys, List.append_cons front c xs]
    exact ih (front ++ [c])
  | @tidy n o t gap xs ys hnot hgap blank _ ih =>
    intro front
    obtain ⟨g, gap, rfl⟩ := List.exists_cons_of_ne_nil hgap
    rw [List.forall_mem_cons] at blank
    calc scan f (front ++ 'N' :: 'O' :: 'T' :: ' ' :: ys)
        = scan f ((front ++ ['N', 'O', 'T']) ++ ' ' :: ys) := by simp
      _ = scan f (front ++ ['N', 'O', 'T']) ++ scan f ys := scan_append_blank hf.blank (by decide) _ _
      _ = scan f (front ++ [n, o, t]) ++ scan f xs := by
        rw [hf.scan_append_not front hnot]
        exact congrArg _ (ih [])
      _ = scan f ((front ++ [n, o, t]) ++ g :: (gap ++ xs)) := by
        rw [scan_append_blank hf.blank blank.1, scan_gap_append hf.blank blank.2]
      _ = scan f (front ++ n :: o :: t :: (g :: gap ++ xs)) := by simp

theorem Tidied.scan_eq {xs ys : List Char} (h : Tidied xs ys) (hf : Untouched f) : scan f ys = scan f xs :=
  h.scan_append hf []

/-! ## The table -/

/-- **Every row of the table keeps what the scan finds.** -/
theorem Untouched.keeps (hf : Untouched f) : ∀ row ∈ substitutions, row.Keeps f := by
  intro row hrow
  rcases List.mem_append.1 hrow with hword | hnot
  · have hwritten := hf.written row hword
    rcases List.mem_append.1 hword with hvocabulary | hattribute
    · simp only [List.mem_cons, List.not_mem_nil, or_false] at hvocabulary
      rcases hvocabulary with rfl | rfl | rfl <;> exact keeps_around (by decide) (by decide) hwritten
    · obtain ⟨a, ha, rfl⟩ := List.mem_map.1 hattribute
      refine keeps_fixed hwritten fun w hw => hf.replaced a ha w ?_
      simpa [isAnyKeyword] using hw
  · simp only [List.mem_cons, List.not_mem_nil, or_false] at hnot
    rcases hnot with rfl | rfl
    · exact fun cs => (tidied_notGroup cs).scan_eq hf
    · exact fun cs => (tidied_notToken cs).scan_eq hf

/-- **What the scan finds in the clause of a query is what it finds in the query.** -/
theorem Untouched.scan_whereClause (hf : Untouched f) {query : String} (h : isBlankString query = false) :
    scan f (whereClause query).toList = scan f query.toList := by
  rw [toList_whereClause h]
  refine applyAll_keeps (P := fun ds => scan f ds = scan f query.toList) (fun row hrow ds hds => ?_) rfl
  rw [hf.keeps row hrow, hds]

/-! ## Words that the rows do not know -/

theorem isKeyword_append_not {keyword : String} {w letters : List Char} (hnot : isKeyword "not" letters = true)
    (h : isKeyword keyword (w ++ letters) = true) : "not".toList <:+ keyword.toList := by
  rw [isKeyword_iff] at hnot h
  rw [← hnot, ← h, List.map_append]
  exact List.suffix_append _ _

/-- Words that are not in the vocabulary, that the rows do not write, and that do not end in NOT. -/
theorem untouched_foundPiece {keywords : List String} (hvocabulary : ∀ keyword ∈ keywords, keyword ∉ vocabulary)
    (hwritten : ∀ row ∈ wordSubstitutions, scan (wordPattern keywords).foundPiece row.inserted = [])
    (hnot : ∀ keyword ∈ keywords, ¬ "not".toList <:+ keyword.toList) :
    Untouched (wordPattern keywords).foundPiece where
  blank _ _ := rfl
  written := hwritten
  replaced a ha w hw := by
    have hnone : isAnyKeyword keywords w = false := by
      rw [← Bool.not_eq_true, isAnyKeyword_iff]
      rintro ⟨keyword, hk, hfold⟩
      obtain rfl : a.1 = keyword := eq_of_isKeyword hw (isKeyword_iff.2 hfold)
      exact hvocabulary a.1 hk (List.mem_append_right _ (List.mem_map_of_mem ha))
    exact if_neg (by simpa [wordPattern] using hnone)
  negation w letters hletters := by
    -- a word that ends in NOT is none of those that are searched for, in whatever case it is written
    have hnone {ds : List Char} (hds : isKeyword "not" ds = true) :
        (wordPattern keywords).foundPiece (.run (w ++ ds)) = none := by
      refine if_neg fun hkey => ?_
      obtain ⟨keyword, hk, hspelled⟩ := List.any_eq_true.1 hkey
      exact hnot keyword hk (isKeyword_append_not hds hspelled)
    rw [hnone hletters, hnone (by decide)]

end RecipeSearch.Query
