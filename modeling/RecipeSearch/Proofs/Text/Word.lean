import RecipeSearch.Text.Word

/-!
# Word characters, blanks and letters without their case

No word character is a blank (`isBlank_of_isWordChar`). The case of a letter matters neither for being a word character
nor for spelling a keyword, and a word that spells a keyword is made of word characters
(`isWordChar_of_isAnyKeyword`).
-/

namespace RecipeSearch.Text

/-- What holds of the 128 characters of ASCII holds of each of them. -/
theorem of_ascii {P : Char → Prop} (h : ∀ n < 128, P (Char.ofNat n)) {c : Char} (hc : c.toNat < 128) : P c := by
  rw [← Char.ofNat_toNat c]
  exact h _ hc

/-! ## Blanks -/

/-- The ranges of word characters and those of blanks have no code point in common. -/
theorem wordRanges_blankRanges :
    (wordRanges.all fun word => blankRanges.all fun blank => decide (word.2 < blank.1 ∨ blank.2 < word.1)) = true := by
  decide +kernel

theorem isBlank_of_isWordChar {c : Char} (h : isWordChar c = true) : isBlank c = false := by
  by_cases hc : c.toNat < 128
  · revert h
    exact of_ascii (P := fun c => isWordChar c = true → isBlank c = false) (by decide) hc
  · rw [isWordChar, if_neg hc, CodePoints.contains_iff] at h
    obtain ⟨word, hword, hw⟩ := h
    rw [← Bool.not_eq_true, isBlank, CodePoints.contains_iff]
    rintro ⟨blank, hblank, hb⟩
    have apart := List.all_eq_true.1 (List.all_eq_true.1 wordRanges_blankRanges word hword) blank hblank
    rw [decide_eq_true_eq] at apart
    omega

theorem isWordChar_of_isBlank {c : Char} (h : isBlank c = true) : isWordChar c = false := by
  rw [← Bool.not_eq_true]
  intro hc
  rw [isBlank_of_isWordChar hc] at h
  cases h

/-! ## Case -/

theorem toLower_of_not_ascii {c : Char} (h : ¬ c.toNat < 128) : c.toLower = c := by
  refine dif_neg ?_
  rintro ⟨-, hle⟩
  exact h (Nat.lt_of_le_of_lt (UInt32.le_iff_toNat_le.1 hle) (by decide))

theorem toUpper_of_not_ascii {c : Char} (h : ¬ c.toNat < 128) : c.toUpper = c := by
  refine dif_neg ?_
  rintro ⟨-, hle⟩
  exact h (Nat.lt_of_le_of_lt (UInt32.le_iff_toNat_le.1 hle) (by decide))

/-- Letters are those of ASCII. -/
theorem not_isAlpha_of_not_ascii {c : Char} (h : ¬ c.toNat < 128) : c.isAlpha = false := by
  rw [← Bool.not_eq_true]
  intro halpha
  refine h ?_
  rcases Bool.or_eq_true_iff.1 halpha with hupper | hlower
  · have hle : c.val ≤ 'Z'.val := (of_decide_eq_true hupper).2
    exact Nat.lt_of_le_of_lt (UInt32.le_iff_toNat_le.1 hle) (by decide)
  · have hle : c.val ≤ 'z'.val := of_decide_eq_true (Bool.and_eq_true_iff.1 hlower).2
    exact Nat.lt_of_le_of_lt (UInt32.le_iff_toNat_le.1 hle) (by decide)

theorem isWordChar_toLower (c : Char) : isWordChar c.toLower = isWordChar c := by
  by_cases hc : c.toNat < 128
  · exact of_ascii (P := fun c => isWordChar c.toLower = isWordChar c) (by decide) hc
  · rw [toLower_of_not_ascii hc]

@[simp] theorem isWordChar_toUpper (c : Char) : isWordChar c.toUpper = isWordChar c := by
  by_cases hc : c.toNat < 128
  · exact of_ascii (P := fun c => isWordChar c.toUpper = isWordChar c) (by decide) hc
  · rw [toUpper_of_not_ascii hc]

@[simp] theorem isWordChar_foldLetter (c : Char) : isWordChar (foldLetter c) = isWordChar c := by
  unfold foldLetter
  split
  · next h => rw [h]; decide
  · split
    · next h => rw [h]; decide +kernel
    · exact isWordChar_toLower c

@[simp] theorem foldLetter_toUpper (c : Char) : foldLetter c.toUpper = foldLetter c := by
  by_cases hc : c.toNat < 128
  · exact of_ascii (P := fun c => foldLetter c.toUpper = foldLetter c) (by decide) hc
  · rw [toUpper_of_not_ascii hc]

theorem toUpper_toLower (c : Char) : c.toLower.toUpper = c.toUpper := by
  by_cases hc : c.toNat < 128
  · exact of_ascii (P := fun c => c.toLower.toUpper = c.toUpper) (by decide) hc
  · rw [toLower_of_not_ascii hc]

/-- A character outside words has no other case. -/
theorem toUpper_of_not_isWordChar {c : Char} (h : isWordChar c = false) : c.toUpper = c := by
  by_cases hc : c.toNat < 128
  · revert h
    exact of_ascii (P := fun c => isWordChar c = false → c.toUpper = c) (by decide) hc
  · exact toUpper_of_not_ascii hc

/-- Only the two letters outside ASCII that fold to `s` and `k` have a capital other than that of the letter they
fold to. -/
theorem toUpper_of_foldLetter {c d : Char} (h : foldLetter c = d) (hs : d ≠ 's') (hk : d ≠ 'k') :
    c.toUpper = d.toUpper := by
  unfold foldLetter at h
  split at h
  · exact absurd h.symm hs
  · split at h
    · exact absurd h.symm hk
    · rw [← h, toUpper_toLower]

/-! ## Keywords -/

theorem isAnyKeyword_map_toUpper (keywords : List String) (word : List Char) :
    isAnyKeyword keywords (word.map Char.toUpper) = isAnyKeyword keywords word := by
  simp [isAnyKeyword, isKeyword, Function.comp_def]

/-- A word spells no more than one keyword. -/
theorem isAnyKeyword_of_disjoint {keywords others : List String} (h : ∀ keyword ∈ keywords, keyword ∉ others)
    {word : List Char} (hword : isAnyKeyword keywords word = true) : isAnyKeyword others word = false := by
  obtain ⟨keyword, hk, hfold⟩ := isAnyKeyword_iff.1 hword
  rw [← Bool.not_eq_true, isAnyKeyword_iff]
  rintro ⟨other, ho, hfold'⟩
  rw [hfold, String.toList_inj] at hfold'
  exact h keyword hk (hfold' ▸ ho)

/-- Words that spell keywords of word characters are made of word characters. -/
theorem isWordChar_of_isAnyKeyword {keywords : List String}
    (h : (keywords.all fun keyword => keyword.toList.all isWordChar) = true) {word : List Char}
    (hword : isAnyKeyword keywords word = true) : ∀ c ∈ word, isWordChar c = true := by
  intro c hc
  obtain ⟨keyword, hk, hfold⟩ := isAnyKeyword_iff.1 hword
  have hkeyword := List.all_eq_true.1 (List.all_eq_true.1 h keyword hk) (foldLetter c)
  rw [← hfold, isWordChar_foldLetter] at hkeyword
  exact hkeyword (List.mem_map_of_mem hc)

/-- A word has the capitals of the keyword that it spells, if no letter outside ASCII spells one of its letters. -/
theorem map_toUpper_of_isKeyword {keyword : String} (hs : 's' ∉ keyword.toList) (hk : 'k' ∉ keyword.toList)
    {word : List Char} (h : isKeyword keyword word = true) :
    word.map Char.toUpper = keyword.toList.map Char.toUpper := by
  have hfold := isKeyword_iff.1 h
  rw [← hfold, List.map_map]
  refine List.map_congr_left fun c hc => toUpper_of_foldLetter rfl ?_ ?_
  · exact fun heq => hs (hfold ▸ heq ▸ List.mem_map_of_mem hc)
  · exact fun heq => hk (hfold ▸ heq ▸ List.mem_map_of_mem hc)

theorem toUpper_of_not {letters : List Char} (h : isKeyword "not" letters = true) :
    letters.map Char.toUpper = ['N', 'O', 'T'] :=
  (map_toUpper_of_isKeyword (by decide) (by decide) h).trans (by decide)

theorem isKeyword_not_iff {n o t : Char} :
    isKeyword "not" [n, o, t] = true ↔ foldLetter n = 'n' ∧ foldLetter o = 'o' ∧ foldLetter t = 't' := by
  rw [isKeyword_iff]
  simp

end RecipeSearch.Text
