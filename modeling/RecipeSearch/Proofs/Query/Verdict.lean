import Mathlib.Data.List.Count
import RecipeSearch.Query.Verdict

/-!
# What an accepted query is like

A query that is accepted is given back without the blanks around it. What is given back is not blank and has query
characters only (`validate_eq_ok`).
-/

namespace RecipeSearch.Query

open Text

/-- Nothing but blanks is left of a trimmed text only if nothing is left. -/
theorem trim_eq_nil_of_isBlankText {cs : List Char} (h : isBlankText (trim cs) = true) : trim cs = [] := by
  unfold trim trimEnd at h ⊢
  generalize (trimStart cs).reverse = ds at h ⊢
  rw [List.reverse_eq_nil_iff]
  match hd : ds.dropWhile isBlank with
  | [] => rfl
  | c :: rest =>
    have hc : isBlank c = false := by
      have := List.head?_dropWhile_not isBlank ds
      rw [hd] at this
      simpa using this
    rw [hd] at h
    simp [isBlankText, hc] at h

/-- Trimming takes blanks away and nothing else. -/
theorem count_trim {c : Char} (hc : isBlank c = false) (cs : List Char) : (trim cs).count c = cs.count c := by
  have drop (ds : List Char) : (ds.dropWhile isBlank).count c = ds.count c := by
    induction ds with
    | nil => rfl
    | cons d ds ih =>
      cases hd : isBlank d with
      | false => rw [List.dropWhile_cons_of_neg (by simp [hd])]
      | true =>
        have hne : d ≠ c := by
          rintro rfl
          rw [hc] at hd
          cases hd
        rw [List.dropWhile_cons_of_pos hd, ih, List.count_cons_of_ne hne]
  rw [trim, trimEnd, List.count_reverse, drop, List.count_reverse, trimStart, drop]

/-- **An accepted query is not blank and is made of query characters.** -/
theorem validate_eq_ok {query normalized : String} (h : validate query = .ok normalized) :
    normalized.toList = trim query.toList ∧ isBlankString normalized = false ∧
      ∀ c ∈ normalized.toList, isQueryChar c = true := by
  simp only [validate] at h
  split at h
  · cases h
  split at h
  · cases h
  split at h
  · next hempty _ hform =>
    cases h
    rw [isBlankString, String.toList_ofList]
    refine ⟨rfl, ?_, (isForm_iff.1 hform).2⟩
    rw [← Bool.not_eq_true]
    intro hblank
    exact hempty (by rw [trim_eq_nil_of_isBlankText hblank]; rfl)
  · cases h

/-- An accepted query has as many opening as closing parentheses. -/
theorem balanced_of_validate {query normalized : String} (h : validate query = .ok normalized) :
    normalized.toList.count '(' = normalized.toList.count ')' := by
  have hcount : query.toList.count '(' = query.toList.count ')' := by
    simp only [validate] at h
    split at h
    · cases h
    split at h
    · cases h
    · next hcount => exact Decidable.not_not.1 hcount
  rw [(validate_eq_ok h).1, count_trim (by decide), count_trim (by decide), hcount]

/-- A character that no query has. -/
theorem not_mem_of_validate {query normalized : String} (h : validate query = .ok normalized) {c : Char}
    (hc : isQueryChar c = false) : c ∉ normalized.toList := by
  intro hmem
  rw [(validate_eq_ok h).2.2 c hmem] at hc
  cases hc

end RecipeSearch.Query
