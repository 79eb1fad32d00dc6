import RecipeSearch.Proofs.Search.Result
import RecipeSearch.Proofs.Search.Turns

/-!
# More room, more time and more look-ups at once bring no less

A search that is cancelled at some instant, or never, brings what the terms that were taken in before bring, up to its
limit, whether it ends as complete, as cancelled or as an error (`found_eq`). How many terms these are does not depend
on the limit, and grows with the instant and with the number of terms that are looked up at once. Hence **the recipes
of a search are the first ones of every search that is given more of the three** (`found_monotone`).
-/

namespace RecipeSearch.Search

/-- The recipes of a result; an error brings none. -/
def recipesOf : Except SearchError Outcome → List Recipe
  | .ok outcome => outcome.recipes
  | .error _ => []

/-- A cancellation at an instant, which may never come. -/
def Cancel.atInstant : ℕ∞ → Cancel
  | ⊤ => .never
  | (t : ℕ) => .atTime t

/-- The recipes that a query brings within a limit, with so many terms looked up at once, when it is cancelled at an
instant. -/
def found (query : String) (source : TermSource) (limit concurrency : Nat) (t : ℕ∞) : List Recipe :=
  recipesOf (withCancel query source ⟨limit, concurrency⟩ (.atInstant t)).value.result

variable {answers : Answers} {limit more : Nat} {terms : List String}

/-! ## What a search brings -/

/-- A search whose cancellation can only be noticed after `k` terms brings what these terms bring, in whichever way it
ends. -/
theorem Settled.recipesOf_eq {noticed : Nat → Prop} {result : Except SearchError Outcome} {k : Nat}
    (h : Settled answers limit terms noticed result) (hk : ∀ k', noticed k' → k' = k)
    (hcomplete : (∃ rs, result = .ok (.complete rs)) → (answers.merged limit (terms.take k)).length = limit) :
    recipesOf result = answers.merged limit (terms.take k) := by
  match result with
  | .ok (.complete rs) =>
    -- the terms before the cancellation fill the search, so that the others bring nothing
    have hfull := hcomplete ⟨rs, rfl⟩
    have hfirst := merged_prefix answers limit (terms.take k) (terms.drop k)
    have hrs : rs = answers.merged limit terms := h
    rw [List.take_append_drop] at hfirst
    rw [hrs]
    exact (hfirst.eq_of_length_le (by rw [hfull]; exact length_merged_le _ _ _)).symm
  | .ok (.cancelled rs) =>
    obtain ⟨k', hnoticed, hrs, -⟩ := h
    rw [← hk k' hnoticed]
    exact hrs
  | .error e =>
    obtain ⟨-, -, k', hnoticed, hnothing⟩ := h
    rw [← hk k' hnoticed, hnothing]
    rfl

/-- **A search brings what the terms bring that are taken in before it is found to be cancelled.** -/
theorem recipesOf_run (answers : Answers) (delay : Facet → String → Nat) (limits : Limits) (cancel : Cancel)
    (terms : List String) :
    recipesOf (run terms (answers.after delay) limits cancel).result =
      answers.merged limits.maxResults
        (terms.take ((cutoffOf terms (answers.after delay) limits cancel).getD terms.length)) := by
  have hsettled := settled_run answers delay limits cancel terms
  have hcomplete := (result_run_complete_iff answers delay limits cancel terms).1
  cases hcutoff : cutoffOf terms (answers.after delay) limits cancel with
  | none =>
    rw [hcutoff] at hsettled
    rw [hsettled.complete nofun, Option.getD_none, List.take_length]
    rfl
  | some k =>
    rw [hcutoff] at hsettled hcomplete
    exact hsettled.recipesOf_eq (fun k' hk' => (Option.some.inj hk').symm) fun h => hcomplete h k rfl

/-- A cancellation at an instant is noticed after the terms that have been taken in before it. -/
theorem cutoff_atInstant (turns : List Turn) (t : ℕ∞) :
    ((Cancel.atInstant t).cutoff turns).getD turns.length = taken turns t := by
  cases t with
  | top => exact (taken_top turns).symm
  | coe t =>
    have htaken : (turns.takeWhile (·.done < t)).length = taken turns t := by
      simp only [taken, Nat.cast_lt]
    simp only [Cancel.atInstant, Cancel.cutoff, htaken]
    split
    · rfl
    · have := taken_le_length turns t
      rw [Option.getD_none]
      omega

/-- The turns of the terms of a query. -/
def turnsOf (query : String) (source : TermSource) (concurrency : Nat) : List Turn :=
  schedule (max 1 concurrency) ((Query.searchTerms query).map (duration source))

theorem found_eq (query : String) (answers : Answers) (delay : Facet → String → Nat) (limit concurrency : Nat)
    (t : ℕ∞) :
    found query (answers.after delay) limit concurrency t =
      answers.merged limit
        ((Query.searchTerms query).take (taken (turnsOf query (answers.after delay) concurrency) t)) := by
  have hlength : (turnsOf query (answers.after delay) concurrency).length = (Query.searchTerms query).length := by
    simp [turnsOf, schedule]
  rw [← cutoff_atInstant, hlength]
  exact recipesOf_run answers delay ⟨limit, concurrency⟩ (.atInstant t) (Query.searchTerms query)

/-! ## Two searches -/

/-- What some terms bring within a limit begins what they bring within a wider one. -/
theorem merged_eq_take (answers : Answers) (hlimit : limit ≤ more) (terms : List String) :
    answers.merged limit terms = (answers.merged more terms).take limit := by
  rw [Answers.merged, Answers.merged, List.take_take, Nat.min_eq_left hlimit]

/-- **What fewer terms bring within a narrower limit comes first.** -/
theorem merged_take_monotone (answers : Answers) (hlimit : limit ≤ more) {k l : Nat} (hkl : k ≤ l)
    (terms : List String) : answers.merged limit (terms.take k) <+: answers.merged more (terms.take l) := by
  have hterms : terms.take l = terms.take k ++ (terms.take l).drop k := by
    conv => lhs; rw [← List.take_append_drop k (terms.take l), List.take_take, Nat.min_eq_left hkl]
  have hmore := merged_prefix answers more (terms.take k) ((terms.take l).drop k)
  rw [merged_eq_take answers hlimit, hterms]
  exact (List.take_prefix _ _).trans hmore

/-- **The recipes of a search are the first ones of every search with a wider limit, a later cancellation and more terms
looked up at once**, and those of the search that differs in the limit only, cut at the limit. -/
theorem found_monotone (query : String) (answers : Answers) (delay : Facet → String → Nat)
    {limit more concurrency wider : Nat} {t later : ℕ∞} (hlimit : limit ≤ more) (hconcurrency : concurrency ≤ wider)
    (ht : t ≤ later) :
    found query (answers.after delay) limit concurrency t <+: found query (answers.after delay) more wider later ∧
      found query (answers.after delay) limit concurrency t =
        (found query (answers.after delay) more concurrency t).take limit := by
  have hturns : List.Forall₂ Turn.NoLater (turnsOf query (answers.after delay) wider)
      (turnsOf query (answers.after delay) concurrency) :=
    schedule_noLater (by omega) (by omega) _
  rw [found_eq, found_eq, found_eq]
  exact ⟨merged_take_monotone answers hlimit (taken_le_taken hturns ht) _, merged_eq_take answers hlimit _⟩

/-- Every term brings the stew and a recipe of its own, after as many instants as it has letters. Two terms at once get
further by the instant 5 than one, and so does one that is given until the instant 9. The last term of the longest
search is not there yet at the instant 8, and a limit of 3 leaves out one of its recipes more. -/
theorem found_monotone_cut_short :
    let answers : Answers := fun _ term =>
      .ok [⟨"stew", "", "", "", "", "", [], []⟩, ⟨term, "", "", "", "", "", [], []⟩]
    let source := answers.after fun _ term => term.length
    let found := found "rice AND beef OR egg AND leek" source
    ((found 3 1 5).map Recipe.id = ["stew", "rice"] ∧ (found 3 2 5).map Recipe.id = ["stew", "rice", "beef"] ∧
      (found 3 1 9).map Recipe.id = ["stew", "rice", "beef"] ∧
      (found 5 2 8).map Recipe.id = ["stew", "rice", "beef", "egg"] ∧
      (found 5 2 9).map Recipe.id = ["stew", "rice", "beef", "egg", "leek"]) ∧
    (found 3 1 5 <+: found 3 2 5 ∧ found 3 1 5 <+: found 3 1 9 ∧ found 3 2 5 <+: found 5 2 8) ∧
    found 3 2 8 = (found 5 2 8).take 3 := by
  intro answers source found
  refine ⟨by decide +kernel, ⟨?_, ?_, ?_⟩, ?_⟩
  · exact (found_monotone _ _ _ (by decide) (by decide) (by decide)).1
  · exact (found_monotone _ _ _ (by decide) (by decide) (by decide)).1
  · exact (found_monotone _ _ _ (by decide) (by decide) (by decide)).1
  · exact (found_monotone _ _ _ (by decide) (Nat.le_refl 2) (le_refl 8)).2

end RecipeSearch.Search
