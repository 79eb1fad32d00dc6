import RecipeSearch.Proofs.Search.Interleaving

/-!
# The result of a search

The result of a search is what its terms bring: the recipes of all look-ups in order, the first of each id, up to the
limit. Delays, the order in which look-ups end and the width of the window do not matter (`withCancel_never`). A
cancellation can only leave the last terms out, and then says so (`withCancel_settled`).
-/

namespace RecipeSearch.Search

variable {answers : Answers} {limit : Nat} {terms : List String} {noticed : Nat → Prop}
  {result : Except SearchError Outcome}

/-- Where no cancellation is noticed, a search that has settled is complete. -/
theorem Settled.complete (h : Settled answers limit terms noticed result) (hnoticed : ∀ k, ¬ noticed k) :
    result = .ok (.complete (answers.merged limit terms)) := by
  match result with
  | .ok (.complete rs) => rw [show rs = _ from h]
  | .ok (.cancelled rs) =>
    obtain ⟨k, hk, -⟩ := h
    exact absurd hk (hnoticed k)
  | .error e =>
    obtain ⟨-, -, k, hk, -⟩ := h
    exact absurd hk (hnoticed k)

theorem result_run_never (answers : Answers) (delay : Facet → String → Nat) (limits : Limits) (terms : List String) :
    (run terms (answers.after delay) limits .never).result =
      .ok (.complete (answers.merged limits.maxResults terms)) :=
  (settled_run answers delay limits .never terms).complete nofun

/-- **A search that is not cancelled brings what its terms bring**, the first recipe of each id and no more than the
limit allows, whatever the delays are, in whatever order its events come and however many terms are looked up at
once. -/
theorem withCancel_never (query : String) (answers : Answers) (delay : Facet → String → Nat) (limits : Limits) :
    (withCancel query (answers.after delay) limits .never).value.result =
        .ok (.complete (answers.merged limits.maxResults (Query.searchTerms query))) ∧
      (recipes query (answers.after delay) limits).value =
        answers.merged limits.maxResults (Query.searchTerms query) ∧
      ∀ s result, Loop.Reachable (answers.after delay) limits (Query.searchTerms query) s → s.cancelled = false →
        s.Ends result → result = .ok (.complete (answers.merged limits.maxResults (Query.searchTerms query))) := by
  have hrun := result_run_never answers delay limits (Query.searchTerms query)
  refine ⟨hrun, ?_, ?_⟩
  · simp only [recipes, withCancel, hrun, Outcome.recipes]
  · intro s result hs hc hends
    refine (hends.settled hs.sound).complete ?_
    rintro k ⟨hcancelled, -⟩
    rw [hc] at hcancelled
    cases hcancelled

/-- **A cancelled search never hides that something is missing**: it is complete like a search that is not cancelled, or
marked as cancelled after some number of terms that bring something and less than the limit allows, or an error when
these bring nothing; and it is complete only if no cancellation is noticed or the terms before it fill the search. This
holds wherever the cancellation falls, and the search settles in whatever order its events come, some order of which has
the same result and makes the same look-ups. -/
theorem withCancel_settled (query : String) (answers : Answers) (delay : Facet → String → Nat) (limits : Limits) :
    (withCancel query (answers.after delay) limits .never).value.result =
        .ok (.complete (answers.merged limits.maxResults (Query.searchTerms query))) ∧
      (∀ cancel,
        Settled answers limits.maxResults (Query.searchTerms query)
          (cutoffOf (Query.searchTerms query) (answers.after delay) limits cancel = some ·)
          (withCancel query (answers.after delay) limits cancel).value.result ∧
        ((∃ rs, (withCancel query (answers.after delay) limits cancel).value.result = .ok (.complete rs)) ↔
          ∀ k, cutoffOf (Query.searchTerms query) (answers.after delay) limits cancel = some k →
            (answers.merged limits.maxResults ((Query.searchTerms query).take k)).length = limits.maxResults) ∧
        ∃ s, Loop.Reachable (answers.after delay) limits (Query.searchTerms query) s ∧
          s.Ends (withCancel query (answers.after delay) limits cancel).value.result ∧
          s.calls = (withCancel query (answers.after delay) limits cancel).calls) ∧
      (∀ s result, Loop.Reachable (answers.after delay) limits (Query.searchTerms query) s → s.Ends result →
        Settled answers limits.maxResults (Query.searchTerms query)
          (fun k => s.cancelled = true ∧ k = s.taken.length) result) ∧
      (limits.maxResults = 0 → ∀ cancel,
        (withCancel query (answers.after delay) limits cancel).value.result = .ok (.complete [])) := by
  refine ⟨result_run_never answers delay limits _, fun cancel => ⟨?_, ?_, ?_⟩, ?_, ?_⟩
  · exact settled_run answers delay limits cancel _
  · exact result_run_complete_iff answers delay limits cancel _
  · exact Loop.reachable_run _ _ limits cancel
  · intro s result hs hends
    exact hends.settled hs.sound
  · intro hzero cancel
    exact result_run_zero _ _ cancel hzero

end RecipeSearch.Search
