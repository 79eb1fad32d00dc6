import RecipeSearch.Proofs.Query.Scans
import RecipeSearch.Proofs.Query.Statement
import RecipeSearch.Proofs.Search.Result
import RecipeSearch.Proofs.Text.Distinct
import RecipeSearch.Service.Basic

/-!
# What a search of the service answers

A query is looked up if it is accepted, and only then. What its search comes to is put into an answer that fits the
query and the limit (`SearchResponse.Fits`): each part of it is kept by another part of the service, the number of
results and their ids by the merger, the breakdown and the statement by the verdict, the mark of a cancelled search by
the search itself (`allowed_of_settled`). Hence **a search of the service never fails but for a refused query or a
cancellation** (`search_allowed`), in whatever order the events of the search come.
-/

namespace RecipeSearch.Service

open Query (decompose toSql Breakdown)
open Search (Answers SearchError Cancel Settled Loop)

/-- The answer fits a query and a limit. -/
structure SearchResponse.Fits (r : SearchResponse) (query : String) (limit : Nat) : Prop where
  query_eq : r.query = query
  resultCount : r.resultCount = r.results.length
  resultCount_le : r.resultCount ≤ limit
  nodup_ids : (r.results.map Recipe.id).Nodup
  parseTree : r.parseTree = decompose (Text.trimmed query)
  balanced : ∃ b, r.parseTree = some b ∧ b.operators.count "(" = b.operators.count ")"
  generatedSql : r.generatedSql = toSql (Text.trimmed query)
  generatedSql_ne : r.generatedSql ≠ ""
  of_cancelled : r.cancelled = true → 1 ≤ r.resultCount ∧ r.resultCount < limit

/-- What a search may answer: that the query is refused, that the search was cancelled, or what fits the query. -/
def Allowed (query : String) (limit : Nat) : Except SearchError SearchResponse → Prop
  | .error (.invalidQuery refusal) => Query.validate query = .error refusal
  | .error .cancelled => ∃ normalized, Query.validate query = .ok normalized
  | .error (.catalogue _) => False
  | .ok r => (∃ normalized, Query.validate query = .ok normalized) ∧ r.Fits query limit

variable {query normalized : String} {answers : Answers} {limit : Nat} {terms : List String} {noticed : Nat → Prop}

/-! ## Accepted queries -/

theorem eq_trimmed (h : Query.validate query = .ok normalized) : normalized = Text.trimmed query := by
  rw [Text.trimmed, ← (Query.validate_eq_ok h).1, String.ofList_toList]

/-- An accepted query has a breakdown, with as many opening as closing parentheses. -/
theorem exists_decompose (h : Query.validate query = .ok normalized) :
    ∃ b, decompose normalized = some b ∧ b.operators.count "(" = b.operators.count ")" := by
  have hblank : ¬ Text.isBlankText normalized.toList = true := by
    rw [← Text.isBlankString, (Query.validate_eq_ok h).2.1]
    exact Bool.false_ne_true
  have hcount {c : Char} (hc : Query.isParenthesis c = true) :
      ((Query.scanOperators normalized.toList).map String.ofList).count (String.ofList [c]) =
        normalized.toList.count c := by
    rw [List.count_map_of_injective _ _ fun _ _ => String.ofList_injective, Query.count_scanOperators hc]
  have hopen := hcount (c := '(') (by decide)
  have hclose := hcount (c := ')') (by decide)
  refine ⟨_, if_neg hblank, ?_⟩
  exact hopen.trans ((Query.balanced_of_validate h).trans hclose.symm)

/-- The statement of an accepted query is not empty. -/
theorem toSql_ne_empty (h : Query.validate query = .ok normalized) : toSql normalized ≠ "" := by
  intro heq
  have htext := Query.toList_toSql h
  rw [heq, Query.toList_statementTail] at htext
  simp at htext

/-! ## Answers -/

theorem nodup_ids_merged (answers : Answers) (limit : Nat) (terms : List String) :
    ((answers.merged limit terms).map Recipe.id).Nodup :=
  (Text.nodup_map_distinctOn Recipe.id _).sublist ((List.take_sublist _ _).map Recipe.id)

/-- A search that has settled with recipes has merged those of some of its terms. -/
theorem recipes_of_settled {outcome : Search.Outcome} (h : Settled answers limit terms noticed (.ok outcome)) :
    ∃ k, outcome.recipes = answers.merged limit (terms.take k) := by
  cases outcome with
  | complete rs =>
    have hrs : rs = answers.merged limit terms := h
    exact ⟨terms.length, by rw [List.take_length]; exact hrs⟩
  | cancelled rs =>
    obtain ⟨k, -, hrs, -⟩ := h
    exact ⟨k, hrs⟩

/-- **What a search has settled with is put into an answer that fits.** -/
theorem fits_response (hvalid : Query.validate query = .ok normalized) {outcome : Search.Outcome}
    (h : Settled answers limit terms noticed (.ok outcome)) (elapsed : Nat) :
    (response query normalized outcome elapsed).Fits query limit := by
  obtain ⟨k, hrecipes⟩ := recipes_of_settled h
  have htrimmed := eq_trimmed hvalid
  exact {
    query_eq := rfl
    resultCount := rfl
    resultCount_le := by
      have hle : outcome.recipes.length ≤ limit := by
        rw [hrecipes]
        exact Search.length_merged_le _ _ _
      exact hle
    nodup_ids := by
      have hnodup : (outcome.recipes.map Recipe.id).Nodup := by
        rw [hrecipes]
        exact nodup_ids_merged _ _ _
      exact hnodup
    parseTree := congrArg decompose htrimmed
    balanced := exists_decompose hvalid
    generatedSql := congrArg toSql htrimmed
    generatedSql_ne := toSql_ne_empty hvalid
    of_cancelled := by
      intro hcancelled
      cases outcome with
      | complete rs => cases hcancelled
      | cancelled rs =>
        obtain ⟨-, -, -, -, hsome, hroom⟩ := h
        exact ⟨hsome, hroom⟩ }

theorem allowed_of_settled (hvalid : Query.validate query = .ok normalized)
    {result : Except SearchError Search.Outcome} (h : Settled answers limit terms noticed result) (elapsed : Nat) :
    Allowed query limit (result.map fun outcome => response query normalized outcome elapsed) := by
  cases result with
  | ok outcome => exact ⟨⟨normalized, hvalid⟩, fits_response hvalid h elapsed⟩
  | error e =>
    obtain ⟨rfl, -⟩ := h
    exact ⟨normalized, hvalid⟩

/-- A search that is not cancelled has an answer that is not marked as cancelled. -/
theorem answered_of_complete {result : Except SearchError Search.Outcome} {rs : List Recipe}
    (h : result = .ok (.complete rs)) (query normalized : String) (elapsed : Nat) :
    ∃ r, (result.map fun outcome => response query normalized outcome elapsed) = .ok r ∧ r.cancelled = false := by
  rw [h]
  exact ⟨_, rfl, rfl⟩

/-! ## Searches -/

section Searches

variable {catalogue : Catalogue} {limits : Limits} {cancel : Cancel}

theorem search_of_refused {refusal : Query.Refusal} (h : Query.validate query = .error refusal) :
    search catalogue limits query cancel = ⟨.error (.invalidQuery refusal), []⟩ := by
  rw [search, h]

theorem search_of_accepted (h : Query.validate query = .ok normalized) :
    search catalogue limits query cancel =
      let report := Search.withCancel normalized catalogue.lookup limits cancel
      ⟨report.value.result.map fun outcome => response query normalized outcome report.value.elapsed,
        report.calls⟩ := by
  rw [search, h]

/-- What the catalogue answers to look-ups, in whatever time. -/
def answersOf (catalogue : Catalogue) : Answers := fun facet term => (catalogue.lookup facet term).answer

/-- How long the catalogue takes for its answers. -/
def delayOf (catalogue : Catalogue) (facet : Facet) (term : String) : Nat := (catalogue.lookup facet term).delay

theorem lookup_eq_after (catalogue : Catalogue) :
    catalogue.lookup = (answersOf catalogue).after (delayOf catalogue) := rfl

/-- A query that is accepted and not cancelled is answered. -/
theorem search_never_of_accepted (catalogue : Catalogue) (limits : Limits)
    (h : Query.validate query = .ok normalized) :
    ∃ outcome elapsed,
      (search catalogue limits query .never).value = .ok (response query normalized outcome elapsed) := by
  have hcomplete := Search.result_run_never (answersOf catalogue) (delayOf catalogue) limits
    (Query.searchTerms normalized)
  rw [search_of_accepted h]
  exact ⟨_, _, congrArg (Except.map _) hcomplete⟩

/-- A search in any order of events ends with what may be answered, and in full if it is not cancelled. -/
theorem allowed_of_ends (hvalid : Query.validate query = .ok normalized) {s : Loop}
    {result : Except SearchError Search.Outcome}
    (hs : Loop.Reachable catalogue.lookup limits (Query.searchTerms normalized) s) (hends : s.Ends result)
    (elapsed : Nat) :
    Allowed query limits.maxResults (result.map fun outcome => response query normalized outcome elapsed) ∧
      (s.cancelled = false → ∃ r, (result.map fun outcome => response query normalized outcome elapsed) = .ok r ∧
        r.cancelled = false) := by
  rw [lookup_eq_after] at hs
  have hsettled := hends.settled hs.sound
  refine ⟨allowed_of_settled hvalid hsettled elapsed, fun hcancelled => ?_⟩
  have hnever : ∀ k, ¬ (s.cancelled = true ∧ k = s.taken.length) := by
    rintro k ⟨h, -⟩
    rw [hcancelled] at h
    cases h
  exact answered_of_complete (hsettled.complete hnever) query normalized elapsed

end Searches

/-- **A search of the service answers what it may**: it refuses a query exactly if the verdict does, with its reason and
without a look-up, and never fails for a fault of the catalogue. One that is not cancelled answers every accepted query
in full. This holds whatever the catalogue answers and how long it takes, whenever the search is cancelled, and in
whatever order its events come. -/
theorem search_allowed (catalogue : Catalogue) (limits : Limits) (query : String) :
    (∀ cancel, Allowed query limits.maxResults (search catalogue limits query cancel).value) ∧
      (∀ cancel refusal,
        ((search catalogue limits query cancel).value = .error (.invalidQuery refusal) ↔
          Query.validate query = .error refusal) ∧
        (Query.validate query = .error refusal →
          (search catalogue limits query cancel).calls = [] ∧
            (validate query).errorMessage = some refusal.message)) ∧
      (∀ normalized, Query.validate query = .ok normalized →
        ∃ r, (search catalogue limits query .never).value = .ok r ∧ r.cancelled = false) ∧
      ∀ normalized s result elapsed, Query.validate query = .ok normalized →
        Loop.Reachable catalogue.lookup limits (Query.searchTerms normalized) s → s.Ends result →
        Allowed query limits.maxResults (result.map fun outcome => response query normalized outcome elapsed) ∧
          (s.cancelled = false → ∃ r, (result.map fun outcome => response query normalized outcome elapsed) = .ok r ∧
            r.cancelled = false) := by
  have hallowed (cancel : Cancel) : Allowed query limits.maxResults (search catalogue limits query cancel).value := by
    cases hvalid : Query.validate query with
    | error refusal =>
      rw [search_of_refused hvalid]
      exact hvalid
    | ok normalized =>
      rw [search_of_accepted hvalid]
      have hsettled := Search.settled_run (answersOf catalogue) (delayOf catalogue) limits cancel
        (Query.searchTerms normalized)
      exact allowed_of_settled hvalid hsettled _
  refine ⟨hallowed, fun cancel refusal => ⟨⟨fun h => ?_, fun h => ?_⟩, fun h => ⟨?_, ?_⟩⟩, fun normalized h => ?_, ?_⟩
  · have hrefused := hallowed cancel
    rw [h] at hrefused
    exact hrefused
  · rw [search_of_refused h]
  · rw [search_of_refused h]
  · rw [validate, h]
  · have hcomplete := Search.result_run_never (answersOf catalogue) (delayOf catalogue) limits
      (Query.searchTerms normalized)
    rw [search_of_accepted h]
    exact answered_of_complete hcomplete _ _ _
  · intro normalized s result elapsed hvalid hs hends
    exact allowed_of_ends hvalid hs hends elapsed

/-- Every term has a recipe of its own, which is there after as many milliseconds as the term has letters. The search is
answered in full, cut short after its first term, and without an answer before that. -/
theorem search_allowed_cut_short :
    let catalogue : Catalogue :=
      { lookup := fun facet term =>
          ⟨term.length, if facet = .name then .ok [⟨term, "", "", "", "", "", [], []⟩] else .error (.status term 404)⟩
        categories := .ok []
        areas := .ok []
        ingredients := .ok []
        recipe := fun _ => .ok none }
    let search := search catalogue ⟨20, 1⟩ " (rice OR beef) "
    (∃ r, (search .never).value = .ok r ∧ r.results.map Recipe.id = ["rice", "beef"] ∧ r.cancelled = false ∧
      r.Fits " (rice OR beef) " 20) ∧
    (∃ r, (search (.atTime 5)).value = .ok r ∧ r.results.map Recipe.id = ["rice"] ∧ r.cancelled = true ∧
      r.Fits " (rice OR beef) " 20) ∧
    (search (.atTime 3)).value = .error .cancelled ∧ Query.validate " (rice OR beef) " = .ok "(rice OR beef)" := by
  intro catalogue search
  have answered {cancel : Cancel} {ids : List String} {cut : Bool}
      (h : (search cancel).value.toOption.map (fun r => (r.results.map Recipe.id, r.cancelled)) = some (ids, cut)) :
      ∃ r, (search cancel).value = .ok r ∧ r.results.map Recipe.id = ids ∧ r.cancelled = cut ∧
        r.Fits " (rice OR beef) " 20 := by
    have hallowed : Allowed " (rice OR beef) " 20 (search cancel).value := (search_allowed _ _ _).1 cancel
    cases hvalue : (search cancel).value with
    | error e =>
      rw [hvalue] at h
      cases h
    | ok r =>
      rw [hvalue] at h hallowed
      cases h
      exact ⟨r, rfl, rfl, rfl, hallowed.2⟩
  exact ⟨answered (by decide +kernel), answered (by decide +kernel), by decide +kernel, by decide +kernel⟩

end RecipeSearch.Service
