import RecipeSearch.Query.Clause
import RecipeSearch.Search.Basic
import RecipeSearch.Service.Messages

/-!
# The recipe service

What the service does with a query: `validate` gives the verdict and the breakdown, and `search` looks its terms up and
renders it as SQL besides. Both work on the query without the blanks around it and show it as it was sent. The service
also gives some facet values to choose from, and single recipes.
-/

namespace RecipeSearch.Service

open Query (decompose toSql)
open Search (SearchError Cancel)

/-- The verdict on a query, with its breakdown if it is accepted. -/
def validate (query : String) : ValidationResponse :=
  match Query.validate query with
  | .ok normalized => ⟨query, true, none, decompose normalized⟩
  | .error refusal => ⟨query, false, some refusal.message, none⟩

/-- The answer to a search that came to `outcome` in the given time. -/
def response (query normalized : String) (outcome : Search.Outcome) (elapsed : Nat) : SearchResponse where
  query := query
  results := outcome.recipes
  parseTree := decompose normalized
  executionTime := s!"{elapsed}ms"
  resultCount := outcome.recipes.length
  generatedSql := toSql normalized
  cancelled := outcome.isCancelled

/-- Searches for a query. One that is refused is not looked up. -/
def search (catalogue : Catalogue) (limits : Limits) (query : String) (cancel : Cancel) :
    Traced (Except SearchError SearchResponse) :=
  match Query.validate query with
  | .error refusal => ⟨.error (.invalidQuery refusal), []⟩
  | .ok normalized =>
    let report := Search.withCancel normalized catalogue.lookup limits cancel
    ⟨report.value.result.map fun outcome => response query normalized outcome report.value.elapsed, report.calls⟩

/-- The number of values that are shown of a facet. -/
def dropdownLength : Nat := 5

/-- The first values of a list; a list that fails has none. -/
def firstValues : Except CatalogueError (List String) → List String
  | .ok values => values.take dropdownLength
  | .error _ => []

/-- Some values of each facet that has a list. -/
def dropdown (catalogue : Catalogue) : Traced Dropdown :=
  ⟨⟨firstValues catalogue.categories, firstValues catalogue.areas, firstValues catalogue.ingredients⟩,
    [.categories, .areas, .ingredients]⟩

/-- The recipe of an id. -/
def recipe (catalogue : Catalogue) (id : String) : Traced (Except CatalogueError (Option Recipe)) :=
  ⟨catalogue.recipe id, [.recipe id]⟩

end RecipeSearch.Service
