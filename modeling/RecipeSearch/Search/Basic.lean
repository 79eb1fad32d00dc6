import RecipeSearch.Catalogue.Basic
import RecipeSearch.Query.Breakdown
import RecipeSearch.Query.Verdict
import RecipeSearch.Search.Schedule

/-!
# Searching

Every term of a query is looked up under all four facets. The batches of recipes are taken in in the order of the
terms, whichever look-up ends first, until the limit is reached, all terms have been taken in, or the search is found
to be cancelled. A look-up that fails brings nothing and stops nothing.

What is taken in goes into a merger, which keeps the first recipe of each id, in order, until it holds as many as its
limit allows.
-/

namespace RecipeSearch

/-- How much a search may bring and how many terms it looks up at once. -/
structure Limits where
  maxResults : Nat
  termConcurrency : Nat
  deriving DecidableEq, Repr

/-- Twenty recipes, and four terms at once. -/
def Limits.standard : Limits := ⟨20, 4⟩

namespace Search

/-- Why there is no result. -/
inductive SearchError where
  | invalidQuery (refusal : Query.Refusal)
  /-- The search was cancelled before it had come to anything. -/
  | cancelled
  | catalogue (e : CatalogueError)
  deriving DecidableEq, Repr

/-- What is said of an error. -/
def SearchError.message : SearchError → String
  | invalidQuery refusal => "Invalid query syntax: " ++ refusal.message
  | cancelled => "search cancelled before any results were assembled"
  | catalogue e => e.message

/-- The recipes that a search has come to. -/
inductive Outcome where
  /-- All of them. -/
  | complete (recipes : List Recipe)
  /-- Those of the terms before the search was cancelled. -/
  | cancelled (recipes : List Recipe)
  deriving DecidableEq, Repr

namespace Outcome

/-- The recipes of an outcome. -/
def recipes : Outcome → List Recipe
  | complete rs => rs
  | cancelled rs => rs

/-- The search was cancelled. -/
def isCancelled : Outcome → Bool
  | complete _ => false
  | cancelled _ => true

end Outcome

/-! ## Merging batches of recipes -/

/-- The recipes taken in so far, and their ids. -/
structure Merger where
  limit : Nat
  seen : List String
  recipes : List Recipe
  deriving DecidableEq, Repr

namespace Merger

/-- A merger that has taken in nothing. -/
def empty (limit : Nat) : Merger := ⟨limit, [], []⟩

/-- No more recipes can be taken in. -/
def isFull (m : Merger) : Bool :=
  m.limit ≤ m.recipes.length

/-- Takes in one recipe, unless its id is known. -/
def add (m : Merger) (r : Recipe) : Merger :=
  if m.seen.contains r.id then m
  else { m with seen := r.id :: m.seen, recipes := m.recipes ++ [r] }

/-- Takes in a batch, up to the recipe that fills the merger. -/
def extend (m : Merger) : List Recipe → Merger
  | [] => m
  | r :: rs => if m.isFull then m else (m.add r).extend rs

end Merger

/-! ## Look-ups of a term -/

/-- The recipes of a term under all facets. -/
def batch (source : TermSource) (term : String) : List Recipe :=
  Facet.all.flatMap fun facet => (source facet term).recipes

/-- How long the look-ups of a term last, which are made side by side. -/
def duration (source : TermSource) (term : String) : Nat :=
  Facet.all.foldl (fun longest facet => max longest (source facet term).delay) 0

/-- The look-ups of a term, in order. -/
def callsOf (term : String) : List Call :=
  Facet.all.map fun facet => .lookup facet term

/-! ## The search -/

/-- How a search ended. -/
inductive Ending where
  /-- The merger was full after this many terms. -/
  | full (terms : Nat)
  /-- All terms were taken in. -/
  | exhausted
  /-- The search was found to be cancelled. -/
  | cancelled
  deriving DecidableEq, Repr

/-- Takes in batch after batch, `taken` having been taken in before. A cancellation is noticed before the batch in the
place `cutoff`, or after the last one. -/
def collect (cutoff : Option Nat) (taken : Nat) (merger : Merger) : List (List Recipe) → Merger × Ending
  | [] => if cutoff = some taken then (merger, .cancelled) else (merger, .exhausted)
  | recipes :: batches =>
    if cutoff = some taken then (merger, .cancelled)
    else
      let merger := merger.extend recipes
      if merger.isFull then (merger, .full (taken + 1)) else collect cutoff (taken + 1) merger batches

/-- What a search came to, with the number of terms whose look-ups it started and the time it took. -/
structure Report where
  result : Except SearchError Outcome
  started : Nat
  elapsed : Nat

/-- The search for some terms. -/
def run (terms : List String) (source : TermSource) (limits : Limits) (cancel : Cancel) : Report :=
  if limits.maxResults = 0 then ⟨.ok (.complete []), 0, 0⟩
  else
    let turns := schedule (max 1 limits.termConcurrency) (terms.map (duration source))
    let (merger, ending) :=
      collect (cancel.cutoff turns) 0 (.empty limits.maxResults) (terms.map (batch source))
    match ending with
    | .full n =>
      let time := (turns[n - 1]?.map Turn.done).getD 0
      ⟨.ok (.complete merger.recipes), max n (turns.takeWhile (·.start < time)).length, time⟩
    | .exhausted => ⟨.ok (.complete merger.recipes), turns.length, (turns.getLast?.map Turn.done).getD 0⟩
    | .cancelled =>
      ⟨if merger.recipes.isEmpty then .error .cancelled else .ok (.cancelled merger.recipes),
        cancel.started turns, cancel.time turns⟩

/-- The search for a query, with the look-ups that were made. -/
def withCancel (query : String) (source : TermSource) (limits : Limits) (cancel : Cancel) : Traced Report :=
  let terms := Query.searchTerms query
  let report := run terms source limits cancel
  ⟨report, (terms.take report.started).flatMap callsOf⟩

/-- The recipes that a query brings. -/
def recipes (query : String) (source : TermSource) (limits : Limits) : Traced (List Recipe) :=
  let report := withCancel query source limits .never
  ⟨match report.value.result with
    | .ok outcome => outcome.recipes
    | .error _ => [], report.calls⟩

end Search

end RecipeSearch
