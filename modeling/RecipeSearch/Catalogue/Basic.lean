import RecipeSearch.Json.Reader
import RecipeSearch.Recipe.Basic

/-!
# The catalogue

What a catalogue of recipes can be asked: the recipes that a term brings up under a facet, which may take some time,
the values of three facets, and the recipe of an id. Any of these can fail by itself. That nothing was found is no
fault.
-/

namespace RecipeSearch

/-! ## Faults -/

/-- A fault in asking the catalogue. -/
inductive CatalogueError where
  /-- No answer came, or it broke off. -/
  | unreachable (url : String)
  /-- The answer had a status other than success. -/
  | status (url : String) (code : Nat)
  /-- The answer was not what it should be. -/
  | undecodable (url : String) (fault : Json.Fault)
  /-- All attempts failed, the last one with `source`. -/
  | retriesExhausted (url : String) (attempts : Nat) (source : CatalogueError)
  deriving DecidableEq, Repr

namespace CatalogueError

/-- What is said of a fault. Where it lies with the connection or the text of the answer, only the part before the
particulars of that. -/
def message : CatalogueError → String
  | unreachable url => s!"request to {url} failed: "
  | status url code => s!"{url} returned status {code}"
  | undecodable url _ => s!"failed to decode response from {url}: "
  | retriesExhausted url attempts source => s!"{url} still failing after {attempts} attempts: " ++ source.message

/-- The message says all there is to say. -/
def isPlain : CatalogueError → Bool
  | unreachable _ => false
  | status _ _ => true
  | undecodable _ _ => false
  | retriesExhausted _ _ source => source.isPlain

end CatalogueError

/-! ## Questions and answers -/

/-- The answer to looking up one term under one facet, and how long it takes in milliseconds. -/
structure Lookup where
  delay : Nat
  answer : Except CatalogueError (List Recipe)

/-- The recipes that a look-up brings; a failing one brings none. -/
def Lookup.recipes (l : Lookup) : List Recipe :=
  match l.answer with
  | .ok recipes => recipes
  | .error _ => []

/-- What terms bring up. -/
abbrev TermSource := Facet → String → Lookup

/-- A catalogue. -/
structure Catalogue where
  lookup : TermSource
  categories : Except CatalogueError (List String)
  areas : Except CatalogueError (List String)
  ingredients : Except CatalogueError (List String)
  recipe : String → Except CatalogueError (Option Recipe)

/-- A call to a catalogue. -/
inductive Call where
  | lookup (facet : Facet) (term : String)
  | categories
  | areas
  | ingredients
  | recipe (id : String)
  deriving DecidableEq, Repr

/-- A call in words. -/
def Call.label : Call → String
  | lookup facet term => s!"{facet.label}:{term}"
  | categories => "categories"
  | areas => "areas"
  | ingredients => "ingredients"
  | recipe id => s!"id:{id}"

/-- A result together with the calls that were made for it, in order. -/
structure Traced (α : Type) where
  value : α
  calls : List Call

end RecipeSearch
