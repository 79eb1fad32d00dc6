import RecipeSearch.Json.Reader

/-!
# Recipes

A recipe as the service shows it, told apart by its id; the facets by which recipes are looked up; and the short lists
of facet values that a query can be built from. Each has a JSON form that is written by `toJson` and read by `reader`.
-/

namespace RecipeSearch

/-- A recipe. Its tags are in lower case. -/
structure Recipe where
  id : String
  name : String
  thumbnailUrl : String
  category : String
  area : String
  instructions : String
  ingredients : List String
  tags : List String
  deriving DecidableEq, Repr

namespace Recipe

/-- The JSON form of a recipe. -/
def toJson (r : Recipe) : Json :=
  .object [("id", .string r.id), ("name", .string r.name), ("thumbnailUrl", .string r.thumbnailUrl),
    ("category", .string r.category), ("area", .string r.area), ("instructions", .string r.instructions),
    ("ingredients", .strings r.ingredients), ("tags", .strings r.tags)]

/-- The fields of a recipe. -/
def fields : List Json.Field :=
  [.required "id" .string, .required "name" .string, .required "thumbnailUrl" .string, .required "category" .string,
    .required "area" .string, .required "instructions" .string, .required "ingredients" (.list .string),
    .required "tags" (.list .string)]

/-- Reads a recipe. -/
def reader : Json.Reader Recipe := fun o => do
  let found ← Json.Reader.record fields o
  return {
    id := ← found.get "id" .string
    name := ← found.get "name" .string
    thumbnailUrl := ← found.get "thumbnailUrl" .string
    category := ← found.get "category" .string
    area := ← found.get "area" .string
    instructions := ← found.get "instructions" .string
    ingredients := ← found.get "ingredients" (.list .string)
    tags := ← found.get "tags" (.list .string) }

end Recipe

/-! ## Facets -/

/-- What a term can be compared with in a look-up. -/
inductive Facet where
  | category
  | area
  | ingredient
  | name
  deriving DecidableEq, Repr

namespace Facet

/-- All facets, in the order in which a term is looked up. -/
def all : List Facet := [category, area, ingredient, name]

/-- The name of a facet. -/
def label : Facet → String
  | category => "category"
  | area => "area"
  | ingredient => "ingredient"
  | name => "name"

/-- The JSON form of a facet. -/
def toJson (f : Facet) : Json := .string f.label

/-- Reads a facet. -/
def reader : Json.Reader Facet :=
  .name (all.map fun f => (f.label, f))

end Facet

/-! ## Facet values to choose from -/

/-- Some values of three facets. -/
structure Dropdown where
  categories : List String
  areas : List String
  ingredients : List String
  deriving DecidableEq, Repr

namespace Dropdown

/-- The JSON form of the lists. -/
def toJson (d : Dropdown) : Json :=
  .object [("categories", .strings d.categories), ("areas", .strings d.areas),
    ("ingredients", .strings d.ingredients)]

/-- The fields of the lists. -/
def fields : List Json.Field :=
  [.required "categories" (.list .string), .required "areas" (.list .string),
    .required "ingredients" (.list .string)]

/-- Reads the lists. -/
def reader : Json.Reader Dropdown := fun o => do
  let found ← Json.Reader.record fields o
  return {
    categories := ← found.get "categories" (.list .string)
    areas := ← found.get "areas" (.list .string)
    ingredients := ← found.get "ingredients" (.list .string) }

end Dropdown

end RecipeSearch
