import RecipeSearch.Json.Embedded
import RecipeSearch.Recipe.Basic
import RecipeSearch.Text.Lowercase
import RecipeSearch.Text.Pieces
import RecipeSearch.Text.Blank

/-!
# Meals

A meal is a recipe as the catalogue sends it: an id, some texts that may be missing, tags in one text, and numbered
slots for the ingredients among whatever else it sends. `Recipe.ofMeal` brings a meal into the form of a recipe:
ingredients and tags become lists without blank entries, and tags are put in lower case.
-/

namespace RecipeSearch

/-- A recipe as the catalogue sends it. -/
structure Meal where
  id : String
  name : Option String
  thumbnailUrl : Option String
  category : Option String
  area : Option String
  instructions : Option String
  tags : Option String
  /-- All other members, in the order in which they were sent. -/
  slots : List (String × Json)
  deriving Repr

namespace Meal

/-- The number of ingredient slots. -/
def slotCount : Nat := 20

/-- The name of the slot of an ingredient, which are numbered from one. -/
def slotName (n : Nat) : String := s!"strIngredient{n}"

/-- The value of a slot. If it was sent twice, the later one counts. -/
def slot? (m : Meal) (name : String) : Option Json :=
  m.slots.reverse.lookup name

/-- The ingredients in the order of their slots. -/
def ingredients (m : Meal) : List String :=
  let sent := (List.range slotCount).filterMap fun i => (m.slot? (slotName (i + 1))).bind Json.text?
  (sent.map Text.trimmed).filter (· ≠ "")

/-- The tags of a text that separates them by commas. -/
def splitTags (tags : String) : List String :=
  let parts := (Text.runs (· ≠ ',') tags.toList).map fun tag => Text.lower (Text.trim tag)
  (parts.filter (· ≠ [])).map String.ofList

/-- The fields of a meal that have names of their own. -/
def fields : List Json.Field :=
  [.required "idMeal" .string, .nullable "strMeal" .string, .nullable "strMealThumb" .string,
    .nullable "strCategory" .string, .nullable "strArea" .string, .nullable "strInstructions" .string,
    .nullable "strTags" .string]

/-- The number of brackets that may be open inside a slot: a meal stands in three. -/
def slotRoom : Nat := Json.textRoom - 3

/-- Reads a meal. Whatever is not a field of its own is kept in a slot; what the slots give as text is read last. -/
def reader : Json.Reader Meal
  | .object members => do
    let found ← members.record fields fun o => (Json.Reader.keep slotRoom o).map fun _ => ()
    let slots := found.filter fun (name, _) => fields.all fun field => field.name ≠ name
    return {
      id := ← found.get "idMeal" .string
      name := ← found.get? "strMeal" .string
      thumbnailUrl := ← found.get? "strMealThumb" .string
      category := ← found.get? "strCategory" .string
      area := ← found.get? "strArea" .string
      instructions := ← found.get? "strInstructions" .string
      tags := ← found.get? "strTags" .string
      slots := ← slots.mapM fun (name, o) => (Json.Reader.keepResolved slotRoom o).map (name, ·) }
  | o => .error o.misfit

end Meal

/-- The recipe of a meal. -/
def Recipe.ofMeal (m : Meal) : Recipe where
  id := m.id
  name := m.name.getD ""
  thumbnailUrl := m.thumbnailUrl.getD ""
  category := m.category.getD ""
  area := m.area.getD ""
  instructions := m.instructions.getD ""
  ingredients := m.ingredients
  tags := (m.tags.map Meal.splitTags).getD []

end RecipeSearch
