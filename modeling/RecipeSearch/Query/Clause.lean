import RecipeSearch.Text.Pieces
import RecipeSearch.Text.Replace
import RecipeSearch.Text.Word

/-!
# Queries as SQL

A query becomes the `WHERE` clause of a statement over the recipe store: the query text itself, with the words of the
vocabulary replaced by conditions and the blanks after each `NOT` tidied. The operators and parentheses stay and act as
those of SQL; words that are not in the vocabulary stay as they are. The vocabulary are words in lower case that a query
can name recipes by: areas of origin, ingredients, categories, and attributes that each stand for a condition of their
own.

The replacements are the rows of one table (`substitutions`), applied in order, each to the text that the one before it
left: what a row inserts can be replaced again by a later one.
-/

namespace RecipeSearch.Query

open Text (Piece pieces isWordChar isBlank isKeyword isAnyKeyword)

/-! ## The vocabulary -/

/-- Areas that recipes come from. -/
def areas : List String := [
  "american", "british", "canadian", "chinese", "croatian", "dutch", "egyptian", "filipino", "french", "greek",
  "indian", "irish", "italian", "jamaican", "japanese", "kenyan", "malaysian", "mexican", "moroccan", "polish",
  "portuguese", "russian", "spanish", "thai", "tunisian", "turkish", "ukrainian", "vietnamese"]

/-- Ingredients that recipes are made with. -/
def ingredients : List String := [
  "chicken", "salmon", "beef", "pork", "avocado", "lime", "rice", "onions", "garlic", "tomatoes", "potatoes",
  "carrots", "mushrooms", "peppers", "cheese", "butter"]

/-- Kinds of dishes. -/
def categories : List String := [
  "breakfast", "dessert", "goat", "lamb", "miscellaneous", "pasta", "seafood", "side", "starter", "vegan",
  "vegetarian"]

/-- Attributes of a recipe, each with the condition that it stands for. -/
def attributes : List (String × String) := [
  ("vegetarian", "r.IsVegetarian = 1"),
  ("vegan", "r.IsVegan = 1"),
  ("gluten_free", "r.IsGlutenFree = 1"),
  ("quick", "r.CookTimeMinutes <= 30"),
  ("easy", "r.DifficultyLevel = 'Easy'")]

/-! ## Rows -/

/-- What takes the place of a word. -/
inductive Replacement where
  /-- The word itself, between two texts. -/
  | around (before after : String)
  /-- One text for every word. -/
  | fixed (text : String)
  deriving DecidableEq, Repr

/-- The replacement for a word. -/
def Replacement.fill : Replacement → List Char → List Char
  | around before after, word => before.toList ++ word ++ after.toList
  | fixed text, _ => text.toList

/-- A row of the table. -/
inductive Substitution where
  /-- Words that spell one of the keywords are replaced. -/
  | words (keywords : List String) (replacement : Replacement)
  /-- The blanks between `NOT` and an opening parenthesis become one space. -/
  | notGroup
  /-- The blanks between `NOT` and a token become one space. -/
  | notToken
  deriving DecidableEq, Repr

/-! ## Replacing words -/

/-- A piece of a text, or what takes its place if it is a word that spells one of the keywords. -/
def replaceWord (keywords : List String) (replacement : Replacement) : Piece → List Char
  | .run word => if isAnyKeyword keywords word then replacement.fill word else word
  | .other c => [c]

/-- The text with the words that spell one of the keywords replaced. -/
def replaceWords (keywords : List String) (replacement : Replacement) (cs : List Char) : List Char :=
  (pieces isWordChar cs).flatMap (replaceWord keywords replacement)

/-! ## The blanks after NOT -/

/-- What follows the letters of `NOT`, in any case, at the start of a text. -/
def afterNot? : List Char → Option (List Char)
  | n :: o :: t :: rest => if isKeyword "not" [n, o, t] then some rest else none
  | _ => none

/-- `NOT`, blanks and an opening parenthesis are written with one space. -/
def notGroupRule : Text.Rule := fun cs => do
  let rest ← afterNot? cs
  let gap := rest.takeWhile isBlank
  guard (gap ≠ [] ∧ (rest.drop gap.length).head? = some '(')
  return (['N', 'O', 'T', ' ', '('], 3 + gap.length + 1)

/-- `NOT`, blanks and a token, which is a run of characters other than blanks, are written with one space. A token of
one character, or one that starts with a parenthesis, keeps the last blank before it and needs another one before
that. -/
def notTokenRule : Text.Rule := fun cs => do
  let rest ← afterNot? cs
  let gap := rest.takeWhile isBlank
  let token := (rest.drop gap.length).takeWhile (!isBlank ·)
  guard (gap ≠ [] ∧ token ≠ [])
  let kept := if token.head? = some '(' ∨ token.length = 1 then gap.drop (gap.length - 1) else []
  guard (kept.length < gap.length)
  return (['N', 'O', 'T', ' '] ++ kept ++ token, 3 + gap.length + token.length)

/-! ## The table -/

/-- The text with the row applied to it. -/
def Substitution.apply : Substitution → List Char → List Char
  | words keywords replacement, cs => replaceWords keywords replacement cs
  | notGroup, cs => Text.replaceAll notGroupRule cs
  | notToken, cs => Text.replaceAll notTokenRule cs

/-- The rows that replace words of the vocabulary. -/
def wordSubstitutions : List Substitution :=
  [.words areas (.around "a.AreaName = '" "'"),
    .words ingredients (.around "i.IngredientName LIKE '%" "%'"),
    .words categories (.around "c.CategoryName = '" "'")] ++
  attributes.map fun (keyword, condition) => .words [keyword] (.fixed condition)

/-- The rows, in the order in which they are applied. -/
def substitutions : List Substitution :=
  wordSubstitutions ++ [.notGroup, .notToken]

/-- The text after all the rows. -/
def applyAll (rows : List Substitution) (cs : List Char) : List Char :=
  rows.foldl (fun text row => row.apply text) cs

/-- The text after each of the rows. -/
def stages : List Substitution → List Char → List (List Char)
  | [], _ => []
  | row :: rows, cs => row.apply cs :: stages rows (row.apply cs)

/-- The condition that a query stands for. A blank query holds of every recipe. -/
def whereClause (query : String) : String :=
  if Text.isBlankString query then "1=1" else String.ofList (applyAll substitutions query.toList)

/-- What comes before the condition. -/
def statementHead : String :=
  "SELECT r.*, c.CategoryName, a.AreaName\n" ++
  "FROM Recipes r\n" ++
  "LEFT JOIN Categories c ON r.CategoryId = c.Id\n" ++
  "LEFT JOIN Areas a ON r.AreaId = a.Id\n" ++
  "LEFT JOIN RecipeIngredients ri ON r.Id = ri.RecipeId\n" ++
  "LEFT JOIN Ingredients i ON ri.IngredientId = i.Id\n" ++
  "WHERE "

/-- What comes after the condition. -/
def statementTail : String :=
  "\nGROUP BY r.Id\nORDER BY r.Name;"

/-- The statement that selects the recipes of a query, empty for a blank query. -/
def toSql (query : String) : String :=
  if Text.isBlankString query then "" else statementHead ++ whereClause query ++ statementTail

theorem getLast?_stages (rows : List Substitution) (cs : List Char) :
    (cs :: stages rows cs).getLast? = some (applyAll rows cs) := by
  induction rows generalizing cs with
  | nil => rfl
  | cons row rows ih =>
    rw [stages, List.getLast?_cons_cons]
    exact ih (row.apply cs)

end RecipeSearch.Query
