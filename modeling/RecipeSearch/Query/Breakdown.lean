import RecipeSearch.Query.Verdict
import RecipeSearch.Text.Lowercase
import RecipeSearch.Text.Pieces
import RecipeSearch.Text.Replace

/-!
# What a query is made of

The breakdown of a query is a flat record of what it is made of. Two scans run over the same text: `scanOperators`
collects the operators and parentheses in order, and `scanTerms` cuts them out and keeps the words that remain. The i-th
operator therefore has no place among the terms.

The words that are looked up in the catalogue are read in another way (`searchTerms`). Operators and parentheses are
blanked out wherever they occur, inside a word too but in capitals only; what stands between single spaces and is longer
than two characters is a term, and of the terms that agree in lower case the first is kept.
-/

namespace RecipeSearch.Query

open Text (Piece pieces isWordChar isBlank isAnyKeyword)

/-- What a query is made of. -/
structure Breakdown where
  kind : String
  query : String
  terms : List String
  operators : List String
  hasParentheses : Bool
  hasNot : Bool
  deriving DecidableEq, Repr

/-- The kind of every breakdown. -/
def booleanQuery : String := "BooleanQuery"

/-- A round bracket. -/
def isParenthesis (c : Char) : Bool :=
  c == '(' || c == ')'

/-- The operator that a piece of a query spells, in upper case, or its parenthesis. -/
def operator? : Piece → Option (List Char)
  | .run word => if isAnyKeyword operatorWords word then some (word.map Char.toUpper) else none
  | .other c => if isParenthesis c then some [c] else none

/-- The operators and parentheses of a text, in order. -/
def scanOperators (cs : List Char) : List (List Char) :=
  (pieces isWordChar cs).filterMap operator?

/-- A piece of a query with a blank in the place of an operator. -/
def cutOperator : Piece → List Char
  | .run word => if isAnyKeyword operatorWords word then [' '] else word
  | .other c => [c]

/-- A text with a blank in the place of every operator. -/
def cutOperators (cs : List Char) : List Char :=
  (pieces isWordChar cs).flatMap cutOperator

/-- A text with a blank in the place of every parenthesis. -/
def cutParentheses (cs : List Char) : List Char :=
  cs.map fun c => if isParenthesis c then ' ' else c

/-- What remains of a text between blanks, operators and parentheses, in order. -/
def scanTerms (cs : List Char) : List (List Char) :=
  Text.runs (fun c => !isBlank c) (cutParentheses (cutOperators cs))

/-- The breakdown of a query that is not blank. A query mentions NOT when it has these three capitals in a row, inside
a longer word too. -/
def decompose (query : String) : Option Breakdown :=
  let cs := query.toList
  if Text.isBlankText cs then none
  else some {
    kind := booleanQuery
    query := query
    terms := (scanTerms cs).map String.ofList
    operators := (scanOperators cs).map String.ofList
    hasParentheses := cs.any isParenthesis
    hasNot := Text.occursIn ['N', 'O', 'T'] cs }

/-! ## Search terms -/

/-- What is blanked out of a query, in this order. -/
def strippedWords : List (List Char) :=
  [['A', 'N', 'D'], ['O', 'R'], ['N', 'O', 'T'], ['('], [')']]

/-- A text with a blank in the place of each stripped word. -/
def strip (cs : List Char) : List Char :=
  strippedWords.foldl (fun text word => Text.blankOut word text) cs

/-- The parts of a text between spaces that are longer than two characters. -/
def longWords (cs : List Char) : List (List Char) :=
  (Text.runs (· ≠ ' ') cs).filter fun word => word.length > 2

/-- The terms of a query, without repetitions. -/
def searchTerms (query : String) : List String :=
  (Text.distinctOn Text.lower (longWords (strip query.toList))).map String.ofList

end RecipeSearch.Query
