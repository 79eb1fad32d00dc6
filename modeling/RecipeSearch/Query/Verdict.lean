import RecipeSearch.Text.Word

/-!
# The verdict on a query

A query is letters, underscores, blanks and parentheses. `validate` refuses one that is blank, that has not as many
opening as closing parentheses, or that has any other character, in this order of preference, and otherwise gives the
query without the blanks around it. Parentheses are only counted, and where operators stand is never looked at.
-/

namespace RecipeSearch.Query

open Text (isBlank foldLetter)

/-- The words that join terms, in lower case. -/
def operatorWords : List String := ["and", "or", "not"]

/-- Why a query is refused. -/
inductive Refusal where
  | emptyQuery
  | unbalancedParentheses
  | invalidForm
  deriving DecidableEq, Repr

/-- What the sender of a refused query is told. -/
def Refusal.message : Refusal → String
  | emptyQuery => "Query cannot be empty"
  | unbalancedParentheses => "Unbalanced parentheses"
  | invalidForm => "Invalid query syntax"

/-- Letters, in either case and in any spelling that folds to ASCII. -/
def isLetter (c : Char) : Bool :=
  (foldLetter c).isLower

/-- The characters that a query may have. -/
def isQueryChar (c : Char) : Bool :=
  isLetter c || c == '_' || c == '(' || c == ')' || isBlank c

/-- At least one character, and query characters only. -/
def isForm (cs : List Char) : Bool :=
  !cs.isEmpty && cs.all isQueryChar

/-- The query without the blanks around it, or the reason why it is refused. -/
def validate (query : String) : Except Refusal String :=
  let cs := Text.trim query.toList
  if cs.isEmpty then .error .emptyQuery
  else if query.toList.count '(' ≠ query.toList.count ')' then .error .unbalancedParentheses
  else if isForm cs then .ok (String.ofList cs)
  else .error .invalidForm

theorem isForm_iff {cs : List Char} : isForm cs = true ↔ cs ≠ [] ∧ ∀ c ∈ cs, isQueryChar c = true := by
  simp [isForm]

end RecipeSearch.Query
