import RecipeSearch.Query.Breakdown
import RecipeSearch.Recipe.Basic

/-!
# Requests and answers

What the service is sent and what it sends back, with their JSON forms: `toJson` writes a message and `reader` reads
it. Most members that are missing are written as `null`; the details of an error and the mark of a cancelled search are
left out instead.
-/

namespace RecipeSearch

namespace Query.Breakdown

/-- The JSON form of a breakdown. -/
def toJson (b : Breakdown) : Json :=
  .object [("type", .string b.kind), ("query", .string b.query), ("terms", .strings b.terms),
    ("operators", .strings b.operators), ("hasParentheses", .bool b.hasParentheses), ("hasNot", .bool b.hasNot)]

/-- The fields of a breakdown. -/
def fields : List Json.Field :=
  [.required "type" .string, .required "query" .string, .required "terms" (.list .string),
    .required "operators" (.list .string), .required "hasParentheses" .bool, .required "hasNot" .bool]

/-- Reads a breakdown. -/
def reader : Json.Reader Breakdown := fun o => do
  let found ← Json.Reader.record fields o
  return {
    kind := ← found.get "type" .string
    query := ← found.get "query" .string
    terms := ← found.get "terms" (.list .string)
    operators := ← found.get "operators" (.list .string)
    hasParentheses := ← found.get "hasParentheses" .bool
    hasNot := ← found.get "hasNot" .bool }

end Query.Breakdown

namespace Service

/-- A request to search. -/
structure SearchRequest where
  query : Option String
  deriving DecidableEq, Repr

namespace SearchRequest

/-- The JSON form of a request. -/
def toJson (r : SearchRequest) : Json :=
  .object [("query", .orNull .string r.query)]

/-- The fields of a request. -/
def fields : List Json.Field :=
  [.defaulted "query" (.orNull .string)]

/-- Reads a request. -/
def reader : Json.Reader SearchRequest := fun o => do
  let found ← Json.Reader.record fields o
  return { query := ← found.get? "query" .string }

end SearchRequest

/-- The answer to a search. -/
structure SearchResponse where
  query : String
  results : List Recipe
  parseTree : Option Query.Breakdown
  executionTime : String
  resultCount : Nat
  generatedSql : String
  /-- The search was cancelled, and the results are those that it had come to. -/
  cancelled : Bool
  deriving DecidableEq, Repr

namespace SearchResponse

/-- The JSON form of an answer. -/
def toJson (r : SearchResponse) : Json :=
  .object ([("query", .string r.query), ("results", .array (r.results.map Recipe.toJson)),
    ("parseTree", .orNull Query.Breakdown.toJson r.parseTree), ("executionTime", .string r.executionTime),
    ("resultCount", .nat r.resultCount), ("generatedSql", .string r.generatedSql)] ++
    if r.cancelled then [("cancelled", .bool true)] else [])

/-- The fields of an answer. -/
def fields : List Json.Field :=
  [.required "query" .string, .required "results" (.list Recipe.reader),
    .nullable "parseTree" Query.Breakdown.reader, .required "executionTime" .string,
    .required "resultCount" .nat, .required "generatedSql" .string, .defaulted "cancelled" .bool]

/-- Reads an answer. -/
def reader : Json.Reader SearchResponse := fun o => do
  let found ← Json.Reader.record fields o
  return {
    query := ← found.get "query" .string
    results := ← found.get "results" (.list Recipe.reader)
    parseTree := ← found.get? "parseTree" Query.Breakdown.reader
    executionTime := ← found.get "executionTime" .string
    resultCount := ← found.get "resultCount" .nat
    generatedSql := ← found.get "generatedSql" .string
    cancelled := ← found.getD "cancelled" .bool false }

end SearchResponse

/-- The verdict on a query. -/
structure ValidationResponse where
  query : String
  isValid : Bool
  errorMessage : Option String
  parseTree : Option Query.Breakdown
  deriving DecidableEq, Repr

namespace ValidationResponse

/-- The JSON form of a verdict. -/
def toJson (r : ValidationResponse) : Json :=
  .object [("query", .string r.query), ("isValid", .bool r.isValid),
    ("errorMessage", .orNull .string r.errorMessage), ("parseTree", .orNull Query.Breakdown.toJson r.parseTree)]

/-- The fields of a verdict. -/
def fields : List Json.Field :=
  [.required "query" .string, .required "isValid" .bool, .nullable "errorMessage" .string,
    .nullable "parseTree" Query.Breakdown.reader]

/-- Reads a verdict. -/
def reader : Json.Reader ValidationResponse := fun o => do
  let found ← Json.Reader.record fields o
  return {
    query := ← found.get "query" .string
    isValid := ← found.get "isValid" .bool
    errorMessage := ← found.get? "errorMessage" .string
    parseTree := ← found.get? "parseTree" Query.Breakdown.reader }

end ValidationResponse

/-- Why there is no answer. -/
structure ErrorResponse where
  error : String
  details : Option String
  deriving DecidableEq, Repr

namespace ErrorResponse

/-- The JSON form of an error. -/
def toJson (r : ErrorResponse) : Json :=
  .object (("error", .string r.error) :: match r.details with
    | none => []
    | some details => [("details", .string details)])

/-- The fields of an error. -/
def fields : List Json.Field :=
  [.required "error" .string, .defaulted "details" (.orNull .string)]

/-- Reads an error. -/
def reader : Json.Reader ErrorResponse := fun o => do
  let found ← Json.Reader.record fields o
  return {
    error := ← found.get "error" .string
    details := ← found.get? "details" .string }

end ErrorResponse

end Service

end RecipeSearch
