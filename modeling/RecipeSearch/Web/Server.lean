import RecipeSearch.Json.Printer
import RecipeSearch.Service.Basic
import RecipeSearch.Text.Percent
import RecipeSearch.Web.MediaType

/-!
# The service on the web

Four routes lead to the service: some facet values, a search, a verdict, and a recipe by its id. `Server.respond`
answers any request. A query that is missing or refused is the sender's fault, and a catalogue that cannot give a
recipe is a bad gateway; a search by itself never fails. Answers are JSON, but for those that come about before a route
is reached or its query is read.

A request asks for a path, and perhaps a query after a question mark. The path is compared with routes as it was sent;
only a part that names something is decoded. Pages of other origins may use the service if it allows their origin: its
answers then name the origin of the page. An origin that is no valid value of a header is never sent and is left out;
the wildcard is not an origin and cannot be listed.
-/

namespace RecipeSearch.Web

open Service (SearchRequest ErrorResponse)

/-! ## Other origins -/

/-- A list of origins without the wildcard. -/
structure Origins where
  allowed : List String
  not_wildcard : "*" ∉ allowed

namespace Origins

/-- The character may stand in the value of a header. -/
def isHeaderChar (c : Char) : Bool :=
  (32 ≤ c.toNat && c.toNat ≠ 127) || c == '\t'

/-- The text may be the value of a header. -/
def isHeaderValue (value : String) : Bool :=
  value.toList.all isHeaderChar

/-- The origins of a list that cannot be sent and are left out. -/
def unsendable (origins : List String) : List String :=
  origins.filter fun origin => !isHeaderValue origin

/-- The origins of a list that can be sent, unless one of them is the wildcard. -/
def ofList? (origins : List String) : Option Origins :=
  let allowed := origins.filter isHeaderValue
  if h : "*" ∈ allowed then none else some ⟨allowed, h⟩

/-- The origin that an answer names, for a request from `origin`. -/
def admitted (o : Origins) (origin : Option String) : Option String :=
  origin.filter fun origin => o.allowed.contains origin

end Origins

/-! ## Request targets -/

/-- The path and query of a request. -/
structure Target where
  path : List Char
  query : List Char
  deriving DecidableEq, Repr

namespace Target

/-- What follows the scheme of an absolute address. -/
def afterScheme? : List Char → Option (List Char)
  | ':' :: '/' :: '/' :: cs => some cs
  | _ :: cs => afterScheme? cs
  | [] => none

/-- The target of a request line: a path, an absolute address, or anything else, which has no path. -/
def parse (uri : String) : Target :=
  let cs := uri.toList.takeWhile (· ≠ '#')
  let query := (cs.dropWhile (· ≠ '?')).drop 1
  let path := cs.takeWhile (· ≠ '?')
  if path.head? = some '/' then ⟨path, query⟩
  else
    match afterScheme? path with
    | some rest =>
      let path := rest.dropWhile (· ≠ '/')
      ⟨if path.isEmpty then ['/'] else path, query⟩
    | none => ⟨[], query⟩

/-- The values of a field in the query, in order. -/
def values (t : Target) (name : String) : List String :=
  ((Text.formFields t.query).filter fun field => field.1 == name).map Prod.snd

end Target

/-! ## Requests and answers -/

/-- A request. -/
structure Request where
  method : String
  uri : String
  headers : List (String × String)
  /-- The body, if it is a text. Any other one counts by what is read from it (`Server.respondTo`). -/
  body : String
  deriving DecidableEq, Repr

/-- The value of the first header of a name, which is given in lower case. -/
def Request.header? (r : Request) (name : String) : Option String :=
  (r.headers.find? fun header => header.1.toList.map Char.toLower == name.toList).map Prod.snd

/-- The body of an answer. -/
inductive Body where
  | empty
  | text (s : String)
  | json (v : Json)

/-- An answer. Each header has a value. -/
structure Response where
  status : Nat
  headers : List (String × String)
  body : Body

namespace Response

/-- An answer in JSON. -/
def json (status : Nat) (v : Json) : Response :=
  ⟨status, [("content-type", "application/json")], .json v⟩

/-- An answer in plain text. -/
def text (status : Nat) (s : String) : Response :=
  ⟨status, [("content-type", "text/plain; charset=utf-8")], .text s⟩

/-- An answer without a body. -/
def empty (status : Nat) (headers : List (String × String)) : Response :=
  ⟨status, headers, .empty⟩

/-- An error. -/
def error (status : Nat) (message : String) (details : Option String) : Response :=
  json status (ErrorResponse.toJson ⟨message, details⟩)

end Response

/-! ## Routes -/

/-- What a path leads to. -/
inductive Route where
  | dropdown
  | search
  | validate
  /-- A recipe; the id is still encoded. -/
  | recipe (id : List Char)
  deriving DecidableEq, Repr

namespace Route

/-- The path that all routes start with. -/
def base : List Char := "/api/recipe/".toList

/-- The route of a path: one segment after the base, which is not empty. -/
def ofPath? (path : List Char) : Option Route :=
  if base.isPrefixOf path then
    let segment := path.drop base.length
    if segment.isEmpty || segment.contains '/' then none
    else if segment == "dropdown-options".toList then some dropdown
    else if segment == "search".toList then some search
    else if segment == "validate".toList then some validate
    else some (recipe segment)
  else none

/-- The method of a route. -/
def method : Route → String
  | search => "POST"
  | _ => "GET"

/-- The methods that are answered, as a header lists them. -/
def allow : Route → String
  | search => "POST"
  | _ => "GET,HEAD"

end Route

/-! ## Answers -/

/-- The longest body that is read, in bytes. -/
def bodyLimit : Nat := 2097152

/-- The longest address that a request can have, in bytes. A longer one is refused before a route is looked for. -/
def addressLimit : Nat := 65534

/-- The query of a request to search, or why there is none. -/
def readSearchRequest (r : Request) : Except String (Option String) :=
  let isJson := do
    let value ← r.header? "content-type"
    let mediaType ← MediaType.parse? value.toList
    return mediaType.isJson
  if isJson ≠ some true then .error "Expected request with `Content-Type: application/json`"
  else if bodyLimit < r.body.utf8ByteSize then .error "Failed to buffer the request body: length limit exceeded"
  else
    match Json.readStart SearchRequest.reader r.body.toList with
    | .ok request => .ok request.query
    | .error .notJson => .error "Failed to parse the request body as JSON"
    | .error .wrongShape => .error "Failed to deserialize the JSON body into the target type"

/-- The query, if it is there and not blank. -/
def presentQuery (query : Option String) : Option String :=
  query.filter fun query => !Text.isBlankString query

/-- The answer to a request to search, from whose body `asked` was read. -/
def search (catalogue : Catalogue) (limits : Limits) (asked : Except String (Option String)) : Traced Response :=
  match asked with
  | .error details => ⟨.error 400 "Query is required" (some details), []⟩
  | .ok query =>
    match presentQuery query with
    | none => ⟨.error 400 "Query is required" none, []⟩
    | some query =>
      let found := Service.search catalogue limits query .never
      match found.value with
      | .ok response => ⟨.json 200 response.toJson, found.calls⟩
      | .error (.invalidQuery refusal) =>
        ⟨.error 400 "Invalid query syntax" (some refusal.message), found.calls⟩
      | .error e => ⟨.error 500 "Search failed" (some e.message), found.calls⟩

/-- The answer to a request for a verdict. -/
def validate (target : Target) : Response :=
  match target.values "query" with
  | [] => .error 400 "Query parameter is required" none
  | [query] =>
    match presentQuery (some query) with
    | none => .error 400 "Query parameter is required" none
    | some query => .json 200 (Service.validate query).toJson
  | _ => .text 400 "Failed to deserialize query string: duplicate field `query`"

/-- The answer to a request for a recipe. -/
def recipe (catalogue : Catalogue) (id : List Char) : Traced Response :=
  match Text.ofUtf8? (Text.percentDecode id) with
  | none => ⟨.text 400 "Invalid URL: Invalid UTF-8 in `id`", []⟩
  | some id =>
    let id := String.ofList id
    let found := Service.recipe catalogue id
    ⟨match found.value with
      | .ok (some recipe) => .json 200 recipe.toJson
      | .ok none => .error 404 s!"Recipe with ID {id} not found" none
      | .error e => .error 502 "Failed to fetch recipe" (some e.message), found.calls⟩

/-- The answer on a route, to its own method. -/
def answer (catalogue : Catalogue) (limits : Limits) (target : Target) (asked : Except String (Option String)) :
    Route → Traced Response
  | .dropdown =>
    let found := Service.dropdown catalogue
    ⟨.json 200 found.value.toJson, found.calls⟩
  | .search => search catalogue limits asked
  | .validate => ⟨validate target, []⟩
  | .recipe id => recipe catalogue id

/-! ## The server -/

/-- The service, and the pages that may use it. -/
structure Server where
  origins : Origins
  catalogue : Catalogue
  limits : Limits

namespace Server

/-- The server for a list of origins, which cannot hold the wildcard. -/
def build? (origins : List String) (catalogue : Catalogue) (limits : Limits) : Option Server :=
  (Origins.ofList? origins).map fun origins => ⟨origins, catalogue, limits⟩

/-- The headers of an answer for the page that asks: whether it may, and that this depends on the request. -/
def originHeaders (s : Server) (r : Request) : List (String × String) :=
  let admitted := match s.origins.admitted (r.header? "origin") with
    | some origin => [("access-control-allow-origin", origin)]
    | none => []
  ("vary", "origin, access-control-request-method, access-control-request-headers") :: admitted

/-- The answer to a question what is allowed, which is the same for every page. -/
def permissions (route : Option Route) : Response :=
  .empty 200 ([("access-control-allow-methods", "*"), ("access-control-allow-headers", "*")] ++
    match route with
    | some route => [("allow", route.allow)]
    | none => [])

/-- The answer to a request for a route. Asking for the head of an answer brings the answer without its body. -/
def onRoute (s : Server) (r : Request) (target : Target) (asked : Except String (Option String)) (route : Route) :
    Traced Response :=
  if r.method = route.method then answer s.catalogue s.limits target asked route
  else if r.method = "HEAD" ∧ route.method = "GET" then
    let full := answer s.catalogue s.limits target asked route
    ⟨{ full.value with body := .empty }, full.calls⟩
  else ⟨.empty 405 [("allow", route.allow)], []⟩

/-- The answer to a request from whose body `asked` is read. -/
def respondTo (s : Server) (r : Request) (asked : Except String (Option String)) : Traced Response :=
  let target := Target.parse r.uri
  let route := Route.ofPath? target.path
  let answered :=
    if r.method = "OPTIONS" then ⟨permissions route, []⟩
    else
      match route with
      | some route => s.onRoute r target asked route
      | none => ⟨.empty 404 [], []⟩
  ⟨{ answered.value with headers := answered.value.headers ++ s.originHeaders r }, answered.calls⟩

/-- The answer to a request. -/
def respond (s : Server) (r : Request) : Traced Response :=
  s.respondTo r (readSearchRequest r)

end Server

end RecipeSearch.Web
