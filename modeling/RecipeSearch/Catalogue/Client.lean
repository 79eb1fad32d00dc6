import RecipeSearch.Catalogue.Address
import RecipeSearch.Catalogue.Basic
import RecipeSearch.Recipe.Meal
import RecipeSearch.Settings.Basic
import RecipeSearch.Text.Blank

/-!
# Asking the catalogue

A client asks the catalogue over a network. A request that gets no answer, or an answer that blames the server, is made
again until the attempts are used up; any other answer settles the matter. What is answered to the first request, the
second, and so on is given by `replies`.

The catalogue puts every list into an envelope, an object whose member `meals` is the list, or `null` if nothing was
found. A blank answer is an empty list (`decodeItems`).
-/

namespace RecipeSearch.Catalogue

/-! ## Answers -/

/-- The field of an envelope around a list of items. -/
def envelopeFields (item : Json.Reader α) : List Json.Field :=
  [.nullable "meals" (.list item)]

/-- Reads an envelope; without a list it holds no items. -/
def envelope (item : Json.Reader α) : Json.Reader (List α) := fun o => do
  let found ← Json.Reader.record (envelopeFields item) o
  return (← found.get? "meals" (.list item)).getD []

/-- The items of the answer from `url`. -/
def decodeItems (item : Json.Reader α) (url body : String) : Except CatalogueError (List α) :=
  if Text.isBlankString body then .ok []
  else (Json.read (envelope item) body.toList).mapError (.undecodable url)

/-- Reads an entry of a list of names, which is an object with one text that may be missing. -/
def nameEntry (member : String) : Json.Reader (Option String) := fun o => do
  let found ← Json.Reader.record [.defaulted member (.orNull .string)] o
  found.get? member .string

/-- Reads an entry of the list of categories. -/
def categoryEntry : Json.Reader (Option String) := nameEntry "strCategory"

/-- Reads an entry of the list of areas. -/
def areaEntry : Json.Reader (Option String) := nameEntry "strArea"

/-- Reads an entry of the list of ingredients. -/
def ingredientEntry : Json.Reader (Option String) := nameEntry "strIngredient"

/-- The names that are there and not blank. -/
def presentNames (names : List (Option String)) : List String :=
  (names.filterMap id).filter fun name => !Text.isBlankString name

/-! ## Requests -/

/-- What comes of one request. -/
inductive Reply where
  /-- No answer. -/
  | lost
  /-- An answer with a status, and its body unless that broke off. -/
  | received (status : Nat) (body : Option String)
  deriving DecidableEq, Repr

/-- What a reply means for the request. -/
inductive Verdict where
  /-- The answer is this text. -/
  | answered (body : String)
  /-- There will be no answer. -/
  | failed (e : CatalogueError)
  /-- There was no answer this time. -/
  | retryable (e : CatalogueError)
  deriving DecidableEq, Repr

/-- The statuses of success. -/
def isSuccess (status : Nat) : Bool := 200 ≤ status && status ≤ 299

/-- The statuses that blame the server. -/
def isServerError (status : Nat) : Bool := 500 ≤ status && status ≤ 599

/-- The statuses of an answer. One below 200 only announces an answer, which then does not come, unless it is 101. -/
def isFinal (status : Nat) : Bool := (200 ≤ status && status ≤ 999) || status = 101

/-- The status of an answer without a body. -/
def noContent : Nat := 204

/-- A body without the mark that may stand at its start. -/
def withoutMark (body : String) : String :=
  match body.toList with
  | '\ufeff' :: cs => String.ofList cs
  | _ => body

/-- What a reply to a request for `url` means. -/
def Reply.verdict (url : String) : Reply → Verdict
  | lost => .retryable (.unreachable url)
  | received status body =>
    if !isFinal status then .retryable (.unreachable url)
    else if isSuccess status then
      if status = noContent then .answered ""
      else
        match body with
        | some body => .answered (withoutMark body)
        | none => .failed (.unreachable url)
    else if isServerError status then .retryable (.status url status)
    else .failed (.status url status)

/-- The error when the last of `attempts` attempts has failed with `e`. -/
def lastFailure (url : String) (attempts : Nat) (e : CatalogueError) : CatalogueError :=
  if attempts = 1 then e else .retriesExhausted url attempts e

/-- Makes requests for `url`, of which `made` have been made before and `left` may be made after the next one. Gives the
number of requests made in the end, and what came of them. -/
def request (url : String) (attempts : Nat) (replies : Nat → Reply) (made : Nat) :
    (left : Nat) → Nat × Except CatalogueError String
  | 0 =>
    match (replies made).verdict url with
    | .answered body => (made + 1, .ok body)
    | .failed e => (made + 1, .error e)
    | .retryable e => (made + 1, .error (lastFailure url attempts e))
  | left + 1 =>
    match (replies made).verdict url with
    | .answered body => (made + 1, .ok body)
    | .failed e => (made + 1, .error e)
    | .retryable _ => request url attempts replies (made + 1) left

/-! ## The client -/

/-- The network that a client asks over. -/
structure Network where
  /-- The names of hosts that are known. -/
  resolves : String → Bool
  /-- What is answered to the first request, the second, and so on. -/
  replies : Nat → Reply

/-- The host can be found: it has an address or a known name. -/
def Network.reaches (network : Network) : Internet.Host → Bool
  | .address _ => true
  | .name s => network.resolves s

/-- A client of the catalogue. -/
structure Client where
  baseUrl : String
  /-- How often a request is made at most. -/
  attempts : Nat
  attempts_pos : 0 < attempts

namespace Client

/-- A client for a base address, the slashes after which do not count. A request is made at least once. -/
def new (baseUrl : String) (attempts : Nat) : Client where
  baseUrl := String.ofList (baseUrl.toList.reverse.dropWhile (· == '/')).reverse
  attempts := max 1 attempts
  attempts_pos := by omega

/-- The client that the settings ask for. -/
def ofAccess (access : CatalogueAccess) : Client :=
  new access.baseUrl access.retryAttempts

end Client

/-- What came of asking, with the requests that were made, in order. -/
structure Exchange (α : Type) where
  result : Except CatalogueError α
  requests : List String

/-- A question to the catalogue: an endpoint with one field. -/
structure Question where
  endpoint : String
  key : String
  value : String
  deriving DecidableEq, Repr

namespace Question

/-- The recipes of a term under a facet. -/
def lookup : Facet → String → Question
  | .category, term => ⟨"filter.php", "c", term⟩
  | .area, term => ⟨"filter.php", "a", term⟩
  | .ingredient, term => ⟨"filter.php", "i", term⟩
  | .name, term => ⟨"search.php", "s", term⟩

/-- The recipe of an id. -/
def recipe (id : String) : Question := ⟨"lookup.php", "i", id⟩

/-- All categories. -/
def categories : Question := ⟨"list.php", "c", "list"⟩

/-- All areas. -/
def areas : Question := ⟨"list.php", "a", "list"⟩

/-- All ingredients. -/
def ingredients : Question := ⟨"list.php", "i", "list"⟩

end Question

namespace Client

/-- Where a question is asked, without its field. -/
def url (client : Client) (question : Question) : String :=
  client.baseUrl ++ "/" ++ question.endpoint

/-- The address that answers a question, if it can be asked over the network. -/
def address? (client : Client) (question : Question) (network : Network) : Option Address :=
  ((Address.ofText? (client.url question)).map (·.withField question.key question.value)).filter fun address =>
    address.isSendable && network.reaches address.host

/-- Asks a question and reads the items of the answer. An address that cannot be asked is as good as one that does not
answer, and no request is made. -/
def ask (client : Client) (item : Json.Reader α) (question : Question) (network : Network) :
    Exchange (List α) :=
  let url := client.url question
  let address := client.address? question network
  let replies := if address.isSome then network.replies else fun _ => .lost
  let (made, answer) := request url client.attempts replies 0 (client.attempts - 1)
  ⟨answer.bind (decodeItems item url), match address with
    | some address => List.replicate made ("GET " ++ address.target)
    | none => []⟩

/-- The recipes that a question brings. -/
def recipes (client : Client) (question : Question) (network : Network) : Exchange (List Recipe) :=
  let exchange := client.ask Meal.reader question network
  ⟨exchange.result.map fun meals => meals.map Recipe.ofMeal, exchange.requests⟩

/-- The first recipe that a question brings. -/
def recipe? (client : Client) (question : Question) (network : Network) : Exchange (Option Recipe) :=
  let exchange := client.recipes question network
  ⟨exchange.result.map fun recipes => recipes.head?, exchange.requests⟩

/-- The names that a question brings, without those that are blank. -/
def names (client : Client) (entry : Json.Reader (Option String)) (question : Question) (network : Network) :
    Exchange (List String) :=
  let exchange := client.ask entry question network
  ⟨exchange.result.map presentNames, exchange.requests⟩

end Client

end RecipeSearch.Catalogue
