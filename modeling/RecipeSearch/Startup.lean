import RecipeSearch.Catalogue.Client
import RecipeSearch.Settings.Basic
import RecipeSearch.Web.Server

/-!
# Starting up

The service reads its settings, names the catalogue that it uses and the origins that it leaves out, and then says where
it listens and for which origins. It stops on the way if the settings cannot be read, or if the wildcard is among the
origins.
-/

namespace RecipeSearch

/-- How far the service gets. -/
inductive Startup where
  /-- The settings cannot be read. -/
  | unset (e : Settings.SettingsError)
  /-- The wildcard is listed as an origin. -/
  | wildcardListed (settings : Settings)
  /-- The service is about to listen. -/
  | ready (settings : Settings)
  deriving DecidableEq, Repr

namespace Startup

/-- How far the service gets with these arguments, after its own name, and this environment. -/
def run (args : List String) (env : Settings.Environment) : Startup :=
  match Settings.load args env with
  | .error e => unset e
  | .ok settings =>
    if (Web.Origins.ofList? settings.allowedOrigins).isSome then ready settings else wildcardListed settings

/-! ## What it says -/

/-- A character of a message. Controls that a terminal would act on are shown instead. -/
def loggedChar (c : Char) : List Char :=
  if c = '\x07' || c = '\x08' || c = '\x0c' || c = '\x1b' || c = '\x7f' then
    ['\\', 'x'] ++ (if c.toNat < 16 then ['0'] else []) ++ Text.hexText c.toNat
  else if 0x80 ≤ c.toNat && c.toNat ≤ 0x9f then ['\\', 'u', '\x7b'] ++ Text.hexText c.toNat ++ ['\x7d']
  else [c]

/-- A message as it is logged. -/
def logged (message : String) : String :=
  String.ofList (message.toList.flatMap loggedChar)

/-- A message of the course of things. -/
def info (message : String) : String :=
  "INFO recipe_query: " ++ logged message

/-- A message of the server about something that it leaves out. -/
def warning (message : String) : String :=
  "WARN recipe_query::search::handlers: " ++ logged message

/-- What is said of the catalogue. -/
def catalogueMessage (access : CatalogueAccess) : String :=
  let client := Catalogue.Client.ofAccess access
  info ("Using recipe catalog at " ++ client.baseUrl ++
    s!" (timeout {access.timeoutMs}ms, {access.retryAttempts} attempts)")

/-- What is said of the origins that are left out. -/
def originWarnings (origins : List String) : List String :=
  (Web.Origins.unsendable origins).map fun origin => warning ("Ignoring invalid CORS origin " ++ Text.quoted origin)

/-- The messages up to the making of the server, which names the origins that it leaves out. -/
def preparation (settings : Settings) : List String :=
  catalogueMessage settings.catalogue :: originWarnings settings.allowedOrigins

/-- The messages in the log. -/
def log : Startup → List String
  | unset _ => []
  | wildcardListed settings => preparation settings
  | ready settings => preparation settings ++
    [info ("HTTP server listening on " ++ settings.bind.text),
      info ("Allowed origins: " ++ Text.quotedList settings.allowedOrigins)]

/-- What the service says when it stops. -/
def complaint : Startup → String
  | unset e =>
    "Error: " ++ e.message ++ "\n" ++
      (if e.causes.isEmpty then "" else "\nCaused by:\n    " ++ "\n    ".intercalate e.causes ++ "\n")
  | wildcardListed _ => "the wildcard cannot be listed as an origin\n"
  | ready _ => ""

/-- The code with which the service stops, none if it goes on. -/
def exitCode : Startup → Option Nat
  | unset _ => some 1
  | wildcardListed _ => some 101
  | ready _ => none

end Startup

end RecipeSearch
