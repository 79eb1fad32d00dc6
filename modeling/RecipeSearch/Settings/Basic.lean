import RecipeSearch.Search.Basic
import RecipeSearch.Settings.SocketAddress
import RecipeSearch.Text.Blank
import RecipeSearch.Text.Pieces
import RecipeSearch.Text.Quoted

/-!
# Settings

The service is set up by environment variables and, where it listens, by the command line, which goes before the
variable for the port. What is not set has a default. `load` reads all settings in a fixed order and reports the first
that cannot be read.

A setting holds a natural number in decimal digits, with a plus sign before them if one likes. Reading goes from left to
right and stops at the first character that is no digit or takes the number beyond its bound (`readNumber`).
-/

namespace RecipeSearch

/-! ## Numbers -/

namespace Settings

/-- Why a text is not a number in range. -/
inductive NumberFault where
  | invalidDigit
  | tooLarge
  deriving DecidableEq, Repr

/-- What is said of a fault. -/
def NumberFault.message : NumberFault → String
  | invalidDigit => "invalid digit found in string"
  | tooLarge => "number too large to fit in target type"

/-- The number `n` continued by decimal digits, below `bound`. -/
def continueNumber (bound n : Nat) : List Char → Except NumberFault Nat
  | [] => .ok n
  | c :: cs =>
    if !c.isDigit then .error .invalidDigit
    else
      let next := n * 10 + (c.toNat - 48)
      if next < bound then continueNumber bound next cs else .error .tooLarge

/-- The number below `bound` that a text spells; it has at least one digit. -/
def readNumber (bound : Nat) (cs : List Char) : Except NumberFault Nat :=
  let digits := match cs with
    | '+' :: digits => digits
    | digits => digits
  if digits.isEmpty then .error .invalidDigit else continueNumber bound 0 digits

end Settings

/-! ## Settings and their faults -/

/-- How the catalogue is reached. -/
structure CatalogueAccess where
  baseUrl : String
  timeoutMs : Nat
  retryAttempts : Nat
  deriving DecidableEq, Repr

/-- How the service is set up. -/
structure Settings where
  bind : Settings.SocketAddress
  allowedOrigins : List String
  catalogue : CatalogueAccess
  limits : Limits
  deriving DecidableEq, Repr

namespace Settings

/-- The settings when nothing is set. -/
def standard : Settings where
  bind := .v4 [0, 0, 0, 0] 8080
  allowedOrigins := ["http://localhost:4200", "https://recipeparserv2-ui.onrender.com"]
  catalogue := ⟨"https://www.themealdb.com/api/json/v1/1", 5000, 3⟩
  limits := .standard

/-- The value of each environment variable that is set. -/
abbrev Environment := String → Option String

/-- Why the settings cannot be read. -/
inductive SettingsError where
  | badNumber (key value : String) (fault : NumberFault)
  | missingAddress
  | badAddress (value : String)
  deriving DecidableEq, Repr

namespace SettingsError

/-- What is said of an error. -/
def message : SettingsError → String
  | badNumber key value _ => s!"invalid value for {key}: " ++ Text.quoted value
  | missingAddress => "--bind requires <addr:port>"
  | badAddress value => s!"invalid --bind address: {value}"

/-- What is behind an error. -/
def causes : SettingsError → List String
  | badNumber _ _ fault => [fault.message]
  | missingAddress => []
  | badAddress _ => ["invalid socket address syntax"]

end SettingsError

/-- The bound of a port. -/
def portBound : Nat := 65536

/-- The bound of all other numbers. -/
def numberBound : Nat := 18446744073709551616

/-- The number below `bound` that a variable is set to, none if it is not set or blank. -/
def number? (env : Environment) (bound : Nat) (key : String) : Except SettingsError (Option Nat) :=
  match env key with
  | none => .ok none
  | some value =>
    if Text.isBlankString value then .ok none
    else
      match readNumber bound (Text.trim value.toList) with
      | .ok n => .ok (some n)
      | .error fault => .error (.badNumber key value fault)

/-- The origins that a text separates by commas. -/
def splitOrigins (text : String) : List String :=
  (((Text.runs (· ≠ ',') text.toList).map Text.trim).filter (· ≠ [])).map String.ofList

/-- The address that the last `--bind` among the arguments names, `address` if there is none. -/
def bindOf (address : SocketAddress) : List String → Except SettingsError SocketAddress
  | [] => .ok address
  | arg :: args =>
    if arg = "--bind" then
      match args with
      | [] => .error .missingAddress
      | value :: args =>
        match SocketAddress.ofText? value.toList with
        | some address => bindOf address args
        | none => .error (.badAddress value)
    else bindOf address args

/-- The settings that the environment and the arguments after the program's name make. -/
def load (args : List String) (env : Environment) : Except SettingsError Settings := do
  let port ← number? env portBound "PORT"
  let timeout ← number? env numberBound "CATALOG_TIMEOUT_MS"
  let attempts ← number? env numberBound "CATALOG_RETRY_ATTEMPTS"
  let maxResults ← number? env numberBound "SEARCH_MAX_RESULTS"
  let concurrency ← number? env numberBound "SEARCH_TERM_CONCURRENCY"
  let address := match port with
    | some port => standard.bind.withPort port
    | none => standard.bind
  let bind ← bindOf address args
  let baseUrl := (env "MEALDB_BASE_URL").filter fun value => !Text.isBlankString value
  return {
    bind := bind
    allowedOrigins := ((env "ALLOWED_ORIGINS").map splitOrigins).getD standard.allowedOrigins
    catalogue := {
      baseUrl := (baseUrl.map Text.trimmed).getD standard.catalogue.baseUrl
      timeoutMs := timeout.getD standard.catalogue.timeoutMs
      retryAttempts := attempts.getD standard.catalogue.retryAttempts }
    limits := {
      maxResults := maxResults.getD standard.limits.maxResults
      termConcurrency := max 1 (concurrency.getD standard.limits.termConcurrency) } }

end Settings

end RecipeSearch
