import RecipeSearch.Startup

/-!
# The command line

Reads the settings from the arguments and the environment, and reports how far the service gets with them.
-/

open RecipeSearch

/-- The environment variables that are read. -/
def settingKeys : List String :=
  ["PORT", "MEALDB_BASE_URL", "ALLOWED_ORIGINS", "CATALOG_TIMEOUT_MS", "CATALOG_RETRY_ATTEMPTS", "SEARCH_MAX_RESULTS",
    "SEARCH_TERM_CONCURRENCY"]

/-- Runs the service up to where it would listen. -/
def main (args : List String) : IO UInt32 := do
  let found ← settingKeys.filterMapM fun key => do
    return (← IO.getEnv key).map (key, ·)
  let startup := Startup.run args fun key => found.lookup key
  for message in startup.log do
    IO.println message
  IO.eprint startup.complaint
  return UInt32.ofNat (startup.exitCode.getD 0)
