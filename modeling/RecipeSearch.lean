import RecipeSearch.Main
import RecipeSearch.Web.Server
import RecipeSearch.Proofs.Search.Ending
import RecipeSearch.Proofs.Search.Interleaving
import RecipeSearch.Proofs.Search.Result
import RecipeSearch.Proofs.Search.Turns
import RecipeSearch.Proofs.Search.Monotone
import RecipeSearch.Proofs.Search.Batches
import RecipeSearch.Proofs.Query.Cascade
import RecipeSearch.Proofs.Query.Spacing
import RecipeSearch.Proofs.Text.Scan
import RecipeSearch.Proofs.Query.Untouched
import RecipeSearch.Proofs.Query.Skeleton
import RecipeSearch.Proofs.Query.Verdict
import RecipeSearch.Proofs.Text.Literal
import RecipeSearch.Proofs.Text.Search
import RecipeSearch.Proofs.Query.Literals
import RecipeSearch.Proofs.Query.Statement
import RecipeSearch.Proofs.Query.Frame
import RecipeSearch.Proofs.Query.Grammar
import RecipeSearch.Proofs.Query.Translation
import RecipeSearch.Proofs.Query.Scans
import RecipeSearch.Proofs.Text.Distinct
import RecipeSearch.Proofs.Query.Stripping
import RecipeSearch.Proofs.Search.Lookups
import RecipeSearch.Proofs.Service.Response
import RecipeSearch.Proofs.Text.Percent
import RecipeSearch.Proofs.Json.Outline
import RecipeSearch.Proofs.Web.Requests
import RecipeSearch.Proofs.Web.Agreement
import RecipeSearch.Proofs.Json.Record
import RecipeSearch.Proofs.Service.Messages
import RecipeSearch.Proofs.Catalogue.Meals
import RecipeSearch.Proofs.Settings.Loading
import RecipeSearch.Proofs.Startup
import RecipeSearch.Proofs.Catalogue.Retries
import RecipeSearch.Proofs.Query.Negations
import RecipeSearch.Proofs.Query.Verbatim
import RecipeSearch.Proofs.Query.SearchTerms
import RecipeSearch.Proofs.Recipe.Normal
import RecipeSearch.Proofs.Query.Rejoining
import RecipeSearch.Proofs.Service.Lookups
import RecipeSearch.Proofs.Catalogue.Sending
