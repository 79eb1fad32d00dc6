import RecipeSearch.Proofs.Service.Response
import RecipeSearch.Proofs.Web.Requests

/-!
# What the verdict promises, the search keeps

A query can be sent for a verdict and for a search. Both look at it in their own way: the one shows the verdict, the
other looks the query up if its own verdict accepts it. **The two answers agree on every query** (`respond_agree`),
whatever the catalogue answers: both refuse a blank query, and otherwise the search is answered if and only if the
verdict accepts, with the same breakdown, and refused for the reason that the verdict gives. A request to search never
fails for another fault than the sender's (`answeredOrRefused_search`), and then nothing has been looked up.
-/

namespace RecipeSearch.Web

open Query (decompose)
open Service (SearchResponse ValidationResponse ErrorResponse)

/-- The answers to a request for a verdict on a query that is not blank and to a request to search for it, where `v` is
the verdict. -/
structure Kept (v : ValidationResponse) (verdict found : Response) : Prop where
  verdict_status : verdict.status = 200
  verdict_body : verdict.body = .json v.toJson
  /-- The verdict has a reason or a breakdown, and not both. -/
  exactly_one : v.errorMessage.isSome = !v.parseTree.isSome
  found_status_iff : found.status = 200 ↔ v.isValid = true
  refused_status_iff : found.status = 400 ↔ v.isValid = false
  found_body : v.isValid = true →
    ∃ response : SearchResponse, found.body = .json response.toJson ∧ response.parseTree = v.parseTree
  refused_body : v.isValid = false →
    found.body = .json (ErrorResponse.toJson ⟨"Invalid query syntax", v.errorMessage⟩)

/-- The answers to a request for the verdict on a query and to a request to search for it agree. -/
structure Agree (query : String) (verdict found : Response) : Prop where
  of_blank : Text.isBlankString query = true → verdict.status = 400 ∧ found.status = 400
  of_not_blank : Text.isBlankString query = false → Kept (Service.validate query) verdict found

/-- A search was answered, or refused as the sender's fault, and then nothing has been looked up. -/
structure AnsweredOrRefused (found : Traced Response) : Prop where
  status : found.value.status = 200 ∨ found.value.status = 400
  calls : found.value.status = 400 → found.calls = []

theorem AnsweredOrRefused.answered {found : Traced Response} (h : found.value.status = 200) :
    AnsweredOrRefused found where
  status := .inl h
  calls hrefused := by
    rw [h] at hrefused
    cases hrefused

theorem AnsweredOrRefused.refused {response : Response} (h : response.status = 400) :
    AnsweredOrRefused ⟨response, []⟩ where
  status := .inr h
  calls _ := rfl

/-! ## What the two routes answer -/

section Answers

variable {catalogue : Catalogue} {limits : Limits} {query normalized : String} {asked : Option String}

theorem presentQuery_of_blank (h : Text.isBlankString query = true) : presentQuery (some query) = none := by
  simp [presentQuery, h]

theorem presentQuery_of_not_blank (h : Text.isBlankString query = false) : presentQuery (some query) = some query := by
  simp [presentQuery, h]

theorem validate_of_blank {target : Target} (h : target.values "query" = [query])
    (hblank : Text.isBlankString query = true) :
    validate target = .error 400 "Query parameter is required" none := by
  simp only [validate, h, presentQuery_of_blank hblank]

theorem validate_of_not_blank {target : Target} (h : target.values "query" = [query])
    (hblank : Text.isBlankString query = false) : validate target = .json 200 (Service.validate query).toJson := by
  simp only [validate, h, presentQuery_of_not_blank hblank]

theorem search_of_absent (hnone : presentQuery asked = none) :
    search catalogue limits (.ok asked) = ⟨.error 400 "Query is required" none, []⟩ := by
  simp only [search, hnone]

theorem search_of_refused {refusal : Query.Refusal} (hsome : presentQuery asked = some query)
    (hrefused : Query.validate query = .error refusal) :
    search catalogue limits (.ok asked) = ⟨.error 400 "Invalid query syntax" (some refusal.message), []⟩ := by
  simp only [search, hsome, Service.search_of_refused hrefused]

/-- A query that is accepted is answered, whatever the catalogue does. -/
theorem search_of_accepted (catalogue : Catalogue) (limits : Limits) (hsome : presentQuery asked = some query)
    (haccepted : Query.validate query = .ok normalized) :
    ∃ response : SearchResponse, (search catalogue limits (.ok asked)).value = .json 200 response.toJson ∧
      response.parseTree = decompose normalized := by
  obtain ⟨outcome, elapsed, hfound⟩ := Service.search_never_of_accepted catalogue limits haccepted
  refine ⟨Service.response query normalized outcome elapsed, ?_, rfl⟩
  simp only [search, hsome, hfound]

/-- **A search is answered, or it is the sender's fault that it is not** and nothing has been looked up, whatever was
read from the body. -/
theorem answeredOrRefused_search (catalogue : Catalogue) (limits : Limits) (asked : Except String (Option String)) :
    AnsweredOrRefused (search catalogue limits asked) := by
  cases asked with
  | error details => exact .refused rfl
  | ok asked =>
    cases hsome : presentQuery asked with
    | none =>
      rw [search_of_absent hsome]
      exact .refused rfl
    | some query =>
      cases hvalid : Query.validate query with
      | error refusal =>
        rw [search_of_refused hsome hvalid]
        exact .refused rfl
      | ok normalized =>
        obtain ⟨response, hvalue, -⟩ := search_of_accepted catalogue limits hsome hvalid
        refine .answered ?_
        rw [hvalue]
        rfl

/-- On a query that is not blank the search keeps what the verdict promises. -/
theorem kept_search {target : Target} (hvalues : target.values "query" = [query])
    (hblank : Text.isBlankString query = false) :
    Kept (Service.validate query) (validate target) (search catalogue limits (.ok (some query))).value := by
  have hverdict := validate_of_not_blank hvalues hblank
  have hsome := presentQuery_of_not_blank hblank
  have hstatus : (200 : Nat) ≠ 400 := by decide
  cases hvalid : Query.validate query with
  | error refusal =>
    have hv : Service.validate query = ⟨query, false, some refusal.message, none⟩ := by
      rw [Service.validate, hvalid]
    have hfound : search catalogue limits (.ok (some query)) =
        ⟨.error 400 "Invalid query syntax" (some refusal.message), []⟩ := search_of_refused hsome hvalid
    rw [hverdict, hfound, hv]
    exact {
      verdict_status := rfl
      verdict_body := rfl
      exactly_one := rfl
      found_status_iff := iff_of_false hstatus.symm Bool.false_ne_true
      refused_status_iff := iff_of_true rfl rfl
      found_body := fun h => absurd h Bool.false_ne_true
      refused_body := fun _ => rfl }
  | ok normalized =>
    obtain ⟨response, hfound, htree⟩ := search_of_accepted catalogue limits hsome hvalid
    obtain ⟨b, hb, -⟩ := Service.exists_decompose hvalid
    have hv : Service.validate query = ⟨query, true, none, some b⟩ := by
      rw [Service.validate, hvalid, ← hb]
    rw [hverdict, hfound, hv]
    exact {
      verdict_status := rfl
      verdict_body := rfl
      exactly_one := rfl
      found_status_iff := iff_of_true rfl rfl
      refused_status_iff := iff_of_false hstatus Bool.false_ne_true.symm
      found_body := fun _ => ⟨response, rfl, htree.trans hb⟩
      refused_body := fun h => absurd h.symm Bool.false_ne_true }

/-- The two routes agree on the query that both are asked for. -/
theorem agree_routes {target : Target} (hvalues : target.values "query" = [query]) :
    Agree query (validate target) (search catalogue limits (.ok (some query))).value where
  of_blank hblank := by
    rw [validate_of_blank hvalues hblank, search_of_absent (presentQuery_of_blank hblank)]
    exact ⟨rfl, rfl⟩
  of_not_blank hblank := kept_search hvalues hblank

end Answers

/-! ## What the server answers -/

section Server

variable {r : Request} {route : Route} {query : String}

/-- A request to a route by its own method gets the answer on that route, with headers for the page that asks. -/
theorem respondTo_of_route (s : Server) (asked : Except String (Option String)) (hroute : r.route? = some route)
    (hmethod : r.method = route.method) :
    s.respondTo r asked =
      let answered := answer s.catalogue s.limits (Target.parse r.uri) asked route
      ⟨{ answered.value with headers := answered.value.headers ++ s.originHeaders r }, answered.calls⟩ := by
  have hoptions : r.method ≠ "OPTIONS" := by
    rw [hmethod]
    cases route <;> simp [Route.method]
  have honRoute : s.onRoute r (Target.parse r.uri) asked route =
      answer s.catalogue s.limits (Target.parse r.uri) asked route := by
    rw [Server.onRoute, if_pos hmethod]
  rw [Request.route?] at hroute
  simp only [Server.respondTo, if_neg hoptions, hroute, honRoute]

/-- Headers have no part in the agreement. -/
theorem Agree.with_headers {verdict found : Response} (h : Agree query verdict found)
    (verdictHeaders foundHeaders : List (String × String)) :
    Agree query { verdict with headers := verdictHeaders } { found with headers := foundHeaders } where
  of_blank := h.of_blank
  of_not_blank hblank := { h.of_not_blank hblank with }

/-- **The server's answers to a request for a verdict and to a request to search agree** on the query of both, whatever
the catalogue does, how much may be found and which pages may ask. Every query can be asked for in both ways, a search
as long as its body is not too long to be read, which takes an address of half that length at least: a query that any
request within the limit of addresses asks a verdict on can be searched for. Any request to search, whatever its headers
are and whatever is read from its body, is answered or refused as the sender's fault; one that is refused has looked
nothing up. -/
theorem respond_agree (s : Server) (query : String) :
    (∀ asking seeking : Request, asking.AsksVerdict query → seeking.AsksSearch query →
        Agree query (s.respond asking).value (s.respond seeking).value) ∧
      (verdictRequest query).AsksVerdict query ∧
      ((searchRequest query).body.utf8ByteSize ≤ bodyLimit → (searchRequest query).AsksSearch query) ∧
      (searchRequest query).body.utf8ByteSize ≤ 2 * (verdictRequest query).uri.utf8ByteSize ∧
      (∀ asking : Request, asking.AsksVerdict query → asking.uri.utf8ByteSize ≤ addressLimit →
        (searchRequest query).AsksSearch query) ∧
      ∀ r : Request, r.method = "POST" → r.route? = some .search →
        AnsweredOrRefused (s.respond r) ∧ ∀ asked, AnsweredOrRefused (s.respondTo r asked) := by
  have hsearch (r : Request) (hmethod : r.method = "POST") (hroute : r.route? = some .search)
      (asked : Except String (Option String)) : AnsweredOrRefused (s.respondTo r asked) := by
    rw [respondTo_of_route s asked hroute hmethod]
    exact ⟨(answeredOrRefused_search s.catalogue s.limits asked).status,
      (answeredOrRefused_search s.catalogue s.limits asked).calls⟩
  refine ⟨?_, asksVerdict_verdictRequest query, asksSearch_searchRequest, size_searchRequest_le query, ?_, ?_⟩
  · intro asking seeking hasking hseeking
    have hagree : Agree query (validate (Target.parse asking.uri))
        (search s.catalogue s.limits (.ok (some query))).value := agree_routes hasking.values
    rw [Server.respond, Server.respond, respondTo_of_route s _ hasking.route hasking.method,
      respondTo_of_route s _ hseeking.route hseeking.method, hseeking.read]
    exact hagree.with_headers _ _
  · intro asking hasking hsize
    exact asksSearch_searchRequest (hasking.size_searchRequest_le hsize)
  · intro r hmethod hroute
    exact ⟨hsearch r hmethod hroute _, hsearch r hmethod hroute⟩

/-- Every look-up fails, and the search is answered as the verdict promises. -/
theorem respond_agree_lookups_fail :
    let s : Server :=
      ⟨⟨[], List.not_mem_nil⟩,
        ⟨fun _ term => ⟨0, .error (.status term 503)⟩, .ok [], .ok [], .ok [], fun _ => .ok none⟩, .standard⟩
    let query := "beans AND (rice OR eggs)"
    (searchRequest query).body.utf8ByteSize ≤ bodyLimit ∧
      Agree query (s.respond (verdictRequest query)).value (s.respond (searchRequest query)).value ∧
      (s.respond (searchRequest query)).value.status = 200 := by
  intro s query
  have hsize : (searchRequest query).body.utf8ByteSize ≤ bodyLimit := by decide +kernel
  obtain ⟨hagree, hasking, hseeking, -⟩ := respond_agree s query
  have hboth := hagree _ _ hasking (hseeking hsize)
  have hkept := hboth.of_not_blank (by decide +kernel)
  exact ⟨hsize, hboth, hkept.found_status_iff.2 (by decide +kernel)⟩

end Server

end RecipeSearch.Web
