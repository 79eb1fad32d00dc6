import RecipeSearch.Proofs.Service.Messages
import RecipeSearch.Proofs.Text.Joining
import RecipeSearch.Proofs.Text.Percent
import RecipeSearch.Web.Server

/-!
# Requests for a query

A request asks for the verdict on a query (`AsksVerdict`) or for a search (`AsksSearch`) if this is what is read from
it. Every query can be asked for: in an address as the value of a form field (`asksVerdict_verdictRequest`), and in a
body as the string that it is, as long as the body is not too long to be read (`asksSearch_searchRequest`). The address
that asks for a query is at least half as long as the body (`size_searchRequest_le`). As addresses have a limit, every
query that an address asks for fits a body, however the address spells it (`AsksVerdict.size_searchRequest_le`).
-/

namespace RecipeSearch.Web

open Service (SearchRequest)

/-! ## Targets -/

/-- A path and a query that are joined by a question mark are found again. -/
theorem parse_ofList {path query : List Char} (hslash : path.head? = some '/') (hhash : '#' ∉ path) (hmark : '?' ∉ path)
    (hquery : '#' ∉ query) :
    Target.parse (String.ofList (path ++ '?' :: query)) = ⟨path, query⟩ := by
  have hall : ∀ c ∈ path ++ '?' :: query, decide (c ≠ '#') = true := by
    intro c hc
    rw [decide_eq_true_eq]
    rintro rfl
    rcases List.mem_append.1 hc with hc | hc
    · exact hhash hc
    · simp [hquery] at hc
  have hfront : ∀ c ∈ path, decide (c ≠ '?') = true := by
    intro c hc
    exact decide_eq_true fun heq => hmark (heq ▸ hc)
  have htext : (path ++ '?' :: query).takeWhile (· ≠ '#') = path ++ '?' :: query :=
    List.takeWhile_eq_self_iff.2 hall
  have hbefore : (path ++ '?' :: query).takeWhile (· ≠ '?') = path := by
    rw [List.takeWhile_append_of_pos hfront]
    simp
  have hafter : (path ++ '?' :: query).dropWhile (· ≠ '?') = '?' :: query := by
    rw [List.dropWhile_append_of_pos hfront]
    simp
  simp only [Target.parse, String.toList_ofList, htext, hbefore, hafter, hslash, if_true, List.drop_one, List.tail_cons]

namespace Request

/-- The route that a request leads to. -/
def route? (r : Request) : Option Route :=
  Route.ofPath? (Target.parse r.uri).path

/-- The request asks for the verdict on a query. -/
structure AsksVerdict (r : Request) (query : String) : Prop where
  method : r.method = "GET"
  route : r.route? = some .validate
  values : (Target.parse r.uri).values "query" = [query]

/-- The request asks for a search. -/
structure AsksSearch (r : Request) (query : String) : Prop where
  method : r.method = "POST"
  route : r.route? = some .search
  read : readSearchRequest r = .ok (some query)

end Request

/-! ## Asking for a verdict -/

/-- A request for the verdict on a query. -/
def verdictRequest (query : String) : Request where
  method := "GET"
  uri := String.ofList ("/api/recipe/validate".toList ++ '?' :: ("query".toList ++ '=' :: Text.formEncode query.toList))
  headers := []
  body := ""

theorem parse_uri_verdictRequest (query : String) :
    Target.parse (verdictRequest query).uri =
      ⟨"/api/recipe/validate".toList, "query".toList ++ '=' :: Text.formEncode query.toList⟩ := by
  have hvalue := Text.not_mem_formEncode (d := '#') rfl (by decide) (by decide) query.toList
  have hquery : '#' ∉ "query".toList ++ '=' :: Text.formEncode query.toList := by
    simp [hvalue]
  exact parse_ofList rfl (by decide) (by decide) hquery

/-- **The verdict on every query can be asked for.** -/
theorem asksVerdict_verdictRequest (query : String) : (verdictRequest query).AsksVerdict query where
  method := rfl
  route := by
    have hpath : Route.ofPath? "/api/recipe/validate".toList = some .validate := by decide
    rw [Request.route?, parse_uri_verdictRequest, hpath]
  values := by
    have hfields := Text.formFields_formEncode "query".toList query.toList
    rw [show Text.formEncode "query".toList = "query".toList by decide] at hfields
    rw [parse_uri_verdictRequest, Target.values, hfields]
    simp

example : (verdictRequest "rice & (beans)").uri = "/api/recipe/validate?query=rice+%26+%28beans%29" := by decide

/-! ## Asking for a search -/

/-- A request to search for a query. -/
def searchRequest (query : String) : Request where
  method := "POST"
  uri := "/api/recipe/search"
  headers := [("content-type", "application/json")]
  body := Json.render (SearchRequest.toJson ⟨some query⟩)

/-- A request to search is read as it was written. -/
theorem readStart_render_toJson (r : SearchRequest) :
    Json.readStart SearchRequest.reader (Json.render r.toJson).toList = .ok r := by
  rw [Json.readStart_render]
  exact r.reads

/-- What is read from a body that is sent as JSON and not too long. -/
theorem readSearchRequest_of_json {r : Request} {value : String} {t : MediaType} {request : SearchRequest}
    (hheader : r.header? "content-type" = some value) (htype : MediaType.parse? value.toList = some t)
    (hjson : t.isJson = true) (hsize : r.body.utf8ByteSize ≤ bodyLimit)
    (hread : Json.readStart SearchRequest.reader r.body.toList = .ok request) :
    readSearchRequest r = .ok request.query := by
  simp [readSearchRequest, hheader, htype, hjson, Nat.not_lt.2 hsize, hread]

/-- **Every query can be searched for**, if what is sent is not too long. -/
theorem asksSearch_searchRequest {query : String} (h : (searchRequest query).body.utf8ByteSize ≤ bodyLimit) :
    (searchRequest query).AsksSearch query where
  method := rfl
  route := by
    have hpath : Route.ofPath? (Target.parse "/api/recipe/search").path = some .search := by decide
    exact hpath
  read := by
    have htype : MediaType.parse? "application/json".toList =
        some ⟨"application".toList, "json".toList, none⟩ := by decide
    have hname : ("content-type".toList.map Char.toLower == "content-type".toList) = true := by decide
    have hheader : (searchRequest query).header? "content-type" = some "application/json" := by
      simp only [Request.header?, searchRequest, List.find?_cons, hname, Option.map_some]
    exact readSearchRequest_of_json hheader htype (by decide) h (readStart_render_toJson ⟨some query⟩)

/-! ## Lengths of both requests -/

section Lengths

open Text
open Json (escapeChar)

/-- A character that an address holds as it is, or a space as `+`, stands in a body as it is. -/
theorem escapeChar_of_plain {c : Char} (h : c = ' ' ∨ isFormPlain c = true) : escapeChar c = [c] := by
  rcases h with rfl | h
  · rfl
  have hcontrol : ∀ n < 32, isFormPlain (Char.ofNat n) = false := by decide
  have hle : 32 ≤ c.toNat := by
    by_contra hlt
    have hnot := hcontrol c.toNat (Nat.lt_of_not_le hlt)
    rw [Char.ofNat_toNat, h] at hnot
    cases hnot
  refine Json.escapeChar_eq_self hle ?_ ?_
  · rintro rfl
    cases h
  · rintro rfl
    cases h

/-- An escape has at most six bytes, where an address spells each byte by three characters. -/
theorem length_escapeChar_le (c : Char) : (utf8 (escapeChar c)).length ≤ 2 * (utf8 (formEncode [c])).length := by
  by_cases hplain : c = ' ' ∨ isFormPlain c = true
  · have hsame : (utf8 [c]).length ≤ (utf8 (formEncode [c])).length := by
      rcases hplain with rfl | hplain
      · decide
      · have hform : formEncode [c] = if c = ' ' then ['+'] else [c] := by
          simp [formEncode, percentEncode, hplain]
        rw [hform]
        split
        · next hc => rw [hc]; decide
        · exact Nat.le_refl _
    rw [escapeChar_of_plain hplain]
    omega
  · rw [not_or, Bool.not_eq_true] at hplain
    have hform : formEncode [c] = percentEncode isFormPlain [c] := by
      rw [formEncode, List.flatMap_singleton, if_neg hplain.1]
    have hlength := length_le_length_utf8 (formEncode [c])
    rw [hform, length_percentEncode hplain.2] at hlength
    have hpos : 0 < (String.utf8EncodeChar c).length := List.length_pos_iff.2 String.utf8EncodeChar_ne_nil
    rw [hform]
    rcases Json.escapeChar_eq_self_or c with hself | hshort
    · have hsize : (utf8 [c]).length = (String.utf8EncodeChar c).length := by rw [utf8, List.flatMap_singleton]
      rw [hself, hsize]
      omega
    · omega

theorem length_escape_le (cs : List Char) :
    (utf8 (cs.flatMap escapeChar)).length ≤ 2 * (utf8 (formEncode cs)).length := by
  induction cs with
  | nil => exact Nat.zero_le _
  | cons c cs ih =>
    have hc := length_escapeChar_le c
    rw [List.flatMap_cons, length_utf8_append, formEncode_cons, length_utf8_append]
    omega

theorem body_searchRequest (query : String) :
    (searchRequest query).body =
      String.ofList (['\x7b', '"', 'q', 'u', 'e', 'r', 'y', '"', ':', '"'] ++
        (query.toList.flatMap escapeChar ++ ['"', '\x7d'])) := by
  simp [searchRequest, Json.render, SearchRequest.toJson, Json.orNull, Json.tokens, Json.tokensOfMembers,
    Json.Token.text, escapeChar]

/-- The body of a request to search is twelve bytes and the query with its escapes. -/
theorem size_body_searchRequest (query : String) :
    (searchRequest query).body.utf8ByteSize = 12 + (utf8 (query.toList.flatMap escapeChar)).length := by
  have hopen : (utf8 ['\x7b', '"', 'q', 'u', 'e', 'r', 'y', '"', ':', '"']).length = 10 := by decide
  have hclose : (utf8 ['"', '\x7d']).length = 2 := by decide
  rw [body_searchRequest, utf8ByteSize_ofList, length_utf8_append, length_utf8_append, hopen, hclose]
  omega

/-- **A query that can be asked for in an address can be searched for**, as the address is at least half as long as the
body would be. -/
theorem size_searchRequest_le (query : String) :
    (searchRequest query).body.utf8ByteSize ≤ 2 * (verdictRequest query).uri.utf8ByteSize := by
  have hescape := length_escape_le query.toList
  have huri : (verdictRequest query).uri =
      String.ofList ("/api/recipe/validate?query=".toList ++ formEncode query.toList) := rfl
  have hpath : (utf8 "/api/recipe/validate?query=".toList).length = 27 := by decide
  rw [size_body_searchRequest, huri, utf8ByteSize_ofList, length_utf8_append, hpath]
  omega

/-! ### Any address that asks for a verdict -/

theorem length_escapeChar_le_six (c : Char) : (utf8 (escapeChar c)).length ≤ 6 := by
  rcases Json.escapeChar_eq_self_or c with hself | hshort
  · have hsize : (utf8 [c]).length = c.utf8Size := by
      rw [utf8, List.flatMap_singleton, String.length_utf8EncodeChar]
    have hle : c.utf8Size ≤ 4 := c.utf8Size_le_four
    rw [hself, hsize]
    omega
  · exact hshort

theorem length_escape_le_six_mul (cs : List Char) : (utf8 (cs.flatMap escapeChar)).length ≤ 6 * cs.length := by
  induction cs with
  | nil => exact Nat.le_refl 0
  | cons c cs ih =>
    have hc := length_escapeChar_le_six c
    rw [List.flatMap_cons, length_utf8_append, List.length_cons]
    omega

/-- What is read from an address is part of it. -/
theorem query_parse_sublist (uri : String) : (Target.parse uri).query.Sublist uri.toList := by
  have hquery : (Target.parse uri).query =
      (((uri.toList.takeWhile (· ≠ '#')).dropWhile (· ≠ '?')).drop 1) := by
    simp only [Target.parse]
    split
    · rfl
    · split <;> rfl
  rw [hquery]
  exact (List.drop_sublist _ _).trans ((List.dropWhile_sublist _).trans (List.takeWhile_sublist _))

/-- A value in a query has no more characters than the query has bytes. -/
theorem length_le_of_mem_values {t : Target} {name value : String} (h : value ∈ t.values name) :
    value.toList.length ≤ (utf8 t.query).length := by
  obtain ⟨field, hfield, rfl⟩ := List.mem_map.1 h
  obtain ⟨cs, hcs, rfl⟩ := List.mem_map.1 (List.mem_filter.1 hfield).1
  have hpart : ((cs.dropWhile (· ≠ '=')).drop 1).Sublist t.query :=
    ((List.drop_sublist _ _).trans (List.dropWhile_sublist _)).trans (mem_runs hcs).2.2.sublist
  rw [String.toList_ofList]
  exact (length_formDecode_le _).trans (length_utf8_le_of_sublist hpart)

/-- **Every query that an address within the limit asks for can be searched for**, however the address spells it: it has
no more characters than the address has bytes, and none of them takes more than six bytes in a body. -/
theorem Request.AsksVerdict.size_searchRequest_le {r : Request} {query : String} (h : r.AsksVerdict query)
    (hsize : r.uri.utf8ByteSize ≤ addressLimit) : (searchRequest query).body.utf8ByteSize ≤ bodyLimit := by
  have hvalue : query ∈ (Target.parse r.uri).values "query" := by
    rw [h.values]
    exact List.mem_singleton_self query
  have huri : (utf8 r.uri.toList).length = r.uri.utf8ByteSize := by
    rw [← utf8ByteSize_ofList, String.ofList_toList]
  have hlength : query.toList.length ≤ addressLimit :=
    calc query.toList.length ≤ (utf8 (Target.parse r.uri).query).length := length_le_of_mem_values hvalue
      _ ≤ (utf8 r.uri.toList).length := length_utf8_le_of_sublist (query_parse_sublist r.uri)
      _ ≤ addressLimit := huri.trans_le hsize
  have hescape := length_escape_le_six_mul query.toList
  have hlimits : 12 + 6 * addressLimit ≤ bodyLimit := by decide
  rw [size_body_searchRequest]
  omega

end Lengths

end RecipeSearch.Web
