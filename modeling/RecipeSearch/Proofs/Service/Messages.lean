import RecipeSearch.Proofs.Json.Record
import RecipeSearch.Service.Messages

/-!
# Messages are read as they were written

What the service sends and is sent, and the records in it, are read back from their texts (`ReadsBack`): a value is the
one that is read from the text that is written for it, whatever its strings hold, and however many results it counts as
long as the number fits 64 bits. A record is written one field after the other (`Json.Filled`), so that this comes down
to its fields: strings, truth values, numbers, lists of records, and what may be missing, be it written as `null` or
left out. **All eight kinds of messages and records are read back** (`readsBack_messages`).
-/

namespace RecipeSearch

open Json (Reads Filled Reader outline check_required check_nullable check_defaulted reads_strings reads_list
  reads_orNull reads_nat reads_string)

/-! ## Recipes and what they are looked up by -/

theorem Recipe.reads (r : Recipe) : Reads reader toJson r := by
  have hingredients := reads_strings r.ingredients
  have htags := reads_strings r.tags
  have hfilled : Filled fields
      [("id", .string r.id), ("name", .string r.name), ("thumbnailUrl", .string r.thumbnailUrl),
        ("category", .string r.category), ("area", .string r.area), ("instructions", .string r.instructions),
        ("ingredients", .strings r.ingredients), ("tags", .strings r.tags)] :=
    .given rfl <| .given rfl <| .given rfl <| .given rfl <| .given rfl <| .given rfl <|
      .given (check_required _ hingredients) <| .given (check_required _ htags) .nil
  rw [Reads, toJson, reader, hfilled.record (by decide), ok_bind]
  change (do return { r with
    ingredients := ← Reader.list .string (outline (.strings r.ingredients))
    tags := ← Reader.list .string (outline (.strings r.tags)) }) = Except.ok r
  rw [hingredients.eq, htags.eq]
  rfl

theorem Facet.reads (f : Facet) : Reads reader toJson f := by
  cases f <;> rfl

theorem Dropdown.reads (d : Dropdown) : Reads reader toJson d := by
  have hcategories := reads_strings d.categories
  have hareas := reads_strings d.areas
  have hingredients := reads_strings d.ingredients
  have hfilled : Filled fields
      [("categories", .strings d.categories), ("areas", .strings d.areas), ("ingredients", .strings d.ingredients)] :=
    .given (check_required _ hcategories) <| .given (check_required _ hareas) <|
      .given (check_required _ hingredients) .nil
  rw [Reads, toJson, reader, hfilled.record (by decide), ok_bind]
  change (do return {
    categories := ← Reader.list .string (outline (.strings d.categories))
    areas := ← Reader.list .string (outline (.strings d.areas))
    ingredients := ← Reader.list .string (outline (.strings d.ingredients)) }) = Except.ok d
  rw [hcategories.eq, hareas.eq, hingredients.eq]
  rfl

theorem Query.Breakdown.reads (b : Breakdown) : Reads reader toJson b := by
  have hterms := reads_strings b.terms
  have hoperators := reads_strings b.operators
  have hfilled : Filled fields
      [("type", .string b.kind), ("query", .string b.query), ("terms", .strings b.terms),
        ("operators", .strings b.operators), ("hasParentheses", .bool b.hasParentheses), ("hasNot", .bool b.hasNot)] :=
    .given rfl <| .given rfl <| .given (check_required _ hterms) <| .given (check_required _ hoperators) <|
      .given rfl <| .given rfl .nil
  rw [Reads, toJson, reader, hfilled.record (by decide), ok_bind]
  change (do return { b with
    terms := ← Reader.list .string (outline (.strings b.terms))
    operators := ← Reader.list .string (outline (.strings b.operators)) }) = Except.ok b
  rw [hterms.eq, hoperators.eq]
  rfl

namespace Service

/-! ## Requests and answers -/

theorem reads_text (s : Option String) : Reads (Reader.orNull .string) (Json.orNull .string) s :=
  reads_orNull (fun s _ => reads_string s) nofun

theorem reads_parseTree (b : Option Query.Breakdown) :
    Reads (Reader.orNull Query.Breakdown.reader) (Json.orNull Query.Breakdown.toJson) b :=
  reads_orNull (fun b _ => b.reads) nofun

theorem reads_results (rs : List Recipe) :
    Reads (Reader.list Recipe.reader) (fun rs => .array (rs.map Recipe.toJson)) rs :=
  reads_list fun r _ => r.reads

theorem SearchRequest.reads (r : SearchRequest) : Reads reader toJson r := by
  have hquery := reads_text r.query
  have hfilled : Filled fields [("query", .orNull .string r.query)] := .given (check_defaulted _ hquery) .nil
  rw [Reads, toJson, reader, hfilled.record (by decide), ok_bind]
  change (do return { query := ← Reader.orNull .string (outline (.orNull .string r.query)) }) = Except.ok r
  rw [hquery.eq]
  rfl

/-- The mark of a cancelled search is read, and if there is none the search was not cancelled. -/
theorem filled_mark (cancelled : Bool) :
    Filled [.defaulted "cancelled" .bool] (if cancelled then [("cancelled", .bool true)] else []) ∧
      (Json.found (if cancelled then [("cancelled", .bool true)] else [])).getD "cancelled" .bool false =
        .ok cancelled := by
  cases cancelled with
  | true => exact ⟨.given rfl .nil, rfl⟩
  | false => exact ⟨.leftOut rfl .nil, rfl⟩

/-- An answer is read if the number of its results fits 64 bits. -/
theorem SearchResponse.reads {r : SearchResponse} (h : r.resultCount < Numeral.wordBound) : Reads reader toJson r := by
  have hresults := reads_results r.results
  have htree := reads_parseTree r.parseTree
  have hcount := reads_nat h
  obtain ⟨hmark, hcancelled⟩ := filled_mark r.cancelled
  have hfilled : Filled fields
      ([("query", .string r.query), ("results", .array (r.results.map Recipe.toJson)),
        ("parseTree", .orNull Query.Breakdown.toJson r.parseTree), ("executionTime", .string r.executionTime),
        ("resultCount", .nat r.resultCount), ("generatedSql", .string r.generatedSql)] ++
          if r.cancelled then [("cancelled", .bool true)] else []) :=
    .given rfl <| .given (check_required _ hresults) <| .given (check_nullable _ htree) <| .given rfl <|
      .given (check_required _ hcount) <| .given rfl hmark
  rw [Reads, toJson, reader, hfilled.record (by decide), ok_bind]
  change (do return { r with
    results := ← Reader.list Recipe.reader (outline (.array (r.results.map Recipe.toJson)))
    parseTree := ← Reader.orNull Query.Breakdown.reader (outline (.orNull Query.Breakdown.toJson r.parseTree))
    resultCount := ← Reader.nat (outline (.nat r.resultCount))
    cancelled := ← Json.Found.getD (Json.found (if r.cancelled then [("cancelled", .bool true)] else []))
      "cancelled" .bool false }) = Except.ok r
  rw [hresults.eq, htree.eq, hcount.eq, hcancelled]
  rfl

/-- An answer that is read counts no more results than fit 64 bits. -/
theorem SearchResponse.resultCount_lt {o : Json.Outline} {r : SearchResponse} (h : reader o = .ok r) :
    r.resultCount < Numeral.wordBound := by
  obtain ⟨found, -, h⟩ := eq_ok_of_bind h
  obtain ⟨query, -, h⟩ := eq_ok_of_bind h
  obtain ⟨results, -, h⟩ := eq_ok_of_bind h
  obtain ⟨parseTree, -, h⟩ := eq_ok_of_bind h
  obtain ⟨executionTime, -, h⟩ := eq_ok_of_bind h
  obtain ⟨resultCount, hcount, h⟩ := eq_ok_of_bind h
  obtain ⟨generatedSql, -, h⟩ := eq_ok_of_bind h
  obtain ⟨cancelled, -, h⟩ := eq_ok_of_bind h
  cases h
  exact Json.get_nat_lt hcount

theorem ValidationResponse.reads (r : ValidationResponse) : Reads reader toJson r := by
  have hmessage := reads_text r.errorMessage
  have htree := reads_parseTree r.parseTree
  have hfilled : Filled fields
      [("query", .string r.query), ("isValid", .bool r.isValid), ("errorMessage", .orNull .string r.errorMessage),
        ("parseTree", .orNull Query.Breakdown.toJson r.parseTree)] :=
    .given rfl <| .given rfl <| .given (check_nullable _ hmessage) <| .given (check_nullable _ htree) .nil
  rw [Reads, toJson, reader, hfilled.record (by decide), ok_bind]
  change (do return { r with
    errorMessage := ← Reader.orNull .string (outline (.orNull .string r.errorMessage))
    parseTree := ← Reader.orNull Query.Breakdown.reader (outline (.orNull Query.Breakdown.toJson r.parseTree)) }) =
      Except.ok r
  rw [hmessage.eq, htree.eq]
  rfl

/-- An error is read, whether its details are written or left out. -/
theorem ErrorResponse.reads (r : ErrorResponse) : Reads reader toJson r := by
  obtain ⟨error, _ | details⟩ := r
  · have hfilled : Filled fields [("error", .string error)] := .given rfl <| .leftOut rfl .nil
    rw [Reads, toJson, reader, hfilled.record (by decide)]
    rfl
  · have hfilled : Filled fields [("error", .string error), ("details", .string details)] :=
      .given rfl <| .given rfl .nil
    rw [Reads, toJson, reader, hfilled.record (by decide)]
    rfl

/-! ## Texts -/

/-- Values are read back from the texts that are written for them: those that `fits` says, and among them all that are
ever read from a text. -/
structure ReadsBack {α : Type} (toJson : α → Json) (reader : Reader α) (fits : α → Prop) : Prop where
  of_fits : ∀ a, fits a → Json.read reader (Json.render (toJson a)).toList = .ok a
  of_read : ∀ text a, Json.read reader text = .ok a → Json.read reader (Json.render (toJson a)).toList = .ok a

theorem readsBack_of_reads {α : Type} {toJson : α → Json} {reader : Reader α} {fits : α → Prop}
    (hreads : ∀ a, fits a → Reads reader toJson a) (hfits : ∀ o a, reader o = .ok a → fits a) :
    ReadsBack toJson reader fits := by
  have hback (a : α) (h : fits a) : Json.read reader (Json.render (toJson a)).toList = .ok a := by
    rw [Json.read_render, (hreads a h).eq]
  refine ⟨hback, fun text a h => hback a ?_⟩
  obtain ⟨o, ho⟩ := Json.exists_of_read h
  exact hfits o a ho

/-- **All messages, and the records in them, are read back** from the texts that are written for them, answers with as
many results as 64 bits can count. -/
theorem readsBack_messages :
    ReadsBack Recipe.toJson Recipe.reader (fun _ => True) ∧
      ReadsBack Dropdown.toJson Dropdown.reader (fun _ => True) ∧
      ReadsBack Facet.toJson Facet.reader (fun _ => True) ∧
      ReadsBack Query.Breakdown.toJson Query.Breakdown.reader (fun _ => True) ∧
      ReadsBack SearchRequest.toJson SearchRequest.reader (fun _ => True) ∧
      ReadsBack SearchResponse.toJson SearchResponse.reader (fun r => r.resultCount < Nat.pow 2 64) ∧
      ReadsBack ValidationResponse.toJson ValidationResponse.reader (fun _ => True) ∧
      ReadsBack ErrorResponse.toJson ErrorResponse.reader (fun _ => True) := by
  have hbound : Numeral.wordBound = Nat.pow 2 64 := rfl
  exact ⟨readsBack_of_reads (fun r _ => r.reads) fun _ _ _ => trivial,
    readsBack_of_reads (fun d _ => d.reads) fun _ _ _ => trivial,
    readsBack_of_reads (fun f _ => f.reads) fun _ _ _ => trivial,
    readsBack_of_reads (fun b _ => b.reads) fun _ _ _ => trivial,
    readsBack_of_reads (fun r _ => r.reads) fun _ _ _ => trivial,
    readsBack_of_reads (fun r h => SearchResponse.reads (hbound ▸ h)) fun _ _ h =>
      hbound ▸ SearchResponse.resultCount_lt h,
    readsBack_of_reads (fun r _ => r.reads) fun _ _ _ => trivial,
    readsBack_of_reads (fun r _ => r.reads) fun _ _ _ => trivial⟩

/-- The largest count, strings with controls and quotes, and what is left out or `null`; and an answer that is given as
an array of its fields. -/
theorem readsBack_messages_counted :
    let stew : Recipe := ⟨"1", "Stew", "", "", "", "", ["salt"], []⟩
    let r : SearchResponse :=
      ⟨"a\x00\x1f\"\\\n\x7f", [stew], none, "5ms", Nat.pow 2 64 - 1, "SELECT 1;", false⟩
    let given : SearchResponse := ⟨"beans", [], none, "5ms", 0, "SELECT 1;", false⟩
    r.resultCount < Nat.pow 2 64 ∧
      Json.read SearchResponse.reader (Json.render r.toJson).toList = .ok r ∧
      Json.read SearchResponse.reader "[\"beans\", [], null, \"5ms\", 0, \"SELECT 1;\"]".toList = .ok given ∧
      Json.read SearchResponse.reader (Json.render given.toJson).toList = .ok given := by
  intro stew r given
  obtain ⟨-, -, -, -, -, hresponse, -, -⟩ := readsBack_messages
  have hcount : r.resultCount < Nat.pow 2 64 := by decide
  have hgiven :
      Json.read SearchResponse.reader "[\"beans\", [], null, \"5ms\", 0, \"SELECT 1;\"]".toList = .ok given := by
    decide +kernel
  exact ⟨hcount, hresponse.of_fits r hcount, hgiven, hresponse.of_read _ given hgiven⟩

end Service

end RecipeSearch
