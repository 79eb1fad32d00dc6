import RecipeSearch.Proofs.Query.Statement
import RecipeSearch.Proofs.Query.Untouched

/-!
# The statement around a clause

The clause of a query stands between a fixed head and a fixed tail, and blanks part it from both. A scan that finds in
the clause what it finds in the query therefore finds in the statement what it finds in the head, the query and the tail
(`Untouched.scan_toSql`).

The head ends with the word WHERE, and the rows of the table neither write this word nor take it away. They pass on the
words that they do not know, and this is one of them: **a statement has WHERE once of its own, and once more wherever
the query has it** (`found_where_toSql`, `found_where_twice`).
-/

namespace RecipeSearch.Query

open Text

variable {query normalized : String}

/-! ## Head, query and tail -/

theorem statementHead_prefix_toSql (h : validate query = .ok normalized) :
    statementHead.toList <+: (toSql normalized).toList := by
  rw [toList_toSql h]
  exact List.prefix_append _ _

theorem statementTail_suffix_toSql (h : validate query = .ok normalized) :
    statementTail.toList <:+ (toSql normalized).toList := by
  rw [toList_toSql h, ← List.append_assoc]
  exact List.suffix_append _ _

theorem getLast?_statementHead : statementHead.toList.getLast? = some ' ' := by
  unfold statementHead
  simp only [String.toList_append]
  rw [List.getLast?_append_of_ne_nil]
  · decide
  · decide

/-- **A scan that the rows leave alone finds in a statement what it finds in the head, the query and the tail.** -/
theorem Untouched.scan_toSql {α : Type} {f : Piece → Option α} (hf : Untouched f)
    (h : validate query = .ok normalized) :
    scan f (toSql normalized).toList =
      scan f statementHead.toList ++ (scan f query.toList ++ scan f statementTail.toList) := by
  have hhead : statementHead.toList.getLast?.any isWordChar = false := by
    rw [getLast?_statementHead]
    decide
  have htail : statementTail.toList.head?.any isWordChar = false := by decide
  obtain ⟨htrim, hblank, -⟩ := validate_eq_ok h
  rw [toList_toSql h, scan_append (.inl hhead), scan_append (.inr htail), hf.scan_whereClause hblank, htrim,
    scan_trim hf.blank]

/-! ## The word WHERE -/

/-- The word WHERE, whatever the case of its letters. -/
def wherePattern : Pattern :=
  wordPattern ["where"]

theorem found_where (cs : List Char) : wherePattern.found cs = scan wherePattern.foundPiece cs :=
  Pattern.found_eq (isOfWords_wordPattern (by decide)) cs

theorem untouched_where : Untouched wherePattern.foundPiece :=
  untouched_foundPiece (by decide) (by decide) (by decide)

theorem scan_where_statementHead : scan wherePattern.foundPiece statementHead.toList = ["WHERE".toList] := by
  unfold statementHead
  simp only [String.toList_append, List.append_assoc]
  -- line by line, for it takes too long to look through all of them at once
  rw [scan_append, scan_append, scan_append, scan_append, scan_append, scan_append]
  · decide
  all_goals exact .inl (by decide)

theorem scan_where_statementTail : scan wherePattern.foundPiece statementTail.toList = [] := by
  decide

/-- The word WHERE of the head, and those of the query. -/
theorem found_where_eq (h : validate query = .ok normalized) :
    wherePattern.found (toSql normalized).toList = "WHERE".toList :: wherePattern.found query.toList := by
  rw [found_where, found_where, untouched_where.scan_toSql h, scan_where_statementHead, scan_where_statementTail,
    List.append_nil, List.singleton_append]

/-- **The statement of an accepted query has the word WHERE once of its own**, at the end of the head, **and once more
wherever the query has it**, as it is spelled there: exactly once if and only if the query does not have it. -/
theorem found_where_toSql (h : validate query = .ok normalized) :
    wherePattern.found (toSql normalized).toList = "WHERE".toList :: wherePattern.found query.toList ∧
      ((wherePattern.found (toSql normalized).toList).length = 1 ↔ wherePattern.found query.toList = []) ∧
      statementHead.toList <+: (toSql normalized).toList ∧
      "ORDER BY r.Name;".toList <:+ (toSql normalized).toList := by
  refine ⟨found_where_eq h, ?_, statementHead_prefix_toSql h, ?_⟩
  · rw [found_where_eq h, List.length_cons, Nat.add_eq_right, List.length_eq_zero_iff]
  · have htail : "ORDER BY r.Name;".toList <:+ statementTail.toList := by decide
    exact htail.trans (statementTail_suffix_toSql h)

theorem found_where_toSql_in_word :
    validate " knot\t(Vegan AND nowhere) " = .ok "knot\t(Vegan AND nowhere)" ∧
      wherePattern.found (toSql "knot\t(Vegan AND nowhere)").toList = ["WHERE".toList] := by
  have h : validate " knot\t(Vegan AND nowhere) " = .ok "knot\t(Vegan AND nowhere)" := by decide
  refine ⟨h, ?_⟩
  rw [(found_where_toSql h).1, found_where]
  decide

/-- WHERE is made of letters and not in the vocabulary, so that a query may have it, and its statement has it twice. -/
theorem found_where_twice :
    validate "where" = .ok "where" ∧
      wherePattern.found (toSql "where").toList = ["WHERE".toList, "where".toList] := by
  have h : validate "where" = .ok "where" := by decide
  refine ⟨h, ?_⟩
  rw [found_where_eq h, found_where]
  decide

end RecipeSearch.Query
