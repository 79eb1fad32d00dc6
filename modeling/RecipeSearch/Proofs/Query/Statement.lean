import RecipeSearch.Proofs.Query.Literals

/-!
# The statement of an accepted query

A character that neither a query nor a row of the table has is not in the clause (`not_mem_applyAll`), and the head and
the tail of the statement are fixed. Hence **no accepted query gets out of the literals of its clause or out of its
statement** (`literals_whereClause`).
-/

namespace RecipeSearch.Query

open Text

/-! ## Characters of a clause -/

variable {d : Char}

theorem not_mem_fill {r : Replacement} {w : List Char} (hr : d ∉ r.inserted) (hw : d ∉ w) : d ∉ r.fill w := by
  cases r with
  | around before after =>
    rw [Replacement.inserted, List.mem_append, not_or] at hr
    simp only [Replacement.fill, List.mem_append, not_or]
    exact ⟨⟨hr.1, hw⟩, hr.2⟩
  | fixed text => exact hr

theorem not_mem_replaceWords {keywords : List String} {r : Replacement} (hr : d ∉ r.inserted) {cs : List Char}
    (hcs : d ∉ cs) : d ∉ replaceWords keywords r cs := by
  induction cs using cut_induction (p := isWordChar) with
  | nil => exact List.not_mem_nil
  | word w hne hw =>
    rw [replaceWords_word keywords r hne hw]
    split
    · exact not_mem_fill hr hcs
    · exact hcs
  | cut xs c ys hc ihx ihy =>
    simp only [List.mem_append, List.mem_cons, not_or] at hcs
    rw [replaceWords_append_other keywords r hc]
    simp only [List.mem_append, List.mem_cons, not_or]
    exact ⟨ihx hcs.1, hcs.2.1, ihy hcs.2.2⟩

theorem Tidied.not_mem {xs ys : List Char} (h : Tidied xs ys) (hd : d ∉ ['N', 'O', 'T', ' ']) (hxs : d ∉ xs) :
    d ∉ ys := by
  induction h with
  | nil => exact List.not_mem_nil
  | keep c _ ih =>
    rw [List.mem_cons, not_or] at hxs ⊢
    exact ⟨hxs.1, ih hxs.2⟩
  | tidy _ _ _ _ ih =>
    simp only [List.mem_cons, List.mem_append, List.not_mem_nil, or_false, not_or] at hd hxs ⊢
    exact ⟨hd.1, hd.2.1, hd.2.2.1, hd.2.2.2, ih hxs.2.2.2.2⟩

theorem Substitution.not_mem_apply {row : Substitution} (hrow : d ∉ row.inserted) {cs : List Char} (hcs : d ∉ cs) :
    d ∉ row.apply cs := by
  cases row with
  | words keywords r => exact not_mem_replaceWords hrow hcs
  | notGroup =>
    refine (tidied_notGroup cs).not_mem (fun h => hrow ?_) hcs
    exact List.mem_append_left ['('] h
  | notToken => exact (tidied_notToken cs).not_mem hrow hcs

/-- **A character that no row inserts comes from the text.** -/
theorem not_mem_applyAll {rows : List Substitution} (hrows : ∀ row ∈ rows, d ∉ row.inserted) {cs : List Char}
    (hcs : d ∉ cs) : d ∉ applyAll rows cs := by
  refine applyAll_keeps (P := fun ds => d ∉ ds) (fun row hrow ds hds => ?_) hcs
  exact Substitution.not_mem_apply (hrows row hrow) hds

/-! ## The clause and the statement -/

variable {query normalized : String}

theorem not_mem_of_all {ds cs : List Char} (h : (ds.all fun e => e ∉ cs) = true) (hd : d ∈ ds) : d ∉ cs := by
  simpa using List.all_eq_true.1 h d hd

/-- What comes before the clause ends no statement and begins no comment. -/
theorem not_mem_statementHead (hd : d ∈ [';', '-', '/']) : d ∉ statementHead.toList := by
  unfold statementHead
  simp only [String.toList_append, List.mem_append, not_or]
  -- line by line, for it takes too long to look through all of them at once
  refine ⟨⟨⟨⟨⟨⟨?_, ?_⟩, ?_⟩, ?_⟩, ?_⟩, ?_⟩, ?_⟩ <;> exact not_mem_of_all (by decide) hd

theorem toList_statementTail : statementTail.toList = "\nGROUP BY r.Id\nORDER BY r.Name".toList ++ [';'] := by
  decide

theorem toList_toSql (h : validate query = .ok normalized) :
    (toSql normalized).toList =
      statementHead.toList ++ ((whereClause normalized).toList ++ statementTail.toList) := by
  rw [toSql, (validate_eq_ok h).2.1, if_neg Bool.false_ne_true, String.toList_append, String.toList_append,
    List.append_assoc]

theorem quoted_whereClause (h : validate query = .ok normalized) :
    Quoted IsLiteral (whereClause normalized).toList := by
  rw [toList_whereClause (validate_eq_ok h).2.1, substitutions, applyAll_append]
  have hwords : Quoted IsLiteral (applyAll wordSubstitutions normalized.toList) :=
    quoted_wordSubstitutions (not_mem_of_validate h (by decide))
  exact (tidied_notToken _).quoted ((tidied_notGroup _).quoted hwords)

/-- The clause ends no statement and begins no comment. -/
theorem not_mem_whereClause (h : validate query = .ok normalized) (hd : d ∈ [';', '-', '/']) :
    d ∉ (whereClause normalized).toList := by
  have hchars : ([';', '-', '/'].all fun e => isQueryChar e = false) = true := by decide
  have hrows : ∀ row ∈ substitutions, ([';', '-', '/'].all fun e => e ∉ row.inserted) = true := by decide
  have hquery : isQueryChar d = false := by simpa using List.all_eq_true.1 hchars d hd
  rw [toList_whereClause (validate_eq_ok h).2.1]
  exact not_mem_applyAll (fun row hrow => not_mem_of_all (hrows row hrow) hd) (not_mem_of_validate h hquery)

/-- A statement begins no comment. -/
theorem not_mem_toSql (h : validate query = .ok normalized) (hd : d ∈ ['-', '/']) : d ∉ (toSql normalized).toList := by
  have htail : d ∉ statementTail.toList := not_mem_of_all (by decide) hd
  have hd' : d ∈ [';', '-', '/'] := List.mem_cons_of_mem _ hd
  rw [toList_toSql h, List.mem_append, List.mem_append, not_or, not_or]
  exact ⟨not_mem_statementHead hd', not_mem_whereClause h hd', htail⟩

/-- **No accepted query gets out of the literals of its clause or out of its statement**: quotes come in pairs, what is
between them is a literal of the table, the only semicolon is the last character, and no comment begins. -/
theorem literals_whereClause (h : validate query = .ok normalized) :
    (whereClause normalized).toList.count '\'' = 2 * (literals (whereClause normalized).toList).length ∧
      (∀ l ∈ literals (whereClause normalized).toList, IsLiteral l) ∧
      (toSql normalized).toList.count ';' = 1 ∧ (toSql normalized).toList.getLast? = some ';' ∧
      ¬ ['-', '-'] <:+: (toSql normalized).toList ∧ ¬ ['/', '*'] <:+: (toSql normalized).toList := by
  have hquoted := quoted_whereClause h
  refine ⟨hquoted.count_quote, hquoted.of_mem_literals, ?_, ?_, ?_, ?_⟩
  · have htail : statementTail.toList.count ';' = 1 := by decide +kernel
    rw [toList_toSql h, List.count_append, List.count_append, htail,
      List.count_eq_zero.2 (not_mem_statementHead (by decide)),
      List.count_eq_zero.2 (not_mem_whereClause h (by decide))]
  · rw [toList_toSql h, toList_statementTail, ← List.append_assoc, ← List.append_assoc, List.getLast?_concat]
  · exact fun hcomment => not_mem_toSql h (by decide) (hcomment.subset List.mem_cons_self)
  · exact fun hcomment => not_mem_toSql h (by decide) (hcomment.subset List.mem_cons_self)

theorem literals_whereClause_grouped :
    validate " NOT  (Vegan OR easy) " = .ok "NOT  (Vegan OR easy)" ∧
      literals (whereClause "NOT  (Vegan OR easy)").toList = ["r.IsVegan = 1".toList, "Easy".toList] ∧
      (toSql "NOT  (Vegan OR easy)").toList.count ';' = 1 :=
  have h : validate " NOT  (Vegan OR easy) " = .ok "NOT  (Vegan OR easy)" := by decide +kernel
  ⟨h, by decide +kernel, (literals_whereClause h).2.2.1⟩

end RecipeSearch.Query
