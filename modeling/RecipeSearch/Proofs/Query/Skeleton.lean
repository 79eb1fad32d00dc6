import RecipeSearch.Proofs.Query.Untouched
import RecipeSearch.Query.Breakdown

/-!
# The operators of a query stay

The operators and parentheses of a text are found by a scan, which passes over blanks. The rows of the table write
none, replace none, and a word that ends in NOT is an operator or not whatever the case of its letters
(`untouched_operator?`). So every row keeps the operators in their order (`keepsOperators_substitutions`), and **the
clause of a query has the operators of the query** (`scanOperators_whereClause`).
-/

namespace RecipeSearch.Query

open Text

/-! ## Operators of parts of a text -/

theorem scanOperators_append_other {c : Char} (hc : isWordChar c = false) (xs ys : List Char) :
    scanOperators (xs ++ c :: ys) = scanOperators xs ++ ((operator? (.other c)).toList ++ scanOperators ys) :=
  scan_append_other hc xs ys

theorem scanOperators_word {w : List Char} (hne : w ≠ []) (hw : ∀ c ∈ w, isWordChar c = true) :
    scanOperators w = (operator? (.run w)).toList :=
  scan_word hne hw

theorem passesBlanks_operator? : PassesBlanks operator? := by
  intro c hc
  have hparen : isParenthesis c = false := by
    rw [← Bool.not_eq_true, isParenthesis]
    simp only [Bool.or_eq_true, beq_iff_eq]
    rintro (rfl | rfl) <;> exact absurd hc (by decide)
  rw [operator?, hparen]
  rfl

theorem scanOperators_gap_append {gap : List Char} (blank : ∀ g ∈ gap, isBlank g = true) (ys : List Char) :
    scanOperators (gap ++ ys) = scanOperators ys :=
  scan_gap_append passesBlanks_operator? blank ys

/-! ## The rows -/

/-- The row leaves the operators of a text as they are. -/
def Substitution.KeepsOperators (row : Substitution) : Prop :=
  ∀ cs, scanOperators (row.apply cs) = scanOperators cs

/-- Words that differ in the case of their letters are the same operator. -/
theorem operator?_congr {w w' : List Char} (h : w.map Char.toUpper = w'.map Char.toUpper) :
    operator? (.run w) = operator? (.run w') := by
  rw [operator?, operator?, ← isAnyKeyword_map_toUpper, h, isAnyKeyword_map_toUpper]

/-- **There is nothing for the scan for operators in what the rows do to a text.** -/
theorem untouched_operator? : Untouched operator? where
  blank := passesBlanks_operator?
  written := by decide
  replaced a ha w hw := by
    have hother : ∀ a ∈ attributes, ∀ keyword ∈ [a.1], keyword ∉ operatorWords := by decide
    have hword : isAnyKeyword [a.1] w = true := by simpa [isAnyKeyword] using hw
    rw [operator?, isAnyKeyword_of_disjoint (hother a ha) hword]
    rfl
  negation w letters hnot := by
    refine operator?_congr ?_
    rw [List.map_append, List.map_append, toUpper_of_not hnot]
    rfl

/-- **Every row of the table keeps the operators.** -/
theorem keepsOperators_substitutions : ∀ row ∈ substitutions, row.KeepsOperators :=
  untouched_operator?.keeps

theorem scanOperators_applyAll {rows : List Substitution} (h : ∀ row ∈ rows, row.KeepsOperators) (cs : List Char) :
    scanOperators (applyAll rows cs) = scanOperators cs := by
  refine applyAll_keeps (P := fun ds => scanOperators ds = scanOperators cs) (fun row hrow ds hds => ?_) rfl
  rw [h row hrow, hds]

/-! ## The clause of a query -/

/-- **The operators of a query that is not blank are those of its clause**, in the same order. -/
theorem scanOperators_whereClause (query : String) (h : isBlankString query = false) :
    scanOperators (whereClause query).toList = scanOperators query.toList := by
  rw [toList_whereClause h, scanOperators_applyAll keepsOperators_substitutions]

theorem scanOperators_whereClause_nested :
    isBlankString "kNOT\t (vegan And not\t Easy)oR" = false ∧
      scanOperators (whereClause "kNOT\t (vegan And not\t Easy)oR").toList =
        [['('], ['A', 'N', 'D'], ['N', 'O', 'T'], [')'], ['O', 'R']] :=
  ⟨by decide +kernel, (scanOperators_whereClause _ (by decide +kernel)).trans (by decide +kernel)⟩

end RecipeSearch.Query
