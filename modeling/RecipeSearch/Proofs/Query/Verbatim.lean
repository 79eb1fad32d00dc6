import Mathlib.Data.List.Infix
import RecipeSearch.Proofs.Query.Negations

/-!
# Queries that are their own clause

The rows for words leave a text as it is that has no words of the vocabulary, and the rows for NOT one in which every
NOT is tidy already, or has a single blank and a single character behind it (`applyAll_notRows_eq_self`); there is no
NOT to tidy where no word ends in it (`negationsStay_of_words`). **A query of which both hold is its own clause**
(`whereClause_eq_self`).

It is not enough that no word spells NOT: the rows for NOT find it at the end of longer words too
(`whereClause_not_in_word`).
-/

namespace RecipeSearch.Query

open Text

/-! ## Negations that stay -/

section Stays

variable {cs letters gap tail : List Char}

/-- NOT is written in capitals and with one space, or there is one blank and a single character behind it. -/
def Stays (letters gap tail : List Char) : Prop :=
  letters = ['N', 'O', 'T'] ∧ gap = [' '] ∨ gap.length = 1 ∧ ¬ OpensGroup tail ∧ (firstToken tail).length = 1

/-- All negations in the text, those at the end of longer words among them, are such that they stay. -/
def NegationsStay (cs : List Char) : Prop :=
  ∀ s, s <:+ cs → ∀ letters gap tail, IsNegation s letters gap tail → Stays letters gap tail

instance (letters gap tail : List Char) : Decidable (Stays letters gap tail) :=
  inferInstanceAs (Decidable (letters = ['N', 'O', 'T'] ∧ gap = [' '] ∨
    gap.length = 1 ∧ ¬ tail.head? = some '(' ∧ (firstToken tail).length = 1))

instance (cs : List Char) : Decidable (NegationsStay cs) :=
  decidable_of_iff (∀ s ∈ cs.tails, ∀ r ∈ negation? s, Stays r.1 r.2.1 r.2.2) <| by
    simp only [NegationsStay, List.mem_tails, Option.mem_def, Prod.forall, negation?_eq_some_iff]

/-- The text that a negation begins with. -/
theorem IsNegation.take (h : IsNegation cs letters gap tail) (n : Nat) :
    cs.take (3 + gap.length + n) = letters ++ (gap ++ tail.take n) := by
  obtain ⟨n', o, t, rfl⟩ := exists_letters h.spelled
  rw [h.text, show 3 + gap.length + n = [n', o, t].length + (gap.length + n) from Nat.add_assoc ..,
    List.take_length_add_append, List.take_length_add_append]

/-- The row for tokens leaves a text as it is in which all negations are such that they stay. -/
theorem notToken_apply_eq_self (h : NegationsStay cs) : Substitution.notToken.apply cs = cs := by
  refine replaceAll_eq_self (fun cs out size h => (tidies_notTokenRule cs out size h).1) fun s hs out size hrule => ?_
  obtain ⟨letters, gap, kept, tail, hneg, hgap, hkept, rfl, rfl⟩ := notTokenRule_eq_some_iff.1 hrule
  have hpos := List.length_pos_iff.2 hgap
  rcases h s hs _ _ _ hneg with ⟨rfl, hsingle⟩ | ⟨hsingle, -, hone⟩
  · -- one space behind NOT is all that there is, and nothing is kept
    have hlength : gap.length + kept.length = 1 := by rw [← List.length_append, hsingle]; rfl
    obtain rfl : kept = [] := List.length_eq_zero_iff.1 (by omega)
    simp only [List.append_nil] at hsingle hneg ⊢
    subst hsingle
    rw [hneg.take, firstToken, ← List.prefix_iff_eq_take.1 (List.takeWhile_prefix _)]
    rfl
  · -- the only blank would have to be kept
    have hkeeps : keepsBlank tail = true := by simp [keepsBlank, hone]
    rw [hkeeps, if_pos rfl] at hkept
    rw [List.length_append] at hsingle
    omega

theorem NegationsStay.tidyBefore (h : NegationsStay cs) : TidyBefore OpensGroup cs := by
  intro s hs letters gap tail hneg hparen
  exact (h s hs letters gap tail hneg).resolve_right fun hstays => hstays.2.1 hparen

theorem applyAll_notRows_eq_self (h : NegationsStay cs) : applyAll (substitutions.drop 8) cs = cs := by
  rw [applyAll_notRows, notGroup_apply_eq_self h.tidyBefore, notToken_apply_eq_self h]

/-- A NOT before blanks is the end of a word. -/
theorem IsNegation.exists_word (h : IsNegation cs letters gap tail) (before : List Char) :
    ∃ w ∈ runs isWordChar (before ++ cs), letters <:+ w := by
  obtain ⟨front, begin, rfl, hbegin, hfront⟩ := exists_last_word (p := isWordChar) before
  have hletters := isWordChar_of_not h.spelled
  obtain ⟨n, o, t, rfl⟩ := exists_letters h.spelled
  obtain ⟨g, gap, rfl⟩ := List.exists_cons_of_ne_nil h.gap_ne_nil
  have hgap : (g :: (gap ++ tail)).head?.any isWordChar = false :=
    isWordChar_of_isBlank (h.blank g List.mem_cons_self)
  refine ⟨begin ++ [n, o, t], ?_, List.suffix_append _ _⟩
  rw [h.text, List.append_assoc, ← List.append_assoc begin]
  exact mem_runs_between (by simp) (fun c hc => (List.mem_append.1 hc).elim (hbegin c) (hletters c)) hfront hgap

/-- Where no word ends in NOT there is no negation. -/
theorem negationsStay_of_words
    (h : ∀ w ∈ runs isWordChar cs, ∀ letters, letters <:+ w → isKeyword "not" letters = false) : NegationsStay cs := by
  rintro s ⟨before, rfl⟩ letters gap tail hneg
  obtain ⟨w, hw, hend⟩ := hneg.exists_word before
  have hspelled := hneg.spelled
  rw [h w hw letters hend] at hspelled
  cases hspelled

end Stays

/-! ## Queries -/

/-- **A query without words of the vocabulary, and with no NOT to be tidied, is its own clause.** -/
theorem whereClause_eq_self {query : String} (hblank : isBlankString query = false)
    (hwords : ∀ w ∈ runs isWordChar query.toList, isAnyKeyword vocabulary w = false)
    (hnots : NegationsStay query.toList) : whereClause query = query := by
  rw [← String.toList_inj, toList_whereClause_of_words hblank hwords, applyAll_notRows_eq_self hnots]

theorem whereClause_eq_self_negated :
    (∀ w ∈ runs isWordChar "NOT (pie OR egg) not a".toList, isAnyKeyword vocabulary w = false) ∧
      whereClause "NOT (pie OR egg) not a" = "NOT (pie OR egg) not a" :=
  have hshort : ∀ w ∈ runs isWordChar "NOT (pie OR egg) not a".toList, w.length < 4 := by decide
  have hwords := fun w hw => isAnyKeyword_vocabulary_of_length (hshort w hw)
  ⟨hwords, whereClause_eq_self (by decide) hwords (by decide)⟩

/-- No word of the query spells NOT or a word of the vocabulary, and still it is not its own clause. -/
theorem whereClause_not_in_word :
    isBlankString "knot pie" = false ∧
      (∀ w ∈ runs isWordChar "knot pie".toList, isAnyKeyword ("not" :: vocabulary) w = false) ∧
      whereClause "knot pie" = "kNOT pie" := by
  have hblank : isBlankString "knot pie" = false := by decide
  have hwords : ∀ w ∈ runs isWordChar "knot pie".toList, isAnyKeyword ("not" :: vocabulary) w = false := by
    decide
  refine ⟨hblank, hwords, ?_⟩
  have hclause := toList_whereClause_of_words hblank fun w hw => (Bool.or_eq_false_iff.1 (hwords w hw)).2
  rw [← String.toList_inj, hclause]
  decide +kernel

end RecipeSearch.Query
