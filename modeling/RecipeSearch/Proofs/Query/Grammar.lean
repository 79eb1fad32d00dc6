import Mathlib.Computability.Language
import Mathlib.Order.CompletePartialOrder
import RecipeSearch.Proofs.Query.Verdict
import RecipeSearch.Proofs.Text.Word

/-!
# The grammar of queries

Queries are written down as runs of query characters joined by operators with blanks around them, whatever the case of
the letters (`grammar`). Blanks and operators are made of query characters, so that a joint can be read as part of a
run: **the joints reject nothing and admit nothing** (`runs_mul_joints`), and the grammar is the language of texts of
certain characters, which are the letters of ASCII and the two that fold to one, underscores, parentheses and blanks
(`mem_grammar_iff`). This decides the verdict on a query, after blank and unbalanced ones have been refused
(`validate_verdict`).
-/

namespace RecipeSearch.Query

open Text Computability

/-! ## Languages of characters -/

/-- The characters of a class, one at a time. -/
def oneOf (p : Char → Prop) : Language Char :=
  {cs | ∃ c, p c ∧ cs = [c]}

/-- One or more texts of a language in a row. -/
def oneOrMore (l : Language Char) : Language Char :=
  l * l∗

/-- The texts that agree with one of the language but for the case of their letters. -/
def caseless (l : Language Char) : Language Char :=
  {cs | ∃ ds ∈ l, cs.map foldLetter = ds.map foldLetter}

section Languages

variable {p q : Char → Prop} {cs : List Char}

theorem mem_caseless {l : Language Char} :
    cs ∈ caseless l ↔ ∃ ds ∈ l, cs.map foldLetter = ds.map foldLetter :=
  Iff.rfl

theorem mem_kstar_oneOf : cs ∈ (oneOf p)∗ ↔ ∀ c ∈ cs, p c := by
  constructor
  · rintro ⟨parts, rfl, hparts⟩ c hc
    obtain ⟨part, hpart, hmem⟩ := List.mem_flatten.1 hc
    obtain ⟨d, hd, rfl⟩ := hparts part hpart
    rwa [List.mem_singleton.1 hmem]
  · intro h
    refine ⟨cs.map ([·]), (List.flatMap_singleton' cs).symm, fun part hpart => ?_⟩
    obtain ⟨c, hc, rfl⟩ := List.mem_map.1 hpart
    exact ⟨c, h c hc, rfl⟩

theorem mem_oneOrMore_oneOf : cs ∈ oneOrMore (oneOf p) ↔ cs ≠ [] ∧ ∀ c ∈ cs, p c := by
  rw [oneOrMore, Language.mem_mul]
  constructor
  · rintro ⟨_, ⟨c, hc, rfl⟩, rest, hrest, rfl⟩
    exact ⟨by simp, List.forall_mem_cons.2 ⟨hc, mem_kstar_oneOf.1 hrest⟩⟩
  · rintro ⟨hne, h⟩
    obtain ⟨c, rest, rfl⟩ := List.exists_cons_of_ne_nil hne
    rw [List.forall_mem_cons] at h
    exact ⟨[c], ⟨c, h.1, rfl⟩, rest, mem_kstar_oneOf.2 h.2, rfl⟩

theorem oneOf_le (h : ∀ c, p c → q c) : oneOf p ≤ oneOf q := by
  rintro _ ⟨c, hc, rfl⟩
  exact ⟨c, h c hc, rfl⟩

theorem oneOrMore_le_kstar (l : Language Char) : oneOrMore l ≤ l∗ :=
  mul_kstar_le_kstar

theorem oneOrMore_mul_kstar (l : Language Char) : oneOrMore l * l∗ = oneOrMore l := by
  rw [oneOrMore, mul_assoc, kstar_mul_kstar]

/-- A text is in the class whatever the case of its letters if each of its characters is. -/
theorem mem_caseless_oneOrMore_oneOf :
    cs ∈ caseless (oneOrMore (oneOf p)) ↔ cs ≠ [] ∧ ∀ c ∈ cs, ∃ d, p d ∧ foldLetter c = foldLetter d := by
  simp only [mem_caseless, mem_oneOrMore_oneOf]
  constructor
  · rintro ⟨ds, ⟨hne, hds⟩, hfold⟩
    refine ⟨?_, fun c hc => ?_⟩
    · rintro rfl
      exact hne (List.map_eq_nil_iff.1 hfold.symm)
    · obtain ⟨d, hd, heq⟩ := List.mem_map.1 (hfold ▸ List.mem_map_of_mem hc)
      exact ⟨d, hds d hd, heq.symm⟩
  · rintro ⟨hne, hcs⟩
    choose! f hf hfold using hcs
    refine ⟨cs.map f, ⟨by simpa using hne, ?_⟩, ?_⟩
    · rintro _ hd
      obtain ⟨c, hc, rfl⟩ := List.mem_map.1 hd
      exact hf c hc
    · rw [List.map_map]
      exact List.map_congr_left hfold

end Languages

/-! ## The grammar -/

/-- Letters, underscores, blanks and parentheses. -/
def queryChars : Language Char :=
  oneOf fun c => c.isAlpha = true ∨ c = '_' ∨ isBlank c = true ∨ c = '(' ∨ c = ')'

/-- Blanks. -/
def blanks : Language Char :=
  oneOf fun c => isBlank c = true

/-- The words that join. -/
def operators : Language Char :=
  {"AND".toList, "OR".toList, "NOT".toList}

/-- An operator with blanks around it, and a run of query characters. -/
def joint : Language Char :=
  oneOrMore blanks * operators * oneOrMore blanks * oneOrMore queryChars

/-- A run of query characters and any number of joints, whatever the case of the letters. -/
def grammar : Language Char :=
  caseless (oneOrMore queryChars * joint∗)

theorem operators_le : operators ≤ queryChars∗ := by
  have letters (word : String) (h : (word.toList.all Char.isAlpha) = true) : word.toList ∈ queryChars∗ :=
    mem_kstar_oneOf.2 fun c hc => .inl (List.all_eq_true.1 h c hc)
  rintro cs (rfl | rfl | rfl)
  · exact letters "AND" (by decide)
  · exact letters "OR" (by decide)
  · exact letters "NOT" (by decide)

/-- A joint is made of query characters. -/
theorem joint_le : joint ≤ queryChars∗ := by
  have hblanks : oneOrMore blanks ≤ queryChars∗ :=
    (oneOrMore_le_kstar _).trans (kstar_mono (oneOf_le fun c hc => .inr (.inr (.inl hc))))
  calc joint ≤ queryChars∗ * queryChars∗ * queryChars∗ * queryChars∗ :=
        mul_le_mul' (mul_le_mul' (mul_le_mul' hblanks operators_le) hblanks) (oneOrMore_le_kstar _)
    _ = queryChars∗ := by simp only [kstar_mul_kstar]

/-- **The joints reject nothing and admit nothing.** -/
theorem runs_mul_joints : oneOrMore queryChars * joint∗ = oneOrMore queryChars := by
  refine le_antisymm (mul_kstar_le_self ?_) ?_
  · calc oneOrMore queryChars * joint ≤ oneOrMore queryChars * queryChars∗ := mul_le_mul' le_rfl joint_le
      _ = oneOrMore queryChars := oneOrMore_mul_kstar _
  · calc oneOrMore queryChars = oneOrMore queryChars * 1 := (mul_one _).symm
      _ ≤ oneOrMore queryChars * joint∗ := mul_le_mul' le_rfl one_le_kstar

/-- The characters of queries: letters of ASCII, underscores, parentheses, blanks, the long s and the Kelvin sign. -/
def IsAccepted (c : Char) : Prop :=
  c.isAlpha = true ∨ c = '_' ∨ c = '(' ∨ c = ')' ∨ isBlank c = true ∨ c = '\u017f' ∨ c = '\u212a'

/-- The letters in any spelling are those of ASCII and two more. -/
theorem isLetter_iff {c : Char} : isLetter c = true ↔ c.isAlpha = true ∨ c = '\u017f' ∨ c = '\u212a' := by
  by_cases hc : c.toNat < 128
  · exact of_ascii (P := fun c => isLetter c = true ↔ c.isAlpha = true ∨ c = '\u017f' ∨ c = '\u212a')
      (by decide) hc
  have halpha : c.isAlpha = false := not_isAlpha_of_not_ascii hc
  rw [isLetter, foldLetter]
  split
  · next h => simp [h]
  split
  · next h => simp [h]
  · next hs hk =>
    rw [toLower_of_not_ascii hc, (Bool.or_eq_false_iff.1 halpha).2, halpha]
    simp [hs, hk]

theorem isQueryChar_iff {c : Char} : isQueryChar c = true ↔ IsAccepted c := by
  simp only [isQueryChar, IsAccepted, Bool.or_eq_true, beq_iff_eq, isLetter_iff]
  tauto

/-- A character that is no letter has no other case. -/
theorem foldLetter_of_not_isLetter {c : Char} (h : isLetter c = false) : foldLetter c = c := by
  have hc : ¬ (c.isAlpha = true ∨ c = '\u017f' ∨ c = '\u212a') := by rw [← isLetter_iff, h]; exact Bool.false_ne_true
  simp only [not_or, Bool.not_eq_true] at hc
  rw [foldLetter, if_neg hc.2.1, if_neg hc.2.2]
  by_cases hascii : c.toNat < 128
  · exact of_ascii (P := fun c => c.isAlpha = false → c.toLower = c) (by decide) hascii hc.1
  · exact toLower_of_not_ascii hascii

/-- The case of a letter does not matter for being accepted. -/
theorem isAccepted_of_foldLetter {c d : Char} (h : foldLetter c = foldLetter d) (hd : IsAccepted d) : IsAccepted c := by
  rw [← isQueryChar_iff] at hd ⊢
  have hletter : isLetter c = isLetter d := by rw [isLetter, h, isLetter]
  cases hcase : isLetter d with
  | true => simp [isQueryChar, hletter, hcase]
  | false =>
    rw [foldLetter_of_not_isLetter (hletter.trans hcase), foldLetter_of_not_isLetter hcase] at h
    rwa [h]

/-- **The grammar admits the texts of accepted characters**, other than the empty one. -/
theorem mem_grammar_iff {cs : List Char} : cs ∈ grammar ↔ cs ≠ [] ∧ ∀ c ∈ cs, IsAccepted c := by
  rw [grammar, runs_mul_joints, queryChars, mem_caseless_oneOrMore_oneOf]
  refine and_congr_right fun _ => forall₂_congr fun c _ => ⟨?_, fun hc => ?_⟩
  · rintro ⟨d, hd, hfold⟩
    refine isAccepted_of_foldLetter hfold ?_
    unfold IsAccepted
    tauto
  · rcases hc with h | h | h | h | h | rfl | rfl
    · exact ⟨c, .inl h, rfl⟩
    · exact ⟨c, .inr (.inl h), rfl⟩
    · exact ⟨c, .inr (.inr (.inr (.inl h))), rfl⟩
    · exact ⟨c, .inr (.inr (.inr (.inr h))), rfl⟩
    · exact ⟨c, .inr (.inr (.inl h)), rfl⟩
    · exact ⟨'s', .inl (by decide), by decide⟩
    · exact ⟨'k', .inl (by decide), by decide⟩

theorem isForm_iff_mem_grammar {cs : List Char} : isForm cs = true ↔ cs ∈ grammar := by
  simp only [isForm_iff, mem_grammar_iff, isQueryChar_iff]

/-! ## The verdict -/

section Verdict

variable {query : String}

theorem validate_of_blank (h : isBlankText query.toList = true) : validate query = .error .emptyQuery := by
  simp [validate, trim_eq_nil_iff.2 h]

theorem trim_ne_nil (h : isBlankText query.toList = false) : trim query.toList ≠ [] := by
  rw [Ne, trim_eq_nil_iff, h]
  exact Bool.false_ne_true

theorem validate_of_unbalanced (h : isBlankText query.toList = false)
    (hcount : query.toList.count '(' ≠ query.toList.count ')') :
    validate query = .error .unbalancedParentheses := by
  simp [validate, trim_ne_nil h, hcount]

theorem validate_of_mem_grammar (h : isBlankText query.toList = false)
    (hcount : query.toList.count '(' = query.toList.count ')') (hform : trim query.toList ∈ grammar) :
    validate query = .ok (trimmed query) := by
  simp [validate, trim_ne_nil h, hcount, isForm_iff_mem_grammar.2 hform, trimmed]

theorem validate_of_not_mem_grammar (h : isBlankText query.toList = false)
    (hcount : query.toList.count '(' = query.toList.count ')') (hform : trim query.toList ∉ grammar) :
    validate query = .error .invalidForm := by
  have hnot : isForm (trim query.toList) = false := by
    rw [← Bool.not_eq_true, isForm_iff_mem_grammar]
    exact hform
  simp [validate, trim_ne_nil h, hcount, hnot]

/-- What the verdict on a query is, and in which order of preference. -/
theorem validate_cases (query : String) :
    (isBlankText query.toList = true ∧ validate query = .error .emptyQuery) ∨
      (isBlankText query.toList = false ∧
        ((query.toList.count '(' ≠ query.toList.count ')' ∧ validate query = .error .unbalancedParentheses) ∨
          (query.toList.count '(' = query.toList.count ')' ∧
            ((trim query.toList ∈ grammar ∧ validate query = .ok (trimmed query)) ∨
              (trim query.toList ∉ grammar ∧ validate query = .error .invalidForm))))) := by
  cases hblank : isBlankText query.toList with
  | true => exact .inl ⟨rfl, validate_of_blank hblank⟩
  | false =>
    refine .inr ⟨rfl, ?_⟩
    by_cases hcount : query.toList.count '(' = query.toList.count ')'
    · refine .inr ⟨hcount, ?_⟩
      by_cases hform : trim query.toList ∈ grammar
      · exact .inl ⟨hform, validate_of_mem_grammar hblank hcount hform⟩
      · exact .inr ⟨hform, validate_of_not_mem_grammar hblank hcount hform⟩
    · exact .inl ⟨hcount, validate_of_unbalanced hblank hcount⟩

/-- When each verdict is given. -/
theorem validate_iff (query : String) :
    (validate query = .error .emptyQuery ↔ isBlankText query.toList = true) ∧
      (validate query = .error .unbalancedParentheses ↔
        isBlankText query.toList = false ∧ query.toList.count '(' ≠ query.toList.count ')') ∧
      (∀ normalized, validate query = .ok normalized ↔
        isBlankText query.toList = false ∧ query.toList.count '(' = query.toList.count ')' ∧
          trim query.toList ∈ grammar ∧ normalized = trimmed query) ∧
      (validate query = .error .invalidForm ↔
        isBlankText query.toList = false ∧ query.toList.count '(' = query.toList.count ')' ∧
          trim query.toList ∉ grammar) := by
  rcases validate_cases query with ⟨h, hv⟩ | ⟨h, ⟨hcount, hv⟩ | ⟨hcount, ⟨hmem, hv⟩ | ⟨hmem, hv⟩⟩⟩
  · simp [hv, h]
  · simp [hv, h, hcount]
  · simp [hv, h, hcount, hmem, eq_comm]
  · simp [hv, h, hcount, hmem]

end Verdict

/-- **The verdict on a query is decided by its characters**: it is empty if they are all blank, else unbalanced if
there are not as many opening as closing parentheses, else accepted, without the blanks around it, if what is left has
accepted characters only, else of an invalid form. What is left is accepted exactly if the grammar has it: the joints of
the grammar take no part in it. -/
theorem validate_verdict (query : String) :
    (validate query = .error .emptyQuery ↔ ∀ c ∈ query.toList, isBlank c = true) ∧
      (validate query = .error .unbalancedParentheses ↔
        (∃ c ∈ query.toList, isBlank c = false) ∧ query.toList.count '(' ≠ query.toList.count ')') ∧
      (∀ normalized, validate query = .ok normalized ↔
        (∃ c ∈ query.toList, isBlank c = false) ∧ query.toList.count '(' = query.toList.count ')' ∧
          (∀ c ∈ trim query.toList, IsAccepted c) ∧ normalized = trimmed query) ∧
      (validate query = .error .invalidForm ↔
        (∃ c ∈ query.toList, isBlank c = false) ∧ query.toList.count '(' = query.toList.count ')' ∧
          ∃ c ∈ trim query.toList, ¬ IsAccepted c) ∧
      (∀ normalized, validate query = .ok normalized ↔
        (∃ c ∈ query.toList, isBlank c = false) ∧ query.toList.count '(' = query.toList.count ')' ∧
          trim query.toList ∈ grammar ∧ normalized = trimmed query) ∧
      (validate query = .error .invalidForm ↔
        (∃ c ∈ query.toList, isBlank c = false) ∧ query.toList.count '(' = query.toList.count ')' ∧
          trim query.toList ∉ grammar) ∧
      grammar = caseless (oneOrMore queryChars) ∧ ∀ cs, cs ∈ grammar ↔ cs ≠ [] ∧ ∀ c ∈ cs, IsAccepted c := by
  have hblank : isBlankText query.toList = true ↔ ∀ c ∈ query.toList, isBlank c = true := List.all_eq_true
  have hsome : isBlankText query.toList = false ↔ ∃ c ∈ query.toList, isBlank c = false := by
    simp [isBlankText]
  have hform (h : isBlankText query.toList = false) :
      trim query.toList ∈ grammar ↔ ∀ c ∈ trim query.toList, IsAccepted c := by
    rw [mem_grammar_iff]
    exact and_iff_right (trim_ne_nil h)
  have hnot : (∃ c ∈ trim query.toList, ¬ IsAccepted c) ↔ ¬ ∀ c ∈ trim query.toList, IsAccepted c := by simp
  obtain ⟨hempty, hunbalanced, haccepted, hinvalid⟩ := validate_iff query
  rw [hnot, ← hblank, ← hsome]
  refine ⟨hempty, hunbalanced, fun normalized => ?_, ?_, haccepted, hinvalid, by rw [grammar, runs_mul_joints],
    fun _ => mem_grammar_iff⟩
  · rw [haccepted]
    exact and_congr_right fun h => and_congr_right fun _ => and_congr_left' (hform h)
  · rw [hinvalid]
    exact and_congr_right fun h => and_congr_right fun _ => not_congr (hform h)

end RecipeSearch.Query
