import RecipeSearch.Proofs.Query.Spacing
import RecipeSearch.Proofs.Query.Translation
import RecipeSearch.Proofs.Query.Verdict

/-!
# Negations after the rows for NOT

What the rows for NOT leave is looked at through the text that it came from: a negation in the one is a negation in the
other, with the same letters and blanks, unless it was tidied (`Tidied.negation`). After the row for groups every NOT
before a parenthesis is tidy (`tidyBefore_notGroup`). The row for tokens keeps it so, and tidies all other negations
but two kinds (`tidy_notToken`): those of a single character, and those in the token of a tidy NOT before them. So it
is in the clause of a query (`tidyWhereReached_whereClause`), where these two kinds do stay (`whereClause_not_tidy`).

What has been tidied is found again with the same token, and nothing else is found. Hence **the rows only tidy, and have
nothing left to tidy a second time** (`applyAll_rows_for_not`).
-/

namespace RecipeSearch.Query

open Text

/-! ## Looking back through a tidied text -/

section Tidied

variable {xs ys cs letters gap tail : List Char} {c : Char}

theorem isWordChar_of_not (h : isKeyword "not" letters = true) : ∀ d ∈ letters, isWordChar d = true := by
  have hword : isAnyKeyword ["not"] letters = true := by simpa [isAnyKeyword] using h
  exact isWordChar_of_isAnyKeyword (by decide) hword

theorem not_isBlank_of_not (h : isKeyword "not" letters = true) : ∀ d ∈ letters, isBlank d = false :=
  fun d hd => isBlank_of_isWordChar (isWordChar_of_not h d hd)

theorem IsNegation.ne_nil (h : IsNegation cs letters gap tail) : cs ≠ [] := by
  obtain ⟨n, o, t, rfl⟩ := exists_letters h.spelled
  rw [h.text]
  exact List.cons_ne_nil n _

/-- A negation begins with the first letter of NOT. -/
theorem IsNegation.foldLetter_head (h : IsNegation (c :: cs) letters gap tail) : foldLetter c = 'n' := by
  obtain ⟨n, o, t, rfl⟩ := exists_letters h.spelled
  obtain rfl : c = n := (List.cons.inj h.text).1
  exact (isKeyword_not_iff.1 h.spelled).1

/-- Anything but a capital N was there before the text was tidied. -/
theorem Tidied.of_cons (hc : c ≠ 'N') (h : Tidied xs (c :: ys)) : ∃ xs', xs = c :: xs' ∧ Tidied xs' ys := by
  generalize hcs : c :: ys = cs at h
  cases h with
  | nil => cases hcs
  | keep d htail =>
    cases hcs
    exact ⟨_, rfl, htail⟩
  | tidy =>
    cases hcs
    exact absurd rfl hc

theorem Tidied.of_append {front : List Char} (hfront : 'N' ∉ front) (h : Tidied xs (front ++ ys)) :
    ∃ xs', xs = front ++ xs' ∧ Tidied xs' ys := by
  induction front generalizing xs with
  | nil => exact ⟨xs, rfl, h⟩
  | cons d front ih =>
    rw [List.mem_cons, not_or] at hfront
    obtain ⟨zs, rfl, hrest⟩ := Tidied.of_cons (Ne.symm hfront.1) h
    obtain ⟨xs', rfl, htail⟩ := ih hfront.2 hrest
    exact ⟨xs', rfl, htail⟩

theorem Tidied.head?_any (h : Tidied xs ys) : xs.head?.any (!isBlank ·) = ys.head?.any (!isBlank ·) := by
  cases h with
  | nil => rfl
  | keep => rfl
  | tidy hnot =>
    have hn := not_isBlank_of_not hnot _ List.mem_cons_self
    simp only [List.head?_cons, Option.any_some, hn]
    decide

theorem Tidied.head?_eq_parenthesis_iff (h : Tidied xs ys) : xs.head? = some '(' ↔ ys.head? = some '(' := by
  cases h with
  | nil => rfl
  | keep => rfl
  | tidy hnot =>
    refine iff_of_false ?_ (by simp)
    rintro ⟨⟩
    exact absurd (isKeyword_not_iff.1 hnot).1 (by decide)

theorem Tidied.length_firstToken (h : Tidied xs ys) : (firstToken xs).length = (firstToken ys).length := by
  induction h with
  | nil => rfl
  | keep c _ ih =>
    rw [firstToken, firstToken, List.takeWhile_cons, List.takeWhile_cons]
    split
    · exact congrArg (· + 1) ih
    · rfl
  | @tidy n o t gap xs ys hnot hgap blank _ _ =>
    have hletters := not_isBlank_of_not hnot
    obtain ⟨g, gap, rfl⟩ := List.exists_cons_of_ne_nil hgap
    have hfirst (w rest : List Char) (d : Char) (hw : ∀ c ∈ w, isBlank c = false) (hd : isBlank d = true) :
        firstToken (w ++ d :: rest) = w :=
      takeWhile_append_of_head? (by simpa using hw) (by simp [hd])
    have hx := hfirst [n, o, t] (gap ++ xs) g hletters (blank g List.mem_cons_self)
    have hy := hfirst ['N', 'O', 'T'] ys ' ' (not_isBlank_of_not (by decide)) (by decide)
    exact (congrArg List.length hx).trans (congrArg List.length hy).symm

theorem Tidied.keepsBlank_eq (h : Tidied xs ys) : keepsBlank xs = keepsBlank ys := by
  have hparen : (xs.head? == some '(') = (ys.head? == some '(') := by
    rw [Bool.eq_iff_iff, beq_iff_eq, beq_iff_eq]
    exact h.head?_eq_parenthesis_iff
  rw [keepsBlank, keepsBlank, hparen, h.length_firstToken]

/-- **A negation that begins with a character that was kept was one before**, with the same letters and blanks. -/
theorem Tidied.negation (h : Tidied xs ys) (hneg : IsNegation (c :: ys) letters gap tail) :
    ∃ tail', IsNegation (c :: xs) letters gap tail' ∧ Tidied tail' tail := by
  obtain ⟨n, o, t, rfl⟩ := exists_letters hneg.spelled
  obtain ⟨rfl, hys⟩ := List.cons.inj hneg.text
  obtain ⟨-, ho, ht⟩ := isKeyword_not_iff.1 hneg.spelled
  have hfront : 'N' ∉ [o, t] ++ gap := by
    simp only [List.mem_append, List.mem_cons, List.not_mem_nil, or_false, not_or]
    refine ⟨⟨?_, ?_⟩, fun hmem => absurd (hneg.blank _ hmem) (by decide)⟩
    · rintro rfl
      exact absurd ho (by decide)
    · rintro rfl
      exact absurd ht (by decide)
  have hys' : ys = ([o, t] ++ gap) ++ tail := by simpa using hys
  obtain ⟨tail', rfl, htail⟩ := Tidied.of_append hfront (hys' ▸ h)
  refine ⟨tail', ⟨by simp, hneg.spelled, hneg.gap_ne_nil, hneg.blank, ?_⟩, htail⟩
  rw [htail.head?_any]
  exact hneg.token

end Tidied

/-! ## The row for groups -/

section TidyBefore

variable {xs ys cs letters gap tail : List Char} {c : Char} {p : List Char → Prop}

/-- Every NOT before a tail with the property is written in capitals and with one space. -/
def TidyBefore (p : List Char → Prop) (cs : List Char) : Prop :=
  ∀ s, s <:+ cs → ∀ letters gap tail, IsNegation s letters gap tail → p tail → letters = ['N', 'O', 'T'] ∧ gap = [' ']

/-- A parenthesis is opened. -/
def OpensGroup (cs : List Char) : Prop :=
  cs.head? = some '('

theorem TidyBefore.of_suffix (h : TidyBefore p cs) (hsuffix : ys <:+ cs) : TidyBefore p ys :=
  fun s hs => h s (hs.trans hsuffix)

theorem tidyBefore_nil : TidyBefore p [] := by
  intro s hs letters gap tail hneg
  exact absurd (List.suffix_nil.1 hs) hneg.ne_nil

theorem TidyBefore.cons (h : TidyBefore p cs)
    (hc : ∀ letters gap tail, IsNegation (c :: cs) letters gap tail → p tail →
      letters = ['N', 'O', 'T'] ∧ gap = [' ']) : TidyBefore p (c :: cs) := by
  intro s hs
  rcases List.suffix_cons_iff.1 hs with rfl | hs
  · exact hc
  · exact h s hs

/-- No NOT begins with another letter. -/
theorem TidyBefore.cons_of_ne (h : TidyBefore p cs) (hc : foldLetter c ≠ 'n') : TidyBefore p (c :: cs) :=
  h.cons fun _ _ _ hneg => absurd hneg.foldLetter_head hc

theorem isNegation_tidy (htail : tail.head?.any (!isBlank ·) = true) :
    IsNegation ('N' :: 'O' :: 'T' :: ' ' :: tail) ['N', 'O', 'T'] [' '] tail := by
  refine ⟨rfl, by decide, List.cons_ne_nil _ _, fun g hg => ?_, htail⟩
  rw [List.mem_singleton.1 hg]
  decide

/-- **The row for groups makes every NOT before a parenthesis tidy.** -/
theorem tidyBefore_notGroup (cs : List Char) : TidyBefore OpensGroup (Substitution.notGroup.apply cs) := by
  refine replaceAll_induction (R := fun _ ys => TidyBefore OpensGroup ys) tidyBefore_nil ?_ ?_
    (fun cs out size h => (tidies_notGroupRule cs out size h).1) cs
  · intro c cs hnone ih
    refine ih.cons fun letters gap tail hneg hparen => ?_
    -- the row would have found the negation
    obtain ⟨tail', hneg', htail⟩ := (tidied_notGroup cs).negation hneg
    have hrule := notGroupRule_eq_some_iff.2
      ⟨letters, gap, tail', hneg', htail.head?_eq_parenthesis_iff.2 hparen, rfl, rfl⟩
    rw [hnone] at hrule
    cases hrule
  · intro cs out size hrule ih
    obtain ⟨letters, gap, tail, hneg, hparen, rfl, rfl⟩ := notGroupRule_eq_some_iff.1 hrule
    have hrest := (((ih.cons_of_ne (c := '(') (by decide)).cons_of_ne (c := ' ') (by decide)).cons_of_ne (c := 'T')
      (by decide)).cons_of_ne (c := 'O') (by decide)
    refine hrest.cons fun letters' gap' tail' hneg' _ => ?_
    obtain ⟨hletters, hgap, -⟩ := hneg'.unique (isNegation_tidy rfl)
    exact ⟨hletters, hgap⟩

/-- The row for groups leaves a text in which every NOT before a parenthesis is tidy. -/
theorem notGroup_apply_eq_self (h : TidyBefore OpensGroup cs) : Substitution.notGroup.apply cs = cs := by
  refine replaceAll_eq_self (fun cs out size h => (tidies_notGroupRule cs out size h).1) fun s hs out size hrule => ?_
  obtain ⟨letters, gap, tail, hneg, hparen, rfl, rfl⟩ := notGroupRule_eq_some_iff.1 hrule
  obtain ⟨rfl, rfl⟩ := h s hs letters gap tail hneg hparen
  obtain ⟨rest, rfl⟩ := List.head?_eq_some_iff.1 hparen
  rw [hneg.text]
  rfl

end TidyBefore

/-! ## The row for tokens -/

/-- What follows the text is in the token of a tidy NOT that stands before it. -/
def EndsInToken (before : List Char) : Prop :=
  ∃ front word, before = front ++ ('N' :: 'O' :: 'T' :: ' ' :: word) ∧ (∀ c ∈ word, isBlank c = false) ∧
    ¬ OpensGroup word

section TokenRow

variable {xs ys cs before s letters gap tail : List Char}

theorem EndsInToken.append_left (h : EndsInToken before) (front : List Char) : EndsInToken (front ++ before) := by
  obtain ⟨front', word, rfl, hword, hparen⟩ := h
  exact ⟨front ++ front', word, (List.append_assoc ..).symm, hword, hparen⟩

/-- The token that a text begins with ends at a blank or at the end of the text. -/
theorem head?_drop_firstToken (cs : List Char) : (cs.drop (firstToken cs).length).head?.any (!isBlank ·) = false :=
  head?_drop_takeWhile _ cs

/-- A tail of which everything behind the first token has been tidied. -/
theorem Tidied.firstToken_append (h : Tidied (tail.drop (firstToken tail).length) ys) :
    Tidied tail (firstToken tail ++ ys) := by
  have happend := h.append_left (firstToken tail)
  rwa [firstToken, takeWhile_append_drop, ← firstToken] at happend

theorem firstToken_firstToken_append (h : Tidied (tail.drop (firstToken tail).length) ys) :
    firstToken (firstToken tail ++ ys) = firstToken tail := by
  refine takeWhile_append_of_head? (p := (!isBlank ·)) (fun c hc => List.mem_takeWhile_imp (p := (!isBlank ·)) hc) ?_
  rw [← h.head?_any]
  exact head?_drop_firstToken tail

/-- What the row for tokens has written is a negation again, which keeps what has been kept. -/
theorem isNegation_again {kept : List Char} (hneg : IsNegation cs letters (gap ++ kept) tail)
    (h : Tidied (tail.drop (firstToken tail).length) ys) :
    IsNegation (['N', 'O', 'T', ' '] ++ kept ++ firstToken tail ++ ys) ['N', 'O', 'T'] ([' '] ++ kept)
      (firstToken tail ++ ys) := by
  refine ⟨by simp, by decide, by simp, fun g hg => ?_, ?_⟩
  · rcases List.mem_append.1 hg with hg | hg
    · obtain rfl := List.mem_singleton.1 hg
      decide
    · exact hneg.blank g (List.mem_append_right gap hg)
  · rw [← h.firstToken_append.head?_any]
    exact hneg.token

theorem foldLetter_ne_of_isBlank {c : Char} (h : isBlank c = true) : foldLetter c ≠ 'n' := by
  intro hfold
  have hword : isWordChar c = true := by
    rw [← isWordChar_foldLetter, hfold]
    decide
  rw [isBlank_of_isWordChar hword] at h
  cases h

/-- In what the row for tokens writes, a negation begins with the first character, or in the token. -/
theorem IsNegation.place_cases {kept token : List Char} (hneg : IsNegation s letters gap tail)
    (blank : ∀ g ∈ kept, isBlank g = true) (heq : ['N', 'O', 'T', ' '] ++ kept ++ token = before ++ s) :
    before = [] ∨ ∃ word, before = ['N', 'O', 'T', ' '] ++ kept ++ word ∧ token = word ++ s := by
  rcases List.append_eq_append_iff.1 heq with ⟨word, hbefore, htoken⟩ | ⟨begin, hfront, hs⟩
  · exact .inr ⟨word, hbefore, htoken⟩
  cases before with
  | nil => exact .inl rfl
  | cons b before =>
    cases begin with
    | nil => exact .inr ⟨[], by simpa using hfront.symm, hs.symm⟩
    | cons d begin =>
      have hletter : foldLetter d = 'n' := (hs ▸ hneg).foldLetter_head
      have htail : ['O', 'T', ' '] ++ kept = before ++ d :: begin := (List.cons.inj hfront).2
      have hmem : d ∈ ['O', 'T', ' '] ++ kept := by simp [htail]
      rcases List.mem_append.1 hmem with hmem | hmem
      · simp only [List.mem_cons, List.not_mem_nil, or_false] at hmem
        rcases hmem with rfl | rfl | rfl <;> exact absurd hletter (by decide)
      · exact absurd hletter (foldLetter_ne_of_isBlank (blank d hmem))

/-- A NOT in a token was there before what follows the token was tidied. -/
theorem Tidied.negation_in_token {rest word : List Char} (h : Tidied rest ys) (hne : word ≠ [])
    (hneg : IsNegation (word ++ ys) letters gap tail) :
    ∃ tail', IsNegation (word ++ rest) letters gap tail' ∧ Tidied tail' tail := by
  obtain ⟨c, word, rfl⟩ := List.exists_cons_of_ne_nil hne
  exact (h.append_left word).negation hneg

/-- Where every NOT before a parenthesis is tidy, the row for tokens finds none of these. -/
theorem not_opensGroup_of_notTokenRule {kept : List Char} (h : TidyBefore OpensGroup cs)
    (hneg : IsNegation cs letters (gap ++ kept) tail) (hgap : gap ≠ [])
    (hkept : kept.length = if keepsBlank tail then 1 else 0) : ¬ OpensGroup tail := by
  intro hparen
  obtain ⟨-, hsingle⟩ := h cs (List.suffix_refl cs) _ _ _ hneg hparen
  have hkeeps : keepsBlank tail = true := by
    rw [keepsBlank, show tail.head? = some '(' from hparen]
    rfl
  have hpos := List.length_pos_iff.2 hgap
  have hlength : (gap ++ kept).length = 1 := congrArg List.length hsingle
  rw [List.length_append, hkept, hkeeps, if_pos rfl] at hlength
  omega

/-- A NOT that the row for tokens leaves tidy, between what stands before it and its tail: it is one before a
parenthesis, and so tidy already, or one before a token of several characters that is not in a token itself. -/
def IsReached (before tail : List Char) : Prop :=
  OpensGroup tail ∨ keepsBlank tail = false ∧ ¬ EndsInToken before

/-- Every NOT that the row for tokens reaches is tidy. -/
def TidyWhereReached (cs : List Char) : Prop :=
  ∀ before s letters gap tail, cs = before ++ s → IsNegation s letters gap tail → IsReached before tail →
    letters = ['N', 'O', 'T'] ∧ gap = [' ']

theorem IsReached.of_append {front : List Char} (h : IsReached (front ++ before) tail) : IsReached before tail :=
  h.imp_right fun ⟨hkeeps, hfree⟩ => ⟨hkeeps, fun hin => hfree (hin.append_left front)⟩

/-- A character at which the row for tokens finds nothing. -/
theorem TidyWhereReached.keep {c : Char} (hys : TidyWhereReached ys) (hnone : notTokenRule (c :: xs) = none)
    (hgroups : TidyBefore OpensGroup (c :: xs)) (htidied : Tidied xs ys) : TidyWhereReached (c :: ys) := by
  intro before s letters gap tail heq hneg hreached
  cases before with
  | nil =>
    obtain rfl : c :: ys = s := heq
    obtain ⟨tail', hneg', htail⟩ := htidied.negation hneg
    rcases hreached with hparen | ⟨hkeeps, -⟩
    · exact hgroups _ (List.suffix_refl _) _ _ _ hneg' (htail.head?_eq_parenthesis_iff.2 hparen)
    · -- the row would have found the negation
      have hrule := notTokenRule_eq_some_iff.2 ⟨letters, gap, [], tail', by rwa [List.append_nil], hneg.gap_ne_nil,
        by rw [htail.keepsBlank_eq, hkeeps]; rfl, rfl, rfl⟩
      rw [hnone] at hrule
      cases hrule
  | cons b before =>
    obtain ⟨rfl, hrest⟩ := List.cons.inj heq
    exact hys before s _ _ _ hrest hneg (show IsReached ([c] ++ before) tail from hreached).of_append

/-- A place in the token that a text begins with, behind a NOT. -/
theorem endsInToken_of_firstToken {word rest : List Char} (htail : tail.head?.any (!isBlank ·) = true)
    (hparen : ¬ OpensGroup tail) (hword : firstToken tail = word ++ rest) :
    EndsInToken (['N', 'O', 'T', ' '] ++ word) := by
  refine ⟨[], word, rfl, fun c hc => ?_, fun h => ?_⟩
  · have hmem : c ∈ firstToken tail := by
      rw [hword]
      exact List.mem_append_left rest hc
    simpa using List.mem_takeWhile_imp (p := (!isBlank ·)) hmem
  · obtain ⟨word, rfl⟩ := List.head?_eq_some_iff.1 h
    rw [OpensGroup, ← head?_firstToken htail, hword] at hparen
    exact hparen rfl

/-- A token of a single character has no NOT in it. -/
theorem keepsBlank_eq_false_of_negation {word rest : List Char} (hparen : ¬ OpensGroup tail)
    (hword : firstToken tail = word ++ rest) (hne : rest ≠ []) (hys : ys.head?.any (!isBlank ·) = false)
    (hneg : IsNegation (rest ++ ys) letters gap s) : keepsBlank tail = false := by
  rw [← Bool.not_eq_true]
  intro hkeeps
  have hlength : (firstToken tail).length = 1 := by
    rw [keepsBlank, Bool.or_eq_true, beq_iff_eq, beq_iff_eq] at hkeeps
    exact hkeeps.resolve_left hparen
  have hpos := List.length_pos_iff.2 hne
  rw [hword, List.length_append] at hlength
  obtain ⟨c, rfl⟩ := List.length_eq_one_iff.1 (show rest.length = 1 by omega)
  obtain ⟨n, o, t, rfl⟩ := exists_letters hneg.spelled
  obtain ⟨rfl, rfl⟩ := List.cons.inj hneg.text
  have hblank : (!isBlank o) = false := hys
  rw [not_isBlank_of_not hneg.spelled o (by simp)] at hblank
  cases hblank

section Found

variable {kept letters' gap' tail' : List Char}

/-- The negation that the row for tokens has written. -/
theorem tidy_of_written (hneg : IsNegation cs letters (gap ++ kept) tail)
    (hkept : kept.length = if keepsBlank tail then 1 else 0) (hparen : ¬ OpensGroup tail)
    (htidied : Tidied (tail.drop (firstToken tail).length) ys)
    (hneg' : IsNegation (['N', 'O', 'T', ' '] ++ kept ++ firstToken tail ++ ys) letters' gap' tail')
    (hreached : IsReached before tail') : letters' = ['N', 'O', 'T'] ∧ gap' = [' '] := by
  obtain ⟨rfl, rfl, rfl⟩ := hneg'.unique (isNegation_again hneg htidied)
  rcases hreached with hparen' | ⟨hlong, -⟩
  · exact absurd (htidied.firstToken_append.head?_eq_parenthesis_iff.2 hparen') hparen
  · rw [← htidied.firstToken_append.keepsBlank_eq] at hlong
    obtain rfl := eq_nil_of_not_keepsBlank hkept hlong
    exact ⟨rfl, rfl⟩

/-- A negation in the token behind the one that the row for tokens has written. -/
theorem tidy_in_token {word rest : List Char} (hneg : IsNegation cs letters (gap ++ kept) tail)
    (hkept : kept.length = if keepsBlank tail then 1 else 0) (hparen : ¬ OpensGroup tail)
    (hgroups : TidyBefore OpensGroup cs) (htidied : Tidied (tail.drop (firstToken tail).length) ys)
    (hword : firstToken tail = word ++ rest) (hne : rest ≠ []) (hneg' : IsNegation (rest ++ ys) letters' gap' tail')
    (hreached : IsReached (['N', 'O', 'T', ' '] ++ kept ++ word) tail') :
    letters' = ['N', 'O', 'T'] ∧ gap' = [' '] := by
  rcases hreached with hparen' | ⟨-, hfree⟩
  · -- it stands before a parenthesis, as it did in the text
    obtain ⟨tail'', hneg'', htail⟩ := htidied.negation_in_token hne hneg'
    refine hgroups _ ⟨letters ++ (gap ++ kept) ++ word, ?_⟩ _ _ _ hneg'' (htail.head?_eq_parenthesis_iff.2 hparen')
    have htext : word ++ (rest ++ tail.drop (firstToken tail).length) = tail := by
      rw [← List.append_assoc, ← hword]
      exact takeWhile_append_drop _ tail
    rw [List.append_assoc, htext, List.append_assoc]
    exact hneg.text.symm
  · have hend : ys.head?.any (!isBlank ·) = false := by
      rw [← htidied.head?_any]
      exact head?_drop_firstToken tail
    have hlong := keepsBlank_eq_false_of_negation hparen hword hne hend hneg'
    obtain rfl := eq_nil_of_not_keepsBlank hkept hlong
    exact absurd (endsInToken_of_firstToken hneg.token hparen hword) hfree

/-- A negation that the row for tokens finds, and what follows its token. -/
theorem TidyWhereReached.replace (hys : TidyWhereReached ys) (hneg : IsNegation cs letters (gap ++ kept) tail)
    (hgap : gap ≠ []) (hkept : kept.length = if keepsBlank tail then 1 else 0) (hgroups : TidyBefore OpensGroup cs)
    (htidied : Tidied (tail.drop (firstToken tail).length) ys) :
    TidyWhereReached (['N', 'O', 'T', ' '] ++ kept ++ firstToken tail ++ ys) := by
  intro before s letters' gap' tail' heq hneg' hreached
  have hparen := not_opensGroup_of_notTokenRule hgroups hneg hgap hkept
  have blank : ∀ g ∈ kept, isBlank g = true := fun g hg => hneg.blank g (List.mem_append_right gap hg)
  rw [List.append_assoc] at heq
  rcases hneg'.place_cases blank heq with rfl | ⟨word, rfl, htoken⟩
  · rw [List.nil_append, ← List.append_assoc] at heq
    subst heq
    exact tidy_of_written hneg hkept hparen htidied hneg' hreached
  rcases List.append_eq_append_iff.1 htoken with ⟨rest, rfl, hrest⟩ | ⟨rest, hrest, rfl⟩
  · -- it is behind the token
    rw [← List.append_assoc] at hreached
    exact hys rest s _ _ _ hrest hneg' hreached.of_append
  rcases eq_or_ne rest [] with rfl | hne
  · rw [← List.append_nil (['N', 'O', 'T', ' '] ++ kept ++ word)] at hreached
    exact hys [] _ _ _ _ rfl hneg' hreached.of_append
  · exact tidy_in_token hneg hkept hparen hgroups htidied hrest hne hneg' hreached

end Found

/-- **The row for tokens leaves every NOT tidy that it reaches**, where those before parentheses are so already. -/
theorem tidy_notToken (cs : List Char) (h : TidyBefore OpensGroup cs) :
    TidyWhereReached (Substitution.notToken.apply cs) := by
  revert h
  refine replaceAll_induction (R := fun xs ys => TidyBefore OpensGroup xs → TidyWhereReached ys) ?_ ?_ ?_
    (fun cs out size h => (tidies_notTokenRule cs out size h).1) cs
  · intro _ before s letters gap tail heq hneg
    exact absurd (List.append_eq_nil_iff.1 heq.symm).2 hneg.ne_nil
  · intro c xs hnone ih hgroups
    exact (ih (hgroups.of_suffix (List.suffix_cons c xs))).keep hnone hgroups (tidied_notToken xs)
  · intro xs out size hrule ih hgroups
    obtain ⟨letters, gap, kept, tail, hneg, hgap, hkept, rfl, rfl⟩ := notTokenRule_eq_some_iff.1 hrule
    have hrest := ih (hgroups.of_suffix (List.drop_suffix _ xs))
    rw [hneg.drop] at hrest ⊢
    exact hrest.replace hneg hgap hkept hgroups (tidied_notToken _)

theorem tidyBefore_notToken (h : TidyBefore OpensGroup cs) :
    TidyBefore OpensGroup (Substitution.notToken.apply cs) := by
  rintro s ⟨before, hs⟩ letters gap tail hneg hparen
  exact tidy_notToken cs h before s letters gap tail hs.symm hneg (.inl hparen)

/-- The row for tokens has nothing left to do a second time. -/
theorem notToken_apply_apply (cs : List Char) :
    Substitution.notToken.apply (Substitution.notToken.apply cs) = Substitution.notToken.apply cs := by
  refine replaceAll_idem (fun cs out size h => (tidies_notTokenRule cs out size h).1) ?_ ?_ cs
  · -- what has been written is found again, for its token is the same
    intro cs out size hrule
    obtain ⟨letters, gap, kept, tail, hneg, hgap, hkept, rfl, rfl⟩ := notTokenRule_eq_some_iff.1 hrule
    rw [hneg.drop]
    have htidied : Tidied (tail.drop (firstToken tail).length)
        (replaceAll notTokenRule (tail.drop (firstToken tail).length)) := tidied_notToken _
    refine ⟨by simp, notTokenRule_eq_some_iff.2
      ⟨_, [' '], kept, _, isNegation_again hneg htidied, List.cons_ne_nil _ _, ?_, ?_, ?_⟩⟩
    · rw [← htidied.firstToken_append.keepsBlank_eq]
      exact hkept
    · rw [firstToken_firstToken_append htidied]
    · rw [firstToken_firstToken_append htidied]
      simp only [List.length_append, List.length_cons, List.length_nil]
      omega
  · -- what is found now would have been found before
    intro c cs hnone
    rw [Option.eq_none_iff_forall_ne_some]
    rintro ⟨out, size⟩ hrule
    obtain ⟨letters, gap, kept, tail, hneg, hgap, hkept, -, -⟩ := notTokenRule_eq_some_iff.1 hrule
    obtain ⟨tail', hneg', htail⟩ := (tidied_notToken cs).negation hneg
    have hrule' := notTokenRule_eq_some_iff.2
      ⟨letters, gap, kept, tail', hneg', hgap, by rw [htail.keepsBlank_eq, hkept], rfl, rfl⟩
    rw [hnone] at hrule'
    cases hrule'

end TokenRow

/-! ## Both rows -/

section Rows

variable {xs ys : List Char}

theorem Tidied.length_le (h : Tidied xs ys) : ys.length ≤ xs.length := by
  induction h with
  | nil => exact Nat.le_refl _
  | keep c _ ih => exact Nat.succ_le_succ ih
  | tidy _ hgap _ _ ih =>
    have := List.length_pos_iff.2 hgap
    simp only [List.length_cons, List.length_append]
    omega

/-- The characters of a text that are no blanks, without their case. -/
def inked (cs : List Char) : List Char :=
  (cs.filter (!isBlank ·)).map Char.toUpper

theorem inked_append (xs ys : List Char) : inked (xs ++ ys) = inked xs ++ inked ys := by
  rw [inked, List.filter_append, List.map_append]
  rfl

theorem inked_blank {gap : List Char} (blank : ∀ g ∈ gap, isBlank g = true) : inked gap = [] := by
  have hnone : gap.filter (!isBlank ·) = [] := List.filter_eq_nil_iff.2 fun g hg => by simp [blank g hg]
  rw [inked, hnone]
  rfl

/-- **Tidying changes blanks and the case of letters only.** -/
theorem Tidied.inked_eq (h : Tidied xs ys) : inked ys = inked xs := by
  induction h with
  | nil => rfl
  | @keep c xs ys _ ih => rw [← List.singleton_append, inked_append, ih, ← inked_append, List.singleton_append]
  | @tidy n o t gap xs ys hnot _ blank _ ih =>
    have hletters : inked [n, o, t] = ['N', 'O', 'T'] := by
      have hkeep : [n, o, t].filter (!isBlank ·) = [n, o, t] :=
        List.filter_eq_self.2 fun d hd => by simp [not_isBlank_of_not hnot d hd]
      rw [inked, hkeep, toUpper_of_not hnot]
    calc inked (['N', 'O', 'T', ' '] ++ ys)
        = ['N', 'O', 'T'] ++ inked xs := by
          rw [inked_append, ih]
          rfl
      _ = inked ([n, o, t] ++ (gap ++ xs)) := by
          rw [inked_append, inked_append, hletters, inked_blank blank, List.nil_append]

theorem applyAll_notRows (cs : List Char) :
    applyAll (substitutions.drop 8) cs = Substitution.notToken.apply (Substitution.notGroup.apply cs) := rfl

/-- **The rows for NOT only tidy**: they make no text longer, change blanks and the case of letters only, and have
nothing left to do a second time. -/
theorem applyAll_rows_for_not (cs : List Char) :
    applyAll (substitutions.drop 8) (applyAll (substitutions.drop 8) cs) = applyAll (substitutions.drop 8) cs ∧
      (applyAll (substitutions.drop 8) cs).length ≤ cs.length ∧
      inked (applyAll (substitutions.drop 8) cs) = inked cs := by
  have hgroup := tidied_notGroup cs
  have htoken := tidied_notToken (Substitution.notGroup.apply cs)
  rw [applyAll_notRows, applyAll_notRows]
  refine ⟨?_, htoken.length_le.trans hgroup.length_le, htoken.inked_eq.trans hgroup.inked_eq⟩
  rw [notGroup_apply_eq_self (tidyBefore_notToken (tidyBefore_notGroup cs)), notToken_apply_apply]

end Rows

/-! ## The clause of a query -/

section Clause

variable {query normalized : String}

theorem toList_whereClause_eq_rows (h : isBlankString query = false) :
    (whereClause query).toList = applyAll (substitutions.drop 8) (applyAll wordSubstitutions query.toList) := by
  have hrows : substitutions = wordSubstitutions ++ substitutions.drop 8 := rfl
  rw [toList_whereClause h, ← applyAll_append, ← hrows]

/-- Without words of the vocabulary the rows for NOT are all that there is. -/
theorem toList_whereClause_of_words (h : isBlankString query = false)
    (hwords : ∀ w ∈ runs isWordChar query.toList, isAnyKeyword vocabulary w = false) :
    (whereClause query).toList = applyAll (substitutions.drop 8) query.toList := by
  rw [toList_whereClause_eq_rows h, applyAll_wordSubstitutions_eq_self hwords]

/-- **In the clause of an accepted query every NOT is tidy that the rows reach**: all but those before a token of a
single character and those in the token of a tidy NOT before them. -/
theorem tidyWhereReached_whereClause (h : validate query = .ok normalized) :
    TidyWhereReached (whereClause normalized).toList := by
  rw [toList_whereClause_eq_rows (validate_eq_ok h).2.1, applyAll_notRows]
  exact tidy_notToken _ (tidyBefore_notGroup _)

theorem tidyWhereReached_whereClause_nested :
    validate " not\t(Vegan OR nOt  pie) " = .ok "not\t(Vegan OR nOt  pie)" ∧
      TidyWhereReached (whereClause "not\t(Vegan OR nOt  pie)").toList :=
  have h : validate " not\t(Vegan OR nOt  pie) " = .ok "not\t(Vegan OR nOt  pie)" := by decide
  ⟨h, tidyWhereReached_whereClause h⟩

/-- The others may stay as they are: two blanks before a single character, and two blanks behind a NOT that follows
another one. -/
theorem whereClause_not_tidy :
    (validate "NOT  a" = .ok "NOT  a" ∧ IsNegation (whereClause "NOT  a").toList ['N', 'O', 'T'] [' ', ' '] ['a']) ∧
      validate "NOT not  pie" = .ok "NOT not  pie" ∧
      IsNegation ((whereClause "NOT not  pie").toList.drop 4) ['n', 'o', 't'] [' ', ' '] ['p', 'i', 'e'] := by
  have hletter : validate "NOT  a" = .ok "NOT  a" := by decide
  have htwice : validate "NOT not  pie" = .ok "NOT not  pie" := by decide
  have hclause (query : String) (h : validate query = .ok query)
      (hshort : ∀ w ∈ runs isWordChar query.toList, w.length < 4) :=
    toList_whereClause_of_words (validate_eq_ok h).2.1 fun w hw => isAnyKeyword_vocabulary_of_length (hshort w hw)
  rw [hclause _ hletter (by decide), hclause _ htwice (by decide)]
  exact ⟨⟨hletter, negation?_eq_some_iff.1 (by decide +kernel)⟩, htwice, negation?_eq_some_iff.1 (by decide +kernel)⟩

end Clause

end RecipeSearch.Query
