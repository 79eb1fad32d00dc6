import Mathlib.Data.List.Infix
import RecipeSearch.Proofs.Text.Replace

/-!
# Blanking out several words

Words can be blanked out one after the other, each in the text that the one before it left, or all of them in a single
pass (`blankOutAny`). A blank in the place of a word ends whatever goes on there, so that blanking out never makes a
word that was not there (`isPrefix_of_blankOutAny`) and leaves none (`not_isInfix_blankOutAny`). If besides no word
begins inside another one, none is lost either, and **one pass does what blanking out word after word does**
(`foldl_blankOut`). If none is the beginning of another one either, **it does not matter in which order this is done**
(`foldl_blankOut_perm`).
-/

namespace RecipeSearch.Text

variable {words : List (List Char)} {w : List Char}

/-- The word that stands at the start of a text, the first one of the list if there are several. -/
def wordAt (words : List (List Char)) (cs : List Char) : Option (List Char) :=
  words.find? (·.isPrefixOf cs)

/-- A word at the start of the text is replaced by a blank. -/
def blankAnyRule (words : List (List Char)) : Rule := fun cs =>
  (wordAt words cs).map fun word => ([' '], word.length)

/-- The text with a blank in the place of every word, in a single pass. -/
def blankOutAny (words : List (List Char)) (cs : List Char) : List Char :=
  replaceAll (blankAnyRule words) cs

/-! ## What stands at the start of a text -/

theorem wordAt_eq_none_iff {cs : List Char} : wordAt words cs = none ↔ ∀ word ∈ words, ¬ word <+: cs := by
  simp [wordAt, List.find?_eq_none]

theorem isPrefix_of_wordAt {cs : List Char} (h : wordAt words cs = some w) : w <+: cs := by
  simpa using List.find?_some h

/-- Behind the words of a list another one is looked for only where none of them stands. -/
theorem wordAt_append (words words' : List (List Char)) (cs : List Char) :
    wordAt (words ++ words') cs = (wordAt words cs).or (wordAt words' cs) :=
  List.find?_append

theorem wordAt_singleton (w cs : List Char) : wordAt [w] cs = if w.isPrefixOf cs then some w else none := by
  rw [wordAt, List.find?_singleton]

/-! ## One pass -/

@[simp] theorem blankOutAny_nil (words : List (List Char)) : blankOutAny words [] = [] :=
  replaceAll_nil _

theorem blankOutAny_word (hne : w ≠ []) {rest : List Char} (h : wordAt words (w ++ rest) = some w) :
    blankOutAny words (w ++ rest) = ' ' :: blankOutAny words rest := by
  obtain ⟨c, v, rfl⟩ := List.exists_cons_of_ne_nil hne
  rw [List.cons_append] at h ⊢
  rw [blankOutAny, replaceAll_cons, blankAnyRule, h]
  simp [blankOutAny]

theorem blankOutAny_cons {c : Char} {cs : List Char} (h : wordAt words (c :: cs) = none) :
    blankOutAny words (c :: cs) = c :: blankOutAny words cs := by
  rw [blankOutAny, replaceAll_cons, blankAnyRule, h]
  rfl

/-- A text in which no word begins stays. -/
theorem blankOutAny_append {cs rest : List Char}
    (h : ∀ front back, cs = front ++ back → back ≠ [] → wordAt words (back ++ rest) = none) :
    blankOutAny words (cs ++ rest) = cs ++ blankOutAny words rest := by
  induction cs with
  | nil => rfl
  | cons c cs ih =>
    have hhead : wordAt words (c :: (cs ++ rest)) = none := h [] (c :: cs) rfl (List.cons_ne_nil c cs)
    rw [List.cons_append, blankOutAny_cons hhead, ih, List.cons_append]
    intro front back heq hne
    exact h (c :: front) back (by simp [heq]) hne

theorem blankOut_eq_blankOutAny (w cs : List Char) : blankOut w cs = blankOutAny [w] cs := by
  have hrule : blankRule w = blankAnyRule [w] := by
    funext ds
    rw [blankRule, blankAnyRule, wordAt_singleton]
    split <;> rfl
  rw [blankOut, hrule, blankOutAny]

theorem blankOutAny_no_words (cs : List Char) : blankOutAny [] cs = cs := by
  induction cs with
  | nil => exact blankOutAny_nil []
  | cons c cs ih => rw [blankOutAny_cons rfl, ih]

/-- **Blanking out makes no words**: what stands at the start of the text that is left stood there before. -/
theorem isPrefix_of_blankOutAny {v cs : List Char} (hblank : ' ' ∉ v) (h : v <+: blankOutAny words cs) : v <+: cs := by
  induction v generalizing cs with
  | nil => exact List.nil_prefix
  | cons d v ih =>
    rw [List.mem_cons, not_or] at hblank
    cases cs with
    | nil =>
      rw [blankOutAny_nil] at h
      exact absurd h (by simp)
    | cons c cs =>
      cases hword : wordAt words (c :: cs) with
      | none =>
        rw [blankOutAny_cons hword, List.cons_prefix_cons] at h
        rw [List.cons_prefix_cons]
        exact ⟨h.1, ih hblank.2 h.2⟩
      | some w =>
        -- the text that is left starts with a blank
        rw [blankOutAny, replaceAll_cons, blankAnyRule, hword] at h
        have hd : d = ' ' := (List.cons_prefix_cons.1 h).1
        exact absurd hd.symm hblank.1

/-! ## Words that do not meet -/

/-- An occurrence of `inner` may begin inside one of `outer`, other than at its start. -/
def beginsInside (inner outer : List Char) : Bool :=
  outer.tail.tails.any fun back => back ≠ [] && (back.isPrefixOf inner || inner.isPrefixOf back)

theorem not_isPrefix_of_beginsInside {inner outer : List Char} (h : beginsInside inner outer = false)
    {front back : List Char} (heq : outer = front ++ back) (hfront : front ≠ []) (hback : back ≠ [])
    (rest : List Char) : ¬ inner <+: back ++ rest := by
  intro hinner
  obtain ⟨c, front, rfl⟩ := List.exists_cons_of_ne_nil hfront
  have hmem : back ∈ outer.tail.tails := by
    rw [heq, List.mem_tails]
    exact List.suffix_append front back
  have hnot := List.any_eq_false.1 h back hmem
  have hmeet : back <+: inner ∨ inner <+: back :=
    List.prefix_or_prefix_of_prefix (List.prefix_append back rest) hinner
  simp only [hback, ne_eq, not_false_eq_true, decide_true, Bool.true_and, Bool.or_eq_true,
    List.isPrefixOf_iff_prefix] at hnot
  exact hnot hmeet

/-- Words without blanks, none of which begins inside another one. -/
structure Separate (words : List (List Char)) : Prop where
  ne_nil : ∀ word ∈ words, word ≠ []
  no_blank : ∀ word ∈ words, ' ' ∉ word
  apart : ∀ inner ∈ words, ∀ outer ∈ words, beginsInside inner outer = false

theorem Separate.of_subset {words' : List (List Char)} (h : Separate words) (hsub : words' ⊆ words) :
    Separate words' where
  ne_nil word hword := h.ne_nil word (hsub hword)
  no_blank word hword := h.no_blank word (hsub hword)
  apart inner hinner outer houter := h.apart inner (hsub hinner) outer (hsub houter)

section Pass

variable {rest : List Char}

/-- No word stands where a blank is. -/
theorem wordAt_blank (h : Separate words) (cs : List Char) : wordAt words (' ' :: cs) = none := by
  refine wordAt_eq_none_iff.2 fun word hword hpre => ?_
  obtain ⟨c, word, rfl⟩ := List.exists_cons_of_ne_nil (h.ne_nil word hword)
  have hc : c = ' ' := (List.cons_prefix_cons.1 hpre).1
  exact h.no_blank _ hword (by simp [hc])

/-- A word where none of the others stands is still there when these have been blanked out. -/
theorem blankOutAny_of_separate (h : Separate (words ++ [w])) (hnone : wordAt words (w ++ rest) = none) :
    blankOutAny words (w ++ rest) = w ++ blankOutAny words rest := by
  refine blankOutAny_append fun front back heq hback => wordAt_eq_none_iff.2 fun word hword => ?_
  rcases eq_or_ne front [] with rfl | hfront
  · obtain rfl : w = back := heq
    exact wordAt_eq_none_iff.1 hnone word hword
  · have hapart := h.apart word (List.mem_append_left _ hword) w (List.mem_append_right words List.mem_cons_self)
    exact not_isPrefix_of_beginsInside hapart heq hfront hback rest

/-- Blanking out one more word can be done in the same pass. -/
theorem blankOut_blankOutAny (h : Separate (words ++ [w])) (cs : List Char) :
    blankOut w (blankOutAny words cs) = blankOutAny (words ++ [w]) cs := by
  have hw : w ∈ words ++ [w] := List.mem_append_right words List.mem_cons_self
  have hlast : Separate [w] := h.of_subset (List.subset_append_right words [w])
  rw [blankOut_eq_blankOutAny]
  induction hn : cs.length using Nat.strong_induction_on generalizing cs with
  | _ n ih =>
  subst hn
  have next {v rest : List Char} (hne : v ≠ []) (heq : cs = v ++ rest) :
      blankOutAny [w] (blankOutAny words rest) = blankOutAny (words ++ [w]) rest := by
    refine ih rest.length ?_ rest rfl
    have := List.length_pos_iff.2 hne
    rw [heq, List.length_append]
    omega
  cases hold : wordAt words cs with
  | some v =>
    have hne : v ≠ [] := h.ne_nil v (List.mem_append_left _ (List.mem_of_find?_eq_some hold))
    obtain ⟨rest, rfl⟩ := isPrefix_of_wordAt hold
    have hnew : wordAt (words ++ [w]) (v ++ rest) = some v := by rw [wordAt_append, hold, Option.some_or]
    rw [blankOutAny_word hne hold, blankOutAny_cons (wordAt_blank hlast _), blankOutAny_word hne hnew, next hne rfl]
  | none =>
    have hnew : wordAt (words ++ [w]) cs = wordAt [w] cs := by rw [wordAt_append, hold, Option.none_or]
    by_cases hpre : w <+: cs
    · obtain ⟨rest, rfl⟩ := hpre
      have hne : w ≠ [] := h.ne_nil w hw
      have hhere (rest : List Char) : wordAt [w] (w ++ rest) = some w := by simp [wordAt_singleton]
      rw [blankOutAny_of_separate h hold, blankOutAny_word hne (hhere _), blankOutAny_word hne (hnew.trans (hhere _)),
        next hne rfl]
    · have hnone {cs : List Char} (hpre : ¬ w <+: cs) : wordAt [w] cs = none := by simp [wordAt_singleton, hpre]
      cases cs with
      | nil => simp
      | cons c cs =>
        have hafter : ¬ w <+: c :: blankOutAny words cs := by
          rw [← blankOutAny_cons hold]
          exact fun hpre' => hpre (isPrefix_of_blankOutAny (h.no_blank w hw) hpre')
        rw [blankOutAny_cons hold, blankOutAny_cons (hnone hafter), blankOutAny_cons (hnew.trans (hnone hpre)),
          next (List.cons_ne_nil c []) rfl]

end Pass

/-- **One pass does what blanking out word after word does.** -/
theorem foldl_blankOut (h : Separate words) (cs : List Char) :
    words.foldl (fun text word => blankOut word text) cs = blankOutAny words cs := by
  induction words using List.reverseRecOn with
  | nil => exact (blankOutAny_no_words cs).symm
  | append_singleton words w ih =>
    have hfront : Separate words := h.of_subset (List.subset_append_left words [w])
    rw [List.foldl_append, List.foldl_cons, List.foldl_nil, ih hfront, blankOut_blankOutAny h]

/-! ## What is left -/

/-- A text in which no word occurs stays. -/
theorem blankOutAny_eq_self {cs : List Char} (h : ∀ word ∈ words, ¬ word <:+: cs) : blankOutAny words cs = cs := by
  have hnone : ∀ front back, cs = front ++ back → back ≠ [] → wordAt words (back ++ []) = none := by
    rintro front back rfl -
    rw [List.append_nil]
    exact wordAt_eq_none_iff.2 fun word hword hpre =>
      h word hword (hpre.isInfix.trans (List.suffix_append front back).isInfix)
  simpa using blankOutAny_append hnone

/-- Nothing but blanks comes in. -/
theorem mem_of_mem_blankOutAny (h : Separate words) {cs : List Char} {c : Char} (hc : c ∈ blankOutAny words cs) :
    c = ' ' ∨ c ∈ cs := by
  have hrule {ds out : List Char} {size : Nat} (hsome : blankAnyRule words ds = some (out, size)) :
      out = [' '] ∧ 0 < size := by
    obtain ⟨w, hw, heq⟩ := Option.map_eq_some_iff.1 hsome
    cases heq
    exact ⟨rfl, List.length_pos_iff.2 (h.ne_nil w (List.mem_of_find?_eq_some hw))⟩
  refine replaceAll_related (R := fun xs ys => ∀ c ∈ ys, c = ' ' ∨ c ∈ xs) nofun ?_ ?_ ?_ cs c hc
  · intro d xs ys ih c hc
    rcases List.mem_cons.1 hc with rfl | hc
    · exact .inr List.mem_cons_self
    · exact (ih c hc).imp_right (List.mem_cons_of_mem d)
  · intro ds out size ys hsome ih c hc
    rw [(hrule hsome).1, List.singleton_append] at hc
    rcases List.mem_cons.1 hc with rfl | hc
    · exact .inl rfl
    · exact (ih c hc).imp_right List.mem_of_mem_drop
  · exact fun ds out size hsome => (hrule hsome).2

/-- Where a text is left, no word begins. -/
theorem wordAt_of_isSuffix_blankOutAny (h : Separate words) (cs : List Char) :
    ∀ s, s <:+ blankOutAny words cs → s ≠ [] → wordAt words s = none := by
  induction hn : cs.length using Nat.strong_induction_on generalizing cs with
  | _ n ih =>
  subst hn
  intro s hs hne
  cases cs with
  | nil =>
    rw [blankOutAny_nil] at hs
    exact absurd (List.suffix_nil.1 hs) hne
  | cons c cs =>
    cases hword : wordAt words (c :: cs) with
    | none =>
      rw [blankOutAny_cons hword] at hs
      rcases List.suffix_cons_iff.1 hs with rfl | hs
      · -- a word would have stood there before
        refine wordAt_eq_none_iff.2 fun w hw hpre => wordAt_eq_none_iff.1 hword w hw ?_
        rw [← blankOutAny_cons hword] at hpre
        exact isPrefix_of_blankOutAny (h.no_blank w hw) hpre
      · exact ih cs.length (Nat.lt_succ_self _) cs rfl s hs hne
    | some w =>
      have hw : w ≠ [] := h.ne_nil w (List.mem_of_find?_eq_some hword)
      obtain ⟨rest, heq⟩ := isPrefix_of_wordAt hword
      rw [← heq] at hs hword
      rw [blankOutAny_word hw hword] at hs
      rcases List.suffix_cons_iff.1 hs with rfl | hs
      · exact wordAt_blank h _
      · have hlt : rest.length < (c :: cs).length := by
          have := List.length_pos_iff.2 hw
          rw [← heq, List.length_append]
          omega
        exact ih rest.length hlt rest rfl s hs hne

/-- **No word is left.** -/
theorem not_isInfix_blankOutAny (h : Separate words) (hw : w ∈ words) (cs : List Char) :
    ¬ w <:+: blankOutAny words cs := by
  rintro ⟨front, back, heq⟩
  have hne : w ++ back ≠ [] := by simp [h.ne_nil w hw]
  have hnone := wordAt_of_isSuffix_blankOutAny h cs (w ++ back) ⟨front, by rw [← heq, List.append_assoc]⟩ hne
  exact wordAt_eq_none_iff.1 hnone w hw (List.prefix_append w back)

/-! ## The order of the words -/

/-- No word is the beginning of another one. -/
def PrefixFree (words : List (List Char)) : Prop :=
  ∀ v ∈ words, ∀ w ∈ words, v <+: w → v = w

instance (words : List (List Char)) : Decidable (PrefixFree words) :=
  inferInstanceAs (Decidable (∀ v ∈ words, ∀ w ∈ words, v <+: w → v = w))

/-- If no word is the beginning of another one, the word that stands somewhere does not depend on their order. -/
theorem wordAt_perm {words' : List (List Char)} (hfree : PrefixFree words) (hperm : words'.Perm words)
    (cs : List Char) : wordAt words' cs = wordAt words cs := by
  cases h : wordAt words cs with
  | none =>
    refine wordAt_eq_none_iff.2 fun w hw => ?_
    exact wordAt_eq_none_iff.1 h w (hperm.mem_iff.1 hw)
  | some w =>
    have hw : w ∈ words := List.mem_of_find?_eq_some h
    cases h' : wordAt words' cs with
    | none => exact absurd (isPrefix_of_wordAt h) (wordAt_eq_none_iff.1 h' w (hperm.mem_iff.2 hw))
    | some v =>
      have hv : v ∈ words := hperm.mem_iff.1 (List.mem_of_find?_eq_some h')
      rcases List.prefix_or_prefix_of_prefix (isPrefix_of_wordAt h') (isPrefix_of_wordAt h) with hpre | hpre
      · rw [hfree v hv w hw hpre]
      · rw [hfree w hw v hv hpre]

/-- **It does not matter in which order words are blanked out.** -/
theorem foldl_blankOut_perm {words' : List (List Char)} (h : Separate words) (hfree : PrefixFree words)
    (hperm : words'.Perm words) (cs : List Char) :
    words'.foldl (fun text word => blankOut word text) cs = words.foldl (fun text word => blankOut word text) cs := by
  have hrule : blankAnyRule words' = blankAnyRule words := by
    funext ds
    rw [blankAnyRule, blankAnyRule, wordAt_perm hfree hperm]
  rw [foldl_blankOut h, foldl_blankOut (h.of_subset hperm.subset), blankOutAny, blankOutAny, hrule]

end RecipeSearch.Text
