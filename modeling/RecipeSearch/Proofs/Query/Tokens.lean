import RecipeSearch.Proofs.Text.Search
import RecipeSearch.Query.Breakdown

/-!
# The tokens of a query

A query is split from left to right into blanks, operators, which are the parentheses and the words that join terms,
and the longest pieces of what remains (`IsSplit`). `tokens` builds such a split from the words of the query. **It is
the only one** (`tokens_eq_iff`).
-/

namespace RecipeSearch.Query

open Text

/-- A part of a query. -/
inductive Token where
  | blank (c : Char)
  | operator (cs : List Char)
  | term (cs : List Char)
  deriving DecidableEq, Repr

namespace Token

/-- The characters of the token. -/
def text : Token → List Char
  | blank c => [c]
  | operator cs => cs
  | term cs => cs

/-- The operator, if the token is one. -/
def operator? : Token → Option (List Char)
  | operator cs => some cs
  | _ => none

/-- The term, if the token is one. -/
def term? : Token → Option (List Char)
  | term cs => some cs
  | _ => none

end Token

/-- The characters of some tokens. -/
def textOf (ts : List Token) : List Char :=
  ts.flatMap Token.text

/-- Between two texts stands a parenthesis, or an operator in any case that is a whole word there. -/
def IsOperatorAt (before cs after : List Char) : Prop :=
  (∃ c, isParenthesis c = true ∧ cs = [c]) ∨
    (isAnyKeyword operatorWords cs = true ∧ isBoundary before.getLast? cs.head? = true ∧
      isBoundary cs.getLast? after.head? = true)

/-- The tokens split what comes behind the text `before`. No operator stands anywhere in a term, and no two terms are
next to each other. -/
inductive IsSplit : List Char → List Token → Prop
  | nil {before : List Char} : IsSplit before []
  | blank {before : List Char} {c : Char} {ts : List Token} (hc : isBlank c = true) :
      IsSplit (before ++ [c]) ts → IsSplit before (.blank c :: ts)
  | operator {before cs : List Char} {ts : List Token} (hcs : IsOperatorAt before cs (textOf ts)) :
      IsSplit (before ++ cs) ts → IsSplit before (.operator cs :: ts)
  | term {before cs : List Char} {ts : List Token} (hne : cs ≠ []) (hblank : ∀ c ∈ cs, isBlank c = false)
      (hnone : ∀ front word back, cs = front ++ word ++ back →
        ¬ IsOperatorAt (before ++ front) word (back ++ textOf ts))
      (hlongest : ∀ t, ts.head? = some t → t.term? = none) :
      IsSplit (before ++ cs) ts → IsSplit before (.term cs :: ts)

/-! ## Building a split -/

/-- A text in front of some tokens that belongs to a term. -/
def extend (cs : List Char) : List Token → List Token
  | .term word :: ts => .term (cs ++ word) :: ts
  | ts => .term cs :: ts

/-- A piece of a query in front of some tokens. -/
def push : Piece → List Token → List Token
  | .run w, ts => if isAnyKeyword operatorWords w then .operator w :: ts else extend w ts
  | .other c, ts =>
    if isParenthesis c then .operator [c] :: ts
    else if isBlank c then .blank c :: ts
    else extend [c] ts

/-- The tokens of a query. -/
def tokens (cs : List Char) : List Token :=
  (pieces isWordChar cs).foldr push []

@[simp] theorem textOf_cons (t : Token) (ts : List Token) : textOf (t :: ts) = t.text ++ textOf ts := by
  simp [textOf]

theorem textOf_extend (cs : List Char) (ts : List Token) : textOf (extend cs ts) = cs ++ textOf ts := by
  unfold extend
  split <;> simp [Token.text]

theorem textOf_push (q : Piece) (ts : List Token) : textOf (push q ts) = q.text ++ textOf ts := by
  cases q with
  | run w =>
    rw [push]
    split
    · simp [Token.text]
    · exact textOf_extend w ts
  | other c =>
    rw [push]
    split
    · simp [Token.text]
    split
    · simp [Token.text]
    · exact textOf_extend [c] ts

theorem textOf_foldr_push (ps : List Piece) : textOf (ps.foldr push []) = ps.flatMap Piece.text := by
  induction ps with
  | nil => rfl
  | cons q ps ih => rw [List.foldr_cons, textOf_push, ih, List.flatMap_cons]

/-- The tokens of a query are the whole query. -/
theorem textOf_tokens (cs : List Char) : textOf (tokens cs) = cs := by
  rw [tokens, textOf_foldr_push, pieces_text]

/-! ## Operators and words -/

section Operators

variable {before cs after : List Char}

theorem isWordChar_of_operatorWord (h : isAnyKeyword operatorWords cs = true) : ∀ c ∈ cs, isWordChar c = true :=
  isWordChar_of_isAnyKeyword (by decide) h

theorem operatorWord_ne_nil (h : isAnyKeyword operatorWords cs = true) : cs ≠ [] := by
  rintro rfl
  exact absurd h (by decide)

theorem isParenthesis_iff {c : Char} : isParenthesis c = true ↔ c = '(' ∨ c = ')' := by
  simp [isParenthesis]

theorem isWordChar_of_isParenthesis {c : Char} (h : isParenthesis c = true) : isWordChar c = false := by
  rcases isParenthesis_iff.1 h with rfl | rfl <;> decide

theorem isBlank_of_isParenthesis {c : Char} (h : isParenthesis c = true) : isBlank c = false := by
  rcases isParenthesis_iff.1 h with rfl | rfl <;> decide

theorem not_isParenthesis_of_isWordChar {c : Char} (h : isWordChar c = true) : isParenthesis c = false := by
  rw [← Bool.not_eq_true]
  intro hparen
  rw [isWordChar_of_isParenthesis hparen] at h
  cases h

theorem not_isParenthesis_of_isBlank {c : Char} (h : isBlank c = true) : isParenthesis c = false := by
  rw [← Bool.not_eq_true]
  intro hparen
  rw [isBlank_of_isParenthesis hparen] at h
  cases h

/-- A word that joins terms is an operator where no word goes on on either side of it. -/
theorem isOperatorAt_word_iff (h : isAnyKeyword operatorWords cs = true) :
    IsOperatorAt before cs after ↔
      before.getLast?.any isWordChar = false ∧ after.head?.any isWordChar = false := by
  have hne := operatorWord_ne_nil h
  have hword := isWordChar_of_operatorWord h
  have hhead := head?_any_of_forall hne hword
  have hlast := getLast?_any_of_forall hne hword
  constructor
  · rintro (⟨c, hc, rfl⟩ | ⟨-, hbefore, hafter⟩)
    · have := hword c List.mem_cons_self
      rw [isWordChar_of_isParenthesis hc] at this
      cases this
    · simpa [isBoundary, hhead, hlast] using And.intro hbefore hafter
  · rintro ⟨hbefore, hafter⟩
    exact .inr ⟨h, by simp [isBoundary, hhead, hbefore], by simp [isBoundary, hlast, hafter]⟩

theorem IsOperatorAt.ne_nil (h : IsOperatorAt before cs after) : cs ≠ [] := by
  rcases h with ⟨c, -, rfl⟩ | ⟨h, -⟩
  · exact List.cons_ne_nil c []
  · exact operatorWord_ne_nil h

end Operators

/-! ## The tokens are a split -/

section Split

variable {before cs : List Char} {ts : List Token}

/-- No operator begins inside a word that is none itself. -/
theorem not_isOperatorAt_of_word {w rest : List Char} (hw : ∀ c ∈ w, isWordChar c = true)
    (hkey : isAnyKeyword operatorWords w = false) (hrest : rest.head?.any isWordChar = false)
    {front word back : List Char} (hlt : front.length < w.length) (heq : w ++ rest = front ++ (word ++ back)) :
    ¬ IsOperatorAt (before ++ front) word back := by
  intro hop
  obtain ⟨v, rfl, hv⟩ : ∃ v, w = front ++ v ∧ word ++ back = v ++ rest := by
    rcases List.append_eq_append_iff.1 heq with ⟨v, rfl, -⟩ | h
    · rw [List.length_append] at hlt
      omega
    · exact h
  have hvne : v ≠ [] := by
    rintro rfl
    simp at hlt
  have hvword : ∀ c ∈ v, isWordChar c = true := fun c hc => hw c (List.mem_append_right front hc)
  have hhead : (word ++ back).head?.any isWordChar = true := by
    rw [hv, List.head?_append_of_ne_nil v hvne]
    exact head?_any_of_forall hvne hvword
  rcases hop with ⟨c, hc, rfl⟩ | ⟨hword, hop⟩
  · rw [List.singleton_append, List.head?_cons, Option.any_some, isWordChar_of_isParenthesis hc] at hhead
    cases hhead
  · obtain ⟨hfront, hback⟩ := (isOperatorAt_word_iff hword).1 (.inr ⟨hword, hop⟩)
    -- the operator begins where the word begins, and both are followed by the end of a word
    obtain rfl : front = [] := by
      by_contra hne
      have hlast := getLast?_any_of_forall hne fun c hc => hw c (List.mem_append_left v hc)
      rw [List.getLast?_append_of_ne_nil before hne, hlast] at hfront
      cases hfront
    have hpieces := pieces_word_append (operatorWord_ne_nil hword) (isWordChar_of_operatorWord hword) hback
    rw [hv, pieces_word_append hvne hvword hrest] at hpieces
    obtain rfl : v = word := by simpa using (List.cons.inj hpieces).1
    rw [List.nil_append, hword] at hkey
    cases hkey

/-- No operator begins with a character that is neither a word character nor a parenthesis. -/
theorem not_isOperatorAt_of_other {c : Char} (hc : isWordChar c = false) (hparen : isParenthesis c = false)
    {word back rest : List Char} (heq : c :: rest = word ++ back) : ¬ IsOperatorAt before word back := by
  rintro (⟨d, hd, rfl⟩ | ⟨hword, -⟩)
  · obtain ⟨rfl, -⟩ := List.cons.inj heq
    rw [hparen] at hd
    cases hd
  · obtain ⟨d, word, rfl⟩ := List.exists_cons_of_ne_nil (operatorWord_ne_nil hword)
    obtain ⟨rfl, -⟩ := List.cons.inj heq
    rw [isWordChar_of_operatorWord hword c List.mem_cons_self] at hc
    cases hc

/-- A text joins a term behind it. -/
theorem IsSplit.extend (h : IsSplit (before ++ cs) ts) (hne : cs ≠ []) (hblank : ∀ c ∈ cs, isBlank c = false)
    (hnone : ∀ front word back, front.length < cs.length → cs ++ textOf ts = front ++ (word ++ back) →
      ¬ IsOperatorAt (before ++ front) word back) : IsSplit before (extend cs ts) := by
  unfold Query.extend
  split
  · next v ts =>
    cases h with
    | term hne' hblank' hnone' hlongest htail =>
      refine .term (by simp [hne]) (fun c hc => ?_) (fun front word back heq hop => ?_) hlongest ?_
      · rcases List.mem_append.1 hc with hc | hc
        · exact hblank c hc
        · exact hblank' c hc
      · rcases Nat.lt_or_ge front.length cs.length with hlt | hle
        · refine hnone front word (back ++ textOf ts) hlt ?_ hop
          rw [textOf_cons, Token.text, ← List.append_assoc, heq]
          simp
        · obtain ⟨front, rfl⟩ : cs <+: front :=
            List.prefix_of_prefix_length_le (List.prefix_append cs v) ⟨word ++ back, by simp [heq]⟩ hle
          refine hnone' front word back ?_ (by simpa using hop)
          simpa using heq
      · simpa using htail
  · next hstart =>
    refine .term hne hblank (fun front word back heq hop => ?_) (fun t ht => ?_) h
    · refine hnone front word (back ++ textOf ts) ?_ (by simp [heq]) hop
      have := List.length_pos_iff.2 hop.ne_nil
      simp only [heq, List.length_append]
      omega
    · cases t with
      | blank c => rfl
      | operator cs => rfl
      | term v =>
        obtain ⟨ts, rfl⟩ := List.head?_eq_some_iff.1 ht
        exact absurd rfl (hstart v ts)

/-- The tokens that are built from pieces split the text of these. -/
theorem isSplit_foldr_push {ps : List Piece} (h : IsCut isWordChar ps)
    (hbefore : Apart isWordChar before (ps.flatMap Piece.text)) : IsSplit before (ps.foldr push []) := by
  induction h generalizing before with
  | nil => exact .nil
  | @run w ps hne hw hnext _ ih =>
    have hrest : IsSplit (before ++ w) (ps.foldr push []) := ih (.inr hnext)
    rw [← textOf_foldr_push] at hnext
    rw [List.foldr_cons, push]
    split
    · next hkey =>
      refine .operator ((isOperatorAt_word_iff hkey).2 ⟨?_, hnext⟩) hrest
      rcases hbefore with hbefore | hbefore
      · exact hbefore
      · rw [List.flatMap_cons, Piece.text_run, List.head?_append_of_ne_nil w hne, head?_any_of_forall hne hw] at hbefore
        cases hbefore
    · next hkey =>
      refine hrest.extend hne (fun c hc => isBlank_of_isWordChar (hw c hc)) fun front word back hlt heq => ?_
      exact not_isOperatorAt_of_word hw (by simpa using hkey) hnext hlt heq
  | @other c ps hc _ ih =>
    have hrest : IsSplit (before ++ [c]) (ps.foldr push []) := ih (.inl (by simpa using hc))
    rw [List.foldr_cons, push]
    split
    · next hparen => exact .operator (.inl ⟨c, hparen, rfl⟩) hrest
    split
    · next hblank => exact .blank hblank hrest
    · next hparen hblank =>
      refine hrest.extend (List.cons_ne_nil c []) (by simpa using hblank) fun front word back hlt heq => ?_
      obtain rfl : front = [] := by simpa using hlt
      exact not_isOperatorAt_of_other hc (by simpa using hparen) heq

theorem isSplit_tokens (cs : List Char) : IsSplit [] (tokens cs) :=
  isSplit_foldr_push (isCut_pieces _ cs) (.inl rfl)

/-! ## There is no other split -/

/-- The text is not empty and has neither blanks nor operators. -/
structure IsTerm (cs : List Char) : Prop where
  ne_nil : cs ≠ []
  not_blank : ∀ c ∈ cs, isBlank c = false
  no_operator : ∀ front word back, cs = front ++ word ++ back → ¬ IsOperatorAt front word back

/-- What is an operator inside a text is one where the text stands, if no word goes on on either side of it. -/
theorem IsOperatorAt.of_apart {front word back after : List Char} (h : IsOperatorAt front word back)
    (hcs : cs = front ++ word ++ back) (hbefore : Apart isWordChar before cs) (hafter : Apart isWordChar cs after) :
    IsOperatorAt (before ++ front) word (back ++ after) := by
  rcases h with ⟨c, hc, rfl⟩ | ⟨hkey, hop⟩
  · exact .inl ⟨c, hc, rfl⟩
  have hne : word ≠ [] := operatorWord_ne_nil hkey
  have hw := isWordChar_of_operatorWord hkey
  obtain ⟨hfront, hback⟩ := (isOperatorAt_word_iff hkey).1 (.inr ⟨hkey, hop⟩)
  refine (isOperatorAt_word_iff hkey).2 ⟨?_, ?_⟩
  · cases front with
    | nil =>
      rw [hcs, List.nil_append, Apart, List.head?_append_of_ne_nil word hne, head?_any_of_forall hne hw] at hbefore
      simpa using hbefore
    | cons c front => rwa [List.getLast?_append_cons]
  · cases back with
    | nil =>
      rw [hcs, List.append_nil, Apart, List.getLast?_append_of_ne_nil front hne,
        getLast?_any_of_forall hne hw] at hafter
      simpa using hafter
    | cons c back => exact hback

/-- Behind a term no word goes on that it ends with. -/
theorem IsSplit.apart_term (hts : IsSplit (before ++ cs) ts) (hne : cs ≠ [])
    (hlongest : ∀ t, ts.head? = some t → t.term? = none) : Apart isWordChar cs (textOf ts) := by
  cases hts with
  | nil => exact .inr rfl
  | blank hc => exact .inr (by simpa [Token.text] using isWordChar_of_isBlank hc)
  | @operator _ word ts hop =>
    rcases hop with ⟨c, hc, rfl⟩ | ⟨hword, hop⟩
    · exact .inr (by simpa [Token.text] using isWordChar_of_isParenthesis hc)
    · obtain ⟨hbefore, -⟩ := (isOperatorAt_word_iff hword).1 (.inr ⟨hword, hop⟩)
      rw [List.getLast?_append_of_ne_nil before hne] at hbefore
      exact .inl hbefore
  | term => exact absurd (hlongest _ rfl) (by simp [Token.term?])

/-- What holds of a split can be shown token by token, without regard to what stands before it. -/
theorem IsSplit.token_induction {motive : List Token → Prop} (nil : motive [])
    (blank : ∀ {c ts}, isBlank c = true → motive ts → motive (.blank c :: ts))
    (parenthesis : ∀ {c ts}, isParenthesis c = true → motive ts → motive (.operator [c] :: ts))
    (word : ∀ {cs ts}, isAnyKeyword operatorWords cs = true → (textOf ts).head?.any isWordChar = false → motive ts →
      motive (.operator cs :: ts))
    (term : ∀ {cs ts}, IsTerm cs → Apart isWordChar cs (textOf ts) → (∀ t, ts.head? = some t → t.term? = none) →
      motive ts → motive (.term cs :: ts))
    (h : IsSplit before ts) (hbefore : Apart isWordChar before (textOf ts)) : motive ts := by
  induction h with
  | nil => exact nil
  | blank hc _ ih => exact blank hc (ih (.inl (by simpa using isWordChar_of_isBlank hc)))
  | operator hop _ ih =>
    rcases hop with ⟨c, hc, rfl⟩ | ⟨hkey, hop⟩
    · exact parenthesis hc (ih (.inl (by simpa using isWordChar_of_isParenthesis hc)))
    · have hafter := ((isOperatorAt_word_iff hkey).1 (.inr ⟨hkey, hop⟩)).2
      exact word hkey hafter (ih (.inr hafter))
  | @term before cs ts hne hblank hnone hlongest htail ih =>
    have hafter : Apart isWordChar cs (textOf ts) := htail.apart_term hne hlongest
    have hbefore : Apart isWordChar before cs := by
      rwa [textOf_cons, Token.text, Apart, List.head?_append_of_ne_nil cs hne] at hbefore
    refine term ⟨hne, hblank, fun front word back hcs hop => ?_⟩ hafter hlongest (ih ?_)
    · exact hnone front word back hcs (hop.of_apart hcs hbefore hafter)
    · rwa [Apart, List.getLast?_append_of_ne_nil before hne]

theorem extend_of_longest (hlongest : ∀ t, ts.head? = some t → t.term? = none) (cs : List Char) :
    Query.extend cs ts = .term cs :: ts := by
  unfold Query.extend
  split
  · exact absurd (hlongest _ rfl) (by simp [Token.term?])
  · rfl

/-- Pieces that are neither blanks nor operators become a term. -/
theorem foldr_push_of_term {ps : List Piece} (hne : ps ≠ [])
    (hps : ∀ q ∈ ps, ∀ ts, push q ts = Query.extend q.text ts) (hlongest : ∀ t, ts.head? = some t → t.term? = none) :
    ps.foldr push ts = .term (ps.flatMap Piece.text) :: ts := by
  induction ps with
  | nil => exact absurd rfl hne
  | cons q ps ih =>
    rw [List.foldr_cons, hps q List.mem_cons_self]
    cases ps with
    | nil => simp [extend_of_longest hlongest]
    | cons q' ps =>
      rw [ih (List.cons_ne_nil q' ps) fun r hr => hps r (List.mem_cons_of_mem q hr), List.flatMap_cons]
      rfl

theorem IsTerm.not_isParenthesis (h : IsTerm cs) {c : Char} (hc : c ∈ cs) : isParenthesis c = false := by
  rw [← Bool.not_eq_true]
  intro hparen
  obtain ⟨front, back, heq⟩ := List.append_of_mem hc
  exact h.no_operator front [c] back (by simp [heq]) (.inl ⟨c, hparen, rfl⟩)

/-- A word of a term joins no terms. -/
theorem IsTerm.not_isAnyKeyword (h : IsTerm cs) {w : List Char} (hw : .run w ∈ pieces isWordChar cs) :
    isAnyKeyword operatorWords w = false := by
  rw [← Bool.not_eq_true]
  intro hkey
  obtain ⟨front, back, heq, hfront, hback⟩ := (isCut_pieces _ cs).exists_of_mem_run hw
  rw [pieces_text, ← List.append_assoc] at heq
  exact h.no_operator front w back heq ((isOperatorAt_word_iff hkey).2 ⟨hfront, hback⟩)

/-- A piece of a term is neither a blank nor an operator. -/
theorem IsTerm.push_of_mem (h : IsTerm cs) {q : Piece} (hq : q ∈ pieces isWordChar cs) (ts : List Token) :
    push q ts = Query.extend q.text ts := by
  cases q with
  | run w =>
    rw [push, if_neg (by simp [h.not_isAnyKeyword hq])]
    rfl
  | other c =>
    have hc : c ∈ cs := mem_of_mem_pieces hq (List.mem_singleton.2 rfl)
    rw [push, if_neg (by simp [h.not_isParenthesis hc]), if_neg (by simp [h.not_blank c hc])]
    rfl

/-- A split of a text is the one that is built from its words. -/
theorem IsSplit.foldr_push (h : IsSplit before ts) (hbefore : Apart isWordChar before (textOf ts)) :
    (pieces isWordChar (textOf ts)).foldr push [] = ts := by
  refine h.token_induction (motive := fun ts => (pieces isWordChar (textOf ts)).foldr push [] = ts) rfl ?_ ?_ ?_ ?_
    hbefore
  · intro c ts hc ih
    rw [textOf_cons, Token.text, List.singleton_append, pieces_cons_of_neg (isWordChar_of_isBlank hc), List.foldr_cons,
      ih, push, if_neg (by simp [not_isParenthesis_of_isBlank hc]), if_pos hc]
  · intro c ts hc ih
    rw [textOf_cons, Token.text, List.singleton_append, pieces_cons_of_neg (isWordChar_of_isParenthesis hc),
      List.foldr_cons, ih, push, if_pos hc]
  · intro cs ts hkey hafter ih
    rw [textOf_cons, Token.text,
      pieces_word_append (operatorWord_ne_nil hkey) (isWordChar_of_operatorWord hkey) hafter, List.foldr_cons, ih, push,
      if_pos hkey]
  · intro cs ts hterm hafter hlongest ih
    have hpieces : pieces isWordChar cs ≠ [] := by
      obtain ⟨c, cs, rfl⟩ := List.exists_cons_of_ne_nil hterm.ne_nil
      exact pieces_ne_nil c cs
    rw [textOf_cons, Token.text, pieces_append hafter, List.foldr_append, ih,
      foldr_push_of_term hpieces (fun q hq => hterm.push_of_mem hq) hlongest, pieces_text]

end Split

/-- **A query has one split only.** -/
theorem tokens_eq_iff {cs : List Char} {ts : List Token} : tokens cs = ts ↔ IsSplit [] ts ∧ textOf ts = cs := by
  constructor
  · rintro rfl
    exact ⟨isSplit_tokens cs, textOf_tokens cs⟩
  · rintro ⟨h, rfl⟩
    exact h.foldr_push (.inl rfl)

end RecipeSearch.Query
