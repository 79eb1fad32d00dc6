import RecipeSearch.Proofs.Text.Pieces
import RecipeSearch.Text.Blank

/-!
# Texts that are joined and cut again

Words of a class are joined with a character outside the class between them, and cutting the text gives the same words
back (`runs_intercalate`); what does not have this character in it occurs in the text only if it occurs in one of the
words (`exists_isInfix_of_intercalate`). A text keeps all its characters when it is trimmed if it neither begins nor
ends with a blank (`trim_eq_self`), as a trimmed text does (`trim_trim`) and one that is joined from words without
blanks (`trim_intercalate`).

Between occurrences of a character stand the parts at which `List.splitOn` cuts a text (`runs_ne_eq_filter_splitOn`).
-/

namespace RecipeSearch.Text

/-! ## Cutting what was joined -/

section Words

variable {p : Char → Bool} {sep : Char} {words : List (List Char)}

/-- What holds of the words, and of a word and a text joined when it holds of both, holds of the joined words. -/
theorem intercalate_induction {motive : List Char → Prop} (nil : motive []) (word : ∀ w ∈ words, motive w)
    (join : ∀ w ∈ words, ∀ text, motive text → motive (w ++ sep :: text)) : motive ([sep].intercalate words) := by
  induction words with
  | nil => exact nil
  | cons w words ih =>
    cases words with
    | nil =>
      rw [List.intercalate_singleton]
      exact word w List.mem_cons_self
    | cons v words =>
      rw [List.intercalate_cons_cons, List.append_assoc, List.singleton_append]
      refine join w List.mem_cons_self _ (ih (fun u hu => word u (List.mem_cons_of_mem w hu)) ?_)
      exact fun u hu => join u (List.mem_cons_of_mem w hu)

theorem mem_of_mem_intercalate {c : Char} : c ∈ [sep].intercalate words → c = sep ∨ ∃ w ∈ words, c ∈ w := by
  refine intercalate_induction (motive := fun text => c ∈ text → c = sep ∨ ∃ w ∈ words, c ∈ w) nofun ?_ ?_
  · exact fun w hw hc => .inr ⟨w, hw, hc⟩
  · intro w hw text ih hc
    rcases List.mem_append.1 hc with hc | hc
    · exact .inr ⟨w, hw, hc⟩
    · exact (List.mem_cons.1 hc).elim .inl ih

/-- **Words that were joined are the runs of the text.** -/
theorem runs_intercalate (hsep : p sep = false) (h : ∀ w ∈ words, w ≠ [] ∧ ∀ c ∈ w, p c = true) :
    runs p ([sep].intercalate words) = words := by
  induction words with
  | nil => rfl
  | cons w words ih =>
    obtain ⟨hne, hw⟩ := h w List.mem_cons_self
    cases words with
    | nil =>
      rw [List.intercalate_singleton, runs, pieces_word hne hw]
      rfl
    | cons v words =>
      rw [List.intercalate_cons_cons, List.append_assoc, List.singleton_append,
        runs_word_append hne hw (by simpa using hsep), runs_cons_of_neg hsep,
        ih fun u hu => h u (List.mem_cons_of_mem w hu)]

/-- **Words that were joined are the parts of the text**, also where they are empty. -/
theorem parts_intercalate (hsep : p sep = false) (hne : words ≠ []) (h : ∀ w ∈ words, ∀ c ∈ w, p c = true) :
    parts p ([sep].intercalate words) = words := by
  induction words with
  | nil => exact absurd rfl hne
  | cons w words ih =>
    have hw := h w List.mem_cons_self
    cases words with
    | nil => rw [List.intercalate_singleton, parts_word hw]
    | cons v words =>
      rw [List.intercalate_cons_cons, List.append_assoc, List.singleton_append, parts_append_other hsep, parts_word hw,
        ih (List.cons_ne_nil _ _) fun u hu => h u (List.mem_cons_of_mem w hu), List.singleton_append]

theorem mem_runs {cs w : List Char} (h : w ∈ runs p cs) : w ≠ [] ∧ (∀ c ∈ w, p c = true) ∧ w <:+: cs := by
  obtain ⟨q, hq, hrun⟩ := List.mem_filterMap.1 h
  cases q with
  | other c => cases hrun
  | run v =>
    cases hrun
    obtain ⟨hne, hw⟩ := (isCut_pieces p cs).run_of_mem hq
    obtain ⟨front, back, heq, -, -⟩ := (isCut_pieces p cs).exists_of_mem_run hq
    rw [pieces_text] at heq
    exact ⟨hne, hw, front, back, by rw [heq, List.append_assoc]⟩

/-- The runs of characters other than one are the parts between its occurrences that are not empty. -/
theorem runs_ne_eq_filter_splitOn (sep : Char) (cs : List Char) :
    runs (· ≠ sep) cs = (cs.splitOn sep).filter (· ≠ []) := by
  have hparts : parts (· ≠ sep) cs = cs.splitOn sep := by
    induction cs using cut_induction (p := (· ≠ sep)) with
    | nil => rfl
    | word w hne hw =>
      have hnot : sep ∉ w := fun hmem => by simpa using hw sep hmem
      rw [parts_word hw, List.splitOn_eq_singleton hnot]
    | cut xs c ys hc hxs hys =>
      obtain rfl : c = sep := by simpa using hc
      rw [parts_append_other hc, hxs, hys, List.splitOn_append_cons_self]
  rw [runs_eq_filter_parts, hparts]

theorem head?_intercalate_cons {w : List Char} (hne : w ≠ []) (words : List (List Char)) :
    ([sep].intercalate (w :: words)).head? = w.head? := by
  cases words with
  | nil => rw [List.intercalate_singleton]
  | cons v words => rw [List.intercalate_cons_cons, List.append_assoc, List.head?_append_of_ne_nil w hne]

theorem getLast?_intercalate_concat {w : List Char} (hne : w ≠ []) (words : List (List Char)) :
    ([sep].intercalate (words ++ [w])).getLast? = w.getLast? := by
  induction words with
  | nil => rw [List.nil_append, List.intercalate_singleton]
  | cons v words ih =>
    have hlast : ([sep].intercalate (words ++ [w])).getLast? = some (w.getLast hne) := by
      rw [ih, List.getLast?_eq_some_getLast hne]
    rw [List.cons_append, List.intercalate_cons_of_ne_nil (by simp), List.getLast?_append, hlast,
      List.getLast?_eq_some_getLast hne, Option.some_or]

/-- What occurs around a character that it does not have occurs on one side of it. -/
theorem isInfix_or_isInfix {v xs ys : List Char} (hv : sep ∉ v) (h : v <:+: xs ++ sep :: ys) :
    v <:+: xs ∨ v <:+: ys := by
  obtain ⟨front, back, heq⟩ := h
  rcases List.append_eq_append_iff.1 heq with ⟨zs, rfl, -⟩ | ⟨zs, hfront, hback⟩
  · exact .inl ⟨front, zs, rfl⟩
  · cases zs with
    | nil => exact .inl ⟨front, [], by simpa using hfront⟩
    | cons z zs =>
      obtain ⟨rfl, rfl⟩ := List.cons.inj hback
      -- the occurrence ends behind the character, and so it begins behind it too
      rcases List.append_eq_append_iff.1 hfront with ⟨us, -, rfl⟩ | ⟨us, -, hus⟩
      · exact absurd (List.mem_append_right us List.mem_cons_self) hv
      · cases us with
        | nil =>
          obtain rfl : sep :: zs = v := hus
          exact absurd List.mem_cons_self hv
        | cons u us =>
          obtain ⟨rfl, rfl⟩ := List.cons.inj hus
          exact .inr ⟨us, back, rfl⟩

/-- **What occurs in joined words occurs in one of them.** -/
theorem exists_isInfix_of_intercalate {v : List Char} (hne : v ≠ []) (hv : sep ∉ v) :
    v <:+: [sep].intercalate words → ∃ w ∈ words, v <:+: w := by
  refine intercalate_induction (motive := fun text => v <:+: text → ∃ w ∈ words, v <:+: w) ?_ ?_ ?_
  · exact fun h => absurd (List.infix_nil.1 h) hne
  · exact fun w hw h => ⟨w, hw, h⟩
  · intro w hw text ih h
    rcases isInfix_or_isInfix hv h with h | h
    · exact ⟨w, hw, h⟩
    · exact ih h

end Words

/-! ## Trimming -/

section Trimming

variable {cs : List Char}

theorem dropWhile_isBlank_eq_self (h : cs.head?.any isBlank = false) : cs.dropWhile isBlank = cs := by
  cases cs with
  | nil => rfl
  | cons c cs => exact List.dropWhile_cons_of_neg (by simpa using h)

/-- **A text that neither begins nor ends with a blank is trimmed.** -/
theorem trim_eq_self (hhead : cs.head?.any isBlank = false) (hlast : cs.getLast?.any isBlank = false) :
    trim cs = cs := by
  rw [trim, trimStart, dropWhile_isBlank_eq_self hhead, trimEnd, dropWhile_isBlank_eq_self (by simpa using hlast),
    List.reverse_reverse]

theorem head?_dropWhile_isBlank (cs : List Char) : (cs.dropWhile isBlank).head?.any isBlank = false := by
  have h := List.head?_dropWhile_not isBlank cs
  cases hd : (cs.dropWhile isBlank).head? with
  | none => rfl
  | some c => simpa [hd] using h

theorem trimEnd_isPrefix (cs : List Char) : trimEnd cs <+: cs := by
  rw [trimEnd, ← List.reverse_suffix, List.reverse_reverse]
  exact List.dropWhile_suffix isBlank

theorem getLast?_trim (cs : List Char) : (trim cs).getLast?.any isBlank = false := by
  rw [trim, trimEnd, List.getLast?_reverse]
  exact head?_dropWhile_isBlank _

theorem head?_trim (cs : List Char) : (trim cs).head?.any isBlank = false := by
  obtain ⟨back, heq⟩ := trimEnd_isPrefix (trimStart cs)
  have hstart := head?_dropWhile_isBlank cs
  rw [trim]
  cases hd : trimEnd (trimStart cs) with
  | nil => rfl
  | cons c ds =>
    rw [hd] at heq
    rw [trimStart] at heq
    rw [← heq] at hstart
    exact hstart

/-- **Trimming a second time changes nothing.** -/
theorem trim_trim (cs : List Char) : trim (trim cs) = trim cs :=
  trim_eq_self (head?_trim cs) (getLast?_trim cs)

/-- A text that is joined from words without blanks is trimmed. -/
theorem trim_intercalate {sep : Char} {words : List (List Char)}
    (h : ∀ w ∈ words, w ≠ [] ∧ ∀ c ∈ w, isBlank c = false) :
    trim ([sep].intercalate words) = [sep].intercalate words := by
  refine trim_eq_self ?_ ?_
  · cases words with
    | nil => rfl
    | cons w words =>
      obtain ⟨hne, hblank⟩ := h w List.mem_cons_self
      rw [head?_intercalate_cons hne, List.head?_eq_some_head hne]
      exact hblank _ (List.head_mem hne)
  · rcases List.eq_nil_or_concat words with rfl | ⟨words, w, rfl⟩
    · rfl
    · obtain ⟨hne, hblank⟩ := h w (by simp)
      rw [List.concat_eq_append, getLast?_intercalate_concat hne, List.getLast?_eq_some_getLast hne]
      exact hblank _ (List.getLast_mem hne)

theorem isBlankText_intercalate {sep : Char} {words : List (List Char)}
    (h : ∀ w ∈ words, w ≠ [] ∧ ∀ c ∈ w, isBlank c = false) (hne : words ≠ []) :
    isBlankText ([sep].intercalate words) = false := by
  obtain ⟨w, words, rfl⟩ := List.exists_cons_of_ne_nil hne
  obtain ⟨hw, hblank⟩ := h w List.mem_cons_self
  obtain ⟨text, htext⟩ :=
    List.head?_eq_some_iff.1 ((head?_intercalate_cons hw words).trans (List.head?_eq_some_head hw))
  rw [htext, isBlankText, List.all_cons, hblank _ (List.head_mem hw), Bool.false_and]

theorem mem_of_mem_trim {c : Char} (h : c ∈ trim cs) : c ∈ cs :=
  (List.dropWhile_suffix isBlank).subset ((trimEnd_isPrefix _).subset h)

end Trimming

end RecipeSearch.Text
