import RecipeSearch.Proofs.Text.Pieces

/-!
# Texts between quotes

Single quotes are paired from left to right, and the texts inside the pairs are the literals of a text (`literals`).
`Quoted P` builds such a text up: quotes come in pairs only, and `P` holds of what is inside each pair. Then the quotes
are twice as many as the literals (`Quoted.count_quote`), and `P` holds of every literal (`Quoted.of_mem_literals`).
-/

namespace RecipeSearch.Text

/-- Every second element, from the second one on. -/
def everySecond {α : Type} : List α → List α
  | _ :: b :: rest => b :: everySecond rest
  | _ => []

/-- The texts between single quotes, which are paired from left to right. -/
def literals (cs : List Char) : List (List Char) :=
  everySecond (parts (· != '\'') cs)

/-! ## Quoted texts -/

/-- The quotes of the text come in pairs, and `P` holds of what is inside each. -/
inductive Quoted (P : List Char → Prop) : List Char → Prop
  | nil : Quoted P []
  | keep {c : Char} {cs : List Char} (hc : c ≠ '\'') : Quoted P cs → Quoted P (c :: cs)
  | literal {l cs : List Char} (hl : P l) (hquote : '\'' ∉ l) : Quoted P cs → Quoted P ('\'' :: (l ++ '\'' :: cs))

namespace Quoted

variable {P : List Char → Prop} {xs ys : List Char}

theorem append (hx : Quoted P xs) (hy : Quoted P ys) : Quoted P (xs ++ ys) := by
  induction hx with
  | nil => exact hy
  | keep hc _ ih => exact .keep hc ih
  | literal hl hquote _ ih =>
    rw [List.cons_append, List.append_assoc, List.cons_append]
    exact .literal hl hquote ih

theorem of_not_mem (h : '\'' ∉ xs) : Quoted P xs := by
  induction xs with
  | nil => exact .nil
  | cons c xs ih =>
    rw [List.mem_cons, not_or] at h
    exact .keep (Ne.symm h.1) (ih h.2)

theorem of_cons {c : Char} (hc : c ≠ '\'') (h : Quoted P (c :: xs)) : Quoted P xs := by
  cases h with
  | keep _ htail => exact htail
  | literal hl hquote htail => exact absurd rfl hc

/-- A front without quotes can be taken away. -/
theorem of_append {front : List Char} (hfront : '\'' ∉ front) (h : Quoted P (front ++ xs)) : Quoted P xs := by
  induction front with
  | nil => exact h
  | cons c front ih =>
    rw [List.mem_cons, not_or] at hfront
    exact ih hfront.2 (of_cons (Ne.symm hfront.1) h)

theorem literals_cons {c : Char} (hc : c ≠ '\'') (cs : List Char) : literals (c :: cs) = literals cs := by
  obtain ⟨part, rest, hparts, hcons⟩ := parts_cons_of_pos (p := (· != '\'')) (c := c) (by simpa using hc) cs
  rw [literals, literals, hcons, hparts]
  cases rest <;> rfl

theorem literals_literal {l : List Char} (hquote : '\'' ∉ l) (cs : List Char) :
    literals ('\'' :: (l ++ '\'' :: cs)) = l :: literals cs := by
  have hl : ∀ d ∈ l, (d != '\'') = true := by
    intro d hd
    rw [bne_iff_ne]
    rintro rfl
    exact hquote hd
  rw [literals, parts_cons_of_neg (by decide), parts_append_other (by decide), parts_word hl]
  rfl

/-- **There are twice as many quotes as literals.** -/
theorem count_quote (h : Quoted P xs) : xs.count '\'' = 2 * (literals xs).length := by
  induction h with
  | nil => rfl
  | keep hc _ ih => rw [List.count_cons_of_ne hc, literals_cons hc, ih]
  | literal hl hquote _ ih =>
    rw [List.count_cons_self, List.count_append, List.count_cons_self, List.count_eq_zero.2 hquote,
      literals_literal hquote, ih, List.length_cons]
    omega

/-- **What is inside the quotes is what it was built from.** -/
theorem of_mem_literals (h : Quoted P xs) : ∀ l ∈ literals xs, P l := by
  induction h with
  | nil => exact fun l hl => absurd hl List.not_mem_nil
  | keep hc _ ih =>
    rw [literals_cons hc]
    exact ih
  | literal hl hquote _ ih =>
    rw [literals_literal hquote]
    intro l' hl'
    rcases List.mem_cons.1 hl' with rfl | hl'
    · exact hl
    · exact ih l' hl'

end Quoted

end RecipeSearch.Text
