/-!
# Replacing in a text from left to right

A `Rule` looks at what is left of a text and may recognise something at its very start: it then says what to write
instead, and how many characters that takes the place of. `replaceAll` applies a rule at the first place where it
recognises something, goes on after what was replaced, and keeps all other characters. Replacing every occurrence of a
word by a blank is one such rule (`blankOut`).
-/

namespace RecipeSearch.Text

/-- What to write for how many characters at the start of a text, if anything is to be replaced there. -/
abbrev Rule := List Char → Option (List Char × Nat)

/-- The text with everything that the rule recognises replaced; a rule takes at least one character. -/
def replaceAll (rule : Rule) : List Char → List Char
  | [] => []
  | c :: cs =>
    match rule (c :: cs) with
    | some (replacement, size) => replacement ++ replaceAll rule (cs.drop (size - 1))
    | none => c :: replaceAll rule cs
termination_by cs => cs.length
decreasing_by
  · simp only [List.length_drop, List.length_cons]
    omega
  · simp only [List.length_cons]
    omega

@[simp] theorem replaceAll_nil (rule : Rule) : replaceAll rule [] = [] := by
  rw [replaceAll]

theorem replaceAll_cons (rule : Rule) (c : Char) (cs : List Char) :
    replaceAll rule (c :: cs) =
      match rule (c :: cs) with
      | some (replacement, size) => replacement ++ replaceAll rule (cs.drop (size - 1))
      | none => c :: replaceAll rule cs := by
  rw [replaceAll]

/-- A word at the start of the text is replaced by a blank. -/
def blankRule (word : List Char) : Rule := fun cs =>
  if word.isPrefixOf cs then some ([' '], word.length) else none

/-- The text with a blank in the place of every occurrence of the word. -/
def blankOut (word : List Char) (cs : List Char) : List Char :=
  replaceAll (blankRule word) cs

/-- The word occurs somewhere in the text. -/
def occursIn (word : List Char) : List Char → Bool
  | [] => word.isEmpty
  | c :: cs => word.isPrefixOf (c :: cs) || occursIn word cs

end RecipeSearch.Text
