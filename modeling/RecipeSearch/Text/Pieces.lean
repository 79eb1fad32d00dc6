/-!
# Cutting a text into pieces

`pieces p cs` cuts a text at the characters outside a class `p`: it lists the maximal runs of members of the class and
the single characters between them, and loses nothing (`pieces_text`). `runs p cs` keeps the runs alone; it splits at
separators and drops empty parts, which `parts p cs` keeps. `distinctOn` keeps the first of the elements that agree on a
key.
-/

namespace RecipeSearch.Text

/-- A part of a text that was cut at the characters outside a class. -/
inductive Piece where
  /-- A maximal run of members of the class. -/
  | run (cs : List Char)
  /-- A character outside the class. -/
  | other (c : Char)
  deriving DecidableEq, Repr

namespace Piece

/-- The characters of the piece. -/
def text : Piece → List Char
  | run cs => cs
  | other c => [c]

/-- The run, if the piece is one. -/
def run? : Piece → Option (List Char)
  | run cs => some cs
  | other _ => none

/-- The pieces of a text with one more character in front: a member of the class joins a run that follows it. -/
def cons (p : Char → Bool) (c : Char) (rest : List Piece) : List Piece :=
  if p c then
    match rest with
    | run cs :: rest => run (c :: cs) :: rest
    | rest => run [c] :: rest
  else other c :: rest

@[simp] theorem text_run (cs : List Char) : (run cs).text = cs := rfl

@[simp] theorem text_other (c : Char) : (other c).text = [c] := rfl

theorem flatMap_text_cons (p : Char → Bool) (c : Char) (rest : List Piece) :
    (cons p c rest).flatMap text = c :: rest.flatMap text := by
  unfold cons
  split
  · split <;> simp
  · simp

end Piece

/-- The text cut at the characters outside the class `p`. -/
def pieces (p : Char → Bool) (cs : List Char) : List Piece :=
  cs.foldr (Piece.cons p) []

/-- The maximal runs of members of the class `p`. -/
def runs (p : Char → Bool) (cs : List Char) : List (List Char) :=
  (pieces p cs).filterMap Piece.run?

/-- The parts of a text between the characters outside the class `p`, the empty ones among them. -/
def parts (p : Char → Bool) : List Char → List (List Char)
  | [] => [[]]
  | c :: cs =>
    if p c then
      match parts p cs with
      | part :: rest => (c :: part) :: rest
      | [] => [[c]]
    else [] :: parts p cs

@[simp] theorem pieces_nil (p : Char → Bool) : pieces p [] = [] := rfl

@[simp] theorem pieces_cons (p : Char → Bool) (c : Char) (cs : List Char) :
    pieces p (c :: cs) = Piece.cons p c (pieces p cs) := rfl

/-- **The pieces of a text are the whole text.** -/
theorem pieces_text (p : Char → Bool) (cs : List Char) : (pieces p cs).flatMap Piece.text = cs := by
  induction cs with
  | nil => rfl
  | cons c cs ih => rw [pieces_cons, Piece.flatMap_text_cons, ih]

/-- The elements whose key is not among `seen` and has not come before, in order. -/
def distinctOnFrom [BEq β] (key : α → β) (seen : List β) : List α → List α
  | [] => []
  | a :: as =>
    if seen.contains (key a) then distinctOnFrom key seen as
    else a :: distinctOnFrom key (key a :: seen) as

/-- The elements whose key has not come before, in order. -/
def distinctOn [BEq β] (key : α → β) (as : List α) : List α :=
  distinctOnFrom key [] as

end RecipeSearch.Text
