import RecipeSearch.Proofs.Text.Pieces
import RecipeSearch.Proofs.Text.Word

/-!
# Scanning a text piece by piece

A scan takes something from some words of a text and from some of the characters between them (`scan`). It can begin
anew wherever no word goes on (`scan_append`). **A scan that takes nothing from blanks finds the same in a trimmed
text** (`scan_trim`).
-/

namespace RecipeSearch.Text

/-- What is taken from the words of a text and the characters between them, in order. -/
def scan {α : Type} (f : Piece → Option α) (cs : List Char) : List α :=
  (pieces isWordChar cs).filterMap f

section Scan

variable {α : Type} {f : Piece → Option α} {xs ys gap : List Char} {c : Char}

theorem scan_nil : scan f [] = [] := rfl

theorem scan_append (h : Apart isWordChar xs ys) : scan f (xs ++ ys) = scan f xs ++ scan f ys := by
  rw [scan, pieces_append h, List.filterMap_append]
  rfl

theorem scan_append_other (hc : isWordChar c = false) (xs ys : List Char) :
    scan f (xs ++ c :: ys) = scan f xs ++ ((f (.other c)).toList ++ scan f ys) := by
  simp only [scan, pieces_append_other hc, List.filterMap_append, List.filterMap_cons]
  cases f (.other c) <;> rfl

theorem scan_word {w : List Char} (hne : w ≠ []) (hw : ∀ c ∈ w, isWordChar c = true) :
    scan f w = (f (.run w)).toList := by
  simp only [scan, pieces_word hne hw, List.filterMap_cons, List.filterMap_nil]
  cases f (.run w) <;> rfl

/-! ## Blanks -/

/-- The scan takes nothing from blanks. -/
def PassesBlanks (f : Piece → Option α) : Prop :=
  ∀ c, isBlank c = true → f (.other c) = none

/-- A blank parts a text without being taken itself. -/
theorem scan_append_blank (hf : PassesBlanks f) (hc : isBlank c = true) (xs ys : List Char) :
    scan f (xs ++ c :: ys) = scan f xs ++ scan f ys := by
  rw [scan_append_other (isWordChar_of_isBlank hc), hf c hc]
  rfl

theorem scan_gap_append (hf : PassesBlanks f) (blank : ∀ g ∈ gap, isBlank g = true) (ys : List Char) :
    scan f (gap ++ ys) = scan f ys := by
  induction gap with
  | nil => rfl
  | cons g gap ih =>
    rw [List.forall_mem_cons] at blank
    exact (scan_append_blank hf blank.1 [] (gap ++ ys)).trans (ih blank.2)

theorem scan_append_gap (hf : PassesBlanks f) (blank : ∀ g ∈ gap, isBlank g = true) (xs : List Char) :
    scan f (xs ++ gap) = scan f xs := by
  cases gap with
  | nil => rw [List.append_nil]
  | cons g gap =>
    rw [List.forall_mem_cons] at blank
    have hgap := scan_gap_append hf blank.2 []
    rw [List.append_nil] at hgap
    rw [scan_append_blank hf blank.1, hgap, scan_nil, List.append_nil]

/-- **Trimming a text takes nothing away from a scan that takes nothing from blanks.** -/
theorem scan_trim (hf : PassesBlanks f) (cs : List Char) : scan f (trim cs) = scan f cs := by
  have hstart (ds : List Char) : scan f (trimStart ds) = scan f ds := by
    conv_rhs => rw [← List.takeWhile_append_dropWhile (p := isBlank) (l := ds)]
    exact (scan_gap_append hf (fun g hg => List.mem_takeWhile_imp hg) _).symm
  have hend (ds : List Char) : scan f (trimEnd ds) = scan f ds := by
    have hsplit : trimEnd ds ++ (ds.reverse.takeWhile isBlank).reverse = ds := by
      rw [trimEnd, ← List.reverse_append, List.takeWhile_append_dropWhile, List.reverse_reverse]
    conv_rhs => rw [← hsplit]
    refine (scan_append_gap hf (fun g hg => ?_) _).symm
    exact List.mem_takeWhile_imp (List.mem_reverse.1 hg)
  rw [trim, hend, hstart]

end Scan

end RecipeSearch.Text
