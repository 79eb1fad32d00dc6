/-!
# Classes of characters, and blanks

A class of the Unicode standard is written down as the ranges of its code points; a character belongs to it when its
code point lies in one of them (`CodePoints.contains`).

`isBlank` is the Unicode property White_Space. Trimming takes blanks off both ends of a text (`trim`), and a text of
blanks alone is blank (`isBlankText`); the two agree: trimming leaves nothing exactly of a blank text
(`trim_eq_nil_iff`).
-/

namespace RecipeSearch.Text

/-- Ranges of code points, both ends included. -/
abbrev CodePoints := List (Nat × Nat)

/-- The code point of `c` lies in one of the ranges. -/
def CodePoints.contains (ranges : CodePoints) (c : Char) : Bool :=
  ranges.any fun range => range.1 ≤ c.toNat && c.toNat ≤ range.2

theorem CodePoints.contains_iff {ranges : CodePoints} {c : Char} :
    ranges.contains c = true ↔ ∃ range ∈ ranges, range.1 ≤ c.toNat ∧ c.toNat ≤ range.2 := by
  simp [CodePoints.contains]

/-! ## Blanks -/

/-- The code points with the property White_Space. -/
def blankRanges : CodePoints := [
  (0x9, 0xd), (0x20, 0x20), (0x85, 0x85), (0xa0, 0xa0), (0x1680, 0x1680), (0x2000, 0x200a), (0x2028, 0x2029),
  (0x202f, 0x202f), (0x205f, 0x205f), (0x3000, 0x3000)]

/-- White space of any kind. -/
def isBlank (c : Char) : Bool :=
  blankRanges.contains c

/-- Nothing but white space. -/
def isBlankText (cs : List Char) : Bool :=
  cs.all isBlank

/-- The text without the blanks before it. -/
def trimStart (cs : List Char) : List Char :=
  cs.dropWhile isBlank

/-- The text without the blanks after it. -/
def trimEnd (cs : List Char) : List Char :=
  (cs.reverse.dropWhile isBlank).reverse

/-- The text without the blanks around it. -/
def trim (cs : List Char) : List Char :=
  trimEnd (trimStart cs)

/-- A string without the blanks around it. -/
def trimmed (s : String) : String :=
  String.ofList (trim s.toList)

/-- A string of blanks alone, or an empty one. -/
def isBlankString (s : String) : Bool :=
  isBlankText s.toList

theorem dropWhile_isBlank_eq_nil_iff {cs : List Char} : cs.dropWhile isBlank = [] ↔ isBlankText cs = true := by
  induction cs with
  | nil => simp [isBlankText]
  | cons c cs ih => by_cases h : isBlank c = true <;> simp_all [isBlankText]

theorem trim_eq_nil_iff {cs : List Char} : trim cs = [] ↔ isBlankText cs = true := by
  have reverse_blank (ds : List Char) : isBlankText ds.reverse = isBlankText ds := by
    simp [isBlankText]
  rw [trim, trimEnd, List.reverse_eq_nil_iff, dropWhile_isBlank_eq_nil_iff, reverse_blank]
  constructor
  · intro h
    match hd : trimStart cs with
    | [] => exact dropWhile_isBlank_eq_nil_iff.1 hd
    | c :: rest =>
      have first : isBlank c = false := by
        have := List.head?_dropWhile_not isBlank cs
        rw [show cs.dropWhile isBlank = c :: rest from hd] at this
        simpa using this
      rw [hd] at h
      simp [isBlankText, first] at h
  · intro h
    rw [trimStart, dropWhile_isBlank_eq_nil_iff.2 h]
    rfl

theorem trimmed_eq_empty_iff {s : String} : trimmed s = "" ↔ isBlankString s = true := by
  rw [trimmed, String.ofList_eq_empty_iff, trim_eq_nil_iff, isBlankString]

end RecipeSearch.Text
