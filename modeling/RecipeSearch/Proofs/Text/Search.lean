import Mathlib.Data.List.Find
import RecipeSearch.Proofs.Text.Pieces
import RecipeSearch.Proofs.Text.Word

/-!
# Searching a text for whole words

A search goes through a text from left to right. At every place it looks whether one of its keywords stands there,
whatever the case of its letters, with the end of a word on both sides, and takes the first keyword of which this
holds; else it may take a single character. It goes on behind what it has taken (`Pattern.search`).

A keyword is made of word characters, so that it can only be found where it is a whole word of the text. **A search
looks at each word by itself** (`Pattern.search_eq`): it finds the words that spell a keyword and the single
characters, and passes over all else.
-/

namespace RecipeSearch.Text

/-- What is searched for: keywords, in lower case, as whole words, and single characters of a class. -/
structure Pattern where
  keywords : List String
  single : Char → Bool

/-- A word begins or ends between two characters, of which either may be missing at an end of the text. -/
def isBoundary (before after : Option Char) : Bool :=
  before.any isWordChar != after.any isWordChar

/-- The keyword stands at the start of a text that the character `before` stands in front of. -/
def stands (before : Option Char) (cs : List Char) (keyword : String) : Bool :=
  isKeyword keyword (cs.take keyword.toList.length) && isBoundary before cs.head? &&
    isBoundary (cs.take keyword.toList.length).getLast? (cs.drop keyword.toList.length).head?

namespace Pattern

/-- How much is taken at the start of a text that the character `before` stands in front of, if anything is. -/
def sizeAt (p : Pattern) (before : Option Char) (cs : List Char) : Option Nat :=
  match p.keywords.find? (stands before cs) with
  | some keyword => some keyword.toList.length
  | none => if cs.head?.any p.single then some 1 else none

/-- What a search takes, and the characters that it passes over, in a text that the character `before` stands in front
of. -/
def search (p : Pattern) (before : Option Char) : List Char → List Piece
  | [] => []
  | c :: cs =>
    match p.sizeAt before (c :: cs) with
    | some size =>
      .run (c :: cs.take (size - 1)) :: p.search (c :: cs.take (size - 1)).getLast? (cs.drop (size - 1))
    | none => .other c :: p.search (some c) cs
termination_by cs => cs.length
decreasing_by
  · simp only [List.length_drop, List.length_cons]
    omega
  · simp only [List.length_cons]
    omega

/-- What is found in a text, in order. -/
def found (p : Pattern) (cs : List Char) : List (List Char) :=
  (p.search none cs).filterMap Piece.run?

/-- The text with what is found in it replaced. -/
def replace (p : Pattern) (fill : List Char → List Char) (cs : List Char) : List Char :=
  (p.search none cs).flatMap fun
    | .run w => fill w
    | .other c => [c]

/-- Keywords are made of word characters, and the single characters are none. -/
structure IsOfWords (p : Pattern) : Prop where
  keywords : ∀ keyword ∈ p.keywords, keyword.toList ≠ [] ∧ (keyword.toList.all isWordChar) = true
  single : ∀ c, isWordChar c = true → p.single c = false

end Pattern

/-! ## Where a keyword stands -/

section Stands

variable {before : Option Char} {keyword : String} {c : Char}

theorem isWordChar_of_isKeyword (hk : (keyword.toList.all isWordChar) = true) {w : List Char}
    (hw : isKeyword keyword w = true) : ∀ d ∈ w, isWordChar d = true := by
  have hall : ([keyword].all fun k => k.toList.all isWordChar) = true := by simpa using hk
  exact isWordChar_of_isAnyKeyword hall (by simpa [isAnyKeyword] using hw)

theorem length_of_isKeyword {w : List Char} (hw : isKeyword keyword w = true) : w.length = keyword.toList.length := by
  rw [← isKeyword_iff.1 hw, List.length_map]

/-- No keyword stands inside a word. -/
theorem stands_of_inside {d : Char} (hd : isWordChar d = true) (hc : isWordChar c = true) (cs : List Char) :
    stands (some d) (c :: cs) keyword = false := by
  simp [stands, isBoundary, hd, hc]

theorem head?_any_append_other (hc : isWordChar c = false) (xs ys : List Char) :
    (xs ++ c :: ys).head?.any isWordChar = xs.head?.any isWordChar := by
  cases xs with
  | nil => simpa using hc
  | cons x xs => rfl

theorem stands_nil (hne : keyword.toList ≠ []) : stands before [] keyword = false := by
  have hkey : isKeyword keyword [] = false := by
    rw [← Bool.not_eq_true]
    intro h
    exact hne (isKeyword_iff.1 h).symm
  rw [stands, List.take_nil, hkey]
  rfl

/-- A keyword stands in front of a cut if it does so without what is behind the cut. -/
theorem stands_append_other (hne : keyword.toList ≠ []) (hk : (keyword.toList.all isWordChar) = true)
    (hc : isWordChar c = false) (xs ys : List Char) :
    stands before (xs ++ c :: ys) keyword = stands before xs keyword := by
  rcases Nat.lt_or_ge xs.length keyword.toList.length with hlt | hle
  · -- the keyword is too long to end before the cut, and has no character like the one at the cut
    have hshort : isKeyword keyword (xs.take keyword.toList.length) = false := by
      rw [← Bool.not_eq_true]
      intro h
      have := length_of_isKeyword h
      rw [List.length_take] at this
      omega
    have hlong : isKeyword keyword ((xs ++ c :: ys).take keyword.toList.length) = false := by
      rw [← Bool.not_eq_true]
      intro h
      have hmem : c ∈ (xs ++ c :: ys).take keyword.toList.length := by
        rw [List.take_append]
        obtain ⟨n, hn⟩ := Nat.exists_eq_succ_of_ne_zero (n := keyword.toList.length - xs.length) (by omega)
        simp [hn]
      rw [isWordChar_of_isKeyword hk h c hmem] at hc
      cases hc
    simp [stands, hshort, hlong]
  · have hhead : (xs ++ c :: ys).head? = xs.head? := by
      refine List.head?_append_of_ne_nil _ ?_
      rintro rfl
      exact hne (List.length_eq_zero_iff.1 (Nat.le_zero.1 hle))
    rw [stands, stands, List.take_append_of_le_length hle, List.drop_append_of_le_length hle, hhead, isBoundary,
      isBoundary, head?_any_append_other hc]
    rfl

/-- A keyword stands at the start of a word if the word spells it. -/
theorem stands_word (hne : keyword.toList ≠ []) {w : List Char} (hw : ∀ d ∈ w, isWordChar d = true) :
    stands none w keyword = isKeyword keyword w := by
  have hpos : 0 < keyword.toList.length := List.length_pos_iff.2 hne
  rcases Nat.lt_or_ge keyword.toList.length w.length with hlt | hle
  · -- the keyword would end inside the word
    have hkey : isKeyword keyword w = false := by
      rw [← Bool.not_eq_true]
      intro h
      have := length_of_isKeyword h
      omega
    have hlast : ((w.take keyword.toList.length).getLast?).any isWordChar = true := by
      refine getLast?_any_of_forall (List.ne_nil_of_length_pos ?_) fun d hd => hw d (List.mem_of_mem_take hd)
      rw [List.length_take]
      omega
    have hnext : ((w.drop keyword.toList.length).head?).any isWordChar = true := by
      refine head?_any_of_forall (List.ne_nil_of_length_pos ?_) fun d hd => hw d (List.mem_of_mem_drop hd)
      rw [List.length_drop]
      omega
    have hinside : isBoundary (w.take keyword.toList.length).getLast? (w.drop keyword.toList.length).head? = false := by
      rw [isBoundary, hlast, hnext]
      rfl
    rw [stands, hinside, Bool.and_false, hkey]
  · rw [stands, List.take_of_length_le hle, List.drop_of_length_le hle]
    cases hkey : isKeyword keyword w with
    | false => rfl
    | true =>
      have hw' : w ≠ [] := by
        rintro rfl
        have := length_of_isKeyword hkey
        rw [List.length_nil] at this
        omega
      simp [isBoundary, head?_any_of_forall hw' hw, getLast?_any_of_forall hw' hw]

end Stands

/-! ## What a search finds -/

namespace Pattern

variable {p : Pattern} {before before' : Option Char} {c : Char}

theorem search_cons (p : Pattern) (before : Option Char) (c : Char) (cs : List Char) :
    p.search before (c :: cs) =
      match p.sizeAt before (c :: cs) with
      | some size =>
        .run (c :: cs.take (size - 1)) :: p.search (c :: cs.take (size - 1)).getLast? (cs.drop (size - 1))
      | none => .other c :: p.search (some c) cs := by
  rw [search]

@[simp] theorem search_nil (p : Pattern) (before : Option Char) : p.search before [] = [] := by
  rw [search]

/-- Of what stands in front of a text it only matters whether a word goes on from there. -/
theorem search_congr (h : before.any isWordChar = before'.any isWordChar) (cs : List Char) :
    p.search before cs = p.search before' cs := by
  cases cs with
  | nil => rw [search_nil, search_nil]
  | cons c cs =>
    have hstands : stands before (c :: cs) = stands before' (c :: cs) := by
      funext keyword
      unfold stands isBoundary
      rw [h]
    rw [search_cons, search_cons, sizeAt, sizeAt, hstands]

/-- Nothing is taken inside a word. -/
theorem search_of_inside (hp : p.IsOfWords) {d : Char} (hd : isWordChar d = true) {w : List Char}
    (hw : ∀ c ∈ w, isWordChar c = true) : p.search (some d) w = w.map .other := by
  induction w generalizing d with
  | nil => exact search_nil p _
  | cons c w ih =>
    have hc : isWordChar c = true := hw c List.mem_cons_self
    have hnone : p.sizeAt (some d) (c :: w) = none := by
      have hfind : p.keywords.find? (stands (some d) (c :: w)) = none := by
        simp [List.find?_eq_none, stands_of_inside hd hc]
      simp [sizeAt, hfind, hp.single c hc]
    rw [search_cons, hnone, ih hc fun e he => hw e (List.mem_cons_of_mem _ he)]
    rfl

/-- What a search makes of a piece of a text. -/
def searchPiece (p : Pattern) : Piece → List Piece
  | .run w => if isAnyKeyword p.keywords w then [.run w] else w.map .other
  | .other c => if p.single c then [.run [c]] else [.other c]

/-- A word is taken as a whole or not at all. -/
theorem search_word (hp : p.IsOfWords) {w : List Char} (hne : w ≠ []) (hw : ∀ c ∈ w, isWordChar c = true) :
    p.search none w = p.searchPiece (.run w) := by
  obtain ⟨c, v, rfl⟩ := List.exists_cons_of_ne_nil hne
  have hc : isWordChar c = true := hw c List.mem_cons_self
  have hstands : p.keywords.find? (stands none (c :: v)) = p.keywords.find? (isKeyword · (c :: v)) :=
    List.find?_congr fun keyword hk => stands_word (hp.keywords keyword hk).1 hw
  rw [search_cons, sizeAt, hstands, searchPiece]
  cases hfind : p.keywords.find? (isKeyword · (c :: v)) with
  | some keyword =>
    have hspelled : isKeyword keyword (c :: v) = true := by simpa using List.find?_some hfind
    have hany : isAnyKeyword p.keywords (c :: v) = true :=
      List.any_eq_true.2 ⟨keyword, List.mem_of_find?_eq_some hfind, hspelled⟩
    simp [← length_of_isKeyword hspelled, hany]
  | none =>
    have hany : isAnyKeyword p.keywords (c :: v) = false := by
      simpa [isAnyKeyword] using hfind
    simp [hp.single c hc, hany, search_of_inside hp hc fun d hd => hw d (List.mem_cons_of_mem c hd)]

theorem sizeAt_le {x : Char} {xs : List Char} {size : Nat} (h : p.sizeAt before (x :: xs) = some size) :
    size ≤ xs.length + 1 := by
  unfold sizeAt at h
  split at h
  · next keyword hfind =>
    cases h
    have hstands := List.find?_some hfind
    simp only [stands, Bool.and_eq_true] at hstands
    rw [← length_of_isKeyword hstands.1.1, ← List.length_cons]
    exact List.length_take_le' _ _
  · split at h
    · cases h
      omega
    · cases h

/-- What is taken in front of a cut does not depend on what is behind the cut. -/
theorem sizeAt_append_other (hp : p.IsOfWords) (hc : isWordChar c = false) (x : Char) (xs ys : List Char) :
    p.sizeAt before (x :: (xs ++ c :: ys)) = p.sizeAt before (x :: xs) := by
  have hfind : p.keywords.find? (stands before (x :: (xs ++ c :: ys))) = p.keywords.find? (stands before (x :: xs)) :=
    List.find?_congr fun keyword hk =>
      stands_append_other (hp.keywords keyword hk).1 (hp.keywords keyword hk).2 hc (x :: xs) ys
  rw [sizeAt, hfind]
  rfl

/-- At a cut a single character may be taken. -/
theorem sizeAt_other (hp : p.IsOfWords) (hc : isWordChar c = false) (ys : List Char) :
    p.sizeAt before (c :: ys) = if p.single c then some 1 else none := by
  have hfind : p.keywords.find? (stands before (c :: ys)) = none := by
    rw [List.find?_eq_none]
    intro keyword hk
    have hne := (hp.keywords keyword hk).1
    have hstands : stands before ([] ++ c :: ys) keyword = stands before [] keyword :=
      stands_append_other hne (hp.keywords keyword hk).2 hc [] ys
    rw [List.nil_append] at hstands
    rw [hstands, stands_nil hne]
    exact Bool.false_ne_true
  rw [sizeAt, hfind]
  rfl

/-- A search goes on behind a cut as at the start of a text. -/
theorem search_append_other (hp : p.IsOfWords) (hc : isWordChar c = false) (xs ys : List Char) :
    p.search before (xs ++ c :: ys) = p.search before xs ++ (p.searchPiece (.other c) ++ p.search none ys) := by
  induction before, xs using search.induct p with
  | case1 before =>
    have hbehind : p.search (some c) ys = p.search none ys := search_congr (by simpa using hc) ys
    rw [List.nil_append, search_cons, sizeAt_other hp hc, search_nil, searchPiece]
    cases hsingle : p.single c <;> simp [hbehind]
  | case2 before x xs size hsize ih =>
    have hle : size - 1 ≤ xs.length := by
      have := sizeAt_le hsize
      omega
    rw [List.cons_append, search_cons, search_cons, sizeAt_append_other hp hc, hsize]
    simp only [List.take_append_of_le_length hle, List.drop_append_of_le_length hle, List.cons_append]
    rw [ih]
  | case3 before x xs hnone ih =>
    rw [List.cons_append, search_cons, search_cons, sizeAt_append_other hp hc, hnone]
    simp only [List.cons_append]
    rw [ih]

/-- **A search looks at each word by itself.** -/
theorem search_eq (hp : p.IsOfWords) (cs : List Char) :
    p.search none cs = (pieces isWordChar cs).flatMap p.searchPiece := by
  induction cs using cut_induction (p := isWordChar) with
  | nil => exact search_nil p none
  | word w hne hw => rw [search_word hp hne hw, pieces_word hne hw, List.flatMap_singleton]
  | cut xs c ys hc ihx ihy =>
    rw [search_append_other hp hc, pieces_append_other hc, List.flatMap_append, List.flatMap_cons, ihx, ihy]

/-- What is found in a piece of a text. -/
def foundPiece (p : Pattern) : Piece → Option (List Char)
  | .run w => if isAnyKeyword p.keywords w then some w else none
  | .other c => if p.single c then some [c] else none

/-- **What is found are the words that spell a keyword, and the single characters.** -/
theorem found_eq (hp : p.IsOfWords) (cs : List Char) :
    p.found cs = (pieces isWordChar cs).filterMap p.foundPiece := by
  rw [found, search_eq hp]
  induction pieces isWordChar cs with
  | nil => rfl
  | cons q ps ih =>
    rw [List.flatMap_cons, List.filterMap_append, ih, List.filterMap_cons]
    cases q with
    | run w => cases hw : isAnyKeyword p.keywords w <;> simp [searchPiece, foundPiece, hw, Piece.run?]
    | other c => cases hc : p.single c <;> simp [searchPiece, foundPiece, hc, Piece.run?]

/-- What a piece of a text is replaced with. -/
def replacePiece (p : Pattern) (fill : List Char → List Char) : Piece → List Char
  | .run w => if isAnyKeyword p.keywords w then fill w else w
  | .other c => if p.single c then fill [c] else [c]

/-- **What is replaced are the words that spell a keyword, and the single characters.** -/
theorem replace_eq (hp : p.IsOfWords) (fill : List Char → List Char) (cs : List Char) :
    p.replace fill cs = (pieces isWordChar cs).flatMap (p.replacePiece fill) := by
  rw [replace, search_eq hp, List.flatMap_assoc]
  refine List.flatMap_congr fun q _ => ?_
  cases q with
  | run w => cases hw : isAnyKeyword p.keywords w <;> simp [searchPiece, replacePiece, hw, List.flatMap_map]
  | other c => cases hc : p.single c <;> simp [searchPiece, replacePiece, hc]

end Pattern

end RecipeSearch.Text
