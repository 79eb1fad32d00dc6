import Mathlib.Data.List.Basic
import Mathlib.Data.List.Induction
import Mathlib.Data.List.TakeWhile
import RecipeSearch.Text.Pieces

/-!
# Where a text is cut

The pieces of a text follow from its words, its runs of members of a class, and the characters at which it is cut
(`pieces_append_other`, `pieces_word`). What holds of words and goes across a cut holds of every text (`cut_induction`).

The runs are the parts between the other characters that are not empty (`runs_eq_filter_parts`).

A text can be taken apart wherever it is not inside a word (`pieces_append`). **There is just one way to cut a text into
maximal runs and the characters between them**, which is that of `pieces` (`pieces_eq_iff`).
-/

namespace RecipeSearch.Text

variable {p : Char → Bool}

namespace Piece

theorem cons_append_other (x c : Char) (before after : List Piece) :
    cons p x (before ++ other c :: after) = cons p x before ++ other c :: after := by
  unfold cons
  split
  · match before with
    | [] => rfl
    | run cs :: before => rfl
    | other d :: before => rfl
  · rfl

end Piece

/-- A character outside the class cuts the text in two. -/
theorem pieces_append_other {c : Char} (hc : p c = false) (xs ys : List Char) :
    pieces p (xs ++ c :: ys) = pieces p xs ++ .other c :: pieces p ys := by
  induction xs with
  | nil => simp [Piece.cons, hc]
  | cons x xs ih => rw [List.cons_append, pieces_cons, ih, Piece.cons_append_other, pieces_cons]

theorem pieces_cons_of_neg {c : Char} (hc : p c = false) (cs : List Char) :
    pieces p (c :: cs) = .other c :: pieces p cs :=
  pieces_append_other hc [] cs

/-- A word is a piece of its own. -/
theorem pieces_word {w : List Char} (hne : w ≠ []) (hw : ∀ c ∈ w, p c = true) : pieces p w = [.run w] := by
  induction w with
  | nil => exact absurd rfl hne
  | cons c w ih =>
    have hc : p c = true := hw c List.mem_cons_self
    cases w with
    | nil => simp [Piece.cons, hc]
    | cons d w =>
      rw [pieces_cons, ih nofun fun e he => hw e (List.mem_cons_of_mem _ he)]
      simp [Piece.cons, hc]

/-- What holds of words, and of two texts with a cut between them when it holds of both, holds of every text. -/
theorem cut_induction {motive : List Char → Prop} (nil : motive [])
    (word : ∀ w, w ≠ [] → (∀ c ∈ w, p c = true) → motive w)
    (cut : ∀ xs c ys, p c = false → motive xs → motive ys → motive (xs ++ c :: ys)) (cs : List Char) : motive cs := by
  have run (w : List Char) (hw : ∀ c ∈ w, p c = true) : motive w := by
    rcases eq_or_ne w [] with rfl | hne
    · exact nil
    · exact word w hne hw
  match hrest : cs.dropWhile p with
  | [] =>
    refine run cs fun c hc => ?_
    exact List.dropWhile_eq_nil_iff.1 hrest c hc
  | c :: rest =>
    have hc : p c = false := by
      have := List.head?_dropWhile_not p cs
      rw [hrest] at this
      simpa using this
    have hw : ∀ d ∈ cs.takeWhile p, p d = true := fun d hd => List.mem_takeWhile_imp hd
    have hcs : cs.takeWhile p ++ c :: rest = cs := by rw [← hrest, List.takeWhile_append_dropWhile]
    have : rest.length < cs.length := by
      rw [← hcs, List.length_append, List.length_cons]
      omega
    rw [← hcs]
    exact cut _ c rest hc (run _ hw) (cut_induction nil word cut rest)
termination_by cs.length

/-! ## Taking a text apart -/

theorem head?_any_of_forall {w : List Char} (hne : w ≠ []) (hw : ∀ c ∈ w, p c = true) : w.head?.any p = true := by
  obtain ⟨c, w, rfl⟩ := List.exists_cons_of_ne_nil hne
  exact hw c List.mem_cons_self

theorem getLast?_any_of_forall {w : List Char} (hne : w ≠ []) (hw : ∀ c ∈ w, p c = true) :
    w.getLast?.any p = true := by
  rw [List.getLast?_eq_some_getLast hne]
  exact hw _ (List.getLast_mem hne)

/-- No run of members of the class goes on from the first text to the second. -/
def Apart (p : Char → Bool) (xs ys : List Char) : Prop :=
  xs.getLast?.any p = false ∨ ys.head?.any p = false

theorem apart_of_neg {c : Char} (hc : p c = false) (ys : List Char) : Apart p [c] ys :=
  .inl (by simpa using hc)

namespace Piece

/-- A character joins the first of some pieces, whatever stands behind it. -/
theorem cons_cons_append (c : Char) (q : Piece) (ps qs : List Piece) :
    cons p c (q :: ps ++ qs) = cons p c (q :: ps) ++ qs := by
  unfold cons
  split
  · cases q <;> rfl
  · rfl

/-- A character that no run follows is a piece of its own. -/
theorem cons_of_apart {c : Char} {cs : List Char} (h : p c = false ∨ cs.head?.any p = false) :
    cons p c (pieces p cs) = cons p c [] ++ pieces p cs := by
  cases cs with
  | nil => simp
  | cons d cs =>
    rcases h with hc | hd
    · simp [cons, hc]
    · have hd : p d = false := hd
      simp [cons, hd]
      split <;> rfl

end Piece

theorem mem_of_mem_pieces {q : Piece} {cs : List Char} {c : Char} (hq : q ∈ pieces p cs) (hc : c ∈ q.text) :
    c ∈ cs := by
  rw [← pieces_text p cs]
  exact List.mem_flatMap.2 ⟨q, hq, hc⟩

theorem pieces_ne_nil (c : Char) (cs : List Char) : pieces p (c :: cs) ≠ [] := by
  rw [pieces_cons]
  unfold Piece.cons
  split
  · split <;> exact List.cons_ne_nil _ _
  · exact List.cons_ne_nil _ _

/-- **A text can be taken apart outside words.** -/
theorem pieces_append {xs ys : List Char} (h : Apart p xs ys) : pieces p (xs ++ ys) = pieces p xs ++ pieces p ys := by
  induction xs with
  | nil => rfl
  | cons x xs ih =>
    rw [List.cons_append, pieces_cons, pieces_cons]
    cases xs with
    | nil => exact Piece.cons_of_apart h
    | cons y xs =>
      rw [ih h]
      obtain ⟨q, ps, hps⟩ := List.exists_cons_of_ne_nil (pieces_ne_nil (p := p) y xs)
      rw [hps, Piece.cons_cons_append]

/-- A word that ends before a text is a piece in front of it. -/
theorem pieces_word_append {w : List Char} (hne : w ≠ []) (hw : ∀ c ∈ w, p c = true) {ys : List Char}
    (hy : ys.head?.any p = false) : pieces p (w ++ ys) = .run w :: pieces p ys := by
  rw [pieces_append (.inr hy), pieces_word hne hw]
  rfl

theorem runs_cons_of_neg {c : Char} (hc : p c = false) (cs : List Char) : runs p (c :: cs) = runs p cs := by
  rw [runs, pieces_cons_of_neg hc]
  rfl

theorem runs_word_append {w : List Char} (hne : w ≠ []) (hw : ∀ c ∈ w, p c = true) {ys : List Char}
    (hy : ys.head?.any p = false) : runs p (w ++ ys) = w :: runs p ys := by
  rw [runs, pieces_word_append hne hw hy]
  rfl

/-- A word between a text that does not end with a member of the class and one that does not begin with one. -/
theorem mem_runs_between {xs w ys : List Char} (hne : w ≠ []) (hw : ∀ c ∈ w, p c = true)
    (hx : xs.getLast?.any p = false) (hy : ys.head?.any p = false) : w ∈ runs p (xs ++ (w ++ ys)) := by
  refine List.mem_filterMap.2 ⟨.run w, ?_, rfl⟩
  rw [pieces_append (.inl hx), pieces_word_append hne hw hy]
  exact List.mem_append_right _ List.mem_cons_self

/-- The word that a text ends with. -/
theorem exists_last_word (cs : List Char) :
    ∃ front w, cs = front ++ w ∧ (∀ c ∈ w, p c = true) ∧ front.getLast?.any p = false := by
  induction cs using List.reverseRecOn with
  | nil => exact ⟨[], [], rfl, by simp, rfl⟩
  | append_singleton cs c ih =>
    cases hc : p c with
    | false => exact ⟨cs ++ [c], [], (List.append_nil _).symm, by simp, by simpa using hc⟩
    | true =>
      obtain ⟨front, w, rfl, hw, hfront⟩ := ih
      refine ⟨front, w ++ [c], List.append_assoc .., fun d hd => ?_, hfront⟩
      rcases List.mem_append.1 hd with hd | hd
      · exact hw d hd
      · rwa [List.mem_singleton.1 hd]

/-- Classes with the same characters of a text cut it in the same way. -/
theorem pieces_congr {q : Char → Bool} {cs : List Char} (h : ∀ c ∈ cs, p c = q c) : pieces p cs = pieces q cs := by
  induction cs with
  | nil => rfl
  | cons c cs ih =>
    have hc : p c = q c := h c List.mem_cons_self
    rw [pieces_cons, pieces_cons, ih fun d hd => h d (List.mem_cons_of_mem c hd)]
    unfold Piece.cons
    rw [hc]

theorem runs_congr {q : Char → Bool} {cs : List Char} (h : ∀ c ∈ cs, p c = q c) : runs p cs = runs q cs := by
  rw [runs, runs, pieces_congr h]

/-! ## Cuts -/

/-- The pieces are maximal runs of members of the class and characters outside it. -/
inductive IsCut (p : Char → Bool) : List Piece → Prop
  | nil : IsCut p []
  /-- A run is maximal: what follows it does not begin with a member of the class. -/
  | run {w : List Char} {ps : List Piece} (hne : w ≠ []) (hw : ∀ c ∈ w, p c = true)
      (hnext : (ps.flatMap Piece.text).head?.any p = false) : IsCut p ps → IsCut p (.run w :: ps)
  | other {c : Char} {ps : List Piece} (hc : p c = false) : IsCut p ps → IsCut p (.other c :: ps)

theorem isCut_cons (c : Char) {ps : List Piece} (h : IsCut p ps) : IsCut p (Piece.cons p c ps) := by
  unfold Piece.cons
  split
  · next hc =>
    cases h with
    | nil => exact .run (List.cons_ne_nil _ _) (by simpa using hc) rfl .nil
    | run hne hw hnext h => exact .run (List.cons_ne_nil _ _) (List.forall_mem_cons.2 ⟨hc, hw⟩) hnext h
    | other hd h => exact .run (List.cons_ne_nil _ _) (by simpa using hc) hd (.other hd h)
  · next hc => exact .other (by simpa using hc) h

theorem isCut_pieces (p : Char → Bool) (cs : List Char) : IsCut p (pieces p cs) := by
  induction cs with
  | nil => exact .nil
  | cons c cs ih => exact isCut_cons c ih

theorem IsCut.pieces_text {ps : List Piece} (h : IsCut p ps) : pieces p (ps.flatMap Piece.text) = ps := by
  induction h with
  | nil => rfl
  | @run w ps hne hw hnext _ ih =>
    rw [List.flatMap_cons, Piece.text_run, pieces_word_append hne hw hnext, ih]
  | @other c ps hc _ ih => simp [Piece.cons, hc, ih]

/-- **A text is cut in one way only.** -/
theorem pieces_eq_iff {cs : List Char} {ps : List Piece} :
    pieces p cs = ps ↔ IsCut p ps ∧ ps.flatMap Piece.text = cs := by
  constructor
  · rintro rfl
    exact ⟨isCut_pieces p cs, pieces_text p cs⟩
  · rintro ⟨h, rfl⟩
    exact h.pieces_text

theorem IsCut.run_of_mem {ps : List Piece} {w : List Char} (h : IsCut p ps) (hw : .run w ∈ ps) :
    w ≠ [] ∧ ∀ c ∈ w, p c = true := by
  induction h with
  | nil => cases hw
  | run hne hv _ _ ih =>
    rcases List.mem_cons.1 hw with heq | hw
    · cases heq
      exact ⟨hne, hv⟩
    · exact ih hw
  | other _ _ ih =>
    rcases List.mem_cons.1 hw with heq | hw
    · cases heq
    · exact ih hw

/-- A run of a text stands between one that does not end with a member of the class and one that does not begin with
one. -/
theorem IsCut.exists_of_mem_run {ps : List Piece} {w : List Char} (h : IsCut p ps) (hw : .run w ∈ ps) :
    ∃ xs ys, ps.flatMap Piece.text = xs ++ (w ++ ys) ∧ xs.getLast?.any p = false ∧ ys.head?.any p = false := by
  have hrun := h.run_of_mem hw
  induction h with
  | nil => cases hw
  | @run v ps _ _ hnext _ ih =>
    rcases List.mem_cons.1 hw with heq | hw
    · cases heq
      exact ⟨[], _, rfl, rfl, hnext⟩
    · obtain ⟨xs, ys, htext, hx, hy⟩ := ih hw
      refine ⟨v ++ xs, ys, by simp [htext], ?_, hy⟩
      cases xs with
      | nil =>
        -- the run would begin where the one before it ends
        obtain ⟨c, w, rfl⟩ := List.exists_cons_of_ne_nil hrun.1
        rw [htext] at hnext
        exact absurd (hrun.2 c List.mem_cons_self) (by simpa using hnext)
      | cons x xs => rwa [List.getLast?_append_cons]
  | @other c ps hc _ ih =>
    rcases List.mem_cons.1 hw with heq | hw
    · cases heq
    · obtain ⟨xs, ys, htext, hx, hy⟩ := ih hw
      refine ⟨c :: xs, ys, by simp [htext], ?_, hy⟩
      cases xs with
      | nil => simpa using hc
      | cons x xs => rwa [List.getLast?_cons_cons]

/-! ## Parts -/

theorem parts_ne_nil (p : Char → Bool) (cs : List Char) : parts p cs ≠ [] := by
  unfold parts
  split
  · exact List.cons_ne_nil _ _
  · split
    · split <;> exact List.cons_ne_nil _ _
    · exact List.cons_ne_nil _ _

theorem parts_cons_of_neg {c : Char} (hc : p c = false) (cs : List Char) : parts p (c :: cs) = [] :: parts p cs := by
  rw [parts, hc, if_neg Bool.false_ne_true]

/-- A character of the class belongs to the first part. -/
theorem parts_cons_of_pos {c : Char} (hc : p c = true) (cs : List Char) :
    ∃ part rest, parts p cs = part :: rest ∧ parts p (c :: cs) = (c :: part) :: rest := by
  obtain ⟨part, rest, hparts⟩ := List.exists_cons_of_ne_nil (parts_ne_nil p cs)
  refine ⟨part, rest, hparts, ?_⟩
  rw [parts, if_pos hc, hparts]

/-- The parts on both sides of a character outside the class. -/
theorem parts_append_other {c : Char} (hc : p c = false) (xs ys : List Char) :
    parts p (xs ++ c :: ys) = parts p xs ++ parts p ys := by
  induction xs with
  | nil => exact parts_cons_of_neg hc ys
  | cons x xs ih =>
    rw [List.cons_append]
    cases hx : p x with
    | false => rw [parts_cons_of_neg hx, parts_cons_of_neg hx, ih, List.cons_append]
    | true =>
      obtain ⟨part, rest, hparts, hcons⟩ := parts_cons_of_pos hx xs
      rw [parts, if_pos hx, ih, hparts, hcons]
      rfl

theorem parts_word {w : List Char} (hw : ∀ c ∈ w, p c = true) : parts p w = [w] := by
  induction w with
  | nil => rfl
  | cons c w ih =>
    rw [List.forall_mem_cons] at hw
    rw [parts, if_pos hw.1, ih hw.2]

/-- **The runs are the parts that are not empty.** -/
theorem runs_eq_filter_parts (p : Char → Bool) (cs : List Char) : runs p cs = (parts p cs).filter (· ≠ []) := by
  induction cs using cut_induction (p := p) with
  | nil => rfl
  | word w hne hw =>
    rw [runs, pieces_word hne hw, parts_word hw, List.filter_cons_of_pos (by simpa using hne)]
    rfl
  | cut xs c ys hc hxs hys =>
    rw [parts_append_other hc, List.filter_append, ← hxs, ← hys, runs, pieces_append_other hc, List.filterMap_append]
    rfl

end RecipeSearch.Text
