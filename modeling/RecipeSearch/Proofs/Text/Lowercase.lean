import Mathlib.Data.List.Basic
import RecipeSearch.Proofs.Text.Word
import RecipeSearch.Text.Lowercase

/-!
# Texts in lower case

The lower-case form of a character has no other lower-case form (`isLower_of_mem_lowerAt`): forms lie outside all runs
of the table (`lowerRuns_sound`). Hence **a text in lower case stays when it is put in lower case again**
(`lower_lower`). A blank is its own form, and no other character has a blank as its form (`isBlank_of_mem_lowerAt`), so
that a text has blanks in it, or at its ends, if it has them there in lower case (`any_isBlank_lower`,
`head?_lower_any_isBlank`, `getLast?_lower_any_isBlank`). Nor does a character come in that stands before the small
letters of ASCII (`mem_of_mem_lower`).
-/

namespace RecipeSearch.Text

theorem toNat_ofNat_of_isValidChar {n : Nat} (h : n < 0xd800 ∨ 0xdfff < n ∧ n < 0x110000) :
    (Char.ofNat n).toNat = n := by
  have hn : Char.ofNat n = Char.ofNatAux n h := dif_pos h
  rw [hn]
  rfl

/-! ## The table of forms -/

namespace LowerRun

/-- The form of the first character of the run. -/
def low (r : LowerRun) : Nat := (r.first + r.shift).toNat

/-- The form of the last character of the run. -/
def high (r : LowerRun) : Nat := (r.last + r.shift).toNat

/-- The code points from `lo` to `hi` lie outside a range. -/
def isApart (lo hi : Nat) (range : Nat × Nat) : Bool :=
  hi.blt range.1 || range.2.blt lo

/-- No form of the run `r` is in the run `s`: it lies before it, behind it, or between two characters of it. -/
def misses (r s : LowerRun) : Bool :=
  isApart r.low r.high (s.first, s.last) ||
    ((r.first.beq r.last || r.step.beq 2) && s.step.beq 2 && ((r.low + s.first) % 2).beq 1)

/-- The forms of the run are small letters of ASCII or characters outside ASCII. They are no blanks, and no more are the
characters of the run; they are no capital I with a dot, and they have no forms of their own. -/
def isSound (r : LowerRun) : Bool :=
  (isApart r.low r.high (0, 96) && isApart r.low r.high (123, 127)) &&
    isApart r.low r.high (0xd800, 0xdfff) && r.high.blt 0x110000 &&
    (blankRanges.all fun blank => isApart r.first r.last blank && isApart r.low r.high blank) &&
    isApart r.low r.high (0x130, 0x130) && lowerRuns.all r.misses

end LowerRun

/-- **The table is sound.** -/
theorem lowerRuns_sound : (lowerRuns.all LowerRun.isSound) = true := by
  decide +kernel

namespace LowerRun

variable {r s : LowerRun} {c d : Char}

theorem covers_iff : r.covers c = true ↔
    r.first ≤ c.toNat ∧ c.toNat ≤ r.last ∧ (c.toNat - r.first) % r.step = 0 := by
  simp [covers, and_assoc]

theorem isApart_iff {lo hi : Nat} {range : Nat × Nat} :
    isApart lo hi range = true ↔ hi < range.1 ∨ range.2 < lo := by
  simp [isApart]

theorem misses_iff : r.misses s = true ↔
    (r.high < s.first ∨ s.last < r.low) ∨
      ((r.first = r.last ∨ r.step = 2) ∧ s.step = 2) ∧ (r.low + s.first) % 2 = 1 := by
  simp [misses, isApart]

/-- A form is none of the characters of a run that it misses. -/
theorem covers_eq_false_of_misses (h : r.misses s = true) (hpos : 0 < r.low) (hc : r.covers c = true)
    (hd : d.toNat = (c.toNat + r.shift).toNat) : s.covers d = false := by
  rw [← Bool.not_eq_true]
  intro hs
  obtain ⟨hfirst, hlast, hstep⟩ := covers_iff.1 hc
  obtain ⟨hfirst', hlast', hstep'⟩ := covers_iff.1 hs
  rw [low] at hpos
  rcases misses_iff.1 h with hapart | ⟨⟨hsingle, htwo⟩, hodd⟩
  · rw [low, high] at hapart
    omega
  · -- both are counted in steps of two, from an even and from an odd place
    rw [htwo] at hstep'
    rw [low] at hodd
    rcases hsingle with hsingle | hsingle
    · omega
    · rw [hsingle] at hstep
      omega

theorem isBlank_eq_false {lo hi : Nat}
    (h : ∀ blank ∈ blankRanges, hi < blank.1 ∨ blank.2 < lo) (hlo : lo ≤ c.toNat) (hhi : c.toNat ≤ hi) :
    isBlank c = false := by
  rw [← Bool.not_eq_true, isBlank, CodePoints.contains_iff]
  rintro ⟨blank, hmem, hb⟩
  have := h blank hmem
  omega

/-- What a form is like. -/
structure IsForm (d : Char) : Prop where
  small : 97 ≤ d.toNat
  letter : d.toNat < 128 → d.toNat ≤ 122
  not_blank : isBlank d = false
  not_dotted : d ≠ 'İ'
  no_form : ∀ s ∈ lowerRuns, s.covers d = false

theorem isForm_of_covers (hr : r ∈ lowerRuns) (hc : r.covers c = true) :
    isBlank c = false ∧ IsForm (Char.ofNat (c.toNat + r.shift).toNat) := by
  have hsound := List.all_eq_true.1 lowerRuns_sound r hr
  simp only [isSound, Bool.and_eq_true, isApart_iff, List.all_eq_true, Nat.blt_eq] at hsound
  obtain ⟨⟨⟨⟨⟨⟨hsmall, hletter⟩, hvalid⟩, hmax⟩, hblank⟩, hdotted⟩, hmisses⟩ := hsound
  obtain ⟨hfirst, hlast, -⟩ := covers_iff.1 hc
  have hlow : r.low ≤ (c.toNat + r.shift).toNat := by
    rw [low]
    omega
  have hhigh : (c.toNat + r.shift).toNat ≤ r.high := by
    rw [high]
    omega
  have hd : (Char.ofNat (c.toNat + r.shift).toNat).toNat = (c.toNat + r.shift).toNat :=
    toNat_ofNat_of_isValidChar (by omega)
  refine ⟨isBlank_eq_false (fun blank hmem => (hblank blank hmem).1) hfirst hlast, ?_, ?_, ?_, ?_, fun s hs => ?_⟩
  · omega
  · omega
  · exact isBlank_eq_false (fun blank hmem => (hblank blank hmem).2) (by omega) (by omega)
  · intro heq
    have hdot : (Char.ofNat (c.toNat + r.shift).toNat).toNat = 0x130 := by rw [heq]; rfl
    omega
  · exact covers_eq_false_of_misses (hmisses s hs) (by omega) hc hd

end LowerRun

/-! ## Characters -/

/-- The character is its own lower-case form, wherever it stands. -/
structure IsLower (c : Char) : Prop where
  not_sigma : c ≠ 'Σ'
  not_dotted : c ≠ 'İ'
  lowerChar_eq : lowerChar c = c

section Characters

variable {afterCased : Bool} {c d : Char} {rest : List Char}

theorem lowerChar_of_ascii (hc : c.toNat < 128) : lowerChar c = c.toLower :=
  if_pos hc

theorem lowerChar_cases (hc : ¬ c.toNat < 128) :
    lowerChar c = c ∨ isBlank c = false ∧ LowerRun.IsForm (lowerChar c) := by
  rw [lowerChar, if_neg hc]
  cases hfind : lowerRuns.find? (·.covers c) with
  | none => exact .inl rfl
  | some run =>
    have hcovers : run.covers c = true := by simpa using List.find?_some hfind
    exact .inr (LowerRun.isForm_of_covers (List.mem_of_find?_eq_some hfind) hcovers)

/-- A form has no other form. -/
theorem LowerRun.IsForm.lowerChar_eq (h : LowerRun.IsForm d) : lowerChar d = d := by
  by_cases hd : d.toNat < 128
  · have hlow : 97 ≤ d.toNat → d.toNat ≤ 122 → d.toLower = d :=
      of_ascii (P := fun d => 97 ≤ d.toNat → d.toNat ≤ 122 → d.toLower = d) (by decide) hd
    rw [lowerChar_of_ascii hd, hlow h.small (h.letter hd)]
  · have hnone : lowerRuns.find? (·.covers d) = none := by
      rw [List.find?_eq_none]
      intro s hs
      simp [h.no_form s hs]
    rw [lowerChar, if_neg hd, hnone]

/-- The forms of a sigma, and the dot above. -/
theorem lowerChar_forms :
    lowerChar 'Σ' = 'σ' ∧ lowerChar 'ς' = 'ς' ∧ lowerChar '\u0307' = '\u0307' := by
  decide +kernel

theorem isLower_of_lowerChar (hdotted : d ≠ 'İ') (h : lowerChar d = d) : IsLower d where
  not_sigma := by
    rintro rfl
    rw [lowerChar_forms.1] at h
    exact absurd h (by decide)
  not_dotted := hdotted
  lowerChar_eq := h

theorem isLower_lowerChar (hc : c ≠ 'İ') : IsLower (lowerChar c) := by
  by_cases hascii : c.toNat < 128
  · have hagain : c.toLower.toLower = c.toLower ∧ c.toLower.toNat < 128 :=
      of_ascii (P := fun c => c.toLower.toLower = c.toLower ∧ c.toLower.toNat < 128) (by decide) hascii
    rw [lowerChar_of_ascii hascii]
    refine isLower_of_lowerChar ?_ ?_
    · intro heq
      rw [heq] at hagain
      exact absurd hagain.2 (by decide)
    · rw [lowerChar_of_ascii hagain.2, hagain.1]
  · rcases lowerChar_cases hascii with heq | ⟨-, hform⟩
    · exact isLower_of_lowerChar (by rwa [heq]) (by rw [heq, heq])
    · exact isLower_of_lowerChar hform.not_dotted hform.lowerChar_eq

theorem isBlank_lowerChar (c : Char) : isBlank (lowerChar c) = isBlank c := by
  by_cases hascii : c.toNat < 128
  · rw [lowerChar_of_ascii hascii]
    exact of_ascii (P := fun c => isBlank c.toLower = isBlank c) (by decide) hascii
  · rcases lowerChar_cases hascii with heq | ⟨hc, hform⟩
    · rw [heq]
    · rw [hc, hform.not_blank]

theorem mem_lowerAt_cases (h : d ∈ lowerAt afterCased c rest) :
    c = 'Σ' ∧ (d = 'ς' ∨ d = 'σ') ∨ c = 'İ' ∧ (d = 'i' ∨ d = '\u0307') ∨ c ≠ 'İ' ∧ d = lowerChar c := by
  unfold lowerAt at h
  split at h
  · next hc =>
    rw [List.mem_singleton] at h
    split at h
    · exact .inl ⟨hc, .inl h⟩
    · exact .inl ⟨hc, .inr h⟩
  split at h
  · next hc => exact .inr (.inl ⟨hc, by simpa using h⟩)
  · next hc => exact .inr (.inr ⟨hc, by simpa using h⟩)

theorem lowerAt_ne_nil (afterCased : Bool) (c : Char) (rest : List Char) : lowerAt afterCased c rest ≠ [] := by
  unfold lowerAt
  split
  · exact List.cons_ne_nil _ _
  · split <;> exact List.cons_ne_nil _ _

/-- **The characters of a form have no other forms.** -/
theorem isLower_of_mem_lowerAt (h : d ∈ lowerAt afterCased c rest) : IsLower d := by
  rcases mem_lowerAt_cases h with ⟨-, rfl | rfl⟩ | ⟨-, rfl | rfl⟩ | ⟨hc, rfl⟩
  · exact isLower_of_lowerChar (by decide) lowerChar_forms.2.1
  · rw [← lowerChar_forms.1]
    exact isLower_lowerChar (by decide)
  · exact isLower_of_lowerChar (by decide) (by decide)
  · exact isLower_of_lowerChar (by decide) lowerChar_forms.2.2
  · exact isLower_lowerChar hc

/-- **The form of a character is blank if the character is.** -/
theorem isBlank_of_mem_lowerAt (h : d ∈ lowerAt afterCased c rest) : isBlank d = isBlank c := by
  rcases mem_lowerAt_cases h with ⟨rfl, rfl | rfl⟩ | ⟨rfl, rfl | rfl⟩ | ⟨-, rfl⟩
  · decide
  · decide
  · decide
  · decide
  · exact isBlank_lowerChar c

/-- A character before the small letters of ASCII is no form but its own. -/
theorem eq_of_mem_lowerAt (hd : d.toNat < 97) (h : d ∈ lowerAt afterCased c rest) : d = c := by
  rcases mem_lowerAt_cases h with ⟨-, rfl | rfl⟩ | ⟨-, rfl | rfl⟩ | ⟨-, rfl⟩
  · exact absurd hd (by decide)
  · exact absurd hd (by decide)
  · exact absurd hd (by decide)
  · exact absurd hd (by decide)
  · by_cases hascii : c.toNat < 128
    · rw [lowerChar_of_ascii hascii] at hd ⊢
      exact of_ascii (P := fun c => c.toLower.toNat < 97 → c.toLower = c) (by decide) hascii hd
    · rcases lowerChar_cases hascii with heq | ⟨-, hform⟩
      · exact heq
      · have := hform.small
        omega

theorem lowerAt_of_isLower (h : IsLower c) (afterCased : Bool) (rest : List Char) :
    lowerAt afterCased c rest = [c] := by
  rw [lowerAt, if_neg h.not_sigma, if_neg h.not_dotted, h.lowerChar_eq]

end Characters

/-! ## Texts -/

section Texts

variable {cs : List Char} {d : Char}

theorem exists_of_mem_lowerFrom {afterCased : Bool} (h : d ∈ lowerFrom afterCased cs) :
    ∃ c ∈ cs, ∃ before rest, d ∈ lowerAt before c rest := by
  induction cs generalizing afterCased with
  | nil => cases h
  | cons c cs ih =>
    rw [lowerFrom, List.mem_append] at h
    rcases h with h | h
    · exact ⟨c, List.mem_cons_self, _, _, h⟩
    · obtain ⟨e, he, hform⟩ := ih h
      exact ⟨e, List.mem_cons_of_mem c he, hform⟩

theorem isLower_of_mem_lower (h : d ∈ lower cs) : IsLower d := by
  obtain ⟨c, -, before, rest, hform⟩ := exists_of_mem_lowerFrom h
  exact isLower_of_mem_lowerAt hform

theorem lowerFrom_eq_self (h : ∀ c ∈ cs, IsLower c) (afterCased : Bool) : lowerFrom afterCased cs = cs := by
  induction cs generalizing afterCased with
  | nil => rfl
  | cons c cs ih =>
    rw [List.forall_mem_cons] at h
    rw [lowerFrom, lowerAt_of_isLower h.1, ih h.2, List.singleton_append]

/-- **Putting a text in lower case a second time changes nothing.** -/
theorem lower_lower (cs : List Char) : lower (lower cs) = lower cs :=
  lowerFrom_eq_self (fun _ => isLower_of_mem_lower) false

theorem mem_of_mem_lower (hd : d.toNat < 97) (h : d ∈ lower cs) : d ∈ cs := by
  obtain ⟨c, hc, before, rest, hform⟩ := exists_of_mem_lowerFrom h
  rwa [eq_of_mem_lowerAt hd hform]

theorem any_isBlank_lowerAt (afterCased : Bool) (c : Char) (rest : List Char) :
    (lowerAt afterCased c rest).any isBlank = isBlank c := by
  rw [Bool.eq_iff_iff, List.any_eq_true]
  constructor
  · rintro ⟨d, hd, hblank⟩
    rwa [← isBlank_of_mem_lowerAt hd]
  · intro hblank
    obtain ⟨d, hd⟩ := List.exists_mem_of_ne_nil _ (lowerAt_ne_nil afterCased c rest)
    exact ⟨d, hd, by rwa [isBlank_of_mem_lowerAt hd]⟩

theorem any_isBlank_lowerFrom (afterCased : Bool) (cs : List Char) :
    (lowerFrom afterCased cs).any isBlank = cs.any isBlank := by
  induction cs generalizing afterCased with
  | nil => rfl
  | cons c cs ih => rw [lowerFrom, List.any_append, any_isBlank_lowerAt, ih, List.any_cons]

/-- **A text has a blank in lower case if it has one.** -/
theorem any_isBlank_lower (cs : List Char) : (lower cs).any isBlank = cs.any isBlank :=
  any_isBlank_lowerFrom false cs

theorem any_isBlank_lowercase (s : String) : (lowercase s).toList.any isBlank = s.toList.any isBlank := by
  rw [lowercase, String.toList_ofList, any_isBlank_lower]

theorem lowerFrom_ne_nil (afterCased : Bool) (hne : cs ≠ []) : lowerFrom afterCased cs ≠ [] := by
  obtain ⟨c, cs, rfl⟩ := List.exists_cons_of_ne_nil hne
  simp [lowerFrom, lowerAt_ne_nil]

/-- A text begins with a blank in lower case if it begins with one. -/
theorem head?_lower_any_isBlank (cs : List Char) : (lower cs).head?.any isBlank = cs.head?.any isBlank := by
  cases cs with
  | nil => rfl
  | cons c cs =>
    have hne := lowerAt_ne_nil false c cs
    rw [lower, lowerFrom, List.head?_append_of_ne_nil _ hne, List.head?_eq_some_head hne]
    exact isBlank_of_mem_lowerAt (List.head_mem hne)

theorem getLast?_lowerFrom_any_isBlank (afterCased : Bool) (cs : List Char) :
    (lowerFrom afterCased cs).getLast?.any isBlank = cs.getLast?.any isBlank := by
  induction cs generalizing afterCased with
  | nil => rfl
  | cons c cs ih =>
    rw [lowerFrom]
    cases cs with
    | nil =>
      have hne := lowerAt_ne_nil afterCased c []
      rw [lowerFrom, List.append_nil, List.getLast?_eq_some_getLast hne]
      exact isBlank_of_mem_lowerAt (List.getLast_mem hne)
    | cons e cs =>
      rw [List.getLast?_append_of_ne_nil _ (lowerFrom_ne_nil _ (List.cons_ne_nil e cs)), ih, List.getLast?_cons_cons]

/-- A text ends with a blank in lower case if it ends with one. -/
theorem getLast?_lower_any_isBlank (cs : List Char) : (lower cs).getLast?.any isBlank = cs.getLast?.any isBlank :=
  getLast?_lowerFrom_any_isBlank false cs

end Texts

end RecipeSearch.Text
