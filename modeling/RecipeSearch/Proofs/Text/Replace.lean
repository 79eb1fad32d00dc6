import RecipeSearch.Text.Replace

/-!
# What replacing does to a text

What holds of the places where a rule recognises nothing, and of those where it replaces something, holds of the whole
replacement (`replaceAll_induction`), in particular a relation between what is left of a text and what is written for it
(`replaceAll_related`). A text in which the rule writes what stands there already is left as it is
(`replaceAll_eq_self`), and **replacing a second time changes nothing** if the rule recognises what it has written, and
nothing new elsewhere (`replaceAll_idem`).
-/

namespace RecipeSearch.Text

variable {rule : Rule}

theorem replaceAll_of_none {c : Char} {cs : List Char} (h : rule (c :: cs) = none) :
    replaceAll rule (c :: cs) = c :: replaceAll rule cs := by
  rw [replaceAll_cons, h]

theorem replaceAll_of_some {c : Char} {cs out : List Char} {size : Nat} (h : rule (c :: cs) = some (out, size))
    (hsize : 0 < size) : replaceAll rule (c :: cs) = out ++ replaceAll rule ((c :: cs).drop size) := by
  obtain ⟨n, rfl⟩ := Nat.exists_eq_succ_of_ne_zero (Nat.pos_iff_ne_zero.1 hsize)
  rw [replaceAll_cons, h]
  rfl

/-- **What holds where nothing is recognised, and where something is replaced, holds of the whole.** -/
theorem replaceAll_induction {R : List Char → List Char → Prop} (nil : R [] [])
    (keep : ∀ c cs, rule (c :: cs) = none → R cs (replaceAll rule cs) → R (c :: cs) (c :: replaceAll rule cs))
    (replace : ∀ cs out size, rule cs = some (out, size) → R (cs.drop size) (replaceAll rule (cs.drop size)) →
      R cs (out ++ replaceAll rule (cs.drop size)))
    (positive : ∀ cs out size, rule cs = some (out, size) → 0 < size) (cs : List Char) :
    R cs (replaceAll rule cs) := by
  induction cs using replaceAll.induct rule with
  | case1 =>
    rw [replaceAll_nil]
    exact nil
  | case2 c cs out size hrule ih =>
    have hsize := positive _ _ _ hrule
    have hdrop : (c :: cs).drop size = cs.drop (size - 1) := by
      obtain ⟨n, rfl⟩ := Nat.exists_eq_succ_of_ne_zero (Nat.pos_iff_ne_zero.1 hsize)
      rfl
    rw [replaceAll_of_some hrule hsize]
    refine replace _ out size hrule ?_
    rw [hdrop]
    exact ih
  | case3 c cs hrule ih =>
    rw [replaceAll_of_none hrule]
    exact keep c cs hrule ih

/-- **A relation that the rule and single characters respect is respected by replacing.** -/
theorem replaceAll_related {R : List Char → List Char → Prop} (nil : R [] [])
    (keep : ∀ c xs ys, R xs ys → R (c :: xs) (c :: ys))
    (replace : ∀ cs out size ys, rule cs = some (out, size) → R (cs.drop size) ys → R cs (out ++ ys))
    (positive : ∀ cs out size, rule cs = some (out, size) → 0 < size) (cs : List Char) :
    R cs (replaceAll rule cs) :=
  replaceAll_induction nil (fun c cs _ h => keep c cs _ h) (fun cs out size hrule h => replace cs out size _ hrule h)
    positive cs

/-- A text in which the rule writes nothing but what stands there already. -/
theorem replaceAll_eq_self (positive : ∀ cs out size, rule cs = some (out, size) → 0 < size) {cs : List Char}
    (h : ∀ s, s <:+ cs → ∀ out size, rule s = some (out, size) → out = s.take size) : replaceAll rule cs = cs := by
  revert h
  refine replaceAll_induction (R := fun xs ys => (∀ s, s <:+ xs → ∀ out size, rule s = some (out, size) →
    out = s.take size) → ys = xs) (fun _ => rfl) ?_ ?_ positive cs
  · intro c cs _ ih h
    rw [ih fun s hs => h s (hs.trans (List.suffix_cons c cs))]
  · intro cs out size hrule ih h
    rw [ih fun s hs => h s (hs.trans (List.drop_suffix size cs)), h cs (List.suffix_refl cs) out size hrule,
      List.take_append_drop]

/-- **Replacing a second time changes nothing** if the rule recognises what it has written and writes it again, and if
it recognises nothing where it has recognised nothing before. -/
theorem replaceAll_idem (positive : ∀ cs out size, rule cs = some (out, size) → 0 < size)
    (again : ∀ cs out size, rule cs = some (out, size) →
      out ≠ [] ∧ rule (out ++ replaceAll rule (cs.drop size)) = some (out, out.length))
    (never : ∀ c cs, rule (c :: cs) = none → rule (c :: replaceAll rule cs) = none) (cs : List Char) :
    replaceAll rule (replaceAll rule cs) = replaceAll rule cs := by
  refine replaceAll_induction (R := fun _ ys => replaceAll rule ys = ys) (replaceAll_nil rule) ?_ ?_ positive cs
  · intro c cs hrule ih
    rw [replaceAll_of_none (never c cs hrule), ih]
  · intro cs out size hrule ih
    obtain ⟨hne, hagain⟩ := again cs out size hrule
    obtain ⟨d, out, rfl⟩ := List.exists_cons_of_ne_nil hne
    rw [List.cons_append] at hagain ⊢
    rw [replaceAll_of_some hagain (Nat.succ_pos _), ← List.cons_append, List.drop_left, ih]

end RecipeSearch.Text
