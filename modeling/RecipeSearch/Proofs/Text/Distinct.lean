import Mathlib.Data.List.Nodup
import RecipeSearch.Text.Pieces

/-!
# The first of the elements that agree on a key

No two elements that are kept have the same key (`nodup_map_distinctOn`), so that none is kept twice
(`nodup_distinctOn`). **Every key is kept, by the first element that has it, in the order of these**
(`firstsOn_distinctOn`), and elements of which no two agree are all kept (`distinctOn_eq_self`). Keeping the first ones
goes through a map that tells the keys apart as they were (`distinctOn_map`).
-/

namespace RecipeSearch.Text

section Keys

variable {α β : Type} [BEq β] [LawfulBEq β] {key : α → β}

/-- What is kept has no key that has been seen. -/
theorem not_mem_seen_of_mem {seen : List β} {as : List α} {a : α} (h : a ∈ distinctOnFrom key seen as) :
    key a ∉ seen := by
  induction as generalizing seen with
  | nil => cases h
  | cons b as ih =>
    rw [distinctOnFrom] at h
    split at h
    · exact ih h
    · next hb =>
      rcases List.mem_cons.1 h with rfl | h
      · simpa using hb
      · have hnot : key a ∉ key b :: seen := ih h
        exact fun hmem => hnot (List.mem_cons_of_mem _ hmem)

theorem nodup_map_distinctOnFrom (seen : List β) (as : List α) :
    ((distinctOnFrom key seen as).map key).Nodup := by
  induction as generalizing seen with
  | nil => exact List.nodup_nil
  | cons a as ih =>
    rw [distinctOnFrom]
    split
    · exact ih seen
    · rw [List.map_cons, List.nodup_cons]
      refine ⟨fun hmem => ?_, ih _⟩
      obtain ⟨b, hb, hkey⟩ := List.mem_map.1 hmem
      have hnot : key b ∉ key a :: seen := not_mem_seen_of_mem hb
      exact hnot (by simp [hkey])

/-- **No two elements that are kept have the same key.** -/
theorem nodup_map_distinctOn (key : α → β) (as : List α) : ((distinctOn key as).map key).Nodup :=
  nodup_map_distinctOnFrom [] as

theorem nodup_distinctOn (key : α → β) (as : List α) : (distinctOn key as).Nodup :=
  (nodup_map_distinctOn key as).of_map key

/-! ## The first element with each key -/

/-- The elements `ts` are those of `as` that come first with their keys, in order. -/
structure FirstsOn (key : α → β) (as ts : List α) : Prop where
  /-- Each of them is the first with its key. -/
  first : ∀ t ∈ ts, as.find? (key · == key t) = some t
  /-- There is one of them for every key. -/
  complete : ∀ a ∈ as, ∃ t ∈ ts, key t = key a
  /-- They are in the order in which their keys come first. -/
  ordered : ts.Pairwise fun s t => as.findIdx (key · == key s) < as.findIdx (key · == key t)

theorem mem_distinctOnFrom_iff {seen : List β} {as : List α} {t : α} :
    t ∈ distinctOnFrom key seen as ↔ key t ∉ seen ∧ as.find? (key · == key t) = some t := by
  induction as generalizing seen with
  | nil => simp [distinctOnFrom]
  | cons a as ih =>
    rw [distinctOnFrom, List.find?_cons]
    by_cases hkey : key a = key t
    · rw [hkey, beq_self_eq_true]
      split
      · next hseen => simp_all
      · next hseen =>
        have hmem : t ∉ distinctOnFrom key (key t :: seen) as := fun h => not_mem_seen_of_mem h List.mem_cons_self
        simp_all [eq_comm]
    · have hne : t ≠ a := fun heq => hkey (congrArg key heq.symm)
      rw [beq_eq_false_iff_ne.2 hkey]
      split
      · exact ih
      · simp [ih, hne, Ne.symm hkey]

theorem pairwise_distinctOnFrom (seen : List β) (as : List α) :
    (distinctOnFrom key seen as).Pairwise fun s t =>
      as.findIdx (key · == key s) < as.findIdx (key · == key t) := by
  induction as generalizing seen with
  | nil => exact .nil
  | cons a as ih =>
    -- behind the first element, every place is one further on
    have hplace {t : α} (h : key t ≠ key a) :
        (a :: as).findIdx (key · == key t) = as.findIdx (key · == key t) + 1 := by
      rw [List.findIdx_cons, beq_eq_false_iff_ne.2 (Ne.symm h), cond_false]
    have htail {seen' : List β} (hseen : key a ∈ seen') :
        (distinctOnFrom key seen' as).Pairwise fun s t =>
          (a :: as).findIdx (key · == key s) < (a :: as).findIdx (key · == key t) := by
      have hne {t : α} (ht : t ∈ distinctOnFrom key seen' as) : key t ≠ key a := fun heq =>
        not_mem_seen_of_mem ht (heq ▸ hseen)
      refine (ih seen').imp_of_mem fun hs ht hlt => ?_
      rw [hplace (hne hs), hplace (hne ht)]
      omega
    rw [distinctOnFrom]
    split
    · next hseen => exact htail (List.contains_iff_mem.1 hseen)
    · refine List.pairwise_cons.2 ⟨fun t ht => ?_, htail List.mem_cons_self⟩
      have hne : key t ≠ key a := fun heq => not_mem_seen_of_mem ht (heq ▸ List.mem_cons_self)
      rw [hplace hne, List.findIdx_cons, beq_self_eq_true, cond_true]
      omega

/-- **What is kept is the first element with each key**, in order. -/
theorem firstsOn_distinctOn (key : α → β) (as : List α) : FirstsOn key as (distinctOn key as) where
  first t ht := (mem_distinctOnFrom_iff.1 ht).2
  complete a ha := by
    have hsome : (as.find? (key · == key a)).isSome = true :=
      List.find?_isSome.2 ⟨a, ha, beq_self_eq_true (key a)⟩
    obtain ⟨t, ht⟩ := Option.isSome_iff_exists.1 hsome
    have hkey : key t = key a := by simpa using List.find?_some ht
    exact ⟨t, mem_distinctOnFrom_iff.2 ⟨List.not_mem_nil, by rw [hkey]; exact ht⟩, hkey⟩
  ordered := pairwise_distinctOnFrom [] as

theorem mem_of_mem_distinctOn {as : List α} {t : α} (h : t ∈ distinctOn key as) : t ∈ as :=
  List.mem_of_find?_eq_some ((firstsOn_distinctOn key as).first t h)

theorem distinctOnFrom_eq_self {seen : List β} {as : List α} (hseen : ∀ a ∈ as, key a ∉ seen)
    (h : (as.map key).Nodup) : distinctOnFrom key seen as = as := by
  induction as generalizing seen with
  | nil => rfl
  | cons a as ih =>
    rw [List.map_cons, List.nodup_cons] at h
    rw [List.forall_mem_cons] at hseen
    rw [distinctOnFrom, if_neg (by simpa using hseen.1), ih ?_ h.2]
    intro b hb hmem
    rcases List.mem_cons.1 hmem with heq | hmem
    · exact h.1 (heq ▸ List.mem_map_of_mem hb)
    · exact hseen.2 b hb hmem

/-- Elements of which no two agree are all kept. -/
theorem distinctOn_eq_self {as : List α} (h : (as.map key).Nodup) : distinctOn key as = as :=
  distinctOnFrom_eq_self (fun _ _ => List.not_mem_nil) h

end Keys

/-! ## Keeping the first ones of images -/

section Map

variable {α α' β β' : Type} [BEq β] [LawfulBEq β] [BEq β'] [LawfulBEq β'] {key : α → β} {key' : α' → β'}
  {f : α → α'} {g : β → β'}

theorem distinctOnFrom_map (hg : Function.Injective g) (hkey : ∀ a, key' (f a) = g (key a)) (seen : List β)
    (as : List α) : distinctOnFrom key' (seen.map g) (as.map f) = (distinctOnFrom key seen as).map f := by
  induction as generalizing seen with
  | nil => rfl
  | cons a as ih =>
    have hseen : (seen.map g).contains (key' (f a)) = seen.contains (key a) := by
      rw [Bool.eq_iff_iff, List.contains_iff_mem, List.contains_iff_mem, hkey, List.mem_map_of_injective hg]
    rw [List.map_cons, distinctOnFrom, distinctOnFrom, hseen]
    split
    · exact ih seen
    · rw [List.map_cons, hkey, ← List.map_cons, ih]

/-- **Images of which the keys are told apart as before are kept where the elements are.** -/
theorem distinctOn_map (hg : Function.Injective g) (hkey : ∀ a, key' (f a) = g (key a)) (as : List α) :
    distinctOn key' (as.map f) = (distinctOn key as).map f :=
  distinctOnFrom_map hg hkey [] as

end Map

end RecipeSearch.Text
