import Mathlib.Data.List.Nodup
import RecipeSearch.Proofs.Search.Merging

/-!
# What a merger is like after any batches

A merger has seen the ids of the recipes that it holds and no others, no two of these recipes have the same id, and
there are not more of them than its limit allows (`Consistent`). A recipe that is added to a merger with room keeps this
(`Consistent.add`), and so does a batch, though it may be broken off anywhere (`Consistent.extend`).

**A new merger stays like this whatever batches it takes in, and it does not matter how its recipes are cut into
batches** (`extendAll_empty`).
-/

namespace RecipeSearch.Search.Merger

open Text (distinctOn)

variable {m : Merger}

/-- What is kept of the ids agrees with the recipes, and these are within bounds. -/
structure Consistent (m : Merger) : Prop where
  /-- The ids that have been seen are those of the recipes. -/
  seen : ∀ id, id ∈ m.seen ↔ id ∈ m.recipes.map Recipe.id
  /-- No two recipes have the same id. -/
  nodup : (m.recipes.map Recipe.id).Nodup
  /-- The recipes are not more than allowed. -/
  fits : m.recipes.length ≤ m.limit

/-! ## One recipe -/

theorem consistent_empty (limit : Nat) : (empty limit).Consistent :=
  ⟨fun _ => Iff.rfl, List.nodup_nil, Nat.zero_le limit⟩

/-- **A merger with room can be given any recipe.** -/
theorem Consistent.add (h : m.Consistent) (hroom : m.isFull = false) (r : Recipe) : (m.add r).Consistent := by
  unfold Merger.add
  split
  · exact h
  · next hseen =>
    have hnew : r.id ∉ m.recipes.map Recipe.id := by
      rw [← h.seen]
      simpa using hseen
    have hlt : m.recipes.length < m.limit := by
      rw [← Nat.not_le, ← isFull_iff, hroom]
      exact Bool.false_ne_true
    refine ⟨fun id => ?_, ?_, ?_⟩
    · rw [List.mem_cons, List.map_append, List.mem_append, List.map_singleton, List.mem_singleton, h.seen, or_comm]
    · rw [List.map_append, List.map_singleton, List.nodup_append]
      refine ⟨h.nodup, List.nodup_singleton _, fun id hid new hmem heq => hnew ?_⟩
      rwa [← List.mem_singleton.1 hmem, ← heq]
    · rw [List.length_append]
      exact hlt

/-! ## Batches -/

/-- **A batch keeps a merger consistent**, wherever it is broken off. -/
theorem Consistent.extend (h : m.Consistent) (rs : List Recipe) : (m.extend rs).Consistent := by
  induction rs generalizing m with
  | nil => exact h
  | cons r rs ih =>
    rw [Merger.extend]
    cases hfull : m.isFull with
    | true => exact h
    | false => exact ih (h.add hfull r)

/-- The merger after some batches, one after the other. -/
def extendAll (m : Merger) (batches : List (List Recipe)) : Merger :=
  batches.foldl extend m

theorem Consistent.extendAll (h : m.Consistent) (batches : List (List Recipe)) : (m.extendAll batches).Consistent := by
  induction batches generalizing m with
  | nil => exact h
  | cons rs batches ih => exact ih (h.extend rs)

/-- **Where one batch ends and the next one begins makes no difference.** -/
theorem extendAll_eq (m : Merger) (batches : List (List Recipe)) : m.extendAll batches = m.extend batches.flatten := by
  induction batches generalizing m with
  | nil => rfl
  | cons rs batches ih =>
    rw [List.flatten_cons, extend_append]
    exact ih (m.extend rs)

/-- **What a new merger comes to**: it is consistent, it is what one batch with all the recipes makes of it, and it
holds the first recipe of each id, up to its limit. More recipes are put behind those that it has, and once it is full
it does not change any more. -/
theorem extendAll_empty (limit : Nat) (batches : List (List Recipe)) :
    let m := (empty limit).extendAll batches
    m.Consistent ∧ m.limit = limit ∧ m = (empty limit).extend batches.flatten ∧
      m.recipes = (distinctOn Recipe.id batches.flatten).take limit ∧
      (∀ rs, m.recipes <+: (m.extend rs).recipes) ∧
      (m.isFull = true → ∀ later, m.extendAll later = m) := by
  intro m
  have hm : m = (empty limit).extend batches.flatten := extendAll_eq _ batches
  have hconsistent : m.Consistent := (consistent_empty limit).extendAll batches
  refine ⟨hconsistent, ?_, hm, ?_, recipes_extend_prefix hconsistent.fits, fun hfull later => ?_⟩
  · rw [hm, limit_extend]
    rfl
  · rw [hm, recipes_extend_empty]
  · rw [extendAll_eq, extend_of_isFull hfull]

/-- The second recipe fills the merger in the middle of a batch, and the third one is not even seen. -/
theorem extendAll_empty_filled :
    let recipe (id : String) : Recipe := ⟨id, "", "", "", "", "", [], []⟩
    let m := (empty 2).extendAll [[recipe "1", recipe "1"], [], [recipe "2", recipe "3"]]
    m.isFull = true ∧ m.seen = ["2", "1"] ∧ m.extendAll [[recipe "4"]] = m :=
  ⟨by decide, by decide, (extendAll_empty 2 _).2.2.2.2.2 (by decide) _⟩

end RecipeSearch.Search.Merger
