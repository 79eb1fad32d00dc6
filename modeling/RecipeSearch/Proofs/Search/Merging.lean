import RecipeSearch.Catalogue.Basic
import RecipeSearch.Search.Basic
import RecipeSearch.Text.Pieces

/-!
# Merging batches is merging their concatenation

A merger takes in batch after batch and stops in the middle of one when it is full. It nevertheless comes to what the
batches in a row come to (`extend_append`): to the first recipe of each id, as many as the limit allows
(`recipes_extend_empty`). What is taken in later never changes what is there (`recipes_extend_prefix`).
-/

namespace RecipeSearch.Search

open Text (distinctOn distinctOnFrom)

/-! ## The merger -/

namespace Merger

variable {m : Merger}

theorem isFull_iff : m.isFull = true ↔ m.limit ≤ m.recipes.length := by
  simp [isFull]

theorem isFull_empty_iff {limit : Nat} : (empty limit).isFull = true ↔ limit = 0 := by
  simp [isFull, empty]

/-- A merger that has taken in nothing has room, if its limit allows anything. -/
theorem isFull_empty_of_ne {limit : Nat} (h : limit ≠ 0) : (empty limit).isFull = false := by
  rw [← Bool.not_eq_true, isFull_empty_iff]
  exact h

theorem extend_of_isFull (h : m.isFull = true) (rs : List Recipe) : m.extend rs = m := by
  cases rs with
  | nil => rfl
  | cons r rs => rw [extend, if_pos h]

@[simp] theorem limit_add (r : Recipe) : (m.add r).limit = m.limit := by
  unfold add
  split <;> rfl

@[simp] theorem limit_extend (rs : List Recipe) : (m.extend rs).limit = m.limit := by
  induction rs generalizing m with
  | nil => rfl
  | cons r rs ih =>
    rw [extend]
    split
    · rfl
    · rw [ih, limit_add]

/-- **Batches merge as their concatenation.** -/
theorem extend_append (rs ss : List Recipe) : m.extend (rs ++ ss) = (m.extend rs).extend ss := by
  induction rs generalizing m with
  | nil => rfl
  | cons r rs ih =>
    rw [List.cons_append, extend, extend]
    split
    · next h => rw [extend_of_isFull h]
    · rw [ih]

/-- The recipes of a merger, after those that it has: of each id that it has not seen the first one, up to the limit. -/
theorem recipes_extend (h : m.recipes.length ≤ m.limit) (rs : List Recipe) :
    (m.extend rs).recipes =
      m.recipes ++ (distinctOnFrom Recipe.id m.seen rs).take (m.limit - m.recipes.length) := by
  induction rs generalizing m with
  | nil => simp [extend, distinctOnFrom]
  | cons r rs ih =>
    rw [extend]
    split
    · next hfull => simp [Nat.sub_eq_zero_of_le (isFull_iff.1 hfull)]
    · next hfull =>
      have hroom : m.recipes.length < m.limit := by simpa [isFull_iff] using hfull
      rw [distinctOnFrom, add]
      split
      · exact ih h
      · rw [ih (by simpa using Nat.succ_le_of_lt hroom)]
        have hleft : m.limit - m.recipes.length = m.limit - (m.recipes.length + 1) + 1 := by omega
        simp [hleft, List.take_succ_cons]

theorem length_recipes_extend_le (h : m.recipes.length ≤ m.limit) (rs : List Recipe) :
    (m.extend rs).recipes.length ≤ m.limit := by
  rw [recipes_extend h, List.length_append, List.length_take]
  omega

/-- What a merger has stays in front. -/
theorem recipes_extend_prefix (h : m.recipes.length ≤ m.limit) (rs : List Recipe) :
    m.recipes <+: (m.extend rs).recipes := by
  rw [recipes_extend h]
  exact List.prefix_append _ _

/-- **A new merger comes to the first recipe of each id, up to its limit.** -/
theorem recipes_extend_empty (limit : Nat) (rs : List Recipe) :
    ((empty limit).extend rs).recipes = (distinctOn Recipe.id rs).take limit := by
  rw [recipes_extend (Nat.zero_le _)]
  simp [empty, distinctOn]

end Merger

/-! ## What a search should come to -/

/-- What a catalogue answers to the look-ups of a search, in whatever time. -/
abbrev Answers := Facet → String → Except CatalogueError (List Recipe)

/-- The catalogue that gives these answers with these delays. -/
def Answers.after (answers : Answers) (delay : Facet → String → Nat) : TermSource := fun facet term =>
  ⟨delay facet term, answers facet term⟩

/-- The recipes that some terms bring under category, area, ingredient and name, in this order; a failed look-up brings
none. -/
def Answers.inOrder (answers : Answers) (terms : List String) : List Recipe :=
  terms.flatMap fun term => [Facet.category, .area, .ingredient, .name].flatMap fun facet =>
    match answers facet term with
    | .ok recipes => recipes
    | .error _ => []

/-- The first recipe of each id among those that some terms bring, up to a limit. -/
def Answers.merged (answers : Answers) (limit : Nat) (terms : List String) : List Recipe :=
  (distinctOn Recipe.id (answers.inOrder terms)).take limit

theorem inOrder_append (answers : Answers) (some rest : List String) :
    answers.inOrder (some ++ rest) = answers.inOrder some ++ answers.inOrder rest :=
  List.flatMap_append

/-- A merger that has taken in the batches of some terms. -/
theorem recipes_extend_inOrder (answers : Answers) (limit : Nat) (terms : List String) :
    ((Merger.empty limit).extend (answers.inOrder terms)).recipes = answers.merged limit terms :=
  Merger.recipes_extend_empty limit _

theorem length_merged_le (answers : Answers) (limit : Nat) (terms : List String) :
    (answers.merged limit terms).length ≤ limit :=
  List.length_take_le _ _

/-- Some terms leave room when they bring less than the limit allows. -/
theorem isFull_extend_inOrder {answers : Answers} {limit : Nat} {terms : List String} :
    ((Merger.empty limit).extend (answers.inOrder terms)).isFull = false ↔
      (answers.merged limit terms).length < limit := by
  rw [Merger.isFull, Merger.limit_extend, recipes_extend_inOrder, decide_eq_false_iff_not, Nat.not_le]
  rfl

/-- What fewer terms bring comes first. -/
theorem merged_prefix (answers : Answers) (limit : Nat) (some rest : List String) :
    answers.merged limit some <+: answers.merged limit (some ++ rest) := by
  rw [← recipes_extend_inOrder, ← recipes_extend_inOrder, inOrder_append, Merger.extend_append]
  refine Merger.recipes_extend_prefix ?_ _
  rw [Merger.limit_extend]
  exact Merger.length_recipes_extend_le (Nat.zero_le _) _

/-- Terms after a full merger bring nothing. -/
theorem merged_append_of_isFull {answers : Answers} {limit : Nat} {some : List String}
    (h : ((Merger.empty limit).extend (answers.inOrder some)).isFull = true) (rest : List String) :
    answers.merged limit (some ++ rest) = answers.merged limit some := by
  rw [← recipes_extend_inOrder, ← recipes_extend_inOrder, inOrder_append, Merger.extend_append,
    Merger.extend_of_isFull h]

end RecipeSearch.Search
