import Mathlib.Data.List.Nodup
import RecipeSearch.Proofs.Json.Record
import RecipeSearch.Proofs.Text.Joining
import RecipeSearch.Proofs.Text.Lowercase
import RecipeSearch.Recipe.Meal

/-!
# Recipes that are turned into meals and back

The tags of a recipe that was made of a meal are trimmed, in lower case and without commas (`isTag_of_mem_splitTags`),
and its ingredients, no more than twenty, are trimmed (`isTrimmed_of_mem_ingredients`); none of them is blank. A recipe
is turned into a meal (`Meal.ofRecipe`) by writing its ingredients into the first slots and its tags into one text.
Reading this text again gives the same tags (`splitTags_intercalate`), and reading the slots gives the same ingredients
(`ingredients_ofRecipe`), so that **a recipe that was made of a meal is made of its own meal too** (`ofMeal_ofRecipe`).
-/

namespace RecipeSearch

open Text

namespace Meal

/-- The meal that has the fields of a recipe, its ingredients in the first slots, and its tags separated by commas. -/
def ofRecipe (r : Recipe) : Meal where
  id := r.id
  name := some r.name
  thumbnailUrl := some r.thumbnailUrl
  category := some r.category
  area := some r.area
  instructions := some r.instructions
  tags := some (",".intercalate r.tags)
  slots := r.ingredients.zipIdx.map fun (ingredient, i) => (slotName (i + 1), .string ingredient)

/-! ## Tags -/

/-- A text that is not blank and has no blanks around it. -/
structure IsTrimmed (s : String) : Prop where
  not_blank : isBlankString s = false
  trimmed_eq : trimmed s = s

/-- A trimmed text in lower case and without commas. -/
structure IsTag (tag : String) : Prop extends IsTrimmed tag where
  no_comma : ',' ∉ tag.toList
  lower_eq : lowercase tag = tag

theorem isTrimmed_trimmed {s : String} (h : trimmed s ≠ "") : IsTrimmed (trimmed s) where
  not_blank := by
    rw [← Bool.not_eq_true, ← trimmed_eq_empty_iff, trimmed, trimmed, String.toList_ofList, trim_trim]
    exact h
  trimmed_eq := by rw [trimmed, trimmed, String.toList_ofList, trim_trim]

/-- Putting a trimmed text in lower case leaves it trimmed. -/
theorem trim_lower_trim (cs : List Char) : trim (lower (trim cs)) = lower (trim cs) :=
  trim_eq_self (by rw [head?_lower_any_isBlank, head?_trim]) (by rw [getLast?_lower_any_isBlank, getLast?_trim])

/-- **The tags of a text** are trimmed, in lower case and without commas. -/
theorem isTag_of_mem_splitTags {tags tag : String} (h : tag ∈ splitTags tags) : IsTag tag := by
  simp only [splitTags, List.mem_map, List.mem_filter, decide_eq_true_eq] at h
  obtain ⟨_, ⟨⟨part, hpart, rfl⟩, hne⟩, rfl⟩ := h
  have hcomma : ',' ∉ part := fun hmem => by simpa using (mem_runs hpart).2.1 ',' hmem
  have htrim : trimmed (String.ofList (lower (trim part))) = String.ofList (lower (trim part)) := by
    rw [trimmed, String.toList_ofList, trim_lower_trim]
  refine { not_blank := ?_, trimmed_eq := htrim, no_comma := ?_, lower_eq := ?_ }
  · rw [← Bool.not_eq_true, ← trimmed_eq_empty_iff, htrim, String.ofList_eq_empty_iff]
    exact hne
  · rw [String.toList_ofList]
    intro hmem
    exact hcomma (mem_of_mem_trim (mem_of_mem_lower (by decide) hmem))
  · rw [lowercase, String.toList_ofList, lower_lower]

theorem IsTag.toList_ne_nil {tag : String} (h : IsTag tag) : tag.toList ≠ [] := by
  intro hnil
  have hblank := h.not_blank
  rw [isBlankString, hnil] at hblank
  cases hblank

/-- **Tags that are written into one text are read back.** -/
theorem splitTags_intercalate {tags : List String} (h : ∀ tag ∈ tags, IsTag tag) :
    splitTags (",".intercalate tags) = tags := by
  have hcomma : ",".toList = [','] := rfl
  have hruns : runs (· ≠ ',') ([','].intercalate (tags.map String.toList)) = tags.map String.toList := by
    refine runs_intercalate (by simp) fun w hw => ?_
    obtain ⟨tag, htag, rfl⟩ := List.mem_map.1 hw
    refine ⟨(h tag htag).toList_ne_nil, fun c hc => ?_⟩
    rw [decide_eq_true_eq]
    rintro rfl
    exact (h tag htag).no_comma hc
  have hself : ∀ tag ∈ tags, lower (trim tag.toList) = tag.toList := by
    intro tag htag
    have htrim : trim tag.toList = tag.toList := by
      rw [← String.toList_ofList (l := trim _)]
      exact congrArg String.toList (h tag htag).trimmed_eq
    rw [htrim, ← String.toList_ofList (l := lower _)]
    exact congrArg String.toList (h tag htag).lower_eq
  have hparts : (tags.map String.toList).map (fun tag => lower (trim tag)) = tags.map String.toList := by
    rw [List.map_map]
    exact List.map_congr_left hself
  have hne : ∀ w ∈ tags.map String.toList, decide (w ≠ []) = true := by
    simpa using fun tag htag => (h tag htag).toList_ne_nil
  rw [splitTags, String.toList_intercalate, hcomma, hruns, hparts, List.filter_eq_self.2 hne, List.map_map]
  simp [Function.comp_def]

/-! ## Ingredients -/

/-- **The ingredients of a meal** are trimmed. -/
theorem isTrimmed_of_mem_ingredients {m : Meal} {ingredient : String} (h : ingredient ∈ m.ingredients) :
    IsTrimmed ingredient := by
  simp only [ingredients, List.mem_filter, List.mem_map, decide_eq_true_eq] at h
  obtain ⟨⟨sent, -, rfl⟩, hne⟩ := h
  exact isTrimmed_trimmed hne

theorem length_ingredients_le (m : Meal) : m.ingredients.length ≤ slotCount := by
  have hsent : ((List.range slotCount).filterMap fun i =>
      (m.slot? (slotName (i + 1))).bind Json.text?).length ≤ slotCount := by
    simpa using List.length_filterMap_le (fun i => (m.slot? (slotName (i + 1))).bind Json.text?) (List.range slotCount)
  refine (List.length_filter_le _ _).trans ?_
  rwa [List.length_map]

theorem slotName_injective : Function.Injective slotName := by
  intro i j h
  have hrepr : i.repr = j.repr := by simpa [slotName] using h
  have hdigits : Nat.toDigits 10 i = Nat.toDigits 10 j := by rw [← Nat.toList_repr, hrepr, Nat.toList_repr]
  rw [← Nat.ofDigitChars_ten_toDigits (n := i), hdigits, Nat.ofDigitChars_ten_toDigits]

variable {r : Recipe}

theorem nodup_slots_ofRecipe (r : Recipe) : ((ofRecipe r).slots.map Prod.fst).Nodup := by
  have hnames : (ofRecipe r).slots.map Prod.fst =
      (r.ingredients.zipIdx.map Prod.snd).map fun i => slotName (i + 1) := by
    rw [ofRecipe, List.map_map, List.map_map]
    rfl
  rw [hnames, List.zipIdx_map_snd]
  refine List.Nodup.map (fun i j h => ?_) List.nodup_range'
  have := slotName_injective h
  omega

/-- A slot has the ingredient in its place. -/
theorem slot?_ofRecipe (r : Recipe) (i : Nat) :
    (ofRecipe r).slot? (slotName (i + 1)) = r.ingredients[i]?.map .string := by
  rw [slot?, Json.lookup_perm (nodup_slots_ofRecipe r) (List.reverse_perm _)]
  ext v
  rw [Json.lookup_eq_some_iff_mem (nodup_slots_ofRecipe r), Option.map_eq_some_iff, ofRecipe, List.mem_map]
  constructor
  · rintro ⟨⟨ingredient, j⟩, hmem, heq⟩
    obtain ⟨hname, rfl⟩ := Prod.mk.inj heq
    obtain rfl : j = i := Nat.succ.inj (slotName_injective hname)
    exact ⟨ingredient, List.mk_mem_zipIdx_iff_getElem?.1 hmem, rfl⟩
  · rintro ⟨ingredient, hmem, rfl⟩
    exact ⟨(ingredient, i), List.mk_mem_zipIdx_iff_getElem?.2 hmem, rfl⟩

/-- The elements in the first places of a list. -/
theorem filterMap_range_getElem? {α : Type} (as : List α) (n : Nat) :
    (List.range n).filterMap (fun i => as[i]?) = as.take n := by
  induction n with
  | zero => simp
  | succ n ih =>
    rw [List.range_succ, List.filterMap_append, ih, List.take_add_one]
    cases h : as[n]? <;> simp [h]

/-- **Ingredients that are written into slots are read back.** -/
theorem ingredients_ofRecipe (hlength : r.ingredients.length ≤ slotCount) (h : ∀ i ∈ r.ingredients, IsTrimmed i) :
    (ofRecipe r).ingredients = r.ingredients := by
  have hsent : (List.range slotCount).filterMap (fun i => ((ofRecipe r).slot? (slotName (i + 1))).bind Json.text?) =
      r.ingredients := by
    have hslot (i : Nat) : ((ofRecipe r).slot? (slotName (i + 1))).bind Json.text? = r.ingredients[i]? := by
      rw [slot?_ofRecipe]
      cases r.ingredients[i]? <;> rfl
    simp only [hslot]
    rw [filterMap_range_getElem?, List.take_of_length_le hlength]
  have htrimmed : r.ingredients.map trimmed = r.ingredients := by
    refine (List.map_congr_left fun i hi => ?_).trans (List.map_id _)
    exact (h i hi).trimmed_eq
  have hne : ∀ i ∈ r.ingredients, decide (i ≠ "") = true := by
    intro i hi
    rw [decide_eq_true_eq]
    rintro rfl
    exact absurd (h "" hi).not_blank (by decide)
  rw [ingredients, hsent, htrimmed, List.filter_eq_self.2 hne]

end Meal

/-! ## Recipes -/

/-- **A recipe that was made of a meal** has no more than twenty ingredients and is made of its own meal too. Its tags
are trimmed, in lower case and without commas, its ingredients are trimmed, and none of them is blank. -/
theorem Recipe.ofMeal_ofRecipe (m : Meal) :
    (Recipe.ofMeal m).ingredients.length ≤ 20 ∧
      Recipe.ofMeal (Meal.ofRecipe (Recipe.ofMeal m)) = Recipe.ofMeal m ∧
      (∀ tag ∈ (Recipe.ofMeal m).tags, isBlankString tag = false ∧ trimmed tag = tag ∧ ',' ∉ tag.toList ∧
        lowercase tag = tag) ∧
      ∀ ingredient ∈ (Recipe.ofMeal m).ingredients,
        isBlankString ingredient = false ∧ trimmed ingredient = ingredient := by
  have hlength : (Recipe.ofMeal m).ingredients.length ≤ 20 := Meal.length_ingredients_le m
  have hingredient : ∀ i ∈ (Recipe.ofMeal m).ingredients, Meal.IsTrimmed i := fun i hi =>
    Meal.isTrimmed_of_mem_ingredients hi
  have htag : ∀ tag ∈ (Recipe.ofMeal m).tags, Meal.IsTag tag := by
    intro tag hmem
    rw [Recipe.ofMeal] at hmem
    cases htags : m.tags with
    | none => simp [htags] at hmem
    | some tags =>
      simp only [htags, Option.map_some, Option.getD_some] at hmem
      exact Meal.isTag_of_mem_splitTags hmem
  refine ⟨hlength, ?_, fun tag hmem => ?_, fun i hi => ⟨(hingredient i hi).not_blank, (hingredient i hi).trimmed_eq⟩⟩
  · have hingredients := Meal.ingredients_ofRecipe hlength hingredient
    have htags := Meal.splitTags_intercalate htag
    generalize Recipe.ofMeal m = r at hingredients htags
    rw [Recipe.ofMeal, hingredients, Meal.ofRecipe]
    simp only [Option.getD_some, Option.map_some, htags]
  · have h := htag tag hmem
    exact ⟨h.not_blank, h.trimmed_eq, h.no_comma, h.lower_eq⟩

/-- Slots between which some are missing, blank or no text, one of which is sent twice and one of which is none of the
twenty, and tags some of which are blank. -/
theorem Recipe.ofMeal_ofRecipe_gaps :
    let m : Meal :=
      { id := "52772"
        name := some "Teriyaki"
        thumbnailUrl := none
        category := some "Chicken"
        area := none
        instructions := none
        tags := some " Meat, ,CASSEROLE ,"
        slots := [("strIngredient1", .string " soy sauce "), ("strIngredient3", .string "water"),
          ("strIngredient4", .string "  "), ("strIngredient5", .null), ("strMeasure1", .string "3/4 cup"),
          ("strIngredient9", .string "Brown Sugar"), ("strIngredient21", .string "salt"),
          ("strIngredient3", .string "broth")] }
    ((Recipe.ofMeal m).ingredients = ["soy sauce", "broth", "Brown Sugar"] ∧
      (Recipe.ofMeal m).tags = ["meat", "casserole"] ∧
      (Meal.ofRecipe (Recipe.ofMeal m)).slots.map Prod.fst =
        ["strIngredient1", "strIngredient2", "strIngredient3"]) ∧
    Recipe.ofMeal (Meal.ofRecipe (Recipe.ofMeal m)) = Recipe.ofMeal m := by
  intro m
  exact ⟨by decide +kernel, (Recipe.ofMeal_ofRecipe m).2.1⟩

end RecipeSearch
