import Mathlib.Data.List.Forall2
import RecipeSearch.Catalogue.Client
import RecipeSearch.Proofs.Json.Keeping
import RecipeSearch.Recipe.Meal

/-!
# Meals in any order and layout

A list of meals that the catalogue sends is read as one recipe for each meal, which is determined by the members of the
meal (`Recipe.ofMembers`): its texts, and its ingredients in the order of their slots. **It does not matter how the
answer is written** (`decodeItems_layout`): in which order the members of the envelope and of each meal stand, what
else the envelope holds, and how the text is laid out. The members of a meal have distinct names, and those of its texts
are strings (`IsMeal`); whatever else it holds is kept as it is (`Json.KeptAsIs`).

Without the last condition this fails (`decodeItems_not_keptAsIs`): a slot can give its value as text, and a number that
a double can hold is refused if rounding its leading digits first brings it out of range.
-/

namespace RecipeSearch

open Json (Fits found outline lookup_eq_some_iff_mem lookup_perm lookup_found KeptAsIs Layout)

/-! ## The recipe of the members -/

/-- The text of the member with a name, if there is one and it is a string. -/
def textOf? (members : List (String × Json)) (name : String) : Option String :=
  (members.lookup name).bind Json.text?

/-- The recipe that the members of a meal say. -/
def Recipe.ofMembers (members : List (String × Json)) : Recipe where
  id := (textOf? members "idMeal").getD ""
  name := (textOf? members "strMeal").getD ""
  thumbnailUrl := (textOf? members "strMealThumb").getD ""
  category := (textOf? members "strCategory").getD ""
  area := (textOf? members "strArea").getD ""
  instructions := (textOf? members "strInstructions").getD ""
  ingredients :=
    let sent := (List.range' 1 20).filterMap fun n => textOf? members s!"strIngredient{n}"
    (sent.filter fun text => !Text.isBlankString text).map Text.trimmed
  tags := ((textOf? members "strTags").map Meal.splitTags).getD []

/-- The names of the texts that may be missing. -/
def Meal.textNames : List String :=
  ["strMeal", "strMealThumb", "strCategory", "strArea", "strInstructions", "strTags"]

/-- The members are those of a meal: no name is given twice, the id is a string, and so are the other texts unless they
are missing or `null`. -/
structure IsMeal (members : List (String × Json)) : Prop where
  distinct : (members.map Prod.fst).Nodup
  id : ∃ id, ("idMeal", .string id) ∈ members
  texts : ∀ m ∈ members, m.1 ∈ Meal.textNames → m.2 = .null ∨ ∃ text, m.2 = .string text

section Order

variable {members sent : List (String × Json)}

theorem IsMeal.perm (h : IsMeal members) (hperm : sent.Perm members) : IsMeal sent where
  distinct := (hperm.map Prod.fst).nodup_iff.2 h.distinct
  id := h.id.imp fun _ => hperm.mem_iff.2
  texts m hm := h.texts m (hperm.mem_iff.1 hm)

/-- The order of the members does not matter. -/
theorem Recipe.ofMembers_perm (hdistinct : (members.map Prod.fst).Nodup) (hperm : sent.Perm members) :
    ofMembers sent = ofMembers members := by
  have htext : textOf? sent = textOf? members := by
    funext name
    rw [textOf?, textOf?, lookup_perm hdistinct hperm]
  rw [ofMembers, ofMembers, htext]

end Order

/-! ## Reading a meal -/

namespace Meal

/-- The meal with given members. -/
def ofMembers (members : List (String × Json)) : Meal where
  id := (textOf? members "idMeal").getD ""
  name := textOf? members "strMeal"
  thumbnailUrl := textOf? members "strMealThumb"
  category := textOf? members "strCategory"
  area := textOf? members "strArea"
  instructions := textOf? members "strInstructions"
  tags := textOf? members "strTags"
  slots := members.filter fun m => fields.all fun field => field.name ≠ m.1

theorem fields_eq : fields = .required "idMeal" .string :: textNames.map (.nullable · .string) := rfl

section Reading

variable {members : List (String × Json)}

theorem fits (h : IsMeal members) (hkept : ∀ m ∈ members, KeptAsIs slotRoom m.2) :
    Fits fields (fun o => (Json.Reader.keep slotRoom o).map fun _ => ()) members where
  passes m hm := by
    rw [Json.Passes]
    split
    · next field hfield =>
      -- no other member has the name of the field, so that this one has the value that the meal has under it
      have hname : field.name = m.1 := by simpa using List.find?_some hfield
      have hfield := List.mem_of_find?_eq_some hfield
      rw [fields_eq, List.mem_cons, List.mem_map] at hfield
      rcases hfield with rfl | ⟨name, hmem, rfl⟩
      · obtain ⟨id, hid⟩ := h.id
        have hm' : ("idMeal", m.2) ∈ members := by
          rw [show "idMeal" = m.1 from hname]
          exact hm
        rw [Json.eq_of_mem_of_mem h.distinct hm' hid]
        rfl
      · have hmem' : m.1 ∈ textNames := by
          rw [← hname]
          exact hmem
        rcases h.texts m hm hmem' with heq | ⟨text, heq⟩ <;> rw [heq] <;> rfl
    · rw [(hkept m hm).keep]
      rfl
  once := (List.pairwise_map.1 h.distinct).imp fun hne heq => absurd heq hne
  complete field hfield := by
    rw [fields_eq, List.mem_cons, List.mem_map] at hfield
    rcases hfield with rfl | ⟨name, -, rfl⟩
    · obtain ⟨id, hid⟩ := h.id
      exact .inr (List.mem_map_of_mem hid)
    · exact .inl rfl

theorem get_id (h : IsMeal members) :
    (found members).get "idMeal" .string = .ok ((textOf? members "idMeal").getD "") := by
  obtain ⟨id, hid⟩ := h.id
  rw [Json.Found.get, lookup_found, textOf?, (lookup_eq_some_iff_mem h.distinct).2 hid]
  rfl

theorem get?_text (h : IsMeal members) {name : String} (hname : name ∈ textNames) :
    (found members).get? name .string = .ok (textOf? members name) := by
  rw [Json.Found.get?, Json.Found.getD, lookup_found, textOf?]
  cases hlookup : members.lookup name with
  | none => rfl
  | some v =>
    rcases h.texts _ (Json.mem_of_lookup hlookup) hname with rfl | ⟨text, rfl⟩ <;> rfl

theorem mapM_keepResolved (hkept : ∀ m ∈ members, KeptAsIs slotRoom m.2) :
    (found members).mapM (fun (name, o) => (Json.Reader.keepResolved slotRoom o).map (name, ·)) = .ok members := by
  induction members with
  | nil => rfl
  | cons m ms ih =>
    have hcons : found (m :: ms) = (m.1, outline m.2) :: found ms := rfl
    have hms := ih fun m hm => hkept m (List.mem_cons_of_mem _ hm)
    rw [hcons, List.mapM_cons, hms]
    dsimp only
    rw [(hkept m List.mem_cons_self).keepResolved]
    rfl

/-- **A meal is read** from its members. -/
theorem reader_outline (h : IsMeal members) (hkept : ∀ m ∈ members, KeptAsIs slotRoom m.2) :
    reader (outline (.object members)) = .ok (ofMembers members) := by
  have hslots : (found members).filter (fun (name, _) => fields.all fun field => field.name ≠ name) =
      found (ofMembers members).slots := List.filter_map
  have hslots' : ∀ m ∈ (ofMembers members).slots, KeptAsIs slotRoom m.2 := fun m hm =>
    hkept m (List.mem_of_mem_filter hm)
  have hresolved := mapM_keepResolved hslots'
  have htext : ∀ name ∈ textNames, (found members).get? name .string = .ok (textOf? members name) := fun _ =>
    get?_text h
  simp only [textNames, List.forall_mem_cons] at htext
  obtain ⟨hname, hthumb, hcategory, harea, hinstructions, htags, -⟩ := htext
  rw [outline, reader, (fits h hkept).record, ok_bind, get_id h, hname, hthumb, hcategory, harea, hinstructions, htags,
    hslots]
  dsimp only
  rw [hresolved]
  rfl

/-- The name of a slot is none of the names that a meal has for its texts. -/
theorem slotName_ne : ∀ i < slotCount, (fields.all fun field => field.name ≠ slotName (i + 1)) = true := by
  decide +kernel

theorem slot?_ofMembers (hdistinct : (members.map Prod.fst).Nodup) {i : Nat} (hi : i < slotCount) :
    (ofMembers members).slot? (slotName (i + 1)) = members.lookup (slotName (i + 1)) := by
  have hslots : ((ofMembers members).slots.map Prod.fst).Nodup :=
    hdistinct.sublist (List.filter_sublist.map Prod.fst)
  rw [slot?, lookup_perm hslots (List.reverse_perm _)]
  exact Json.lookup_filter fun _ => slotName_ne i hi

theorem ingredients_ofMembers (hdistinct : (members.map Prod.fst).Nodup) :
    (ofMembers members).ingredients = (Recipe.ofMembers members).ingredients := by
  have hsent :
      (List.range slotCount).filterMap (fun i => ((ofMembers members).slot? (slotName (i + 1))).bind Json.text?) =
        (List.range' 1 20).filterMap fun n => textOf? members s!"strIngredient{n}" := by
    rw [List.range'_eq_map_range, List.filterMap_map]
    refine List.filterMap_congr fun i hi => ?_
    rw [slot?_ofMembers hdistinct (List.mem_range.1 hi), Function.comp, Nat.add_comm]
    rfl
  have hblank : ((· ≠ "") : String → Bool) ∘ Text.trimmed = fun text => !Text.isBlankString text := by
    funext text
    rw [Bool.eq_iff_iff, Function.comp, decide_eq_true_iff, ne_eq, Text.trimmed_eq_empty_iff, Bool.not_eq_true,
      Bool.not_eq_true']
  rw [ingredients, hsent, List.filter_map, hblank]
  rfl

theorem ofMeal_ofMembers (hdistinct : (members.map Prod.fst).Nodup) :
    Recipe.ofMeal (ofMembers members) = Recipe.ofMembers members := by
  rw [Recipe.ofMeal, ingredients_ofMembers hdistinct]
  rfl

end Reading

end Meal

namespace Catalogue

/-! ## Reading an envelope -/

section Envelope

variable {α : Type} {item : Json.Reader α} {items : Json} {as : List α} {extra envelope : List (String × Json)}

theorem envelope_fits (hitems : Json.Reader.list item (outline items) = .ok as) (hne : items ≠ .null)
    (hextra : ∀ m ∈ extra, m.1 ≠ "meals") (hperm : envelope.Perm (("meals", items) :: extra)) :
    Fits (envelopeFields item) Json.Reader.skip envelope := by
  have hother (m : String × Json) (hm : m ∈ extra) : Json.fieldOf (envelopeFields item) m.1 = none := by
    rw [Json.fieldOf, envelopeFields, List.find?_singleton, if_neg]
    rw [beq_iff_eq]
    exact (hextra m hm).symm
  refine ⟨fun m hm => ?_, ?_, fun field hfield => ?_⟩
  · rcases List.mem_cons.1 (hperm.mem_iff.1 hm) with rfl | hm
    · have horNull := Json.orNull_of_ne hne (Json.Reader.list item)
      rw [hitems] at horNull
      exact Json.check_nullable _ horNull
    · rw [Json.Passes, hother m hm]
      exact if_pos (Json.isComplete_outline m.2)
  · rw [hperm.pairwise_iff fun h heq => heq ▸ h heq.symm, List.pairwise_cons]
    refine ⟨fun m hm heq => absurd heq.symm (hextra m hm), ?_⟩
    exact List.pairwise_of_forall_mem_list fun m hm _ _ _ => hother m hm
  · rw [envelopeFields, List.mem_singleton] at hfield
    rw [hfield]
    exact .inl rfl

/-- **An envelope is read** as its items, whatever else it holds and in whatever order. -/
theorem envelope_outline (hitems : Json.Reader.list item (outline items) = .ok as) (hne : items ≠ .null)
    (hextra : ∀ m ∈ extra, m.1 ≠ "meals") (hperm : envelope.Perm (("meals", items) :: extra)) :
    Catalogue.envelope item (outline (.object envelope)) = .ok as := by
  have hlookup : envelope.lookup "meals" = some items := by
    refine Json.lookup_eq_of_forall (hperm.mem_iff.2 List.mem_cons_self) fun v hv => ?_
    rcases List.mem_cons.1 (hperm.mem_iff.1 hv) with heq | hv
    · exact congrArg Prod.snd heq
    · exact absurd rfl (hextra _ hv)
  have hget : (found envelope).get? "meals" (.list item) = .ok (some as) := by
    rw [Json.Found.get?, Json.Found.getD, lookup_found, hlookup, Option.map_some]
    dsimp only
    rw [Json.orNull_of_ne hne, hitems]
    rfl
  rw [Catalogue.envelope, outline, Json.Reader.record, (envelope_fits hitems hne hextra hperm).record, ok_bind, hget]
  rfl

end Envelope

/-- A text that lays out an object is not blank. -/
theorem isBlankString_eq_false {members : List (String × Json)} {text : String}
    (h : Layout (Json.tokens (.object members)) text.toList) : Text.isBlankString text = false := by
  rw [Json.tokens] at h
  rw [Text.isBlankString]
  generalize text.toList = cs at h
  obtain _ | ⟨-, hspells, -⟩ := h
  subst hspells
  rw [Text.isBlankText, List.all_append, List.all_append]
  have hopen : (Json.Token.text .openObject).all Text.isBlank = false := by decide
  rw [hopen, Bool.and_false, Bool.false_and]

section Meals

variable {meals sent : List (List (String × Json))}

/-- The meals that are sent are meals of the same recipes, in whatever order their members stand. -/
theorem forall_mem_sent (hmeals : ∀ meal ∈ meals, IsMeal meal)
    (hkept : ∀ meal ∈ meals, ∀ m ∈ meal, KeptAsIs Meal.slotRoom m.2) (hsent : List.Forall₂ List.Perm sent meals) :
    (∀ meal ∈ sent, IsMeal meal ∧ ∀ m ∈ meal, KeptAsIs Meal.slotRoom m.2) ∧
      sent.map Recipe.ofMembers = meals.map Recipe.ofMembers := by
  induction hsent with
  | nil => exact ⟨nofun, rfl⟩
  | @cons written meal sent meals hperm _ ih =>
    rw [List.forall_mem_cons] at hmeals hkept
    obtain ⟨hall, hrecipes⟩ := ih hmeals.2 hkept.2
    have hwritten : IsMeal written ∧ ∀ m ∈ written, KeptAsIs Meal.slotRoom m.2 :=
      ⟨hmeals.1.perm hperm, fun m hm => hkept.1 m (hperm.mem_iff.1 hm)⟩
    refine ⟨List.forall_mem_cons.2 ⟨hwritten, hall⟩, ?_⟩
    rw [List.map_cons, List.map_cons, Recipe.ofMembers_perm hmeals.1.distinct hperm, hrecipes]

/-- **The recipes of a list of meals do not depend on how the answer is written.** -/
theorem decodeItems_layout {extra envelope : List (String × Json)} {text : String} (url : String)
    (hmeals : ∀ meal ∈ meals, IsMeal meal) (hkept : ∀ meal ∈ meals, ∀ m ∈ meal, KeptAsIs Meal.slotRoom m.2)
    (hsent : List.Forall₂ List.Perm sent meals) (hextra : ∀ m ∈ extra, m.1 ≠ "meals")
    (henvelope : envelope.Perm (("meals", .array (sent.map .object)) :: extra))
    (htext : Layout (Json.tokens (.object envelope)) text.toList) :
    (decodeItems Meal.reader url text).map (List.map Recipe.ofMeal) = .ok (meals.map Recipe.ofMembers) := by
  obtain ⟨hall, hrecipes⟩ := forall_mem_sent hmeals hkept hsent
  have hlist : Json.Reader.list Meal.reader (outline (.array (sent.map .object))) = .ok (sent.map Meal.ofMembers) :=
    Json.list_outline_map fun meal hmeal => Meal.reader_outline (hall meal hmeal).1 (hall meal hmeal).2
  have hread : Json.read (Catalogue.envelope Meal.reader) text.toList = .ok (sent.map Meal.ofMembers) := by
    rw [Json.read_layout _ htext, envelope_outline hlist nofun hextra henvelope]
  have hofMeal : (sent.map Meal.ofMembers).map Recipe.ofMeal = sent.map Recipe.ofMembers := by
    rw [List.map_map]
    exact List.map_congr_left fun meal hmeal => Meal.ofMeal_ofMembers (hall meal hmeal).1.distinct
  have hblank : ¬ Text.isBlankString text = true := by
    rw [isBlankString_eq_false htext]
    exact Bool.false_ne_true
  rw [decodeItems, if_neg hblank, hread, ← hrecipes, ← hofMeal]
  rfl

end Meals

/-- A meal with names that are much like those of slots, and values of other kinds in slots, sent in reverse in an
envelope that holds a number out of range. -/
theorem decodeItems_layout_spaced :
    let stew : List (String × Json) :=
      [("idMeal", .string "7"), ("strMeal", .null), ("strIngredient10", .string "oil"),
        ("strIngredient2", .string " salt\t"), ("strIngredient01", .string "no"), ("strIngredient21", .string "no"),
        ("strIngredient3", .array [.string "no", .object [("strIngredient4", .number ⟨true, 1, [5], some 300⟩)]])]
    let items : Json := .array ([stew.reverse].map .object)
    let extra : List (String × Json) := [("count", .number ⟨false, 1, [], some 999⟩), ("count", .null)]
    let envelope : List (String × Json) := [extra[0], ("meals", items), extra[1]]
    let text := String.ofList ((Json.tokens (.object envelope)).flatMap fun t => ['\n', ' '] ++ t.text)
    IsMeal stew ∧ (∀ m ∈ stew, KeptAsIs Meal.slotRoom m.2) ∧ (∀ m ∈ extra, m.1 ≠ "meals") ∧
      envelope.Perm (("meals", items) :: extra) ∧ Layout (Json.tokens (.object envelope)) text.toList ∧
      (decodeItems Meal.reader "http://x" text).map (List.map Recipe.ofMeal) =
        .ok [⟨"7", "", "", "", "", "", ["salt", "oil"], []⟩] := by
  intro stew items extra envelope text
  have hmeal : IsMeal stew := ⟨by decide, ⟨"7", List.mem_cons_self⟩, by simp [stew, Meal.textNames]⟩
  have hkept : ∀ m ∈ stew, KeptAsIs Meal.slotRoom m.2 := by decide +kernel
  have hextra : ∀ m ∈ extra, m.1 ≠ "meals" := by decide
  have henvelope : envelope.Perm (("meals", items) :: extra) := .swap _ _ _
  have htext : Layout (Json.tokens (.object envelope)) text.toList := by
    have hgap : ∀ c ∈ ['\n', ' '], Json.isGap c = true := by simp [Json.isGap]
    rw [String.toList_ofList]
    exact Json.layout_text hgap (Json.spells_text _)
  have hrecipe : Recipe.ofMembers stew = ⟨"7", "", "", "", "", "", ["salt", "oil"], []⟩ := by decide +kernel
  have hread := decodeItems_layout "http://x" (List.forall_mem_singleton.2 hmeal) (List.forall_mem_singleton.2 hkept)
    (.cons (List.reverse_perm stew) .nil) hextra henvelope htext
  rw [List.map_singleton, hrecipe] at hread
  exact ⟨hmeal, hkept, hextra, henvelope, htext, hread⟩

/-- What is kept has to be as it is: an object in a slot can be read as the string that its only member spells, and a
number that is no larger than the largest double can be refused. -/
theorem decodeItems_not_keptAsIs :
    let salted : List (String × Json) :=
      [("idMeal", .string "1"), ("strIngredient1", .object [(Json.embeddedName, .string "\"Salt\"")])]
    let measured : List (String × Json) :=
      [("idMeal", .string "1"), ("strMeasure1", .number ⟨false, 1797693134862315708, [], some 290⟩)]
    let answer (meal : List (String × Json)) :=
      (decodeItems Meal.reader "http://x" (Json.render (.object [("meals", .array [.object meal])]))).map
        (List.map Recipe.ofMeal)
    let recipe : Recipe := ⟨"1", "", "", "", "", "", [], []⟩
    (IsMeal salted ∧ (∀ m ∈ salted, m.2.depth ≤ Meal.slotRoom) ∧ Recipe.ofMembers salted = recipe ∧
        answer salted = .ok [{ recipe with ingredients := ["Salt"] }]) ∧
      IsMeal measured ∧ (∀ m ∈ measured, m.2.depth ≤ Meal.slotRoom) ∧ Recipe.ofMembers measured = recipe ∧
        1797693134862315708 * Nat.pow 10 290 ≤ (Nat.pow 2 53 - 1) * Nat.pow 2 971 ∧
        answer measured = .error (.undecodable "http://x" .notJson) := by
  intro salted measured answer recipe
  have hsalted : IsMeal salted := ⟨by decide, ⟨"1", List.mem_cons_self⟩, by simp [salted, Meal.textNames]⟩
  have hmeasured : IsMeal measured := ⟨by decide, ⟨"1", List.mem_cons_self⟩, by simp [measured, Meal.textNames]⟩
  have hsalt : answer salted = .ok [{ recipe with ingredients := ["Salt"] }] := by decide +kernel
  have hrefused : answer measured = .error (.undecodable "http://x" .notJson) := by decide +kernel
  exact ⟨⟨hsalted, by decide, by decide +kernel, hsalt⟩, hmeasured, by decide, by decide +kernel, by decide +kernel,
    hrefused⟩

end Catalogue

end RecipeSearch
