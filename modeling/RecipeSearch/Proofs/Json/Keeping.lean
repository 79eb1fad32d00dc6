import RecipeSearch.Json.Embedded
import RecipeSearch.Proofs.Json.Record

/-!
# Keeping a value as it is

A value is kept as it was sent (`KeptAsIs.keepResolved`) if it opens no more brackets inside one another than there is
room for, and if each of its parts, the value itself among them, is literal (`isLiteral`): no number that is too large
for a double, and no object that starts as one does that gives a value as text.
-/

namespace RecipeSearch.Json

/-! ## Depth and parts -/

mutual

/-- The number of brackets that are open where the value is deepest. -/
def depth : Json → Nat
  | array items => depthOfItems items + 1
  | object members => depthOfMembers members + 1
  | _ => 0

/-- The depth of the deepest item. -/
def depthOfItems : List Json → Nat
  | [] => 0
  | v :: vs => max (depth v) (depthOfItems vs)

/-- The depth of the deepest member. -/
def depthOfMembers : List (String × Json) → Nat
  | [] => 0
  | (_, v) :: ms => max (depth v) (depthOfMembers ms)

end

mutual

/-- The value and all values inside it. -/
def parts : Json → List Json
  | array items => array items :: partsOfItems items
  | object members => object members :: partsOfMembers members
  | v => [v]

/-- The items and all values inside them. -/
def partsOfItems : List Json → List Json
  | [] => []
  | v :: vs => parts v ++ partsOfItems vs

/-- The values of the members and all values inside them. -/
def partsOfMembers : List (String × Json) → List Json
  | [] => []
  | (_, v) :: ms => parts v ++ partsOfMembers ms

end

theorem mem_parts_self (v : Json) : v ∈ v.parts := by
  cases v <;> exact List.mem_cons_self

/-- The value says what it is, leaving its parts aside: it is a number that fits a double, or an object that does not
start with a value given as text, or of another kind. -/
def isLiteral : Json → Bool
  | number n => !n.isHuge
  | object ((name, _) :: _) => name ≠ embeddedName
  | _ => true

/-- The value opens at most `room` brackets inside one another, and all its parts are literal. -/
structure KeptAsIs (room : Nat) (v : Json) : Prop where
  depth_le : v.depth ≤ room
  literal : ∀ part ∈ v.parts, part.isLiteral = true

instance (room : Nat) (v : Json) : Decidable (KeptAsIs room v) :=
  decidable_of_iff (v.depth ≤ room ∧ ∀ part ∈ v.parts, part.isLiteral = true)
    ⟨fun h => ⟨h.1, h.2⟩, fun h => ⟨h.depth_le, h.literal⟩⟩

/-! ## What is kept -/

mutual

theorem keep_outline : ∀ (v : Json) (room : Nat), v.depth ≤ room → (∀ part ∈ v.parts, part.isLiteral = true) →
    (outline v).keep room = some v
  | .null, _, _, _ | .bool _, _, _, _ | .string _, _, _, _ => rfl
  | .number n, room, _, hliteral => by
    have hn : ¬ n.isHuge = true := by simpa [isLiteral] using hliteral _ (mem_parts_self _)
    rw [outline, Outline.keep, if_neg hn]
  | .array items, room, hdepth, hliteral => by
    rw [depth] at hdepth
    have hitems := keep_outlineOfItems items (room - 1) (by omega) fun part hpart =>
      hliteral part (List.mem_cons_of_mem _ hpart)
    rw [outline, Outline.keep, if_neg (by omega), hitems, Option.map_some]
  | .object members, room, hdepth, hliteral => by
    rw [depth] at hdepth
    have hmembers := keep_outlineOfMembers members (room - 1) (by omega) fun part hpart =>
      hliteral part (List.mem_cons_of_mem _ hpart)
    rw [outline, Outline.keep, if_neg (by omega), hmembers, Option.map_some]

theorem keep_outlineOfItems : ∀ (vs : List Json) (room : Nat), depthOfItems vs ≤ room →
    (∀ part ∈ partsOfItems vs, part.isLiteral = true) → (outlineOfItems vs).keep room = some vs
  | [], _, _, _ => rfl
  | v :: vs, room, hdepth, hliteral => by
    rw [depthOfItems] at hdepth
    rw [partsOfItems, List.forall_mem_append] at hliteral
    have hv := keep_outline v room (by omega) hliteral.1
    have hvs := keep_outlineOfItems vs room (by omega) hliteral.2
    rw [outlineOfItems, Items.keep, hv, hvs]
    rfl

theorem keep_outlineOfMembers : ∀ (ms : List (String × Json)) (room : Nat), depthOfMembers ms ≤ room →
    (∀ part ∈ partsOfMembers ms, part.isLiteral = true) → (outlineOfMembers ms).keep room = some ms
  | [], _, _, _ => rfl
  | (_, v) :: ms, room, hdepth, hliteral => by
    rw [depthOfMembers] at hdepth
    rw [partsOfMembers, List.forall_mem_append] at hliteral
    have hv := keep_outline v room (by omega) hliteral.1
    have hms := keep_outlineOfMembers ms room (by omega) hliteral.2
    rw [outlineOfMembers, Members.keep, hv, hms]
    rfl

end

/-! ## What is put in place -/

theorem resolve_object {spelled? : String → Option Json} {name : String} (hname : name ≠ embeddedName) (v : Json)
    (ms : List (String × Json)) :
    resolve spelled? (.object ((name, v) :: ms)) = (resolveMembers spelled? ((name, v) :: ms)).map .object := by
  unfold resolve
  split
  · next heq => cases heq
  · next heq =>
    cases heq
    rw [if_neg hname]
    rfl
  · next heq =>
    cases heq
    rw [if_neg hname]
  · next hother =>
    exact absurd rfl (hother name v ms)

mutual

/-- Nothing is put in the place of a value whose parts are literal. -/
theorem resolve_literal (spelled? : String → Option Json) : ∀ v : Json, (∀ part ∈ v.parts, part.isLiteral = true) →
    resolve spelled? v = some v
  | .null, _ | .bool _, _ | .number _, _ | .string _, _ => rfl
  | .array items, hliteral => by
    have hitems := resolveItems_literal spelled? items fun part hpart => hliteral part (List.mem_cons_of_mem _ hpart)
    rw [resolve, hitems, Option.map_some]
  | .object [], _ => rfl
  | .object ((name, v) :: ms), hliteral => by
    have hname : name ≠ embeddedName := by simpa [isLiteral] using hliteral _ (mem_parts_self _)
    have hmembers := resolveMembers_literal spelled? ((name, v) :: ms) fun part hpart =>
      hliteral part (List.mem_cons_of_mem _ hpart)
    rw [resolve_object hname, hmembers, Option.map_some]

theorem resolveItems_literal (spelled? : String → Option Json) : ∀ vs : List Json,
    (∀ part ∈ partsOfItems vs, part.isLiteral = true) → resolveItems spelled? vs = some vs
  | [], _ => rfl
  | v :: vs, hliteral => by
    rw [partsOfItems, List.forall_mem_append] at hliteral
    rw [resolveItems, resolve_literal spelled? v hliteral.1, resolveItems_literal spelled? vs hliteral.2]
    rfl

theorem resolveMembers_literal (spelled? : String → Option Json) : ∀ ms : List (String × Json),
    (∀ part ∈ partsOfMembers ms, part.isLiteral = true) → resolveMembers spelled? ms = some ms
  | [], _ => rfl
  | (_, v) :: ms, hliteral => by
    rw [partsOfMembers, List.forall_mem_append] at hliteral
    rw [resolveMembers, resolve_literal spelled? v hliteral.1, resolveMembers_literal spelled? ms hliteral.2]
    rfl

end

section Kept

variable {room : Nat} {v : Json}

theorem KeptAsIs.keep (h : KeptAsIs room v) : Reader.keep room (outline v) = .ok v := by
  rw [Reader.keep, keep_outline v room h.depth_le h.literal]

/-- **A value whose parts are literal is kept as it is.** -/
theorem KeptAsIs.keepResolved (h : KeptAsIs room v) : Reader.keepResolved room (outline v) = .ok v := by
  rw [Reader.keepResolved, h.keep, ok_bind, resolve_literal spelled? v h.literal]
  rfl

end Kept

end RecipeSearch.Json
