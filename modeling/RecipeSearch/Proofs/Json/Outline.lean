import RecipeSearch.Json.Reader
import RecipeSearch.Proofs.Json.Spelling

/-!
# Reading a text that lays out a value

A value has an outline (`outline`), which is found from its tokens (`readValue_tokens`). What reading a text that lays
the value out gives is thus what reading its outline gives (`read_layout`), so that it does not depend on the layout;
the text that is written for the value is one of them (`read_render`, `readStart_render`).
-/

namespace RecipeSearch.Json

/-! ## The outline of a value -/

mutual

/-- What the text of a value says. -/
def outline : Json → Outline
  | null => .null
  | bool b => .bool b
  | number n => .number n
  | string s => .string s
  | array items => .array (outlineOfItems items)
  | object members => .object (outlineOfMembers members)

/-- What the text of items says. -/
def outlineOfItems : List Json → Items
  | [] => .closed
  | v :: vs => .cons (outline v) (outlineOfItems vs)

/-- What the text of members says. -/
def outlineOfMembers : List (String × Json) → Members
  | [] => .closed
  | (name, v) :: ms => .cons (some name) (outline v) (outlineOfMembers ms)

end

mutual

/-- The outline of a value is complete. -/
theorem isComplete_outline : ∀ v : Json, (outline v).isComplete = true
  | .null | .bool _ | .number _ | .string _ => rfl
  | .array items => isComplete_outlineOfItems items
  | .object members => isComplete_outlineOfMembers members

theorem isComplete_outlineOfItems : ∀ vs : List Json, (outlineOfItems vs).isComplete = true
  | [] => rfl
  | v :: vs => by
    rw [outlineOfItems, Items.isComplete, isComplete_outline v, isComplete_outlineOfItems vs, Bool.and_true]

theorem isComplete_outlineOfMembers : ∀ ms : List (String × Json), (outlineOfMembers ms).isComplete = true
  | [] => rfl
  | (_, v) :: ms => by
    rw [outlineOfMembers, Members.isComplete, isComplete_outline v, isComplete_outlineOfMembers ms, Bool.and_true]

end

/-! ## Single steps -/

section Steps

variable {fuel : Nat} {ts : List Token}

theorem readValue_openArray (hne : ∀ us, ts ≠ .closeArray :: us) :
    readValue (fuel + 1) (.openArray :: ts) = (.array (readItems fuel ts).1, (readItems fuel ts).2) := by
  unfold readValue
  split <;> simp_all

theorem readValue_openObject (hne : ∀ us, ts ≠ .closeObject :: us) :
    readValue (fuel + 1) (.openObject :: ts) = (.object (readMembers fuel ts).1, (readMembers fuel ts).2) := by
  unfold readValue
  split <;> simp_all

variable {o : Outline} {us : List Token}

theorem readItems_last (h : readValue fuel ts = (o, .closeArray :: us)) :
    readItems (fuel + 1) ts = (.cons o .closed, us) := by
  rw [readItems, h]

theorem readItems_comma (h : readValue fuel ts = (o, .comma :: us)) :
    readItems (fuel + 1) ts = (.cons o (readItems fuel us).1, (readItems fuel us).2) := by
  rw [readItems, h]

theorem readMembers_last {name : String} (h : readValue fuel ts = (o, .closeObject :: us)) :
    readMembers (fuel + 2) (.string name :: .colon :: ts) = (.cons (some name) o .closed, us) := by
  rw [readMembers, readMember, h]

theorem readMembers_comma {name : String} (h : readValue fuel ts = (o, .comma :: us)) :
    readMembers (fuel + 2) (.string name :: .colon :: ts) =
      (.cons (some name) o (readMembers fuel us).1, (readMembers fuel us).2) := by
  rw [readMembers, readMember, h]

end Steps

/-! ## Values -/

theorem tokensOfItems_cons_cons (v w : Json) (vs : List Json) :
    tokensOfItems (v :: w :: vs) = tokens v ++ .comma :: tokensOfItems (w :: vs) := rfl

theorem tokensOfMembers_cons_cons (name : String) (v : Json) (m : String × Json) (ms : List (String × Json)) :
    tokensOfMembers ((name, v) :: m :: ms) =
      .string name :: .colon :: (tokens v ++ .comma :: tokensOfMembers (m :: ms)) := rfl

theorem tokens_ne_closeArray (v : Json) (ts us : List Token) : tokens v ++ ts ≠ .closeArray :: us := by
  cases v <;> rw [tokens] <;> nofun

theorem tokensOfItems_ne_closeArray (v : Json) (vs : List Json) (ts us : List Token) :
    tokensOfItems (v :: vs) ++ ts ≠ .closeArray :: us := by
  cases vs with
  | nil => exact tokens_ne_closeArray v ts us
  | cons w vs =>
    rw [tokensOfItems_cons_cons, List.append_assoc]
    exact tokens_ne_closeArray v _ us

theorem tokensOfMembers_ne_closeObject (m : String × Json) (ms : List (String × Json)) (ts us : List Token) :
    tokensOfMembers (m :: ms) ++ ts ≠ .closeObject :: us := by
  cases ms <;> nofun

mutual

/-- A value is read from its tokens, whatever follows them; two steps for each token are enough. -/
theorem readValue_tokens : ∀ (v : Json) (fuel : Nat) (ts : List Token), 2 * (tokens v).length ≤ fuel →
    readValue fuel (tokens v ++ ts) = (outline v, ts)
  | v, 0, ts, h => by
    cases v <;> simp [tokens] at h
  | .null, fuel + 1, ts, _ => rfl
  | .bool _, fuel + 1, ts, _ => rfl
  | .number _, fuel + 1, ts, _ => rfl
  | .string _, fuel + 1, ts, _ => rfl
  | .array [], fuel + 1, ts, _ => rfl
  | .array (v :: vs), fuel + 1, ts, h => by
    rw [tokens, List.length_append, List.length_cons, List.length_singleton] at h
    have hitems := readItems_tokens v vs fuel ts (by omega)
    rw [tokens, List.cons_append, List.cons_append, List.append_assoc, List.singleton_append,
      readValue_openArray (tokensOfItems_ne_closeArray v vs _), hitems, outline]
  | .object [], fuel + 1, ts, _ => rfl
  | .object (m :: ms), fuel + 1, ts, h => by
    rw [tokens, List.length_append, List.length_cons, List.length_singleton] at h
    have hmembers := readMembers_tokens m ms fuel ts (by omega)
    rw [tokens, List.cons_append, List.cons_append, List.append_assoc, List.singleton_append,
      readValue_openObject (tokensOfMembers_ne_closeObject m ms _), hmembers, outline]

/-- One or more items are read from their tokens and the closing bracket. -/
theorem readItems_tokens : ∀ (v : Json) (vs : List Json) (fuel : Nat) (ts : List Token),
    2 * (tokensOfItems (v :: vs)).length < fuel →
    readItems fuel (tokensOfItems (v :: vs) ++ .closeArray :: ts) = (outlineOfItems (v :: vs), ts)
  | _, _, 0, _, h => absurd h (Nat.not_lt_zero _)
  | v, [], fuel + 1, ts, h => by
    rw [tokensOfItems] at h ⊢
    have hv := readValue_tokens v fuel (.closeArray :: ts) (by omega)
    rw [readItems_last hv, outlineOfItems, outlineOfItems]
  | v, w :: vs, fuel + 1, ts, h => by
    rw [tokensOfItems_cons_cons, List.length_append, List.length_cons] at h
    have hv := readValue_tokens v fuel (.comma :: (tokensOfItems (w :: vs) ++ .closeArray :: ts)) (by omega)
    have hrest := readItems_tokens w vs fuel ts (by omega)
    rw [tokensOfItems_cons_cons, List.append_assoc, List.cons_append, readItems_comma hv, hrest]
    rfl

/-- One or more members are read from their tokens and the closing bracket. -/
theorem readMembers_tokens : ∀ (m : String × Json) (ms : List (String × Json)) (fuel : Nat) (ts : List Token),
    2 * (tokensOfMembers (m :: ms)).length < fuel →
    readMembers fuel (tokensOfMembers (m :: ms) ++ .closeObject :: ts) = (outlineOfMembers (m :: ms), ts)
  | _, _, 0, _, h => absurd h (Nat.not_lt_zero _)
  | (name, v), [], 1, ts, h => by
    simp [tokensOfMembers] at h
  | (name, v), m :: ms, 1, ts, h => by
    simp [tokensOfMembers] at h
  | (name, v), [], fuel + 2, ts, h => by
    rw [tokensOfMembers, List.length_cons, List.length_cons] at h
    have hv := readValue_tokens v fuel (.closeObject :: ts) (by omega)
    rw [tokensOfMembers, List.cons_append, List.cons_append, readMembers_last hv, outlineOfMembers, outlineOfMembers]
  | (name, v), m :: ms, fuel + 2, ts, h => by
    rw [tokensOfMembers_cons_cons, List.length_cons, List.length_cons, List.length_append, List.length_cons] at h
    have hv := readValue_tokens v fuel (.comma :: (tokensOfMembers (m :: ms) ++ .closeObject :: ts)) (by omega)
    have hrest := readMembers_tokens m ms fuel ts (by omega)
    rw [tokensOfMembers_cons_cons, List.cons_append, List.cons_append, List.append_assoc, List.cons_append,
      readMembers_comma hv, hrest]
    rfl

end

theorem ofTokens_tokens (v : Json) : Outline.ofTokens (tokens v) = (outline v, []) := by
  have h := readValue_tokens v (3 * (tokens v).length + 1) [] (by omega)
  rwa [List.append_nil] at h

/-! ## Texts -/

section Texts

variable {α : Type}

/-- **Reading a text that lays out a value** is reading the outline of the value. -/
theorem read_layout (reader : Reader α) {v : Json} {text : List Char} (h : Layout v.tokens text) :
    read reader text = reader (outline v) := by
  rw [read, lex_layout h, ofTokens_tokens]
  dsimp only
  cases reader (outline v) <;> rfl

/-- Reading a written value is reading its outline. -/
theorem read_render (reader : Reader α) (v : Json) : read reader (render v).toList = reader (outline v) :=
  read_layout reader (layout_render v)

/-- Reading the start of a written value is reading its outline. -/
theorem readStart_render (reader : Reader α) (v : Json) : readStart reader (render v).toList = reader (outline v) := by
  rw [readStart, lex_layout (layout_render v), ofTokens_tokens]

end Texts

end RecipeSearch.Json
