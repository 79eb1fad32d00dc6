import RecipeSearch.Json.Basic
import RecipeSearch.Json.Token

/-!
# Outlines of JSON texts

Reading a record from a text goes from left to right and stops at the first problem, be it that the text is no JSON or
that a value has the wrong shape. An `Outline` is what makes this independent of the kind of record: it is the tree of
values that a text spells, as far as the text is JSON, with the place marked where it stops being so. A complete one is
a value (`keep`).
-/

namespace RecipeSearch.Json

mutual

/-- What a text says in the place of a value. -/
inductive Outline where
  | null
  | bool (b : Bool)
  | number (n : Numeral)
  | string (s : String)
  /-- A string that escapes half of a surrogate pair. -/
  | unpaired
  | array (items : Items)
  | object (members : Members)
  /-- No value stands here. -/
  | malformed

/-- What a text says after an opening square bracket. -/
inductive Items where
  | closed
  /-- Neither an item nor the closing bracket stands where one of them should. -/
  | malformed
  | cons (item : Outline) (rest : Items)

/-- What a text says after an opening curly bracket. -/
inductive Members where
  | closed
  /-- Neither a member nor the closing bracket stands where one of them should. -/
  | malformed
  /-- A member; it has no name if that is half of a surrogate pair. -/
  | cons (name : Option String) (value : Outline) (rest : Members)

end

/-! ## From tokens -/

mutual

/-- The value at the start of the tokens, and what follows it. Each unit of fuel is one step of the grammar. -/
def readValue : Nat → List Token → Outline × List Token
  | fuel + 1, .openArray :: ts =>
    match ts with
    | .closeArray :: ts => (.array .closed, ts)
    | ts =>
      let (items, ts) := readItems fuel ts
      (.array items, ts)
  | fuel + 1, .openObject :: ts =>
    match ts with
    | .closeObject :: ts => (.object .closed, ts)
    | ts =>
      let (members, ts) := readMembers fuel ts
      (.object members, ts)
  | _ + 1, .null :: ts => (.null, ts)
  | _ + 1, .bool b :: ts => (.bool b, ts)
  | _ + 1, .number n :: ts => (.number n, ts)
  | _ + 1, .string s :: ts => (.string s, ts)
  | _ + 1, .unpaired :: ts => (.unpaired, ts)
  | _, ts => (.malformed, ts)

/-- One or more items up to the closing bracket. -/
def readItems : Nat → List Token → Items × List Token
  | fuel + 1, ts =>
    let (item, ts) := readValue fuel ts
    match ts with
    | .comma :: ts =>
      let (rest, ts) := readItems fuel ts
      (.cons item rest, ts)
    | .closeArray :: ts => (.cons item .closed, ts)
    | ts => (.cons item .malformed, ts)
  | 0, ts => (.malformed, ts)

/-- One or more members up to the closing bracket. -/
def readMembers : Nat → List Token → Members × List Token
  | fuel + 1, .string name :: ts => readMember fuel (some name) ts
  | fuel + 1, .unpaired :: ts => readMember fuel none ts
  | _, ts => (.malformed, ts)

/-- The rest of a member after its name, and the members after it. -/
def readMember : Nat → Option String → List Token → Members × List Token
  | fuel + 1, name, .colon :: ts =>
    let (value, ts) := readValue fuel ts
    match ts with
    | .comma :: ts =>
      let (rest, ts) := readMembers fuel ts
      (.cons name value rest, ts)
    | .closeObject :: ts => (.cons name value .closed, ts)
    | ts => (.cons name value .malformed, ts)
  | _, name, ts => (.cons name .malformed .malformed, ts)

end

/-- The value at the start of the tokens, and what follows it. A token is read in at most three steps. -/
def Outline.ofTokens (ts : List Token) : Outline × List Token :=
  readValue (3 * ts.length + 1) ts

/-! ## Complete outlines -/

mutual

/-- The text is JSON from the start of this value to its end. -/
def Outline.isComplete : Outline → Bool
  | .array items => items.isComplete
  | .object members => members.isComplete
  | .malformed => false
  | _ => true

/-- All items are complete, and the bracket is closed. -/
def Items.isComplete : Items → Bool
  | .closed => true
  | .malformed => false
  | .cons item rest => item.isComplete && rest.isComplete

/-- All members are complete, and the bracket is closed. -/
def Members.isComplete : Members → Bool
  | .closed => true
  | .malformed => false
  | .cons _ value rest => value.isComplete && rest.isComplete

end

mutual

/-- The value, if it is complete, can be represented, and opens at most `room` brackets inside one another. -/
def Outline.keep (room : Nat) : Outline → Option Json
  | .null => some .null
  | .bool b => some (.bool b)
  | .number n => if n.isHuge then none else some (.number n)
  | .string s => some (.string s)
  | .unpaired => none
  | .array items => if room = 0 then none else (items.keep (room - 1)).map .array
  | .object members => if room = 0 then none else (members.keep (room - 1)).map .object
  | .malformed => none

/-- The values of the items. -/
def Items.keep (room : Nat) : Items → Option (List Json)
  | .closed => some []
  | .malformed => none
  | .cons item rest => do return (← item.keep room) :: (← rest.keep room)

/-- The members with their values. -/
def Members.keep (room : Nat) : Members → Option (List (String × Json))
  | .closed => some []
  | .malformed => none
  | .cons name value rest => do return (← name, ← value.keep room) :: (← rest.keep room)

end

end RecipeSearch.Json
