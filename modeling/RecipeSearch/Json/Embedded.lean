import RecipeSearch.Json.Reader

/-!
# Values given as text

A value that is kept may be given as a text that spells it: an object whose only member has the name `embeddedName` and
is a string stands for the value that the string spells, wherever it occurs. An object that starts with this name and
is anything else stands for no value. `Json.resolve` puts the values in the place of such objects, and
`Reader.keepResolved` keeps a value with all of them in place.
-/

namespace RecipeSearch.Json

/-- The name of the member that gives a value as text. -/
def embeddedName : String := "$serde_json::private::RawValue"

/-- The number of brackets that may be open at once in a text of which everything is kept. -/
def textRoom : Nat := 127

/-! ## Putting values in place -/

mutual

/-- The value with all values that it gives as text in place, where `spelled?` is the value of a text. -/
def resolve (spelled? : String → Option Json) : Json → Option Json
  | array items => (resolveItems spelled? items).map array
  | object [(name, string text)] =>
    if name = embeddedName then spelled? text else some (object [(name, string text)])
  | object ((name, value) :: members) =>
    if name = embeddedName then none else (resolveMembers spelled? ((name, value) :: members)).map object
  | v => some v

/-- The items with all values that they give as text in place. -/
def resolveItems (spelled? : String → Option Json) : List Json → Option (List Json)
  | [] => some []
  | v :: vs => do return (← resolve spelled? v) :: (← resolveItems spelled? vs)

/-- The members with all values that they give as text in place. -/
def resolveMembers (spelled? : String → Option Json) : List (String × Json) → Option (List (String × Json))
  | [] => some []
  | (name, v) :: ms => do return (name, ← resolve spelled? v) :: (← resolveMembers spelled? ms)

end

/-! ## Texts within texts -/

/-- The value that a text spells, with at most `depth` texts within one another. -/
def spelledWithin? : (depth : Nat) → String → Option Json
  | 0, _ => none
  | depth + 1, text =>
    match read (Reader.keep textRoom) text.toList with
    | .ok v => resolve (spelledWithin? depth) v
    | .error _ => none

/-- The value that a text spells. A text within it is shorter, so that its length bounds how many there can be within
one another. -/
def spelled? (text : String) : Option Json :=
  spelledWithin? (text.length + 1) text

/-- Any value, to be kept with all values that it gives as text in place, with at most `room` brackets open inside it
at once. -/
def Reader.keepResolved (room : Nat) : Reader Json := fun o => do
  match resolve spelled? (← Reader.keep room o) with
  | some v => return v
  | none => throw .wrongShape

end RecipeSearch.Json
