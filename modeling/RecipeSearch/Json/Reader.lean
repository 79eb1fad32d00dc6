import RecipeSearch.Json.Outline

/-!
# Reading records

A `Reader` takes the outline of a text and gives a value, or the first fault in reading order: the text is no JSON, or
it is and says something else. A record is read from an object, whose members may come in any order and of which those
with other names are passed over, or from an array of its fields in their own order.
-/

namespace RecipeSearch.Json

/-- Why a text is not the record that it was read as. -/
inductive Fault where
  /-- The text is not JSON, or holds a value that cannot be represented. -/
  | notJson
  /-- The text is JSON up to a value of the wrong type, or a member that is missing or given twice. -/
  | wrongShape
  deriving DecidableEq, Repr

/-- A way to read outlines. -/
abbrev Reader (α : Type) := Outline → Except Fault α

/-- The fault of a value that stands where another kind of value should. -/
def Outline.misfit : Outline → Fault
  | .malformed => .notJson
  | .unpaired => .notJson
  | .number n => if n.isHuge then .notJson else .wrongShape
  | _ => .wrongShape

namespace Reader

/-- A string. -/
def string : Reader String
  | .string s => .ok s
  | o => .error o.misfit

/-- A truth value. -/
def bool : Reader Bool
  | .bool b => .ok b
  | o => .error o.misfit

/-- A natural number of 64 bits. -/
def nat : Reader Nat
  | .number n => match n.nat? with
    | some k => .ok k
    | none => .error (Outline.number n).misfit
  | o => .error o.misfit

/-- A value that `null` may stand for. -/
def orNull (reader : Reader α) : Reader (Option α)
  | .null => .ok none
  | o => (reader o).map some

/-- The items of an array. -/
def items (reader : Reader α) : Items → Except Fault (List α)
  | .closed => .ok []
  | .malformed => .error .notJson
  | .cons item rest => do return (← reader item) :: (← items reader rest)

/-- An array of values of one kind. -/
def list (reader : Reader α) : Reader (List α)
  | .array is => items reader is
  | o => .error o.misfit

/-- Any value, passed over. -/
def skip : Reader Unit := fun o =>
  if o.isComplete then .ok () else .error .notJson

/-- Any value, to be kept, with at most `room` brackets open inside it at once. -/
def keep (room : Nat) : Reader Json := fun o =>
  match o.keep room with
  | some v => .ok v
  | none => .error .notJson

/-- One of the names, as a string or as the only member of an object, with the value `null`. -/
def name (values : List (String × α)) : Reader α
  | .string s => match values.lookup s with
    | some a => .ok a
    | none => .error .wrongShape
  | .object (.cons (some s) value rest) =>
    match values.lookup s, value, rest with
    | some a, .null, .closed => .ok a
    | some _, .null, _ => .error .notJson
    | some _, value, _ => .error value.misfit
    | none, _, _ => .error .wrongShape
  | _ => .error .notJson

end Reader

/-! ## Records -/

/-- A field of a record. -/
structure Field where
  name : String
  check : Reader Unit
  /-- The field may be missing from an object. -/
  optional : Bool
  /-- The field may be missing from an array, with all those after it. -/
  trailing : Bool

namespace Field

/-- A field that is always there. -/
def required (name : String) (reader : Reader α) : Field :=
  ⟨name, fun o => (reader o).map fun _ => (), false, false⟩

/-- A field that may be `null`, or missing from an object. -/
def nullable (name : String) (reader : Reader α) : Field :=
  { required name (Reader.orNull reader) with optional := true }

/-- A field that may be missing. -/
def defaulted (name : String) (reader : Reader α) : Field :=
  { required name reader with optional := true, trailing := true }

end Field

/-- The outlines of the members of a record, each with its name. -/
abbrev Found := List (String × Outline)

namespace Found

/-- The value of a field that is there. -/
def get (found : Found) (name : String) (reader : Reader α) : Except Fault α :=
  match found.lookup name with
  | some o => reader o
  | none => .error .wrongShape

/-- The value of a field, or a default if it is missing. -/
def getD (found : Found) (name : String) (reader : Reader α) (default : α) : Except Fault α :=
  match found.lookup name with
  | some o => reader o
  | none => .ok default

/-- The value of a field that may be `null` or missing. -/
def get? (found : Found) (name : String) (reader : Reader α) : Except Fault (Option α) :=
  found.getD name (Reader.orNull reader) none

end Found

/-- The members, each checked as its field asks and those without a field as `others` asks, in the order of the text. A
field whose name is among `seen` is not given again. -/
def Members.survey (fields : List Field) (others : Reader Unit) (seen : List String) :
    Members → Except Fault Found
  | .closed => .ok []
  | .malformed => .error .notJson
  | .cons none _ _ => .error .notJson
  | .cons (some name) value rest =>
    match fields.find? (·.name == name) with
    | some field =>
      if seen.contains name then .error .wrongShape
      else do
        field.check value
        return (name, value) :: (← rest.survey fields others (name :: seen))
    | none => do
      others value
      return (name, value) :: (← rest.survey fields others seen)

/-- The items, each checked as the field in its place asks. -/
def Items.survey : List Field → Items → Except Fault Found
  | [], .closed => .ok []
  | [], _ => .error .notJson
  | field :: fields, .closed => if field.trailing then Items.survey fields .closed else .error .wrongShape
  | _ :: _, .malformed => .error .notJson
  | field :: fields, .cons item rest => do
    field.check item
    return (field.name, item) :: (← Items.survey fields rest)

/-- The members of an object with the given fields, none of which is missing. -/
def Members.record (fields : List Field) (others : Reader Unit) (members : Members) : Except Fault Found := do
  let found ← members.survey fields others []
  if fields.all fun field => field.optional || (found.lookup field.name).isSome then return found
  else throw .wrongShape

/-- A record with the given fields, from an object or an array. -/
def Reader.record (fields : List Field) : Reader Found
  | .object members => members.record fields Reader.skip
  | .array items => items.survey fields
  | o => .error o.misfit

/-! ## Texts -/

/-- The value that a whole text spells. -/
def read (reader : Reader α) (text : List Char) : Except Fault α := do
  let (outline, rest) := Outline.ofTokens (lex text)
  let value ← reader outline
  if rest.isEmpty then return value else throw .notJson

/-- The value that a text spells at its start, whatever follows it. -/
def readStart (reader : Reader α) (text : List Char) : Except Fault α :=
  reader (Outline.ofTokens (lex text)).1

end RecipeSearch.Json
