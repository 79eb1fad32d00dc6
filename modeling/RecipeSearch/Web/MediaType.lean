/-!
# Media types

The media type of a body, as a header names it: a type and a subtype, whose part after the last `+` is its suffix, and
parameters after a semicolon. `isJson` says whether the body is meant to be JSON.
-/

namespace RecipeSearch.Web

/-- A media type, without its parameters. -/
structure MediaType where
  kind : List Char
  subtype : List Char
  suffix : Option (List Char)
  deriving DecidableEq, Repr

namespace MediaType

/-- Characters of the names in a media type. -/
def isNameChar (c : Char) : Bool :=
  c.isAlphanum || "!#$%&'*+-.^_`|~".toList.contains c

/-- Characters that a quoted value may have: what is printable in ASCII. -/
def isQuotedChar (c : Char) : Bool :=
  31 < c.toNat && c.toNat < 127

/-- What follows the closing quote of a value of at least one character; a quote at its start counts as a part of it. -/
def afterQuoted? : List Char → Option (List Char)
  | [] => none
  | c :: cs =>
    if !isQuotedChar c then none
    else
      let rest := cs.dropWhile fun c => isQuotedChar c && c ≠ '"'
      match rest with
      | '"' :: rest => some rest
      | _ => none

/-- What follows a value without quotes, which ends at a semicolon or with the text. -/
def afterPlain? (cs : List Char) : Option (List Char) :=
  match cs.dropWhile isNameChar with
  | [] => some []
  | ';' :: rest => if (cs.takeWhile isNameChar).isEmpty then none else some rest
  | _ => none

/-- What follows the semicolon after a quoted value, or nothing at the end of the text. -/
def afterSeparator? (cs : List Char) : Option (List Char) :=
  match cs.dropWhile (· == ' ') with
  | [] => some []
  | ';' :: rest => some rest
  | _ => none

/-- What follows one parameter and its separator: a name, an equals sign and a value. -/
def afterParameter? (cs : List Char) : Option (List Char) := do
  let name := cs.takeWhile isNameChar
  guard (name ≠ [])
  match cs.dropWhile isNameChar with
  | '=' :: '"' :: value => (afterQuoted? value).bind afterSeparator?
  | '=' :: value => afterPlain? value
  | _ => none

/-- The text is a list of parameters, each perhaps after spaces. A parameter takes at least one character, so as many
steps as there are characters are enough. -/
def areParameters (cs : List Char) : Bool :=
  go cs.length cs
where
  /-- The rest of the list, in at most the given number of steps. -/
  go : Nat → List Char → Bool
    | _, [] => true
    | 0, _ => false
    | steps + 1, ' ' :: cs => go steps cs
    | steps + 1, cs =>
      match afterParameter? cs with
      | some rest => go steps rest
      | none => false

/-- Nothing, or parameters after a semicolon. -/
def isTail : List Char → Bool
  | [] => true
  | c :: cs => c == ';' && areParameters cs

/-- The subtype and suffix that a name spells: what stands before and after its last `+`, which is not its first
character. -/
def splitSuffix (name : List Char) : List Char × Option (List Char) :=
  let suffix := (name.reverse.takeWhile (· ≠ '+')).reverse
  let size := name.length - suffix.length
  if size < 2 then (name, none) else (name.take (size - 1), some suffix)

/-- The media type that a text names. -/
def parse? (cs : List Char) : Option MediaType := do
  let kind := cs.takeWhile isNameChar
  guard (kind ≠ [] ∧ (cs.drop kind.length).head? = some '/')
  let rest := cs.drop (kind.length + 1)
  let name := rest.takeWhile isNameChar
  let tail := rest.drop name.length
  guard (isTail tail ∧ (name ≠ [] ∨ tail = []))
  let (subtype, suffix) := splitSuffix name
  return ⟨kind, subtype, suffix⟩

/-- The name is that word, in either case. -/
def names (word : String) (name : List Char) : Bool :=
  name.map Char.toLower == word.toList

/-- JSON, or a format that is written in JSON. -/
def isJson (t : MediaType) : Bool :=
  names "application" t.kind && (names "json" t.subtype || (t.suffix.map (names "json")).getD false)

end MediaType

end RecipeSearch.Web
