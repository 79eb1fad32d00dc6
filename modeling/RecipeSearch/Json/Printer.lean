import RecipeSearch.Json.Basic
import RecipeSearch.Json.Token
import RecipeSearch.Text.Quoted

/-!
# Writing JSON texts

A value is written as its tokens (`tokens`), each in its own spelling (`Token.text`) and without blanks between them.
In a string only quotes, backslashes and control characters are escaped.
-/

namespace RecipeSearch.Json

/-! ## Tokens of a value -/

mutual

/-- The tokens of a value. -/
def tokens : Json → List Token
  | null => [.null]
  | bool b => [.bool b]
  | number n => [.number n]
  | string s => [.string s]
  | array items => .openArray :: tokensOfItems items ++ [.closeArray]
  | object members => .openObject :: tokensOfMembers members ++ [.closeObject]

/-- The tokens of items, with commas between them. -/
def tokensOfItems : List Json → List Token
  | [] => []
  | [v] => tokens v
  | v :: vs => tokens v ++ .comma :: tokensOfItems vs

/-- The tokens of members, with commas between them. -/
def tokensOfMembers : List (String × Json) → List Token
  | [] => []
  | [(name, v)] => .string name :: .colon :: tokens v
  | (name, v) :: ms => .string name :: .colon :: tokens v ++ .comma :: tokensOfMembers ms

end

/-! ## Spelling of a token -/

/-- A character in a string. -/
def escapeChar (c : Char) : List Char :=
  match c with
  | '"' => ['\\', '"']
  | '\\' => ['\\', '\\']
  | '\x08' => ['\\', 'b']
  | '\x0c' => ['\\', 'f']
  | '\n' => ['\\', 'n']
  | '\r' => ['\\', 'r']
  | '\t' => ['\\', 't']
  | c =>
    if c.toNat < 16 then ['\\', 'u', '0', '0', '0'] ++ Text.hexText c.toNat
    else if c.toNat < 32 then ['\\', 'u', '0', '0'] ++ Text.hexText c.toNat
    else [c]

/-- The spelling of a token. What no text spells is left empty. -/
def Token.text : Token → List Char
  | .openObject => ['\x7b']
  | .closeObject => ['\x7d']
  | .openArray => ['[']
  | .closeArray => [']']
  | .comma => [',']
  | .colon => [':']
  | .null => ['n', 'u', 'l', 'l']
  | .bool true => ['t', 'r', 'u', 'e']
  | .bool false => ['f', 'a', 'l', 's', 'e']
  | .number n => n.text
  | .string s => '"' :: s.toList.flatMap escapeChar ++ ['"']
  | .unpaired => []
  | .malformed => []

/-- The text of a value. -/
def render (v : Json) : String :=
  String.ofList (v.tokens.flatMap Token.text)

end RecipeSearch.Json
