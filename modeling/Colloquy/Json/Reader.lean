import Colloquy.Json.Token

/-!
# Reading JSON — from tokens to a document

The tokens are read once from left to right. What is open at a point is a stack of containers, each
with the part of it that is complete; `expect` is where a value is due, `settle` where one has just
been completed. There is no bound on nesting here: how deep a document may nest is for the reader of
a record to say.
-/

namespace Colloquy

namespace Json

/-- A container that is open, with the complete part of it backwards. -/
inductive Frame where
  /-- A list and its items so far. -/
  | list (items : List Json)
  /-- An object, its members so far, and the key whose value is due. -/
  | object (members : List (Option String × Json)) (key : Option String)

mutual

/-- Read on where a value is due. -/
def expect (stack : List Frame) : List Token → Option Json
  | .null :: ts => settle .null stack ts
  | .bool b :: ts => settle (.bool b) stack ts
  | .number n :: ts => settle (.number n) stack ts
  | .text s :: ts => settle (.text s) stack ts
  | .openBracket :: .closeBracket :: ts => settle (.list []) stack ts
  | .openBracket :: ts => expect (.list [] :: stack) ts
  | .openBrace :: .closeBrace :: ts => settle (.object []) stack ts
  | .openBrace :: .text key :: .colon :: ts => expect (.object [] key :: stack) ts
  | _ => none

/-- Read on where a value has been completed. -/
def settle (value : Json) : List Frame → List Token → Option Json
  | [], [] => some value
  | .list items :: stack, .comma :: ts => expect (.list (value :: items) :: stack) ts
  | .list items :: stack, .closeBracket :: ts => settle (.list (value :: items).reverse) stack ts
  | .object members key :: stack, .comma :: .text key' :: .colon :: ts =>
    expect (.object ((key, value) :: members) key' :: stack) ts
  | .object members key :: stack, .closeBrace :: ts =>
    settle (.object ((key, value) :: members).reverse) stack ts
  | _, _ => none

end

/-- The document that tokens denote. -/
def ofTokens? (tokens : List Token) : Option Json := expect [] tokens

/-- The document that a text denotes. -/
def parse? (s : String) : Option Json := (tokens? s.toList).bind ofTokens?

end Json

end Colloquy
