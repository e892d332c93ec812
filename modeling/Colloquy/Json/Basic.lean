import Colloquy.Json.Numeral
import Colloquy.Sorted

/-!
# JSON — the syntax tree of a document

A document is kept as it is written: members stay in order and may repeat, a number knows whether
it was written as an integer, and a string literal with half a surrogate pair is kept apart,
because it denotes no text. What a reader of records skips may be such a literal; what it uses
may not. `Json.isSound` collects the demands on the parts that are used.
-/

namespace Colloquy

/-- A JSON document. A text is absent where the literal contains half a surrogate pair. -/
inductive Json where
  | null
  | bool (b : Bool)
  | number (n : Numeral)
  | text (s : Option String)
  | list (items : List Json)
  | object (members : List (Option String × Json))
  deriving Repr

namespace Json

instance : Inhabited Json := ⟨.null⟩

/-- The document of a text. -/
def ofString (s : String) : Json := .text (some s)

/-- The document of an integer. -/
def ofInt : Int → Json
  | .ofNat n => .number (.whole false n)
  | .negSucc n => .number (.whole true (n + 1))

/-- The document of an object with proper keys. -/
def ofMembers (members : List (String × Json)) : Json :=
  .object (members.map fun (key, value) => (some key, value))

mutual

/-- How many containers are nested in a document, itself included. -/
def depth : Json → Nat
  | .list items => depthOfItems items + 1
  | .object members => depthOfMembers members + 1
  | _ => 0

/-- The greatest depth of an item. -/
def depthOfItems : List Json → Nat
  | [] => 0
  | item :: items => max item.depth (depthOfItems items)

/-- The greatest depth of a member. -/
def depthOfMembers : List (Option String × Json) → Nat
  | [] => 0
  | (_, value) :: members => max value.depth (depthOfMembers members)

end

mutual

/-- Whether all literals in a document denote something: texts are proper and numbers finite. -/
def isSound : Json → Bool
  | .number n => n.isFinite
  | .text s => s.isSome
  | .list items => areSoundItems items
  | .object members => areSoundMembers members
  | _ => true

/-- Whether all items are sound. -/
def areSoundItems : List Json → Bool
  | [] => true
  | item :: items => item.isSound && areSoundItems items

/-- Whether all keys are proper and all values sound. -/
def areSoundMembers : List (Option String × Json) → Bool
  | [] => true
  | (key, value) :: members => key.isSome && value.isSound && areSoundMembers members

end

end Json

end Colloquy
