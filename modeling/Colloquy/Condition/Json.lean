import Colloquy.Condition.Basic
import Colloquy.Json.Field

/-!
# Conditions as JSON — one record per kind of test

A condition is an object with a `kind` and the fields of that kind, or a list that starts with the
kind and goes on with the fields in order. Inside another condition the kind may also be given by
its position in the list of kinds. A whole condition is taken in before it is interpreted, so all of
it must be sound and its nesting counts, also where it is skipped.
-/

namespace Colloquy

namespace Condition

/-! ## Writing -/

/-- The document of a condition. -/
def record (kind : String) (fields : List (String × Json)) : Json :=
  .ofMembers (("kind", .ofString kind) :: fields)

mutual

/-- A condition as a document. -/
def toJson : Condition → Json
  | .asked label => record "asked" [("label", .ofString label)]
  | .notAsked label => record "not_asked" [("label", .ofString label)]
  | .hasItem item => record "has_item" [("item", .ofString item)]
  | .lacksItem item => record "lacks_item" [("item", .ofString item)]
  | .npcState npc state =>
    record "npc_state" [("npc", .ofString npc), ("state", .ofString state)]
  | .visited room => record "visited" [("room", .ofString room)]
  | .flag name => record "flag" [("name", .ofString name)]
  | .notFlag name => record "not_flag" [("name", .ofString name)]
  | .all conditions => record "all" [("conditions", .list (toJsonAll conditions))]
  | .never => record "never" []
  | .always => record "always" []

/-- Several conditions as documents. -/
def toJsonAll : List Condition → List Json
  | [] => []
  | c :: cs => toJson c :: toJsonAll cs

end

/-! ## Reading -/

/-- The kinds of conditions, in order. -/
def kinds : List String :=
  ["asked", "not_asked", "has_item", "lacks_item", "npc_state", "visited", "flag", "not_flag",
    "all", "never", "always"]

/-- A kind, given by name or, inside another condition, by position. -/
def kindOfJson? (inner : Bool) : Json → Option String
  | .text s => s
  | .number (.whole false n) => if inner then kinds[n]? else none
  | _ => none

/-- The kind of a condition and the document of its fields. -/
def kindAndFields? (inner : Bool) : Json → Option (String × Json)
  | .list (kind :: fields) => (kindOfJson? inner kind).map fun kind => (kind, .list fields)
  | .object members => do
    let [(_, kind)] := members.filter fun member => member.1 = some "kind" | none
    let kind ← kindOfJson? inner kind
    return (kind, .object (members.filter fun member => member.1 ≠ some "kind"))
  | _ => none

/-- A condition with one text. -/
def withText? (name : String) (build : String → Condition) (fields : Json) : Option Condition := do
  let values ← fields.fields? [name]
  return build (← Json.required values 0 Json.asString?)

/-- A condition without fields. In an object further members are skipped. -/
def withoutFields? (c : Condition) : Json → Option Condition
  | .list (_ :: _) => none
  | _ => some c

/-- The condition that a sound document of limited nesting describes. -/
def interpret? : Nat → Bool → Json → Option Condition
  | 0, _, _ => none
  | nesting + 1, inner, j => do
    let (kind, fields) ← kindAndFields? inner j
    match kind with
    | "asked" => withText? "label" .asked fields
    | "not_asked" => withText? "label" .notAsked fields
    | "has_item" => withText? "item" .hasItem fields
    | "lacks_item" => withText? "item" .lacksItem fields
    | "npc_state" =>
      let values ← fields.fields? ["npc", "state"]
      return .npcState (← Json.required values 0 Json.asString?)
        (← Json.required values 1 Json.asString?)
    | "visited" => withText? "room" .visited fields
    | "flag" => withText? "name" .flag fields
    | "not_flag" => withText? "name" .notFlag fields
    | "all" =>
      let values ← fields.fields? ["conditions"]
      return .all (← Json.required values 0 (Json.asList? (interpret? nesting true)))
    | "never" => withoutFields? .never fields
    | "always" => withoutFields? .always fields
    | _ => none

/-- The greatest nesting of containers that a reader takes in. -/
def nestingLimit : Nat := 127

/-- The condition that a document inside so many containers describes. -/
def ofJson? (enclosing : Nat) (j : Json) : Option Condition :=
  if j.isSound && enclosing + j.depth ≤ nestingLimit then interpret? nestingLimit false j else none

end Condition

end Colloquy
