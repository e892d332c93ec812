import Colloquy.Json.Field
import Colloquy.Json.Layout
import Colloquy.Json.Reader
import Colloquy.World.Basic

/-!
# Snapshots — the world as JSON text

A snapshot is a record of five fields, all of which may be missing. Tables become objects and sets
become lists, both in key order, so equal worlds have the same snapshot.
-/

namespace Colloquy

/-! ## Writing -/

/-- A flag value in a snapshot. -/
def FlagValue.toJson : FlagValue → Json
  | .bool b => .bool b
  | .integer n => .ofInt n.toInt
  | .text s => .ofString s

namespace World

/-- A table in a snapshot. -/
def tableToJson {α : Type} (write : α → Json) (m : TextMap α) : Json :=
  .ofMembers (m.entries.map fun (key, value) => (key, write value))

/-- A set in a snapshot. -/
def setToJson (s : TextSet) : Json := .list (s.toList.map .ofString)

/-- The world as a document. -/
def toJson (w : World) : Json :=
  .ofMembers [("flags", tableToJson (tableToJson FlagValue.toJson) w.flags),
    ("inventory", setToJson w.inventory), ("visited_rooms", setToJson w.visitedRooms),
    ("npc_states", tableToJson .ofString w.npcStates), ("asked", setToJson w.asked)]

/-- The snapshot of the world. -/
def snapshot (w : World) : String := w.toJson.pretty

end World

/-! ## Reading -/

/-- A flag value from a snapshot: a truth value, an integer in range, or a text. -/
def FlagValue.ofJson? : Json → Option FlagValue
  | .bool b => some (.bool b)
  | .number n => (n.integer?.bind Text.int64?).map .integer
  | .text s => s.map .text
  | _ => none

namespace World

/-- A set from a snapshot. -/
def setOfJson? (j : Json) : Option TextSet := (j.asList? Json.asString?).map TextSet.ofList

/-- The names of the fields of a snapshot, in order. -/
def fieldNames : List String := ["flags", "inventory", "visited_rooms", "npc_states", "asked"]

/-- The world that a document describes. -/
def ofJson? (j : Json) : Option World := do
  let fields ← j.fields? fieldNames
  return {
    flags := ← Json.withDefault fields 0 .empty (Json.asTable? (Json.asTable? FlagValue.ofJson?))
    inventory := ← Json.withDefault fields 1 .empty setOfJson?
    visitedRooms := ← Json.withDefault fields 2 .empty setOfJson?
    npcStates := ← Json.withDefault fields 3 .empty (Json.asTable? Json.asString?)
    asked := ← Json.withDefault fields 4 .empty setOfJson? }

/-- The world that a snapshot describes. -/
def restore? (snapshot : String) : Option World := (Json.parse? snapshot).bind ofJson?

end World

end Colloquy
