import Colloquy.Journal
import Colloquy.Sorted
import Colloquy.World.Flag

/-!
# The world — the game state that dialogue reads and writes

A `World` records flags, what the player carries, where the player has been, the mood of each
character and which topics were asked about. A change to it is a value, a `Write`: applying a list
of writes is folding `World.apply`, so a history of the world is a list and every later state is a
function of it.
-/

namespace Colloquy

/-- The game state. -/
structure World where
  /-- Flag values by group and name. -/
  flags : TextMap (TextMap FlagValue)
  /-- What the player carries. -/
  inventory : TextSet
  /-- Where the player has been. -/
  visitedRooms : TextSet
  /-- The state last set for each character. -/
  npcStates : TextMap String
  /-- The labels of the choices picked before. -/
  asked : TextSet
  deriving DecidableEq

/-- A change to the game state. -/
inductive Write where
  /-- Set a flag. -/
  | setFlag (name : String) (value : FlagValue)
  /-- Put an item in the inventory. -/
  | addItem (item : String)
  /-- Take an item out of the inventory. -/
  | removeItem (item : String)
  /-- Record a visit. -/
  | visitRoom (room : String)
  /-- Set the state of a character. -/
  | setNpcState (npc state : String)
  /-- Record that a label was asked about. -/
  | markAsked (label : String)
  deriving DecidableEq

namespace World

/-- The state before anything happened. -/
def empty : World := ⟨.empty, .empty, .empty, .empty, .empty⟩

instance : Inhabited World := ⟨empty⟩

/-! ## Readers -/

/-- The flags of a group. -/
def group (w : World) (name : String) : TextMap FlagValue := (w.flags.get? name).getD .empty

/-- The value filed under a full flag name. -/
def flagAt (w : World) (key : FlagName) : Option FlagValue := (w.group key.group).get? key.name

/-- The value of a flag, by its name as written. -/
def flag (w : World) (name : String) : Option FlagValue := w.flagAt (.read name)

/-- Whether a flag is present and truthy. -/
def isFlagSet (w : World) (name : String) : Bool := (w.flag name).any FlagValue.isTruthy

/-- Whether the player carries an item. -/
def hasItem (w : World) (item : String) : Bool := w.inventory.contains item

/-- Whether the player has been in a room. -/
def hasVisitedRoom (w : World) (room : String) : Bool := w.visitedRooms.contains room

/-- The state of a character, if one was ever set. -/
def npcState (w : World) (npc : String) : Option String := w.npcStates.get? npc

/-- Whether a label was asked about. -/
def hasAsked (w : World) (label : String) : Bool := w.asked.contains label

/-- All flags with their full names, by group and then by name. -/
def flagList (w : World) : List (String × FlagValue) :=
  w.flags.entries.flatMap fun (group, flags) =>
    flags.entries.map fun (name, value) => (FlagName.display ⟨group, name⟩, value)

/-! ## Writers -/

/-- The state after a flag is set. -/
def setFlag (w : World) (name : String) (value : FlagValue) : World :=
  let key := FlagName.read name
  { w with flags := w.flags.insert key.group ((w.group key.group).insert key.name value) }

/-- The state after a change. -/
def apply (w : World) : Write → World
  | .setFlag name value => w.setFlag name value
  | .addItem item => { w with inventory := w.inventory.add item }
  | .removeItem item => { w with inventory := w.inventory.erase item }
  | .visitRoom room => { w with visitedRooms := w.visitedRooms.add room }
  | .setNpcState npc state => { w with npcStates := w.npcStates.insert npc state }
  | .markAsked label => { w with asked := w.asked.add label }

/-- The state after several changes, in order. -/
def applyAll (w : World) (writes : List Write) : World := writes.foldl apply w

/-- What a change reports. Only flags and items are reported, and taking away an item only if it
was there. -/
def report (w : World) : Write → List Record
  | .setFlag name value =>
    [⟨.debug, s!"flag {(FlagName.read name).display} = {value.display}"⟩]
  | .addItem item => [⟨.debug, s!"inventory + {item}"⟩]
  | .removeItem item => if w.hasItem item then [⟨.debug, s!"inventory - {item}"⟩] else []
  | .visitRoom _ | .setNpcState _ _ | .markAsked _ => []

/-- Apply a change and report it. -/
def write (w : World) (change : Write) : Logged World := ⟨w.apply change, w.report change⟩

/-- Apply several changes, in order, and report them. -/
def writeAll (w : World) : List Write → Logged World
  | [] => pure w
  | change :: rest => do
    let w ← w.write change
    w.writeAll rest

@[simp] theorem value_writeAll (w : World) (writes : List Write) :
    (w.writeAll writes).value = w.applyAll writes := by
  induction writes generalizing w with
  | nil => rfl
  | cons change rest ih => exact ih (w.apply change)

end World

end Colloquy
