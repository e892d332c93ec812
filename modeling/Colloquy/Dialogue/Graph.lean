import Colloquy.Condition.Basic

/-!
# Dialogue graphs — what can be said and where it leads

A dialogue is a graph of named nodes. A node has lines that play when it is entered and the choices
that are offered afterwards. A choice says something, has effects on the world and leads on to a
node, ends the conversation, or stays. The graph is plain data: a route may name a node that does
not exist, and what happens then is for the conversation to say.
-/

namespace Colloquy

/-- Who speaks. -/
inductive Speaker where
  /-- The player's character. -/
  | hero
  /-- Anyone else. -/
  | npc
  deriving DecidableEq, Repr

/-- The name under which the hero speaks when nothing else is said. -/
def defaultHero : String := "nate"

/-- One spoken line. -/
structure Line where
  speaker : Speaker
  /-- The speaker's name. -/
  name : String
  /-- What is said. -/
  text : String
  deriving DecidableEq, Repr

/-- Lines that may play when a node is entered. -/
structure IntroBlock where
  /-- When the lines are said; without a condition they are what is said otherwise. -/
  condition : Option Condition := none
  /-- The lines in order, possibly none. -/
  lines : List Line := []
  deriving DecidableEq

/-- What picking a choice does to the world. -/
structure Effects where
  /-- Flags set to true. -/
  setFlags : List String := []
  /-- Items put in the inventory. -/
  addItems : List String := []
  /-- Items taken out of the inventory. -/
  removeItems : List String := []
  /-- Whether the choice can be picked only once. -/
  once : Bool := false
  deriving DecidableEq, Repr

namespace Effects

/-- Whether there is nothing to do. -/
def isEmpty (e : Effects) : Bool :=
  e.setFlags.isEmpty && e.addItems.isEmpty && e.removeItems.isEmpty && !e.once

/-- The changes to the world: flags first, then items added, then items removed. -/
def writes (e : Effects) : List Write :=
  e.setFlags.map (fun flag => .setFlag flag (.bool true)) ++ e.addItems.map .addItem ++
    e.removeItems.map .removeItem

end Effects

/-- Something the player may say. -/
structure Choice where
  /-- The text in the menu. -/
  text : String
  /-- What the hero says. Nothing is said if it is empty. -/
  heroLine : String := ""
  /-- What is answered, if anything. -/
  npcResponse : Option (List Line) := none
  /-- When the choice is offered. -/
  condition : Option Condition := none
  /-- The node it leads to; without one the conversation stays where it is. -/
  nextNode : Option String := none
  /-- Whether it ends the conversation, wherever it leads. -/
  exit : Bool := false
  /-- What it does to the world. -/
  effects : Option Effects := none
  /-- The label under which it is remembered. -/
  id : Option String := none
  deriving DecidableEq

namespace Choice

/-- Whether the choice can be picked only once. -/
def isOnce (c : Choice) : Bool := c.effects.any Effects.once

/-- Whether the world allows the choice. -/
def isVisible (c : Choice) (w : World) : Bool := Condition.holdsIfAny w c.condition

/-- The name of the flag that records that a choice was spent. The choice is known by its label, or
by its position if it has none. -/
def onceFlag (npc node : String) (c : Choice) (index : Nat) : String :=
  match c.id with
  | some id => s!"once.{npc}.{node}.{id}"
  | none => s!"once.{npc}.{node}.{index}"

/-- All changes that picking a choice makes: its label is marked, it is spent if it can be picked
only once, and its effects follow. -/
def writes (npc node : String) (c : Choice) (index : Nat) : List Write :=
  (c.id.toList.map .markAsked) ++
    (if c.isOnce then [.setFlag (onceFlag npc node c index) (.bool true)] else []) ++
    (c.effects.map Effects.writes).getD []

end Choice

/-- A place in a dialogue. -/
structure Node where
  /-- Lines that may play on entering. -/
  intros : List IntroBlock := []
  /-- The choices in menu order. -/
  choices : List Choice := []
  /-- Whether conversations open here when no state of the character says otherwise. -/
  isDefault : Bool := false
  /-- The state of the character for which the node is meant. -/
  npcState : Option String := none
  /-- When conversations may open here. -/
  entryCondition : Option Condition := none
  /-- A name for authors. -/
  id : Option String := none
  deriving DecidableEq

namespace Node

instance : Inhabited Node := ⟨{}⟩

/-- The lines to play on entering: the first block whose condition holds, even if it has no lines,
or else the first block without a condition. -/
def introFor (n : Node) (w : World) : Option IntroBlock :=
  (n.intros.find? fun block => block.condition.any (Condition.holds w)).or
    (n.intros.find? fun block => block.condition.isNone)

/-- The choices with their positions. -/
def numbered (n : Node) : List (Nat × Choice) := n.choices.zipIdx.map fun (c, i) => (i, c)

/-- The choices that the world allows, with their positions. -/
def visibleChoices (n : Node) (w : World) : List (Nat × Choice) :=
  n.numbered.filter fun (_, c) => c.isVisible w

end Node

/-- A dialogue: its nodes by name. -/
abbrev Graph := TextMap Node

namespace Graph

/-- The node on which conversations open unless something else is said. -/
def startNode : String := "start"

/-- The route that ends a conversation. -/
def endTarget : String := "END"

/-- Whether a conversation may open on a node. -/
def mayOpenOn (w : World) (n : Node) : Bool := Condition.holdsIfAny w n.entryCondition

/-- The first node in key order that satisfies a test. -/
def firstKey? (g : Graph) (test : Node → Bool) : Option String :=
  (g.entries.find? fun entry => test entry.2).map Prod.fst

/-- The node on which a conversation opens: one meant for the character's state, else a default
node, both only if their entry conditions hold, else the start node. -/
def entryNode (g : Graph) (w : World) (npc : String) : Option String :=
  let byState := (w.npcState npc).bind fun state =>
    g.firstKey? fun n => n.npcState = some state && mayOpenOn w n
  byState.or ((g.firstKey? fun n => n.isDefault && mayOpenOn w n).or
    (if g.contains startNode then some startNode else none))

/-- The number of choices in all nodes. -/
def choiceCount (g : Graph) : Nat :=
  g.entries.foldl (fun n entry => n + entry.2.choices.length) 0

/-- The dialogue offered when a script cannot be loaded: one choice, which ends it. -/
def fallback (text : String) : Graph :=
  TextMap.empty.insert startNode { choices := [{ text := text, exit := true }] }

end Graph

end Colloquy
