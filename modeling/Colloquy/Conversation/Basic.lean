import Colloquy.Dialogue.Graph
import Colloquy.Time.Pacing
import Colloquy.Time.Turn

/-!
# Conversations — the state of talking to a character

A conversation plays lines one at a time, offers a menu when the lines are through, and follows the
choice that is picked. This module holds its state and the events it tells to whoever presents it;
how the state moves is in `Colloquy.Conversation.Step`. Nothing here runs by itself: time passes
when it is credited, and a choice is made when it is selected.
-/

namespace Colloquy

/-- Where a conversation is. -/
inductive Phase where
  /-- Nobody is talking. -/
  | idle
  /-- The lines of a node are playing. -/
  | playingIntro
  /-- The menu is up. -/
  | awaitingChoice
  /-- The hero says what was picked. -/
  | playingHeroLine
  /-- The reply is playing. -/
  | playingNpcResponse
  deriving DecidableEq, Repr

/-- A phase by name. -/
def Phase.word : Phase → String
  | .idle => "Idle"
  | .playingIntro => "PlayingIntro"
  | .awaitingChoice => "AwaitingChoice"
  | .playingHeroLine => "PlayingHeroLine"
  | .playingNpcResponse => "PlayingNpcResponse"

/-- Why a conversation ended. -/
inductive EndReason where
  /-- A choice ends it. -/
  | exited
  /-- There is nothing to choose. -/
  | deadEnd
  /-- A choice leads to a node that does not exist. -/
  | missingNode
  /-- It was ended from outside. -/
  | requested
  deriving DecidableEq, Repr

/-- A reason by name. -/
def EndReason.word : EndReason → String
  | .exited => "Exited"
  | .deadEnd => "DeadEnd"
  | .missingNode => "MissingNode"
  | .requested => "Requested"

/-- A choice as it is offered. -/
structure MenuItem where
  /-- Its position among the choices of its node. -/
  index : Nat
  /-- Its text. -/
  text : String
  /-- Whether it was picked before in this conversation. -/
  used : Bool
  deriving DecidableEq, Repr

/-- Something to present. -/
inductive Event where
  /-- A conversation began. -/
  | started (npc : String)
  /-- A node was entered. -/
  | nodeEntered (node : String)
  /-- A line began. -/
  | line (line : Line)
  /-- The menu is up. -/
  | optionsShown (menu : List MenuItem)
  /-- The menu is down. -/
  | optionsHidden
  /-- The conversation is over. -/
  | ended (reason : EndReason)
  deriving DecidableEq, Repr

/-- What follows when no line is left. -/
inductive Continuation where
  /-- Offer what the world allows then. -/
  | showOptions
  /-- Offer a menu that is settled already. -/
  | offer (menu : List MenuItem)
  /-- Go to a node. -/
  | enter (node : String)
  /-- End the conversation. -/
  | exit
  deriving DecidableEq, Repr

/-- The choices picked so far, by node and position, the latest first. -/
structure UsedChoices where
  picked : List (String × Nat) := []
  deriving DecidableEq, Repr

namespace UsedChoices

/-- Whether a choice was picked. -/
def isUsed (u : UsedChoices) (node : String) (index : Nat) : Bool := (node, index) ∈ u.picked

/-- Record a pick. -/
def mark (u : UsedChoices) (node : String) (index : Nat) : UsedChoices :=
  if u.isUsed node index then u else ⟨(node, index) :: u.picked⟩

end UsedChoices

/-- A line on screen. -/
structure Turn where
  line : Line
  timer : TurnTimer
  deriving DecidableEq, Repr

/-- Who is talked to, about what, and how far it went. -/
structure Session where
  npc : String
  graph : Graph
  /-- The current node. -/
  node : String
  used : UsedChoices := {}
  deriving DecidableEq

namespace Session

/-- Whether a choice of the current node is spent. -/
def isSpent (s : Session) (w : World) (index : Nat) (c : Choice) : Bool :=
  c.isOnce && w.isFlagSet (c.onceFlag s.npc s.node index)

/-- A choice of the current node as it is offered. -/
def item (s : Session) (index : Nat) (c : Choice) : MenuItem :=
  ⟨index, c.text, s.used.isUsed s.node index⟩

/-- The choices of the current node that the world allows and that are not spent. -/
def menu? (s : Session) (w : World) : Option (List MenuItem) :=
  (s.graph.get? s.node).map fun node =>
    ((node.visibleChoices w).filter fun (i, c) => !s.isSpent w i c).map fun (i, c) => s.item i c

end Session

/-- The state of talking, which is idle when there is no session. -/
structure Conversation where
  /-- The game state. -/
  world : World
  /-- The settings. -/
  pacing : Pacing := {}
  /-- Where the conversation is. -/
  phase : Phase := .idle
  /-- Who is talked to. -/
  session : Option Session := none
  /-- The lines to come, each with the phase it belongs to. -/
  queue : List (Phase × Line) := []
  /-- The line on screen. -/
  turn : Option Turn := none
  /-- What follows the lines. -/
  next : Continuation := .showOptions
  /-- The menu, while it is up. -/
  menu : List MenuItem := []
  /-- The events not yet taken, oldest first. -/
  events : List Event := []
  deriving DecidableEq

/-- A request that a conversation refuses. -/
inductive Refusal where
  /-- A conversation is running. -/
  | alreadyActive (npc : String)
  /-- There is no such node to begin on. -/
  | unknownEntryNode (node : String)
  /-- There is no such item in the menu. -/
  | invalidChoice (index : Nat)
  deriving DecidableEq, Repr

/-- What is wrong with a request. -/
def Refusal.message : Refusal → String
  | .alreadyActive npc => s!"already in a conversation with {npc}"
  | .unknownEntryNode node => s!"dialogue has no node named `{node}`"
  | .invalidChoice index => s!"invalid choice: {index}"

/-- What became of a selection. -/
inductive Selection where
  /-- The choice was picked. -/
  | accepted
  /-- There was nothing to choose. -/
  | ignored
  deriving DecidableEq, Repr

namespace Conversation

/-- Whether a conversation is running. -/
def isActive (c : Conversation) : Bool := c.session.isSome

/-- The choices picked so far, while a conversation is running. -/
def usedChoices (c : Conversation) : Option UsedChoices := c.session.map Session.used

/-- The line on screen. -/
def currentLine (c : Conversation) : Option Line := c.turn.map Turn.line

/-- The time left on the line on screen. -/
def turnRemaining (c : Conversation) : Option Duration := c.turn.map fun t => t.timer.remaining

end Conversation

end Colloquy
