import Colloquy.Command.Report
import Colloquy.Conversation.Step
import Colloquy.Library.Basic
import Colloquy.World.Snapshot

/-!
# Play — talking to a character in a terminal

The game state is taken from a snapshot, or starts empty, and is then changed as the arguments say.
Lines are printed at once; at a menu one line of input is read, which picks an item, leaves, or is
not understood and asked for again. When the conversation is over the game state is saved, and only
then: a play that fails leaves the snapshot as it was.
-/

namespace Colloquy

/-! ## Input -/

/-- What reading a line of input gives. -/
inductive Input where
  /-- A line of text. -/
  | line (text : String)
  /-- A line that is not text. -/
  | notText
  /-- Nothing, because the input has ended. -/
  | closed
  deriving DecidableEq, Repr

namespace Input

/-- The input of a line of bytes. -/
def ofBytes (bytes : List UInt8) : Input :=
  match String.fromUTF8? bytes.toByteArray with
  | some text => .line text
  | none => .notText

/-- The lines of a sequence of bytes, where `done` is the current line backwards. -/
def splitBytes (done : List UInt8) : List UInt8 → List (List UInt8)
  | [] => if done = [] then [] else [done.reverse]
  | b :: bs => if b = 10 then (b :: done).reverse :: splitBytes [] bs else splitBytes (b :: done) bs

/-- The inputs of a sequence of bytes. -/
def ofAllBytes (bytes : List UInt8) : List Input := (splitBytes [] bytes).map ofBytes

end Input

/-- What a player wants. -/
inductive Wish where
  /-- To pick an item, counted from zero. -/
  | pick (place : Nat)
  /-- To leave. -/
  | leave
  /-- Something that is not understood. -/
  | unclear
  deriving DecidableEq, Repr

/-- A whole number that may have a plus sign. -/
def unsigned? : List Char → Option Nat
  | '+' :: cs => Text.natural? cs
  | cs => Text.natural? cs

/-- What a line says at a menu of so many items: the number of an item, or `q` to leave. -/
def Wish.read (count : Nat) (line : String) : Wish :=
  let word := Text.trim line.toList
  if word = ['q'] ∨ word = ['Q'] then .leave
  else match unsigned? word with
    | some n => if 1 ≤ n ∧ n ≤ count then .pick (n - 1) else .unclear
    | none => .unclear

/-! ## Output -/

/-- Something that is printed. -/
inductive Cue where
  /-- An event of the conversation. -/
  | event (e : Event)
  /-- The request for a line of input. -/
  | prompt
  /-- The answer to a line that is not understood. -/
  | hint (count : Nat)
  /-- The end of the line when no input came. -/
  | noInput
  deriving DecidableEq, Repr

/-- Why a conversation is over, in words. -/
def EndReason.farewell : EndReason → String
  | .exited => "goodbye"
  | .deadEnd => "nothing left to say"
  | .missingNode => "the script lost its place"
  | .requested => "walked away"

/-- An item of a printed menu. -/
def MenuItem.entry (place : Nat) (item : MenuItem) : String := s!"    {place + 1}. {item.text}\n"

/-- An event as it is printed. -/
def Event.text : Event → String
  | .started npc => s!"  Talking to {npc}\n\n"
  | .nodeEntered _ => ""
  | .line spoken => s!"  {spoken.name}: {spoken.text}\n"
  | .optionsShown menu => "\n" ++ String.join (menu.zipIdx.map fun (item, i) => item.entry i)
  | .optionsHidden => "\n"
  | .ended reason => s!"\n  (conversation over: {reason.farewell})\n"

/-- What a cue prints. -/
def Cue.text : Cue → String
  | .event e => e.text
  | .prompt => "  > "
  | .hint count => s!"  Pick 1-{count}, or q to leave.\n"
  | .noInput => "\n"

/-! ## A play as a list of inputs -/

/-- How a play ends. -/
inductive Ending where
  /-- There is nothing more to ask. -/
  | over
  /-- The input is not text. -/
  | notText
  /-- The conversation refused a request. -/
  | refused (reason : Refusal)
  deriving DecidableEq, Repr

/-- The failure an ending amounts to. -/
def Ending.failure : Ending → Option String
  | .over => none
  | .notText => some ReadFault.notText.message
  | .refused reason => some reason.message

/-- A play up to a menu or to its end. -/
structure Scene where
  /-- What was printed so far. -/
  cues : List Cue
  /-- The conversation at this point. -/
  conversation : Conversation
  /-- How the play ended, if it did. -/
  ending : Option Ending
  deriving DecidableEq

namespace Scene

/-- Print what a conversation tells, up to a menu, where a line is asked for, or its end. -/
def present (cues : List Cue) (c : Conversation) : Logged Scene := do
  let (events, c) := (← c.fastForward).drain
  let told := cues ++ events.map .event
  return if c.phase = .awaitingChoice then ⟨told ++ [.prompt], c, none⟩ else ⟨told, c, some .over⟩

/-- Do what a line says. -/
def hear (s : Scene) (input : Input) : Logged Scene :=
  let c := s.conversation
  match input with
  | .notText => pure { s with ending := some .notText }
  | .closed => do present (s.cues ++ [.noInput]) (← c.exit)
  | .line text =>
    match Wish.read c.menu.length text with
    | .unclear => pure { s with cues := s.cues ++ [.hint c.menu.length, .prompt] }
    | .leave => do present s.cues (← c.exit)
    | .pick place => do
      match ← c.select place with
      | .ok (_, c) => present s.cues c
      | .error reason => return { s with ending := some (.refused reason) }

/-- Do what lines say until the play ends. When the inputs are used up the input has ended. -/
def follow (s : Scene) : List Input → Logged Scene
  | [] => if s.ending.isSome then pure s else s.hear .closed
  | input :: rest => if s.ending.isSome then pure s else do (← s.hear input).follow rest

/-- What was printed. -/
def text (s : Scene) : String := String.join (s.cues.map Cue.text)

end Scene

/-! ## Before and after the conversation -/

namespace PlayRequest

/-- The folder of the scripts. -/
def scripts (r : PlayRequest) : Folder := ⟨r.folder, r.extension⟩

/-- The game state in a file, if it could be read; without a file it is empty. -/
def restore (r : PlayRequest) (read : String → Except ReadFault String) : Except String World :=
  match r.stateFile with
  | none => .ok .empty
  | some file =>
    match read file with
    | .ok snapshot =>
      match World.restore? snapshot with
      | some world => .ok world
      | none => .error s!"invalid state file {file}"
    | .error .missing | .error .notFolder | .error .tooLong => .ok .empty
    | .error _ => .error (Command.cannotRead file)

/-- The changes that the arguments ask for: flags first, then items. -/
def preparations (r : PlayRequest) : Except String (List Write) := do
  let flags ← r.assignments.mapM fun raw =>
    match FlagValue.readAssignment raw with
    | .ok (name, value) => .ok (.setFlag name value)
    | .error e => .error e.message
  return flags ++ r.items.map .addItem

/-- The game state before the conversation. -/
def prepare (r : PlayRequest) (read : String → Except ReadFault String) :
    Except String (Logged World) := do
  let world ← r.restore read
  return world.writeAll (← r.preparations)

/-- The node on which the conversation begins. -/
def opening (r : PlayRequest) (world : World) (graph : Graph) : String :=
  r.node.getD ((graph.entryNode world r.npc).getD Graph.startNode)

/-- The conversation at its beginning. -/
def begin (r : PlayRequest) (hero : String) (world : World)
    (read : String → Except ReadFault String) : Logged (Except String Scene) := do
  let library : Library :=
    { source := .folder r.scripts read
      settings := ({ folder := r.scripts } : LibrarySettings).withHero hero }
  let (edition, _) ← library.load r.npc
  let c : Conversation := { world := world, pacing := ({} : Pacing).withHero hero }
  match ← c.enterAt r.npc edition.graph (r.opening world edition.graph) with
  | .ok c => return .ok (← Scene.present [] c)
  | .error reason => return .error reason.message

/-- The snapshot to save when the play is over: a file and its contents. -/
def saving (r : PlayRequest) (s : Scene) : Option (String × String) :=
  if s.ending = some .over then r.stateFile.map fun file => (file, s.conversation.world.snapshot)
  else none

/-- The failure to save a snapshot. -/
def cannotWrite (file : String) : String := s!"cannot write {file}"

end PlayRequest

end Colloquy
