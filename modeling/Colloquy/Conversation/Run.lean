import Colloquy.Conversation.Step

/-!
# Runs — a conversation as a list of requests

Whoever drives a conversation makes one request after the other. A request is a value and so is the
answer to it, so a run is a list and everything said about all runs is said about lists of requests.
-/

namespace Colloquy

/-- Something asked of a conversation. -/
inductive Request where
  /-- Begin at a node. -/
  | enterAt (npc : String) (graph : Graph) (node : String)
  /-- Select an item of the menu. -/
  | select (place : Nat)
  /-- Credit time. -/
  | update (dt : Duration)
  /-- Cut the line short. -/
  | skip
  /-- End the conversation. -/
  | exit
  /-- Take the events. -/
  | drain
  /-- Change the world from outside. -/
  | write (change : Write)
  /-- Put another world in the place of the present one. -/
  | replace (world : World)
  deriving DecidableEq

/-- What a request is answered with. -/
inductive Answer where
  /-- There is nothing to say. -/
  | done
  /-- The request is refused. -/
  | refused (reason : Refusal)
  /-- What became of a selection. -/
  | selected (outcome : Selection)
  /-- Whether the line was cut short. -/
  | skipped (honored : Bool)
  /-- The events taken. -/
  | events (taken : List Event)
  deriving DecidableEq

/-- The events that an answer hands out. -/
def Answer.taken : Answer → List Event
  | .events taken => taken
  | .done | .refused _ | .selected _ | .skipped _ => []

namespace Conversation

/-- Answer a request. -/
def respond (c : Conversation) : Request → Logged (Answer × Conversation)
  | .enterAt npc graph node => do
    match ← c.enterAt npc graph node with
    | .ok c => return (.done, c)
    | .error reason => return (.refused reason, c)
  | .select place => do
    match ← c.select place with
    | .ok (outcome, c) => return (.selected outcome, c)
    | .error reason => return (.refused reason, c)
  | .update dt => do return (.done, ← c.update dt)
  | .skip => do
    let (honored, c) ← c.skip
    return (.skipped honored, c)
  | .exit => do return (.done, ← c.exit)
  | .drain =>
    let (taken, c) := c.drain
    pure (.events taken, c)
  | .write change => do return (.done, ← c.write change)
  | .replace world => pure (.done, { c with world := world })

/-- Answer requests, one after the other. -/
def respondAll (c : Conversation) : List Request → Logged (List Answer × Conversation)
  | [] => pure ([], c)
  | request :: rest => do
    let (answer, c) ← c.respond request
    let (answers, c) ← c.respondAll rest
    return (answer :: answers, c)

/-! ## Runs from the beginning -/

/-- A conversation of which nothing was asked yet. -/
def fresh (world : World) (pacing : Pacing) : Conversation := { world := world, pacing := pacing }

/-- The conversation after requests. -/
def after (c : Conversation) (requests : List Request) : Conversation :=
  (c.respondAll requests).value.2

@[simp] theorem after_nil (c : Conversation) : c.after [] = c := rfl

@[simp] theorem after_cons (c : Conversation) (request : Request) (rest : List Request) :
    c.after (request :: rest) = (c.respond request).value.2.after rest := rfl

theorem after_append (c : Conversation) (first later : List Request) :
    c.after (first ++ later) = (c.after first).after later := by
  induction first generalizing c with
  | nil => rfl
  | cons request first ih => exact ih _

/-- All events of a run: those that were taken, and those that were not taken yet. -/
def told (c : Conversation) (requests : List Request) : List Event :=
  (c.respondAll requests).value.1.flatMap Answer.taken ++ (c.after requests).events

@[simp] theorem told_nil (c : Conversation) : c.told [] = c.events := rfl

theorem told_cons (c : Conversation) (request : Request) (rest : List Request) :
    c.told (request :: rest) =
      (c.respond request).value.1.taken ++ (c.respond request).value.2.told rest := by
  simp [told, respondAll]

end Conversation

end Colloquy
