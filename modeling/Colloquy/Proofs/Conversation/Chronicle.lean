import Colloquy.Proofs.Conversation.Protocol

/-!
# Chronicles — what was told, and in which world

Events do not say what the world was like when they were told. The chronicle of a run adds it: each
event stands beside the world that its request left behind. That is the world in which the event was
told, since a request changes the world, if at all, before it tells anything but that a menu is
down. Between lines the chronicle has its junctures; the last one says what the lines after it lead
up to.
-/

namespace Colloquy

/-- Events in the order in which they were told, each with the world in which it was told. -/
abbrev Chronicle := List (Event × World)

namespace Event

/-- Whether the event is a line that is spoken. -/
def isLine : Event → Bool
  | .line _ => true
  | .started _ | .nodeEntered _ | .optionsShown _ | .optionsHidden | .ended _ => false

end Event

namespace Chronicle

/-- Events that were told in one world. -/
def within (w : World) (events : List Event) : Chronicle := events.map fun event => (event, w)

@[simp] theorem within_nil (w : World) : within w [] = [] := rfl

theorem within_append (w : World) (first later : List Event) :
    within w (first ++ later) = within w first ++ within w later := List.map_append

/-- The last entry that is not a line. -/
def juncture (h : Chronicle) : Option (Event × World) := h.reverse.find? fun entry => !entry.1.isLine

theorem juncture_line (h : Chronicle) (line : Line) (w : World) :
    juncture (h ++ [(.line line, w)]) = juncture h := by
  simp [juncture, Event.isLine]

theorem juncture_snoc (h : Chronicle) (event : Event) (hevent : event.isLine = false) (w : World) :
    juncture (h ++ [(event, w)]) = some (event, w) := by
  simp [juncture, hevent]

end Chronicle

namespace Conversation

variable {c : Conversation}

/-- What is told in answer to a request. -/
def news (c : Conversation) (request : Request) : List Event :=
  ((c.respond request).value.1.taken ++ (c.respond request).value.2.events).drop c.events.length

theorem news_eq {request : Request} {told : List Event}
    (htold : (c.respond request).value.1.taken ++ (c.respond request).value.2.events =
      c.events ++ told) : c.news request = told := by
  rw [news, htold, List.drop_left]

/-- The chronicle of a run: what each request tells, in the world that it leaves. -/
def chronicle (c : Conversation) : List Request → Chronicle
  | [] => []
  | request :: rest =>
    Chronicle.within (c.respond request).value.2.world (c.news request) ++
      (c.respond request).value.2.chronicle rest

/-- **The events of a chronicle are all that was told**, whether it was taken on the way or not. -/
theorem told_eq_chronicle (h : Coherent c) (requests : List Request) :
    c.told requests = c.events ++ (c.chronicle requests).map Prod.fst := by
  induction requests generalizing c with
  | nil => simp [chronicle]
  | cons request rest ih =>
    obtain ⟨told, htold, -⟩ := tells_respond h request
    rw [told_cons, ih (coherent_respond h request), ← List.append_assoc, htold, chronicle,
      news_eq htold]
    simp [Chronicle.within, Function.comp_def]

end Conversation

end Colloquy
