import Colloquy.Library.Basic

/-!
# Runs of a library

Whoever uses a library makes one request after the other, and whoever writes the scripts may replace
them in between. A request is a value and so is the answer to it, so a run is a list.
-/

namespace Colloquy

/-- Add or replace a script. A folder is not written to. -/
def Source.put (source : Source) (npc script : String) : Source :=
  match source with
  | .memory scripts => .memory (scripts.insert npc script)
  | .folder home read => .folder home read

namespace Library

/-- Something asked of a library. -/
inductive Request where
  /-- Hand out the dialogue of a character. -/
  | load (npc : String)
  /-- Read the dialogue of a character, whatever is kept. -/
  | tryLoad (npc : String)
  /-- Say whether a dialogue is kept for a character. -/
  | isKept (npc : String)
  /-- Drop what is kept for a character. -/
  | invalidate (npc : String)
  /-- Drop everything. -/
  | clear
  /-- Add or replace the script of a character. -/
  | putScript (npc script : String)
  deriving DecidableEq, Repr

/-- What a request is answered with. -/
inductive Answer where
  /-- There is nothing to say. -/
  | done
  /-- The dialogue that is handed out. -/
  | loaded (edition : Edition)
  /-- What was read. -/
  | tried (result : Except LoadError Graph)
  /-- Whether a dialogue is kept, or was kept before it was dropped. -/
  | kept (flag : Bool)

/-- Answer a request. -/
def respond (l : Library) : Request → Logged (Answer × Library)
  | .load npc => do
    let (edition, l) ← l.load npc
    return (.loaded edition, l)
  | .tryLoad npc => do
    let (result, l) ← l.tryLoad npc
    return (.tried result, l)
  | .isKept npc => pure (.kept (l.isKept npc), l)
  | .invalidate npc => pure (.kept (l.isKept npc), l.invalidate npc)
  | .clear => pure (.done, l.clear)
  | .putScript npc script => pure (.done, { l with source := l.source.put npc script })

/-- A library of scripts in memory of which nothing was asked yet. -/
def fresh (scripts : TextMap String) (settings : LibrarySettings) : Library :=
  { source := .memory scripts, settings := settings }

/-- The library after requests. -/
def after (l : Library) (requests : List Request) : Library :=
  requests.foldl (fun l request => (l.respond request).value.2) l

theorem after_append (l : Library) (first later : List Request) :
    l.after (first ++ later) = (l.after first).after later := List.foldl_append

theorem after_snoc (l : Library) (requests : List Request) (request : Request) :
    l.after (requests ++ [request]) = ((l.after requests).respond request).value.2 :=
  l.after_append requests [request]

end Library

end Colloquy
