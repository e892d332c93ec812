import Colloquy.Library.Source
import Colloquy.Script.Reader

/-!
# The library — dialogues by character, kept once they are loaded

Loading a character's dialogue always gives one: what cannot be read is replaced by a fallback with
a single way out. A dialogue that was read is kept and handed out again until it is dropped; a
fallback is not kept, so the next load tries again. Every graph made by a load has a number of its
own, by which it is known that two loads handed out the same one.
-/

namespace Colloquy

/-- What is offered when a dialogue cannot be loaded and nothing else is said. -/
def defaultFallbackText : String := "[The words won't come. (dialogue failed to load)]"

/-- The settings of a library. -/
structure LibrarySettings where
  /-- Where the scripts are, if they are files. -/
  folder : Folder := {}
  /-- The text of the only choice when a dialogue cannot be loaded. -/
  fallbackText : String := defaultFallbackText
  /-- The name under which the hero speaks. -/
  hero : String := defaultHero
  deriving DecidableEq, Repr

/-- The settings with another hero, whose name is taken in lowercase. -/
def LibrarySettings.withHero (s : LibrarySettings) (hero : String) : LibrarySettings :=
  { s with hero := Text.lowercase hero }

/-- A graph with the number of the load that made it. -/
structure Edition where
  number : Nat
  graph : Graph
  deriving DecidableEq

/-- Dialogues by character. -/
structure Library where
  source : Source
  settings : LibrarySettings := {}
  /-- The dialogues that are kept. -/
  kept : TextMap Edition := .empty
  /-- How many graphs were made so far. -/
  editions : Nat := 0
  /-- How often the source was asked so far. -/
  fetches : Nat := 0

namespace Library

/-- What is logged when a dialogue was read in spite of flaws. -/
def flawRecords (npc : String) (remarks : List Remark) : List Record :=
  if remarks = [] then []
  else
    let summary := Diagnostic.summary (remarks.map Remark.diagnostic)
    [⟨.warn, s!"dialogue for {npc} loaded with {summary}"⟩]

/-- The dialogue in a script that was fetched for a character. -/
def readFor (settings : LibrarySettings) (npc script : String) :
    Logged (Except LoadError Graph) := do
  let result := Script.read settings.hero script
  Noted.noteAll (result.notes.map Remark.record)
  match result.value with
  | .error e => return .error (.unusable npc e)
  | .ok graph => do
    Noted.noteAll (flawRecords npc result.notes)
    return .ok graph

/-- Fetch and read a character's script, whatever is kept. Nothing is kept of it either. -/
def tryLoad (l : Library) (npc : String) : Logged (Except LoadError Graph × Library) := do
  let l := { l with fetches := l.fetches + 1 }
  match ← l.source.fetch npc with
  | .error e => return (.error e, l)
  | .ok script => return (← readFor l.settings npc script, l)

/-- The next graph to be handed out. -/
def publish (l : Library) (graph : Graph) : Edition × Library :=
  (⟨l.editions, graph⟩, { l with editions := l.editions + 1 })

/-- The dialogue of a character, which is the one kept for it if there is one. -/
def load (l : Library) (npc : String) : Logged (Edition × Library) :=
  match l.kept.get? npc with
  | some edition => do
    Logged.debug s!"dialogue for {npc} served from cache"
    return (edition, l)
  | none => do
    match ← l.tryLoad npc with
    | (.ok graph, l) => do
      Logged.info s!"loaded dialogue for {npc} ({graph.size} nodes)"
      let (edition, l) := l.publish graph
      return (edition, { l with kept := l.kept.insert npc edition })
    | (.error e, l) => do
      Logged.error s!"{e.message}; using fallback dialogue"
      return l.publish (Graph.fallback l.settings.fallbackText)

/-- Whether a dialogue is kept for a character. -/
def isKept (l : Library) (npc : String) : Bool := l.kept.contains npc

/-- Drop what is kept for a character. -/
def invalidate (l : Library) (npc : String) : Library := { l with kept := l.kept.erase npc }

/-- Drop everything that is kept. -/
def clear (l : Library) : Library := { l with kept := .empty }

end Library

end Colloquy
