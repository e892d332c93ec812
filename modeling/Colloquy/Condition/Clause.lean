import Colloquy.Condition.Basic

/-!
# Clauses — conditions as they are written in a script

A clause is a list of atoms between commas, all of which must hold. Blank atoms do not count; a
single atom is the condition itself, none is the condition that always holds. An atom starts with a
keyword, or it is the name of a flag with or without a leading exclamation mark. Reading a clause
never fails: two kinds of atoms are flawed, and each is noted.
-/

namespace Colloquy

/-- What may be wrong with an atom. -/
inductive ClauseFlaw where
  /-- A test of a label without a label. -/
  | noLabel (atom : String)
  /-- A test of a character's state without a state. -/
  | noState (atom : String)
  deriving DecidableEq, Repr

/-- The warning about a flawed atom. -/
def ClauseFlaw.message : ClauseFlaw → String
  | .noLabel atom => s!"condition \"{atom}\" has no label"
  | .noState atom =>
    s!"condition \"{atom}\" is missing a state (expected npc_state:<npc>:<state>)"

namespace Condition

/-- A test of a label, which is noted when there is no label. -/
def readLabel (test : String → Condition) (atom label : List Char) : Noted ClauseFlaw Condition :=
  let name := Text.trim label
  ⟨test (String.ofList name), if name = [] then [.noLabel (String.ofList atom)] else []⟩

/-- A test of a character's state; without a state nothing satisfies it. -/
def readNpcState (atom rest : List Char) : Noted ClauseFlaw Condition :=
  match Text.cut ':' rest with
  | some (npc, state) =>
    pure (.npcState (String.ofList (Text.trim npc)) (String.ofList (Text.trim state)))
  | none => ⟨.never, [.noState (String.ofList atom)]⟩

/-- A test of a flag. An exclamation mark negates it unless a colon follows. -/
def readFlag (atom : List Char) : Condition :=
  match atom with
  | '!' :: name =>
    if ':' ∈ name then .flag (String.ofList atom) else .notFlag (String.ofList (Text.trim name))
  | _ => .flag (String.ofList atom)

/-- The condition of a trimmed atom that is not empty. -/
def readAtom (atom : List Char) : Noted ClauseFlaw Condition :=
  if let some label := Text.after? "asked:".toList atom then readLabel .asked atom label
  else if let some label := Text.after? "!asked:".toList atom then readLabel .notAsked atom label
  else if let some item := Text.after? "!has:".toList atom then
    pure (.lacksItem (String.ofList (Text.trim item)))
  else if let some item := Text.after? "has:".toList atom then
    pure (.hasItem (String.ofList (Text.trim item)))
  else if let some rest := Text.after? "npc_state:".toList atom then readNpcState atom rest
  else if let some room := Text.after? "visited:".toList atom then
    pure (.visited (String.ofList (Text.trim room)))
  else pure (readFlag atom)

/-- The atoms of a clause, trimmed, without the blank ones. -/
def atoms (clause : List Char) : List (List Char) :=
  ((Text.pieces ',' clause).map Text.trim).filter (· ≠ [])

/-- The condition that several conditions together form. -/
def conjunction : List Condition → Condition
  | [] => .always
  | [c] => c
  | cs => .all cs

/-- The condition of a clause, with the flaws of its atoms. -/
def read (clause : List Char) : Noted ClauseFlaw Condition :=
  conjunction <$> Noted.each readAtom (atoms clause)

/-- The condition of a clause, its flaws being logged as warnings. -/
def compile (clause : String) : Logged Condition :=
  (read clause.toList).mapNotes fun flaw => ⟨.warn, flaw.message⟩

end Condition

end Colloquy
