import Colloquy.Text.Blank
import Colloquy.Text.Word

/-!
# Rows — the lines of a script

A script is read line by line. A row is a line that is not blank: its number, where it stands in the
script, and its text without the blanks at both ends. What a row is about can be told from its text
alone: a heading, an annotation, the start of a choice, a route, or something a speaker says.
-/

namespace Colloquy

/-- A line of a script that is not blank. -/
structure Row where
  /-- The number of the line, counted from one. -/
  number : Nat
  /-- The bytes before its text. -/
  start : Nat
  /-- What it says, trimmed. -/
  text : List Char
  deriving DecidableEq, Repr

namespace Row

/-- The byte after the text of a row. -/
def stop (r : Row) : Nat := r.start + Text.byteSize r.text

/-- The row of a line that starts after so many bytes, unless the line is blank. -/
def ofLine (number offset : Nat) (line : List Char) : Option Row :=
  if Text.trim line = [] then none
  else some ⟨number, offset + Text.byteSize (line.takeWhile Text.isBlank), Text.trim line⟩

/-- The rows of the lines from a number and an offset on; a line ends with one byte. -/
def ofLines (number offset : Nat) : List (List Char) → List Row
  | [] => []
  | line :: lines =>
    (ofLine number offset line).toList ++
      ofLines (number + 1) (offset + Text.byteSize line + 1) lines

/-- The rows of a script. -/
def ofScript (script : List Char) : List Row := ofLines 1 0 (Text.pieces '\n' script)

end Row

/-! ## What a row says -/

/-- The name in a heading: three equals signs on both sides, blanks around the name allowed. -/
def headingName? (text : List Char) : Option (List Char) := do
  let rest ← Text.after? "===".toList text
  let (name, rest) := Text.leadingWord (Text.trimStart rest)
  if name ≠ [] ∧ Text.trimStart rest = "===".toList then some name else none

/-- An annotation, with or without a value. -/
structure Annotation where
  tag : List Char
  value : Option (List Char)
  deriving DecidableEq, Repr

/-- The annotation in a text that starts with a number sign. Its tag ends at the first colon. -/
def annotation? : List Char → Option Annotation
  | '#' :: rest =>
    match Text.cut ':' rest with
    | some (tag, value) => some ⟨Text.trim tag, some (Text.trim value)⟩
    | none => some ⟨Text.trim rest, none⟩
  | _ => none

/-- The name and the words in a text of the form `name: words`. -/
def speech? (text : List Char) : Option (List Char × List Char) :=
  match Text.leadingWord text with
  | (c :: name, ':' :: words) => some (c :: name, Text.trim words)
  | _ => none

end Colloquy
