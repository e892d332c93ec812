import Colloquy.Diagnostic
import Colloquy.Text.Blank

/-!
# Excerpts — diagnostics drawn under the line they are about

A diagnostic is drawn with its place, the line of the script, and a mark under the range it is about
with its label. The mark hangs from the middle of the range and runs two columns past its end; an
empty range has the mark at its place. Columns count characters.
-/

namespace Colloquy

namespace Excerpt

/-- Whether a character ends a line of an excerpt. -/
def endsLine (c : Char) : Bool :=
  c = '\n' || c = '\r' || c = '\x0b' || c = '\x0c' || c = '\u0085' || c = '\u2028' || c = '\u2029'

/-- A line of a script with its end, its number and the characters before it. -/
structure SourceLine where
  number : Nat
  start : Nat
  chars : List Char
  deriving DecidableEq, Repr

/-- The lines from a number and a position on, where `done` is the current line backwards. A
carriage return with a newline is one end. -/
def splitLines (number start : Nat) (done : List Char) : List Char → List SourceLine
  | [] => [⟨number, start, done.reverse⟩]
  | '\r' :: '\n' :: cs =>
    ⟨number, start, ('\n' :: '\r' :: done).reverse⟩ ::
      splitLines (number + 1) (start + done.length + 2) [] cs
  | c :: cs =>
    if endsLine c then
      ⟨number, start, (c :: done).reverse⟩ ::
        splitLines (number + 1) (start + done.length + 1) [] cs
    else splitLines number start (c :: done) cs

/-- The lines of a script. What follows the last end of a line is a line only if it is not empty,
but an empty script has one empty line. -/
def sourceLines (script : List Char) : List SourceLine :=
  match splitLines 1 0 [] script with
  | [line] => [line]
  | lines => lines.filter fun line => line.chars ≠ []

/-- The line that contains a position: the last one that starts no later. -/
def lineAt (lines : List SourceLine) (position : Nat) : SourceLine :=
  ((lines.filter fun line => line.start ≤ position).getLast?).getD ⟨1, 0, []⟩

/-- The drawing of one diagnostic. -/
def draw (filename : String) (lines : List SourceLine) (d : Diagnostic) : String :=
  let line := lineAt lines d.start
  let number := toString line.number
  let margin := Text.repeated (number.length + 2) ' '
  let column := d.start - line.start
  let size := d.stop - d.start
  let middle := size / 2
  let text := String.ofList (Text.trimEnd line.chars)
  let label := d.label.getD d.message
  let mark :=
    if size = 0 then Text.repeated column ' ' ++ "│" ++ " "
    else
      Text.repeated column ' ' ++ Text.repeated middle '─' ++ "┬" ++
        Text.repeated (size - middle - 1) '─' ++ "  "
  let hook :=
    Text.repeated (column + middle) ' ' ++ "╰" ++ Text.repeated (size - middle + 1) '─' ++ " " ++
      label
  s!"{d.severity.heading}: {d.message}\n" ++
    s!"{margin}╭─[ {filename}:{line.number}:{column + 1} ]\n" ++
    s!"{margin}│\n" ++
    s!" {number} │ {text}\n" ++
    s!"{margin}│ {mark}\n" ++
    s!"{margin}│ {hook}\n" ++
    Text.repeated (number.length + 2) '─' ++ "╯\n"

end Excerpt

/-- All diagnostics of a script, each drawn under the line it is about. -/
def Diagnostic.render (script filename : String) (ds : List Diagnostic) : String :=
  let lines := Excerpt.sourceLines script.toList
  String.join (ds.map (Excerpt.draw filename lines))

end Colloquy
