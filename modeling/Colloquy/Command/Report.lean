import Colloquy.Command.Arguments
import Colloquy.Command.Grid
import Colloquy.Dialogue.Document
import Colloquy.Dialogue.Outline
import Colloquy.Dialogue.Review
import Colloquy.Library.Source
import Colloquy.Script.Excerpt
import Colloquy.Script.Reader

/-!
# Reports — checking and outlining a script

A command ends with an outcome: what is printed, what is complained about, and the failure it ends
with, if any. Checking fails on a script that cannot be read or yields no dialogue, and on any
problem at all if it is strict; an outline fails on the first two only.
-/

namespace Colloquy

/-- How a command ends. -/
structure Outcome where
  /-- What is printed. -/
  stdout : String := ""
  /-- What is complained about on the way. -/
  stderr : String := ""
  /-- Why the command fails, if it does. -/
  failure : Option String := none
  deriving DecidableEq, Repr

namespace Outcome

/-- The status a command ends with. -/
def status (o : Outcome) : Nat := if o.failure.isSome then 1 else 0

/-- The last thing a failing command says. -/
def lastWord? (o : Outcome) : Option String := o.failure.map ("Error: " ++ ·)

/-- All that is complained about. -/
def complaints (o : Outcome) : String := o.stderr ++ (o.lastWord?.map (· ++ "\n")).getD ""

end Outcome

namespace Command

/-- The failure to read a file. -/
def cannotRead (file : String) : String := s!"cannot read {file}"

/-- The numbers of nodes and choices of a dialogue. -/
def sizes (g : Graph) : String := s!"{g.size} nodes, {g.choiceCount} options"

/-- Check a script. -/
def checkScript (hero file script : String) (strict : Bool) : Outcome :=
  let diagnostics := Script.diagnostics hero script
  let excerpts := Diagnostic.render script file diagnostics
  match (Script.read hero script).value with
  | .error e =>
    { stdout := s!"  {Diagnostic.summary diagnostics}\n"
      stderr := excerpts
      failure := some s!"{e.message} ({file})" }
  | .ok graph =>
    let findings := graph.review.map Finding.diagnostic
    let problems := diagnostics ++ findings
    let warnings := String.join (findings.map fun d => s!"  warning: {d.message}\n")
    let verdict :=
      if problems = [] then "  All checks passed.\n" else s!"  {Diagnostic.summary problems}\n"
    { stdout := s!"  Checked {file}: {sizes graph}\n" ++ verdict
      stderr := excerpts ++ warnings
      failure :=
        if strict && problems ≠ [] then
          some s!"--strict: {problems.length} problem(s) in {file}"
        else none }

/-- A dialogue as it is printed. -/
def outlineText (graph : Graph) : OutlineFormat → String
  | .json => graph.document ++ "\n"
  | .plain => graph.outline
  | .table =>
    (Grid.mk Graph.tableHeadings graph.tableRows).draw ++ s!"\n  {sizes graph}\n"

/-- Outline a script. -/
def outlineScript (hero file script : String) (format : OutlineFormat) : Outcome :=
  match (Script.read hero script).value with
  | .error e => { failure := some s!"{e.message} ({file})" }
  | .ok graph =>
    { stdout := outlineText graph format
      stderr := Diagnostic.render script file (Script.diagnostics hero script) }

/-- Use a script, if it could be read. -/
def withScript (file : String) (contents : Except ReadFault String) (use : String → Outcome) :
    Outcome :=
  match contents with
  | .ok script => use script
  | .error _ => { failure := some (cannotRead file) }

end Command

end Colloquy
