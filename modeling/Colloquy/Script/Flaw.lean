import Colloquy.Condition.Clause
import Colloquy.Diagnostic
import Colloquy.Journal
import Colloquy.Script.Row

/-!
# Flaws — what a script reader skips and says so

Nothing in a script is fatal by itself: a line that makes no sense is skipped and a section without
content is dropped, each with a flaw. A script fails only if no node comes out of it.
-/

namespace Colloquy

/-- What may be wrong with a row. -/
inductive Flaw where
  /-- The row stands before the first heading. -/
  | outsideSection
  /-- The section has no rows. -/
  | emptySection (name : String)
  /-- An earlier section has the same name. -/
  | repeatedSection (name : String)
  /-- A `requires` annotation has no clause. -/
  | blankClause
  /-- An atom of a clause is flawed. -/
  | clause (flaw : ClauseFlaw)
  /-- An annotation needs a value and has none. -/
  | needsValue (tag : String)
  /-- The annotation of a node is not known. -/
  | unknownNodeTag (tag : String)
  /-- The annotation does not belong among intro lines. -/
  | misplacedTag (tag : String)
  /-- The annotation of a choice is not known. -/
  | unknownChoiceTag (tag : String)
  /-- An intro line is not spoken by anyone. -/
  | unspokenIntro
  /-- A choice has no text. -/
  | noMenuText
  /-- A route leads nowhere. -/
  | noTarget
  /-- A row of a choice makes no sense. -/
  | unrecognized
  deriving DecidableEq, Repr

/-- The warning about a flaw. -/
def Flaw.message : Flaw → String
  | .outsideSection => "line outside of any `=== node ===` section ignored"
  | .emptySection name => s!"node `{name}` has no content and was dropped"
  | .repeatedSection name =>
    s!"node `{name}` is defined more than once; this definition replaces the earlier one"
  | .blankClause => "`# requires:` without a clause always holds"
  | .clause flaw => flaw.message
  | .needsValue tag => s!"`# {tag}` needs a value"
  | .unknownNodeTag tag => s!"unknown node annotation `# {tag}`"
  | .misplacedTag tag => s!"`# {tag}` is not allowed among intro lines"
  | .unknownChoiceTag tag => s!"unknown option annotation `# {tag}`"
  | .unspokenIntro => "unrecognized intro line (expected `speaker: text`)"
  | .noMenuText => "option has no menu text"
  | .noTarget => "`>` without a target node"
  | .unrecognized => "unrecognized option line"

/-- A flaw and the row it was found on. -/
structure Remark where
  row : Row
  flaw : Flaw
  deriving DecidableEq, Repr

namespace Remark

/-- A remark as a diagnostic. -/
def diagnostic (r : Remark) : Diagnostic :=
  ⟨.warning, r.row.number, r.row.start, r.row.stop, r.flaw.message, none⟩

/-- A remark as a log record. -/
def record (r : Remark) : Record := ⟨.warn, s!"dialogue line {r.row.number}: {r.flaw.message}"⟩

end Remark

/-- A value with the remarks made while it was read. -/
abbrev Remarked (α : Type) := Noted Remark α

/-- Why a script yields no dialogue. -/
inductive ScriptError where
  /-- There is no heading. -/
  | noSections
  /-- Every section is empty. -/
  | emptyGraph
  deriving DecidableEq, Repr

namespace ScriptError

/-- What is wrong with the script. -/
def message : ScriptError → String
  | .noSections => "script has no `=== node ===` sections"
  | .emptyGraph => "script has sections but none produced a node"

/-- What would have been expected. -/
def label : ScriptError → String
  | .noSections => "expected a `=== start ===` header"
  | .emptyGraph => "every section in this script is empty"

/-- The first line of a script without its end, which may be a carriage return and a newline. -/
def firstLine (script : List Char) : List Char :=
  match Text.cut '\n' script with
  | some (line, _) =>
    match line.reverse with
    | '\r' :: rest => rest.reverse
    | _ => line
  | none => script

/-- The failure as a diagnostic of the first line. -/
def diagnostic (e : ScriptError) (script : List Char) : Diagnostic :=
  ⟨.error, 1, 0, Text.byteSize (firstLine script), e.message, some e.label⟩

end ScriptError

end Colloquy
