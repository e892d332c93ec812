/-!
# Diagnostics — problems of a script, as they are told to its author

A diagnostic says what is wrong, how serious it is and where, as a line and a range of UTF-8 bytes.
Line zero means the script as a whole.
-/

namespace Colloquy

/-- How serious a problem is. -/
inductive Severity where
  /-- The script cannot be used. -/
  | error
  /-- Something was skipped. -/
  | warning
  deriving DecidableEq, Repr

/-- A severity in running text. -/
def Severity.word : Severity → String
  | .error => "error"
  | .warning => "warning"

/-- A severity as a heading. -/
def Severity.heading : Severity → String
  | .error => "Error"
  | .warning => "Warning"

/-- A problem of a script. -/
structure Diagnostic where
  severity : Severity
  /-- The line, counted from one, or zero for the whole script. -/
  line : Nat
  /-- The first byte. -/
  start : Nat
  /-- The byte after the last one. -/
  stop : Nat
  /-- What is wrong. -/
  message : String
  /-- What is written under the place, if not the message. -/
  label : Option String := none
  deriving DecidableEq, Repr

namespace Diagnostic

/-- A problem of the whole script that does not keep it from being used. -/
def general (message : String) : Diagnostic := ⟨.warning, 0, 0, 0, message, none⟩

/-- The diagnostic as one line of text. -/
def display (d : Diagnostic) : String :=
  if 0 < d.line then s!"{d.severity.word} (line {d.line}): {d.message}"
  else s!"{d.severity.word}: {d.message}"

/-- A number with a noun that takes an `s` in the plural. -/
def counted (n : Nat) (noun : String) : String := if n = 1 then s!"{n} {noun}" else s!"{n} {noun}s"

/-- How many diagnostics have a severity. -/
def count (severity : Severity) (ds : List Diagnostic) : Nat :=
  (ds.filter fun d => d.severity = severity).length

/-- The number of errors and of warnings. -/
def summary (ds : List Diagnostic) : String :=
  counted (count .error ds) "error" ++ ", " ++ counted (count .warning ds) "warning"

end Diagnostic

end Colloquy
