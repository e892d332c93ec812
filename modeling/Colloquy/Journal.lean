import Colloquy.Noted

/-!
# The journal — log records as part of a result

Operations that have something to report return a `Logged` value: the result with the records made
on the way. What becomes of the records (a file, a terminal, nothing) is for the caller to decide.
-/

namespace Colloquy

/-- How important a log record is. -/
inductive Level where
  | debug
  | info
  | warn
  | error
  deriving DecidableEq, Repr

/-- The level as it is written in front of a record. -/
def Level.word : Level → String
  | .debug => "DEBUG"
  | .info => "INFO"
  | .warn => "WARN"
  | .error => "ERROR"

/-- Whether a record of this level asks for attention. -/
def Level.isAlarming : Level → Bool
  | .debug | .info => false
  | .warn | .error => true

/-- One log record. -/
structure Record where
  /-- How important it is. -/
  level : Level
  /-- What is reported. -/
  message : String
  deriving DecidableEq, Repr

/-- A record as one line of text. -/
def Record.text (r : Record) : String := s!"{r.level.word} {r.message}"

/-- A value with the log records made on the way to it. -/
abbrev Logged (α : Type) := Noted Record α

namespace Logged

/-- Report a detail. -/
def debug (message : String) : Logged Unit := Noted.note ⟨.debug, message⟩

/-- Report a regular event. -/
def info (message : String) : Logged Unit := Noted.note ⟨.info, message⟩

/-- Report something that looks wrong. -/
def warn (message : String) : Logged Unit := Noted.note ⟨.warn, message⟩

/-- Report a failure. -/
def error (message : String) : Logged Unit := Noted.note ⟨.error, message⟩

end Logged

end Colloquy
