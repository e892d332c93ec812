import Colloquy.Text.Blank
import Colloquy.Text.Decimal

/-!
# Flags — named values of the game state

A flag holds a truth value, a 64-bit integer or a text, and counts as set when it is truthy. Its
name has two parts, a group and a name within the group: everything before the first dot is the
group, and a name without a group belongs to the group `misc`. So `lamp` and `misc.lamp` name the
same flag.
-/

namespace Colloquy

/-! ## Values -/

/-- The value of a flag. -/
inductive FlagValue where
  | bool (b : Bool)
  | integer (n : Int64)
  | text (s : String)
  deriving DecidableEq

namespace FlagValue

/-- Whether the value counts as set: true, a number other than zero, or a text with content. -/
def isTruthy : FlagValue → Bool
  | .bool b => b
  | .integer n => n ≠ 0
  | .text s => s ≠ ""

/-- The value written on a command line. Blanks at the ends do not count; what is neither a truth
value nor an integer in range is text. -/
def read (raw : List Char) : FlagValue :=
  let word := Text.trim raw
  if word = "true".toList then .bool true
  else if word = "false".toList then .bool false
  else match (Text.integer? word).bind Text.int64? with
    | some n => .integer n
    | none => .text (String.ofList word)

/-- The value as text. -/
def display : FlagValue → String
  | .bool true => "true"
  | .bool false => "false"
  | .integer n => toString n.toInt
  | .text s => s

end FlagValue

/-! ## Assignments -/

/-- A flag assignment without a flag name. -/
structure NamelessAssignment where
  /-- The assignment as it was given. -/
  raw : String
  deriving DecidableEq, Repr

/-- What is wrong with the assignment. -/
def NamelessAssignment.message (e : NamelessAssignment) : String :=
  s!"invalid flag assignment: \"{e.raw}\""

/-- Read `name=value`. A name alone is set to true. -/
def FlagValue.readAssignment (raw : String) : Except NamelessAssignment (String × FlagValue) :=
  let (name, value) := match Text.cut '=' raw.toList with
    | some (name, value) => (Text.trim name, FlagValue.read value)
    | none => (Text.trim raw.toList, FlagValue.bool true)
  if name = [] then .error ⟨raw⟩ else .ok (String.ofList name, value)

/-! ## Names -/

/-- The full name of a flag. -/
structure FlagName where
  /-- The group the flag is filed in. -/
  group : String
  /-- Its name within the group, which may contain dots. -/
  name : String
  deriving DecidableEq, Repr

namespace FlagName

/-- The group of flags that are named without one. -/
def misc : String := "misc"

/-- A text without the dots at both ends. -/
def dropDots (cs : List Char) : List Char :=
  ((cs.dropWhile (· = '.')).reverse.dropWhile (· = '.')).reverse

/-- The flag that a written name refers to. -/
def read (raw : String) : FlagName :=
  let written := Text.trim raw.toList
  match Text.cut '.' written with
  | some (c :: group, d :: name) => ⟨String.ofList (c :: group), String.ofList (d :: name)⟩
  | _ => ⟨misc, String.ofList (dropDots written)⟩

/-- The full name as text. -/
def display (f : FlagName) : String := s!"{f.group}.{f.name}"

end FlagName

end Colloquy
