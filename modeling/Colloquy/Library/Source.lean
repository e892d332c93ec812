import Colloquy.Files
import Colloquy.Journal
import Colloquy.Script.Flaw
import Colloquy.Sorted

/-!
# Sources — where scripts come from

A source has the script of a character under the character's name. The scripts are in memory, or
they are files of a folder, named for the character. Reading a file is given as a function of its
path, so what a source answers depends on its argument and on nothing else.
-/

namespace Colloquy

/-! ## Folders -/

/-- A path below another one. An absolute path stays as it is. -/
def joinPath (root path : String) : String :=
  if path.toList.head? = some '/' then path
  else if root = "" then path
  else if root.toList.getLast? = some '/' then root ++ path
  else s!"{root}/{path}"

/-- A folder of scripts with a common extension. -/
structure Folder where
  root : String := "dialogue"
  extension : String := "txt"
  deriving DecidableEq, Repr

/-- The path of a character's script. -/
def Folder.scriptPath (f : Folder) (npc : String) : String :=
  joinPath f.root s!"{npc}.{f.extension}"

/-! ## Sources -/

/-- Why there is no dialogue for a character. -/
inductive LoadError where
  /-- The script's file cannot be read. -/
  | unreadable (path : String) (fault : ReadFault)
  /-- There is no script. -/
  | notFound (npc : String)
  /-- The script yields no dialogue. -/
  | unusable (npc : String) (error : ScriptError)
  deriving DecidableEq, Repr

/-- What is wrong. -/
def LoadError.message : LoadError → String
  | .unreadable path fault => s!"cannot read {path}: {fault.message}"
  | .notFound npc => s!"no dialogue script for `{npc}`"
  | .unusable npc error => s!"dialogue for `{npc}` is unusable: {error.message}"

/-- Where scripts come from. -/
inductive Source where
  /-- Scripts by character. -/
  | memory (scripts : TextMap String)
  /-- Files of a folder, and what reading a path gives. -/
  | folder (folder : Folder) (read : String → Except ReadFault String)

namespace Source

/-- The script of a character. -/
def fetch (source : Source) (npc : String) : Logged (Except LoadError String) :=
  match source with
  | .memory scripts =>
    match scripts.get? npc with
    | some script => pure (.ok script)
    | none => pure (.error (.notFound npc))
  | .folder home read => do
    let path := home.scriptPath npc
    Logged.debug s!"reading dialogue from {path}"
    match read path with
    | .ok script => return .ok script
    | .error fault => return .error (.unreadable path fault)

end Source

end Colloquy
