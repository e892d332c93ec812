import Colloquy.Command.Usage
import Colloquy.Dialogue.Graph
import Colloquy.Text.Basic

/-!
# Arguments — what the program is asked to do

Arguments are read from left to right. An option has a long name, may have a one-letter name, and is
either a switch or takes one value; unless it can be repeated it may be given once. After two dashes
everything is a positional argument. Requests for help and for the version take effect where they
stand, before anything that is wrong further on.
-/

namespace Colloquy

/-! ## Options in general -/

/-- An option that a command knows. -/
structure OptionSpec where
  long : String
  short : Option Char := none
  /-- Whether a value follows. -/
  takesValue : Bool := true
  /-- Whether it may be given more than once. -/
  repeatable : Bool := false
  /-- Whether the value may be empty. -/
  allowsEmpty : Bool := true
  deriving DecidableEq, Repr

/-- Why reading arguments ends early. -/
inductive Interruption where
  /-- The arguments make no sense. -/
  | misuse (reason : String)
  /-- Help is requested. -/
  | help
  /-- The version is requested. -/
  | version
  deriving DecidableEq, Repr

/-- The options given so far, the latest first; a switch has an empty value. -/
abbrev Given := List (String × String)

namespace Given

/-- The value of an option. -/
def value? (given : Given) (long : String) : Option String := given.lookup long

/-- All values of an option, in the order in which they were given. -/
def values (given : Given) (long : String) : List String :=
  ((given.filter fun entry => entry.1 = long).map Prod.snd).reverse

/-- Whether an option was given. -/
def has (given : Given) (long : String) : Bool := (given.value? long).isSome

/-- One more option. -/
def give (given : Given) (spec : OptionSpec) (value : String) : Except Interruption Given :=
  if !spec.repeatable && given.has spec.long then
    .error (.misuse s!"the argument '--{spec.long}' cannot be used multiple times")
  else if spec.takesValue && !spec.allowsEmpty && value = "" then
    .error (.misuse s!"a value is required for '--{spec.long}' but none was supplied")
  else .ok ((spec.long, value) :: given)

end Given

/-- What an argument is. -/
inductive Argument where
  /-- Two dashes. -/
  | separator
  /-- A long option with the value that is joined to it. -/
  | long (name : String) (value : Option String)
  /-- One-letter options. -/
  | short (letters : List Char)
  /-- Anything else. -/
  | plain (text : String)
  deriving DecidableEq, Repr

/-- What an argument is, by the dashes in front. A single dash is an ordinary argument. -/
def Argument.read (text : String) : Argument :=
  match text.toList with
  | ['-', '-'] => .separator
  | '-' :: '-' :: rest =>
    match Text.cut '=' rest with
    | some (name, value) => .long (String.ofList name) (some (String.ofList value))
    | none => .long (String.ofList rest) none
  | '-' :: c :: rest => .short (c :: rest)
  | _ => .plain text

/-- The options read so far, and the one whose value is due. -/
structure Progress where
  given : Given := []
  due : Option OptionSpec := none
  deriving DecidableEq, Repr

namespace Progress

/-- That a value is missing. -/
def missing {α : Type} (spec : OptionSpec) : Except Interruption α :=
  .error (.misuse s!"a value is required for '--{spec.long}' but none was supplied")

/-- The options, if no value is due. -/
def close (p : Progress) : Except Interruption Given :=
  match p.due with
  | some spec => missing spec
  | none => .ok p.given

/-- Take a value in. -/
def takeValue (given : Given) (spec : OptionSpec) (value : String) :
    Except Interruption Progress := do
  return { given := ← given.give spec value }

/-- Take one-letter options in. What follows a letter that takes a value is its value. -/
def takeLetters (specs : List OptionSpec) (given : Given) :
    List Char → Except Interruption Progress
  | [] => .ok { given := given }
  | c :: rest =>
    match specs.find? fun spec => spec.short = some c with
    | some spec =>
      if spec.takesValue then
        match rest with
        | [] => .ok { given := given, due := some spec }
        | '=' :: value => takeValue given spec (String.ofList value)
        | value => takeValue given spec (String.ofList value)
      else do takeLetters specs (← given.give spec "") rest
    | none =>
      if c = 'h' then .error .help
      else if c = 'V' then .error .version
      else .error (.misuse s!"unexpected argument '-{c}' found")

/-- Take a long option in. -/
def takeLong (specs : List OptionSpec) (given : Given) (name : String) (value : Option String) :
    Except Interruption Progress :=
  match specs.find? (fun spec => spec.long = name), value with
  | some spec, some value =>
    if spec.takesValue then takeValue given spec value
    else .error (.misuse s!"unexpected value '{value}' for '--{name}' found")
  | some spec, none =>
    if spec.takesValue then .ok { given := given, due := some spec }
    else takeValue given spec ""
  | none, none =>
    if name = "help" then .error .help
    else if name = "version" then .error .version
    else .error (.misuse s!"unexpected argument '--{name}' found")
  | none, some _ => .error (.misuse s!"unexpected argument '--{name}' found")

/-- Take an argument in, unless it is a positional one or the separator. -/
def take (specs : List OptionSpec) (p : Progress) (arg : Argument) :
    Except Interruption (Option Progress) :=
  match p.due, arg with
  | some spec, .plain value => some <$> takeValue p.given spec value
  | some spec, _ => missing spec
  | none, .long name value => some <$> takeLong specs p.given name value
  | none, .short letters => some <$> takeLetters specs p.given letters
  | none, _ => .ok none

end Progress

/-- Read options up to the first argument that is none, which stays in front of the rest. -/
def readOptions (specs : List OptionSpec) (p : Progress) :
    List String → Except Interruption (Given × List String)
  | [] => do return (← p.close, [])
  | arg :: rest => do
    match ← p.take specs (.read arg) with
    | some p => readOptions specs p rest
    | none => return (p.given, arg :: rest)

/-- A positional argument, which may be required to have content. -/
def positional (allowsEmpty : Bool) (value : String) : Except Interruption String :=
  if !allowsEmpty && value = "" then
    .error (.misuse "a value is required for an argument but none was supplied")
  else .ok value

/-- The one positional argument, which must be given once. -/
def onlyPositional (allowsEmpty : Bool) (found : List String) : Except Interruption String :=
  match found with
  | [value] => positional allowsEmpty value
  | [] => .error (.misuse "the following required arguments were not provided")
  | _ :: extra :: _ => .error (.misuse s!"unexpected argument '{extra}' found")

/-- Read options and one positional argument. -/
def readArguments (specs : List OptionSpec) (allowsEmpty : Bool) (p : Progress)
    (found : Option String) : List String → Except Interruption (Given × String)
  | [] => do return (← p.close, ← onlyPositional allowsEmpty found.toList)
  | arg :: rest => do
    match ← p.take specs (.read arg), Argument.read arg, found with
    | some p, _, _ => readArguments specs allowsEmpty p found rest
    | none, .separator, _ =>
      return (p.given, ← onlyPositional allowsEmpty (found.toList ++ rest))
    | none, _, none => do
      let value ← positional allowsEmpty arg
      readArguments specs allowsEmpty p (some value) rest
    | none, _, some _ => .error (.misuse s!"unexpected argument '{arg}' found")

/-! ## The program's commands -/

/-- How an outline is printed. -/
inductive OutlineFormat where
  | table
  | plain
  | json
  deriving DecidableEq, Repr

/-- What is needed to talk to a character. -/
structure PlayRequest where
  npc : String
  /-- The folder of the scripts. -/
  folder : String
  /-- The extension of the scripts. -/
  extension : String
  /-- The file with the game state. -/
  stateFile : Option String
  /-- Flags to set before the conversation. -/
  assignments : List String
  /-- Items to add before the conversation. -/
  items : List String
  /-- The node to begin on. -/
  node : Option String
  deriving DecidableEq, Repr

/-- What the program is asked to do. -/
inductive Command where
  /-- Report the problems of a script. -/
  | check (file : String) (strict : Bool)
  /-- Print an outline of a script. -/
  | outline (file : String) (format : OutlineFormat)
  /-- Talk to a character. -/
  | play (request : PlayRequest)
  deriving DecidableEq, Repr

/-- What a call of the program amounts to. -/
inductive Invocation where
  /-- Do something, with a name for the hero. -/
  | run (hero : String) (command : Command)
  /-- Print a text about the program. -/
  | inform (text : String)
  /-- Nothing, because the arguments make no sense. -/
  | misuse (reason : String)
  deriving DecidableEq, Repr

namespace Command

/-- The option that names the hero, known to the program and to all commands. -/
def heroSpec : OptionSpec := { long := "hero" }

/-- The options of `check`. -/
def checkSpecs : List OptionSpec := [heroSpec, { long := "strict", takesValue := false }]

/-- The options of `outline`. -/
def outlineSpecs : List OptionSpec :=
  [heroSpec, { long := "json", takesValue := false }, { long := "plain", takesValue := false }]

/-- The options of `play`. -/
def playSpecs : List OptionSpec :=
  [heroSpec, { long := "dir", short := some 'd', allowsEmpty := false }, { long := "ext" },
    { long := "state", short := some 's', allowsEmpty := false },
    { long := "set", repeatable := true }, { long := "item", repeatable := true },
    { long := "node" }]

/-- Read the arguments of `check`. -/
def readCheck (args : List String) : Except Interruption (Given × Command) := do
  let (given, file) ← readArguments checkSpecs false {} none args
  return (given, .check file (given.has "strict"))

/-- Read the arguments of `outline`. -/
def readOutline (args : List String) : Except Interruption (Given × Command) := do
  let (given, file) ← readArguments outlineSpecs false {} none args
  match given.has "json", given.has "plain" with
  | true, true =>
    .error (.misuse "the argument '--json' cannot be used with '--plain'")
  | true, false => return (given, .outline file .json)
  | false, true => return (given, .outline file .plain)
  | false, false => return (given, .outline file .table)

/-- Read the arguments of `play`. -/
def readPlay (args : List String) : Except Interruption (Given × Command) := do
  let (given, npc) ← readArguments playSpecs true {} none args
  return (given, .play {
    npc := npc
    folder := (given.value? "dir").getD "dialogue"
    extension := (given.value? "ext").getD "txt"
    stateFile := given.value? "state"
    assignments := given.values "set"
    items := given.values "item"
    node := given.value? "node" })

/-- The reader and the help text of a command. -/
def named? : String → Option ((List String → Except Interruption (Given × Command)) × String)
  | "check" => some (readCheck, Usage.checkHelp)
  | "outline" => some (readOutline, Usage.outlineHelp)
  | "play" => some (readPlay, Usage.playHelp)
  | _ => none

/-- Answer a request for help about a command. -/
def help : List String → Invocation
  | [] => .inform Usage.programHelp
  | ["help"] => .inform Usage.helpHelp
  | [name] =>
    match named? name with
    | some (_, text) => .inform text
    | none => .misuse s!"unrecognized subcommand '{name}'"
  | _ :: name :: _ => .misuse s!"unrecognized subcommand '{name}'"

/-- What the arguments of a command amount to, where another place may have named the hero. -/
def invoke (outer : Given) (name : String) (args : List String) : Invocation :=
  match named? name with
  | none => if name = "help" then help args else .misuse s!"unrecognized subcommand '{name}'"
  | some (read, text) =>
    match read args with
    | .ok (given, command) =>
      .run (((given.value? "hero").or (outer.value? "hero")).getD defaultHero) command
    | .error .help => .inform text
    | .error .version => .inform (Usage.versionText (some name))
    | .error (.misuse reason) => .misuse reason

end Command

/-- **Read the arguments of the program.** -/
def Invocation.read (args : List String) : Invocation :=
  match readOptions [Command.heroSpec] {} args with
  | .ok (given, name :: rest) =>
    match Argument.read name with
    | .plain name => Command.invoke given name rest
    | _ => .misuse "a command is required but none was provided"
  | .ok (_, []) => .misuse "a command is required but none was provided"
  | .error .help => .inform Usage.programHelp
  | .error .version => .inform (Usage.versionText none)
  | .error (.misuse reason) => .misuse reason

end Colloquy
