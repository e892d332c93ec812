import Colloquy.Command.Play

/-!
# Running a command — from its surroundings to its outcome

All that a command depends on besides its arguments is the files and the lines of input. A run is
over at once, or it is a play that waits for input; hearing the inputs one by one or all together
makes no difference. So running a command is a function: what it prints, how it ends, and the one
file it may save.
-/

namespace Colloquy

/-! ## Results -/

/-- How a run ends: what it prints and complains about, its status, and the file it is to save. -/
structure RunResult where
  outcome : Outcome
  status : Nat
  saving : Option (String × String) := none
  deriving DecidableEq, Repr

namespace RunResult

/-- The result of a command that saves nothing. -/
def ofOutcome (o : Outcome) : RunResult := { outcome := o, status := o.status }

/-- The result of a play. -/
def ofScene (request : PlayRequest) (s : Scene) : RunResult :=
  let o : Outcome := { stdout := s.text, failure := s.ending.bind Ending.failure }
  { outcome := o, status := o.status, saving := request.saving s }

/-- What becomes of a result when its file cannot be written. -/
def unsaved (r : RunResult) (file : String) : RunResult :=
  .ofOutcome { r.outcome with failure := some (PlayRequest.cannotWrite file) }

end RunResult

/-! ## Stages -/

/-- A run up to the point where it is over or waits for input. -/
inductive Stage where
  /-- Nothing more happens. -/
  | over (result : RunResult)
  /-- A line of input is due. -/
  | waiting (request : PlayRequest) (scene : Scene)
  deriving DecidableEq

namespace Stage

/-- The stage of a play. -/
def ofScene (request : PlayRequest) (s : Scene) : Stage :=
  if s.ending.isSome then .over (.ofScene request s) else .waiting request s

/-- Talk to a character. -/
def ofPlay (hero : String) (request : PlayRequest) (read : String → Except ReadFault String) :
    Logged Stage :=
  match request.prepare read with
  | .error reason => pure (.over (.ofOutcome { failure := some reason }))
  | .ok prepared => do
    match ← request.begin hero (← prepared) read with
    | .error reason => return .over (.ofOutcome { failure := some reason })
    | .ok scene => return .ofScene request scene

/-- Do what a command says, up to the point where it is over or waits for input. -/
def ofCommand (hero : String) (read : String → Except ReadFault String) : Command → Logged Stage
  | .check file strict =>
    let check := fun script => Command.checkScript (Text.lowercase hero) file script strict
    pure (.over (.ofOutcome (Command.withScript file (read file) check)))
  | .outline file format =>
    let outline := fun script => Command.outlineScript (Text.lowercase hero) file script format
    pure (.over (.ofOutcome (Command.withScript file (read file) outline)))
  | .play request => ofPlay hero request read

/-- Begin a run. -/
def start (read : String → Except ReadFault String) : Invocation → Logged Stage
  | .inform text => pure (.over (.ofOutcome { stdout := text }))
  | .misuse reason => pure (.over { outcome := { stderr := s!"error: {reason}\n" }, status := 2 })
  | .run hero command => ofCommand hero read command

/-- Take a line of input in. -/
def hear (stage : Stage) (input : Input) : Logged Stage :=
  match stage with
  | .over result => pure (.over result)
  | .waiting request scene => .ofScene request <$> scene.hear input

/-- The result after all inputs. A play that still waits then finds the input closed. -/
def finish (stage : Stage) (inputs : List Input) : Logged RunResult :=
  match stage with
  | .over result => pure result
  | .waiting request scene => .ofScene request <$> scene.follow inputs

/-- What was printed so far. -/
def printed : Stage → String
  | .over result => result.outcome.stdout
  | .waiting _ scene => scene.text

end Stage

/-! ## Runs -/

/-- The files that a run may read. -/
def Invocation.files : Invocation → List String
  | .run _ (.check file _) | .run _ (.outline file _) => [file]
  | .run _ (.play request) => request.stateFile.toList ++ [request.scripts.scriptPath request.npc]
  | _ => []

/-- **Run the program** on files and lines of input. With the result come the files as they are
afterwards. -/
def Invocation.execute (i : Invocation) (files : FileTree) (inputs : List Input) :
    Logged (RunResult × FileTree) := do
  let result ← (← Stage.start files.read i).finish inputs
  match result.saving with
  | none => return (result, files)
  | some (file, text) =>
    match files.write? file text with
    | some files => return (result, files)
    | none => return (result.unsaved file, files)

end Colloquy
