import Colloquy.Command.Run

/-!
# The program — files, lines of input and printing

The outer layer. It reads the files that a run may read, hands lines of input to a run that waits
for one, prints what is new, and saves the file that the result says. What is printed and when the
program fails is not decided here but in `Colloquy.Command.Run`.
-/

namespace Colloquy

/-- The fault in an error of the system. -/
def ReadFault.ofError : IO.Error → ReadFault
  | .noFileOrDirectory .. => .missing
  | .inappropriateType _ 21 _ => .isFolder
  | .inappropriateType .. => .notFolder
  | .invalidArgument .. => .tooLong
  | e => .refused (toString e)

/-- What reading a file gives. -/
def readText (path : String) : IO (Except ReadFault String) := do
  try
    match String.fromUTF8? (← IO.FS.readBinFile path) with
    | some text => return .ok text
    | none => return .error .notText
  catch e => return .error (.ofError e)

/-- What reading gives for each of the files a run may read. -/
def readFiles (paths : List String) : IO (String → Except ReadFault String) := do
  let found ← paths.mapM fun path => do return (path, ← readText path)
  return fun path => (found.lookup path).getD (.error .missing)

/-- The bytes of the next line of input, its end included, after those that were read already. -/
partial def readLine (input : IO.FS.Stream) (done : List UInt8) : IO (List UInt8) := do
  match (← input.read 1).toList with
  | [] => return done.reverse
  | byte :: _ => if byte = 10 then return (byte :: done).reverse else readLine input (byte :: done)

/-- The next input. -/
def readInput : IO Input := do
  match ← readLine (← IO.getStdin) [] with
  | [] => return .closed
  | bytes => return .ofBytes bytes

/-- Print what a stage adds to a text that is already there, and the records worth attention. -/
def present (before : String) (stage : Logged Stage) : IO Stage := do
  for record in stage.notes do
    if record.level.isAlarming then IO.eprintln record.text
  let out ← IO.getStdout
  out.putStr (String.ofList (stage.value.printed.toList.drop before.length))
  out.flush
  return stage.value

/-- Hand lines of input to a run until it is over. -/
partial def converse (stage : Stage) : IO RunResult := do
  match stage with
  | .over result => return result
  | .waiting .. => converse (← present stage.printed (stage.hear (← readInput)))

/-- Save the file of a result. -/
def saveResult (result : RunResult) : IO RunResult := do
  match result.saving with
  | none => return result
  | some (file, contents) =>
    try
      IO.FS.writeFile file contents
      return result
    catch _ => return result.unsaved file

/-- Run the program with its arguments. The result is its status. -/
def runProgram (args : List String) : IO UInt32 := do
  let invocation := Invocation.read args
  let read ← readFiles invocation.files
  let result ← saveResult (← converse (← present "" (Stage.start read invocation)))
  IO.eprint result.outcome.complaints
  return UInt32.ofNat result.status

end Colloquy

/-- The program. -/
def main (args : List String) : IO UInt32 := Colloquy.runProgram args
