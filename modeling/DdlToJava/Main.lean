import DdlToJava.Console.Layout
import DdlToJava.Run.Command

/-!
# The program

The program runs the command on the files, the environment and the streams of its process.  Its
status console is as wide as `COLUMNS` says, or has eighty columns.  It has no clipboard of its own,
so that the text goes to the standard output instead.
-/

namespace DdlToJava

open Files

/-- the cause with a number -/
def causeOfCode (code : UInt32) (text : String) : Cause :=
  let known := [Cause.missing, .exists, .notDirectory, .isDirectory, .nameTooLong, .denied, .loop]
  (known.find? fun cause => cause.code = code.toNat).getD (.other code.toNat text)

/-- the cause of a failed operation on a file -/
def causeOf : IO.Error → Cause
  | .noFileOrDirectory .. => .missing
  | .alreadyExists .. => .exists
  | .inappropriateType _ code text => causeOfCode code text
  | .permissionDenied _ code text => causeOfCode code text
  | .invalidArgument _ code text => causeOfCode code text
  | .resourceExhausted _ code text => causeOfCode code text
  | e => .other 5 (toString e)

/-- an operation on files with the cause of its failure -/
def attempt {α : Type} (act : IO α) : IO (Except Cause α) := do
  try
    return .ok (← act)
  catch e =>
    return .error (causeOf e)

/-- the variables in the environment block of a process -/
def variablesOf (block : List Char) : List (String × String) :=
  (Text.pieces '\x00' block).filterMap fun entry =>
    match entry.dropWhile (· ≠ '=') with
    | _ :: value => some (String.ofList (entry.takeWhile (· ≠ '=')), String.ofList value)
    | [] => none

/-- the environment of the process -/
def environmentVariables : IO (List (String × String)) := do
  try
    let bytes ← IO.FS.readBinFile "/proc/self/environ"
    match Text.Utf8.decode bytes.toList with
    | .ok block => return variablesOf block
    | .error _ => return []
  catch _ =>
    return []

/-- put bytes into a file; once it is open, a failure leaves a part of them -/
def writeBytes (p : Path) (bytes : List UInt8) : IO (Except WriteFault Unit) := do
  match ← attempt (IO.FS.Handle.mk p.toString .write) with
  | .error cause => return .error (.refused cause)
  | .ok file =>
    let written ← attempt do
      file.write ⟨bytes.toArray⟩
      file.flush
    return written.mapError .broken

/-- the columns of the status console -/
def columns : IO Nat := do
  let n := ((← environmentVariables).lookup "COLUMNS").bind String.toNat?
  return match n with
    | some (n + 1) => n + 1
    | _ => 80

/-- what is said of a problem with the rules -/
def describe (problem : Rules.Problem) : String :=
  let steps := problem.place.map fun
    | .key k => k
    | .index n => toString n
  String.intercalate "." steps ++ "\n  " ++ reprStr problem.fault

instance : Host IO where
  isDirectory p := attempt do
    let info ← (← IO.FS.realPath p.toString).metadata
    return info.type == .dir
  readFile p := attempt do
    return (← IO.FS.readBinFile p.toString).toList
  writeFile := writeBytes
  makeDir p := attempt (IO.FS.createDir p.toString)
  environment := environmentVariables
  explain p fault := return match fault with
    | .unreadable fault => fault.message p
    | .invalid problems => String.intercalate "\n" (problems.map describe)
  say text := do
    let err ← IO.getStderr
    err.putStr ((Console.Layout.ofWidth (← columns)).text text)
    err.flush
  print text := do
    let out ← IO.getStdout
    out.putStr text
    out.flush
  readLine := do
    let input ← IO.getStdin
    let line ← input.getLine
    if line.isEmpty then return none
    else return some (String.ofList (Text.dropEnd (· = '\n') line.toList))
  lineBound := return Nat.pow 2 64
  copy _ := return .error "no clipboard"

end DdlToJava

open DdlToJava

def main (args : List String) : IO UInt32 := do
  match ← (run args : ExceptT Failure IO Exit).run with
  | .ok exit => return exit.code.toUInt32
  | .error failure =>
    let err ← IO.getStderr
    err.putStrLn failure.message
    return 1
