import DdlToJava.Run.Arguments
import DdlToJava.Run.Generation
import DdlToJava.Run.Prompt
import DdlToJava.Run.Loading

/-!
# The command

A run of the program: read the settings, the command line, the rules and the input, ask for a
target if none is given, and generate.  The input is read before the question, so that nobody is
asked in vain.
-/

namespace DdlToJava

open Host

/-- how a run ends that no failure cuts short -/
inductive Exit where
  | done
  | failed
  | badUsage
  deriving DecidableEq, Repr

/-- the exit code -/
def Exit.code : Exit → Nat
  | .done => 0
  | .failed => 1
  | .badUsage => 2

/-- what is said of a command line that is not well formed -/
def usage : String :=
  "Usage: entity-agent [INPUT] [--config PATH] [--target file|clipboard|stdout] [--out-dir PATH]\n"

variable {m : Type → Type} [Monad m] [Host m]

/-- the target of a run: the one of the command line, or else the answer to the question -/
def chooseTarget (a : Arguments) : ExceptT Failure m (Option Target) :=
  match a.target with
  | some t => pure (some t)
  | none => ExceptT.lift askTarget

/-- a run whose input has been read -/
def finish (rules : Rules) (settings : Settings) (a : Arguments) (ddl : String) :
    ExceptT Failure m Exit := do
  match ← chooseTarget a with
  | none => do
    ExceptT.lift (say "\nAborted.\n")
    pure .failed
  | some target => do
    let _ ← generate rules settings a.outDir target ddl
    pure .done

/-- a run with arguments that are well formed -/
def runWith (settings : Settings) (a : Arguments) : ExceptT Failure m Exit := do
  let rules ← loadRules (a.config.getD settings.configFile)
  let input := a.input.getD settings.inputFile
  match ← readText input with
  | .error fault => do
    announce (.inputUnreadable (Failure.unreadableInput input (fault.message input)).message)
    pure .failed
  | .ok cs => finish rules settings a (String.ofList cs)

/-- a run of the program -/
def run (args : List String) : ExceptT Failure m Exit := do
  let settings ← loadSettings
  match Arguments.ofList? args with
  | none => do
    ExceptT.lift (say usage)
    pure .badUsage
  | some a => runWith settings a

end DdlToJava
