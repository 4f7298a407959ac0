import DdlToJava.Run.Host
import DdlToJava.Run.Target
import DdlToJava.Text.Space

/-!
# The prompt

Where the command line names no target, the run asks for one.  An empty line takes the target that
is offered; any other line, without the white space around it, has to be the name of a target, or
the run asks again.  At the end of the input there is no target.
-/

namespace DdlToJava

open Host

variable {m : Type → Type} [Monad m] [Host m]

namespace Prompt

/-- the target of an empty answer -/
def offered : Target := .file

/-- the question -/
def question : String :=
  "Output [" ++ String.intercalate "/" (Target.all.map Target.name) ++ "] ("
    ++ offered.name ++ "): "

/-- what is said of an answer that names no target -/
def rejection : String := "Please select one of the available options\n"

/-- the target that a line asks for -/
def answer? (line : String) : Option Target :=
  if line = "" then some offered
  else Target.ofName? (String.ofList (Text.trim line.toList))

theorem answer?_empty : answer? "" = some .file := rfl

theorem answer?_name (t : Target) : answer? t.name = some t := by
  cases t <;> decide

end Prompt

open Prompt

/-- ask for a target, at most `fuel` times -/
def askAtMost (fuel : Nat) : m (Option Target) :=
  match fuel with
  | 0 => pure none
  | fuel + 1 => do
    say question
    match ← readLine with
    | none => pure none
    | some line =>
      match answer? line with
      | some t => pure (some t)
      | none => do
        say rejection
        askAtMost fuel

/-- ask for a target until there is one or the input ends -/
def askTarget : m (Option Target) := do
  askAtMost (← lineBound)

end DdlToJava
