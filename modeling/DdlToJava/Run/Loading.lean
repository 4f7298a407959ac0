import DdlToJava.Rules.Reader
import DdlToJava.Run.Host
import DdlToJava.Run.Settings

/-!
# Loading the rules and the settings

The rules come from a file.  If there is none, or if it cannot be read as rules, the run says so
and goes on with the built-in rules.
-/

namespace DdlToJava

open Files Host

variable {m : Type → Type} [Monad m] [Host m]

/-- is there something at the path?  Only a failure that does not answer the question is one. -/
def pathExists (p : Path) : ExceptT Failure m Bool := do
  if p.hasNul then pure false
  else
    match ← ExceptT.lift (isDirectory p) with
    | .ok _ => pure true
    | .error cause => if cause.isAbsence then pure false else throw (.file cause p)

/-- the rules in the text of a file, or why there are none -/
def rulesOfText : Except TextFault (List Char) → Except RulesFault Rules
  | .error fault => .error (.unreadable fault)
  | .ok cs => (Rules.ofText (String.ofList cs)).mapError .invalid

/-- the rules of a run -/
def loadRules (p : Path) : ExceptT Failure m Rules := do
  if ← pathExists p then
    match rulesOfText (← readText p) with
    | .ok rules => pure rules
    | .error fault => do
      let reason ← ExceptT.lift (explain (m := m) p fault)
      announce (.configInvalid p reason)
      pure {}
  else
    announce (.configMissing p)
    pure {}

/-- the settings of a run -/
def loadSettings : ExceptT Failure m Settings := do
  let environment ← ExceptT.lift (environment (m := m))
  match ← ExceptT.lift (isDirectory Settings.fileName) with
  | .ok false =>
    match ← readText Settings.fileName with
    | .ok cs => pure (Settings.ofSources environment cs)
    | .error (.file cause) => throw (.file cause Settings.fileName)
    | .error (.bytes fault) => throw (.undecodable fault)
  | .ok true => pure (Settings.ofSources environment [])
  | .error cause =>
    if cause.isAbsence then pure (Settings.ofSources environment [])
    else throw (.file cause Settings.fileName)

end DdlToJava
