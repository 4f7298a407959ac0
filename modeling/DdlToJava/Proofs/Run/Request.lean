import DdlToJava.Proofs.Run.Keeps
import DdlToJava.Proofs.Run.Loading

/-!
# Requests

The part of a run in front of a generation ends with a `Request`, or it ends the run.  It touches no
file, and the request comes from where `Request.IsAskedBy` says.

* `run_eq`, `generateFile_eq`     a run is a request and the generation that it asks for;
* `keeps_requestOfCommand`        up to the generation, nothing is touched;
* `beside_run`                    and up to its end, a run takes nothing away;
* `isAskedBy_of_requestOfCommand`, `requestOfCommand_eq_ok`
                                  what a command line asks for.
-/

namespace DdlToJava

open Files Host Machine

/-- what a run asks a generation for -/
structure Request where
  rules : Rules
  settings : Settings
  outDir : Option Path
  target : Target
  ddl : String
  deriving DecidableEq, Repr

namespace Request

/-- the directory of the files -/
def base (r : Request) : Path := baseDirectory r.rules r.settings r.outDir

/-- the request with other directories in the settings and in the rules -/
def redirect (r : Request) (outputDir : Option Path) (directory : Path) : Request :=
  { r with
    settings := { r.settings with outputDir := outputDir }
    rules := { r.rules with output := { r.rules.output with directory := directory } } }

end Request

section
variable {m : Type → Type} [Monad m] [Host m]

def Request.generate (r : Request) : ExceptT Failure m (List Artifact) :=
  DdlToJava.generate r.rules r.settings r.outDir r.target r.ddl

/-- a run whose input has been read, up to the generation; the exit code stands for a run that ends
without one -/
def requestOfInput (rules : Rules) (settings : Settings) (a : Arguments) (ddl : String) :
    ExceptT Failure m (Except Exit Request) := do
  match ← chooseTarget a with
  | none => do
    ExceptT.lift (say "\nAborted.\n")
    pure (.error .failed)
  | some target => pure (.ok ⟨rules, settings, a.outDir, target, ddl⟩)

/-- a run with arguments that are well formed, up to the generation -/
def requestOfArguments (settings : Settings) (a : Arguments) :
    ExceptT Failure m (Except Exit Request) := do
  let rules ← loadRules (a.config.getD settings.configFile)
  let input := a.input.getD settings.inputFile
  match ← readText input with
  | .error fault => do
    announce (.inputUnreadable (Failure.unreadableInput input (fault.message input)).message)
    pure (.error .failed)
  | .ok cs => requestOfInput rules settings a (String.ofList cs)

/-- a run of the program, up to the generation -/
def requestOfCommand (args : List String) : ExceptT Failure m (Except Exit Request) := do
  let settings ← loadSettings
  match Arguments.ofList? args with
  | none => do
    ExceptT.lift (say usage)
    pure (.error .badUsage)
  | some a => requestOfArguments settings a

/-- a generation from a file, up to the generation itself -/
def requestOfFile (rules : Rules) (settings : Settings) (outDir : Option Path) (target : String)
    (input : Path) : ExceptT Failure m Request :=
  match Target.ofName? target with
  | none => throw (.unknownTarget target)
  | some target => do
    let ddl ← readInput input
    pure ⟨rules, settings, outDir, target, ddl⟩

/-- end a run with the generation that it asks for, if it does -/
def serve : Except Exit Request → ExceptT Failure m Exit
  | .error exit => pure exit
  | .ok r => do
    let _ ← r.generate
    pure .done

section
variable [LawfulMonad m]

theorem finish_eq (rules : Rules) (settings : Settings) (a : Arguments) (ddl : String) :
    finish (m := m) rules settings a ddl = requestOfInput rules settings a ddl >>= serve := by
  unfold finish requestOfInput
  rw [bind_assoc]
  refine bind_congr fun target => ?_
  cases target with
  | none =>
    dsimp only
    rw [then_pure_bind]
    rfl
  | some target =>
    dsimp only
    rw [pure_bind]
    rfl

theorem runWith_eq (settings : Settings) (a : Arguments) :
    runWith (m := m) settings a = requestOfArguments settings a >>= serve := by
  unfold runWith requestOfArguments
  rw [bind_assoc]
  refine bind_congr fun rules => ?_
  dsimp only
  rw [bind_assoc]
  refine bind_congr fun text => ?_
  cases text with
  | error fault =>
    dsimp only
    rw [then_pure_bind]
    rfl
  | ok cs => exact finish_eq rules settings a _

/-- a run is a request and the generation that it asks for -/
theorem run_eq (args : List String) :
    run (m := m) args = requestOfCommand args >>= serve := by
  unfold run requestOfCommand
  rw [bind_assoc]
  refine bind_congr fun settings => ?_
  cases Arguments.ofList? args with
  | none =>
    dsimp only
    rw [then_pure_bind]
    rfl
  | some a => exact runWith_eq settings a

theorem generateFile_eq (rules : Rules) (settings : Settings) (outDir : Option Path)
    (target : String) (input : Path) :
    generateFile (m := m) rules settings outDir target input =
      requestOfFile rules settings outDir target input >>= Request.generate := by
  unfold generateFile requestOfFile
  cases Target.ofName? target with
  | none => exact (throw_bind _ _).symm
  | some target =>
    dsimp only
    rw [bind_assoc]
    refine bind_congr fun ddl => ?_
    rw [pure_bind]
    rfl

end

end

/-! ## before the generation -/

theorem keeps_requestOfInput (rules : Rules) (settings : Settings) (a : Arguments) (ddl : String) :
    Keeps Untouched (requestOfInput rules settings a ddl) := by
  unfold requestOfInput
  refine (keeps_chooseTarget a).bind fun target => ?_
  cases target with
  | none => exact (keeps_say _).bind fun _ => Keeps.pure _
  | some target => exact Keeps.pure _

theorem keeps_requestOfArguments (settings : Settings) (a : Arguments) :
    Keeps Untouched (requestOfArguments settings a) := by
  unfold requestOfArguments
  refine (keeps_loadRules _).bind fun rules => (keeps_readText _).of_eq.bind fun text => ?_
  cases text with
  | error fault => exact (keeps_announce _).bind fun _ => Keeps.pure _
  | ok cs => exact keeps_requestOfInput rules settings a _

/-- up to the generation, a run touches no file -/
theorem keeps_requestOfCommand (args : List String) :
    Keeps Untouched (requestOfCommand args) := by
  unfold requestOfCommand
  refine keeps_loadSettings.of_eq.bind fun settings => ?_
  cases Arguments.ofList? args with
  | none => exact (keeps_say _).bind fun _ => Keeps.pure _
  | some a => exact keeps_requestOfArguments settings a

theorem keeps_requestOfFile (rules : Rules) (settings : Settings) (outDir : Option Path)
    (target : String) (input : Path) :
    Keeps Eq (requestOfFile rules settings outDir target input) := by
  unfold requestOfFile
  split
  · exact Keeps.throw _
  · exact (keeps_readInput input).bind fun _ => Keeps.pure _

/-- a run takes nothing away -/
theorem beside_run (args : List String) : Keeps (Beside Tree.AnyFile) (run args) := by
  rw [run_eq]
  refine ((keeps_requestOfCommand args).mono fun _ _ => Untouched.beside).bind fun asked => ?_
  cases asked with
  | error exit => exact Keeps.pure exit
  | ok r => exact (beside_generate _ _ _ _ _).bind fun _ => Keeps.pure _

/-- Where a request comes from: the directory and the target of the command line, the settings of
the environment and the rules of the file that they name. -/
structure Request.IsAskedBy (r : Request) (args : List String) (w : Machine) : Prop where
  settings : (execute loadSettings w).1 = .ok r.settings
  arguments : ∃ a, Arguments.ofList? args = some a ∧ r.outDir = a.outDir ∧
    (∀ target, a.target = some target → r.target = target) ∧
    (execute (loadRules (a.config.getD r.settings.configFile)) w).1 = .ok r.rules

theorem isAskedBy_of_requestOfCommand {args : List String} {w w' : Machine} {r : Request}
    (h : execute (requestOfCommand args) w = (.ok (.ok r), w')) : r.IsAskedBy args w := by
  unfold requestOfCommand at h
  obtain ⟨settings, w₁, hsettings, h⟩ := execute_bind_eq_ok.mp h
  have hsame : w = (execute loadSettings w).2 := keeps_loadSettings w
  rw [hsettings] at hsame
  obtain rfl : w = w₁ := hsame
  cases ha : Arguments.ofList? args with
  | none =>
    rw [ha] at h
    obtain ⟨u, w₂, -, h⟩ := execute_bind_eq_ok.mp h
    cases h
  | some a =>
    rw [ha] at h
    change execute (requestOfArguments settings a) w = _ at h
    unfold requestOfArguments at h
    obtain ⟨rules, w₂, hrules, h⟩ := execute_bind_eq_ok.mp h
    obtain ⟨text, w₃, -, h⟩ := execute_bind_eq_ok.mp h
    cases text with
    | error fault =>
      obtain ⟨u, w₄, -, h⟩ := execute_bind_eq_ok.mp h
      cases h
    | ok cs =>
      change execute (requestOfInput rules settings a _) w₃ = _ at h
      unfold requestOfInput at h
      obtain ⟨target, w₄, htarget, h⟩ := execute_bind_eq_ok.mp h
      cases target with
      | none =>
        obtain ⟨u, w₅, -, h⟩ := execute_bind_eq_ok.mp h
        cases h
      | some target =>
        cases h
        refine ⟨by rw [hsettings], a, ha, rfl, fun target' hgiven => ?_, by rw [hrules]⟩
        unfold chooseTarget at htarget
        rw [hgiven] at htarget
        cases htarget
        rfl

/-- a command line with a target asks for a generation once its rules and its input are read -/
theorem requestOfCommand_eq_ok {args : List String} {a : Arguments} {settings : Settings}
    {rules : Rules} {cs : List Char} {target : Target} {w : Machine}
    (hargs : Arguments.ofList? args = some a) (htarget : a.target = some target)
    (hsettings : (execute loadSettings w).1 = .ok settings)
    (hrules : (execute (loadRules (a.config.getD settings.configFile)) w).1 = .ok rules)
    (hinput : (execute (readText (a.input.getD settings.inputFile)) w).1 = .ok (.ok cs)) :
    (execute (requestOfCommand args) w).1 =
      .ok (.ok ⟨rules, settings, a.outDir, target, String.ofList cs⟩) := by
  have hload : execute loadSettings w = (.ok settings, w) :=
    Prod.ext hsettings (keeps_loadSettings w).symm
  have huntouched := keeps_loadRules (a.config.getD settings.configFile) w
  have hread := (onFiles_readText (a.input.getD settings.inputFile)).congr huntouched.tree
    huntouched.here
  unfold requestOfCommand
  rw [execute_bind_ok hload, hargs]
  show (execute (requestOfArguments settings a) w).1 = _
  unfold requestOfArguments
  rw [execute_bind_ok (execute_of_result hrules),
    execute_bind_ok (execute_of_result (hread.1.trans hinput))]
  show (execute (requestOfInput rules settings a (String.ofList cs)) _).1 = _
  unfold requestOfInput chooseTarget
  rw [htarget, pure_bind]
  rfl

end DdlToJava
