import DdlToJava.Artifact.Basic
import DdlToJava.Console.Sequence
import DdlToJava.Run.Host
import DdlToJava.Run.Settings
import DdlToJava.Run.Target

/-!
# Generating

A generation reads a statement, says what it found and delivers the artifacts of the table: to two
files, to the clipboard, or to the standard output, which also serves when the clipboard fails.
-/

namespace DdlToJava

open Files Host

variable {m : Type → Type} [Monad m] [Host m]

/-- the text of the input file -/
def readInput (p : Path) : ExceptT Failure m String := do
  match ← readText p with
  | .ok cs => pure (String.ofList cs)
  | .error fault => throw (.unreadableInput p (fault.message p))

/-- what is said of a table -/
def tableNotices (t : Table) : List Notice :=
  [.tableFound t, .columnsFound t] ++
    (if t.columns = [] then [.noColumns] else []) ++
    (if t.duplicates = [] then [] else [.duplicatesIgnored t.duplicates])

/-- print notices one after the other -/
def announceAll : List Notice → ExceptT Failure m Unit
  | [] => pure ()
  | n :: ns => do
    announce n
    announceAll ns

/-- the path of an artifact -/
def Artifact.path (base : Path) (a : Artifact) : Path := base ++ Path.ofString a.fileName

/-- write the artifacts one after the other -/
def writeAll (base : Path) : List Artifact → ExceptT Failure m Unit
  | [] => pure ()
  | a :: as => do
    writeText (a.path base) a.body
    writeAll base as

/-- write the artifacts to a directory, which is made if need be, and give their paths -/
def store (base : Path) (as : List Artifact) : ExceptT Failure m (List Path) := do
  ensureDirectory base.names.length base
  writeAll base as
  pure (as.map (·.path base))

/-- the directory of the files: the one asked for, or that of the settings, or that of the rules -/
def baseDirectory (rules : Rules) (settings : Settings) (outDir : Option Path) : Path :=
  (outDir.or settings.outputDir).getD rules.output.directory

/-- print a text with a line end; control sequences for a terminal are left out -/
def printLine (text : String) : ExceptT Failure m Unit :=
  ExceptT.lift (print (String.ofList (Console.withoutSequences (text.toList ++ ['\n']))))

/-- deliver artifacts -/
def deliver (base : Path) (target : Target) (as : List Artifact) : ExceptT Failure m Unit :=
  match target with
  | .file => do
    let paths ← store base as
    announceAll (paths.map .wrote)
  | .clipboard => do
    match ← ExceptT.lift (copy (Artifact.combined as)) with
    | .ok () => announce .copied
    | .error reason => do
      announce (.clipboardUnavailable reason)
      printLine (Artifact.combined as)
  | .stdout => printLine (Artifact.combined as)

/-- generate from a statement -/
def generate (rules : Rules) (settings : Settings) (outDir : Option Path) (target : Target)
    (ddl : String) : ExceptT Failure m (List Artifact) :=
  match Table.ofDdl rules ddl with
  | .error e => throw (.ddl e)
  | .ok table => do
    announceAll (tableNotices table)
    let as := Artifact.ofTable rules table
    deliver (baseDirectory rules settings outDir) target as
    pure as

/-- generate from a file, for a target that is given by its name -/
def generateFile (rules : Rules) (settings : Settings) (outDir : Option Path)
    (target : String) (input : Path) : ExceptT Failure m (List Artifact) :=
  match Target.ofName? target with
  | none => throw (.unknownTarget target)
  | some target => do
    let ddl ← readInput input
    generate rules settings outDir target ddl

end DdlToJava
