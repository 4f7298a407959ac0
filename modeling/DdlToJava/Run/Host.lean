import DdlToJava.Rules.Reader
import DdlToJava.Run.Failure
import DdlToJava.Run.Notice

/-!
# The host of a run

A run reaches the world through a `Host`: files, the environment, the two outputs, the input and
the clipboard.  The words for a file that holds no rules come from the host, too.  What follows the
class is said for any host.
-/

namespace DdlToJava

open Files

/-- why a file has no text -/
inductive Host.TextFault where
  | file (cause : Cause)
  | bytes (fault : Text.Utf8.Fault)
  deriving DecidableEq, Repr

/-- why a file holds no rules -/
inductive Host.RulesFault where
  | unreadable (fault : Host.TextFault)
  | invalid (problems : List Rules.Problem)
  deriving DecidableEq, Repr

/-- what a run needs of the world -/
class Host (m : Type → Type) where
  /-- is what stands at a path a directory?  Fails if nothing stands there. -/
  isDirectory : Path → m (Except Cause Bool)
  /-- the bytes of a file -/
  readFile : Path → m (Except Cause (List UInt8))
  /-- put bytes into a file -/
  writeFile : Path → List UInt8 → m (Except WriteFault Unit)
  /-- make one directory -/
  makeDir : Path → m (Except Cause Unit)
  /-- the variables of the environment -/
  environment : m (List (String × String))
  /-- what is said of a file that holds no rules -/
  explain : Path → Host.RulesFault → m String
  /-- show a text on the status console -/
  say : String → m Unit
  /-- write to the standard output -/
  print : String → m Unit
  /-- the next line of the standard input, without its end -/
  readLine : m (Option String)
  /-- more than the number of lines that can still be read -/
  lineBound : m Nat
  /-- put a text on the clipboard, or say why not -/
  copy : String → m (Except String Unit)

namespace Host

variable {m : Type → Type} [Monad m] [Host m]

/-- print a notice -/
def announce (n : Notice) : ExceptT Failure m Unit :=
  match n.line with
  | .ok text => ExceptT.lift (say text)
  | .error fault => throw (.markup fault)

/-- refuse a path with a NUL character -/
def checkPath (p : Path) : ExceptT Failure m Unit :=
  if p.hasNul then throw .nulInPath else pure ()

/-- the text of a file, with its line ends unified -/
def readText (p : Path) : ExceptT Failure m (Except TextFault (List Char)) := do
  checkPath p
  match ← ExceptT.lift (readFile p) with
  | .error cause => pure (.error (.file cause))
  | .ok bytes =>
    match Text.Utf8.decode bytes with
    | .error fault => pure (.error (.bytes fault))
    | .ok cs => pure (.ok (Text.unifyLineEnds cs))

/-- what is said of a file without a text -/
def TextFault.message (p : Path) : TextFault → String
  | .file cause => fileMessage cause p
  | .bytes fault => fault.message

/-- put a text into a file -/
def writeText (p : Path) (text : String) : ExceptT Failure m Unit := do
  checkPath p
  match ← ExceptT.lift (writeFile p (Text.Utf8.encode text.toList)) with
  | .error (.refused cause) => throw (.file cause p)
  | .error (.broken cause) => throw (.brokenWrite cause)
  | .ok () => pure ()

/-- accept a directory that could not be made if there is one; a failure that leaves that open takes
the place of the first -/
def acceptDirectory (cause : Cause) (p : Path) : ExceptT Failure m Unit := do
  match ← ExceptT.lift (isDirectory p) with
  | .ok true => pure ()
  | .ok false => throw (.file cause p)
  | .error other => throw (.file (if other.isAbsence then cause else other) p)

/-- see to it that there is a directory at a path; `fuel` bounds how many directories above it are
made -/
def ensureDirectory (fuel : Nat) (p : Path) : ExceptT Failure m Unit := do
  checkPath p
  match ← ExceptT.lift (makeDir p) with
  | .ok () => pure ()
  | .error .missing =>
    match fuel with
    | 0 => throw (.file .missing p)
    | fuel + 1 =>
      if p.parent = p then throw (.file .missing p)
      else do
        ensureDirectory fuel p.parent
        match ← ExceptT.lift (makeDir p) with
        | .ok () => pure ()
        | .error .missing => throw (.file .missing p)
        | .error cause => acceptDirectory cause p
  | .error cause => acceptDirectory cause p

end Host

end DdlToJava
