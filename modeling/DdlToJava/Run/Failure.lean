import DdlToJava.Console.Markup
import DdlToJava.Ddl.Statement
import DdlToJava.Files.Tree
import DdlToJava.Text.Quoted
import DdlToJava.Text.Utf8

/-!
# Failures

What can end a run before its time, and the words for it.
-/

namespace DdlToJava

/-- why a run ends before its time -/
inductive Failure where
  | ddl (error : DdlError)
  | file (cause : Files.Cause) (path : Path)
  /-- a write broke off -/
  | brokenWrite (cause : Files.Cause)
  | nulInPath
  | unreadableInput (path : Path) (reason : String)
  | unknownTarget (name : String)
  | markup (fault : Console.Markup.Fault)
  | undecodable (fault : Text.Utf8.Fault)
  deriving DecidableEq, Repr

/-- what is said of a cause -/
def causeMessage (cause : Files.Cause) : String :=
  "[Errno " ++ toString cause.code ++ "] " ++ cause.text

/-- what is said of a path that an operation failed on -/
def fileMessage (cause : Files.Cause) (path : Path) : String :=
  causeMessage cause ++ ": " ++ Text.quoted path.toString

def Failure.message : Failure → String
  | .ddl e => e.message
  | .file cause path => fileMessage cause path
  | .brokenWrite cause => causeMessage cause
  | .nulInPath => "embedded null byte"
  | .unreadableInput path reason =>
    "Cannot read input file " ++ path.toString ++ ": " ++ reason
  | .unknownTarget name => Text.quoted name ++ " is not a valid OutputTarget"
  | .markup fault => fault.message
  | .undecodable fault => fault.message

end DdlToJava
