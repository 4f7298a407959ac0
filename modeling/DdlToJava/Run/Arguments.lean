import DdlToJava.Path
import DdlToJava.Run.Target

/-!
# Arguments

A command line has at most one free argument, the input file, and options with a value each.  A
long option takes its value behind `=` or from the next argument, a short one from the rest of its
argument or from the next.  Of a repeated option the last value counts, and `--` ends the options.
-/

namespace DdlToJava

/-- what a command line asks for -/
structure Arguments where
  input : Option Path := none
  config : Option Path := none
  target : Option Target := none
  outDir : Option Path := none
  deriving DecidableEq, Repr

namespace Arguments

/-- an option of the command line -/
inductive Key where
  | config
  | target
  | outDir
  deriving DecidableEq, Repr

/-- the long names of the options -/
def longNames : List (String × Key) :=
  [("--config", .config), ("--target", .target), ("--out-dir", .outDir)]

/-- the short names of the options -/
def shortNames : List (Char × Key) := [('c', .config), ('t', .target), ('o', .outDir)]

/-- a command line taken apart: the values of the options and the free arguments, last first -/
structure Parts where
  values : List (Key × String) := []
  free : List String := []
  deriving DecidableEq, Repr

/-- an option as it is written: its key, and its value if it is attached -/
def option? (arg : String) : Option (Key × Option String) :=
  match arg.toList with
  | '-' :: '-' :: _ =>
    let name := arg.toList.takeWhile (· ≠ '=')
    (longNames.lookup (String.ofList name)).map fun key =>
      (key, (arg.toList.dropWhile (· ≠ '=')).tail? |>.map String.ofList)
  | '-' :: c :: rest =>
    (shortNames.lookup c).map fun key =>
      (key, if rest = [] then none else some (String.ofList rest))
  | _ => none

/-- is this argument an option, to judge by its front? -/
def isOption (arg : String) : Bool :=
  match arg.toList with
  | '-' :: _ :: _ => true
  | _ => false

/-- take a command line apart; nothing if an option is unknown or lacks its value -/
def split? (parts : Parts) : List String → Option Parts
  | [] => some parts
  | arg :: rest =>
    if arg = "--" then some { parts with free := rest.reverse ++ parts.free }
    else if isOption arg then
      match option? arg with
      | none => none
      | some (key, some v) => split? { parts with values := (key, v) :: parts.values } rest
      | some (key, none) =>
        match rest with
        | [] => none
        | v :: rest => split? { parts with values := (key, v) :: parts.values } rest
    else split? { parts with free := arg :: parts.free } rest

/-- the path that an argument writes, if it can be one -/
def path? (arg : String) : Option Path :=
  let p := Path.ofString arg
  if p.hasNul then none else some p

/-- what `read` makes of an argument that may be missing; nothing if it makes nothing of it -/
def optional? {α : Type} (read : String → Option α) : Option String → Option (Option α)
  | none => some none
  | some arg => (read arg).map some

/-- the one free argument, if there is any; nothing if there are two -/
def input? : List String → Option (Option String)
  | [] => some none
  | [arg] => some (some arg)
  | _ => none

/-- what the parts ask for; nothing if there are two free arguments, an unknown target or a text
that is no path -/
def ofParts? (parts : Parts) : Option Arguments := do
  let input ← (input? parts.free).bind (optional? path?)
  let config ← optional? path? (parts.values.lookup .config)
  let target ← optional? Target.ofWord? (parts.values.lookup .target)
  let outDir ← optional? path? (parts.values.lookup .outDir)
  some { input := input, config := config, target := target, outDir := outDir }

/-- what a command line asks for; nothing if it is not well formed -/
def ofList? (args : List String) : Option Arguments := (split? {} args).bind ofParts?

end Arguments

end DdlToJava
