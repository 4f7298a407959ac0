import DdlToJava.Console.Layout
import DdlToJava.Run.Command

/-!
# A machine

A `Machine` is a host that is a value: a file tree with a working directory, the environment, the
lines of the standard input, a clipboard that may fail, a status console, and what has been put out
so far.  A run on it is a function from machines to machines.
-/

namespace DdlToJava

open Files

/-- a host as a value -/
structure Machine where
  tree : Tree := {}
  here : Place := []
  environment : List (String × String) := []
  input : List String := []
  /-- why the clipboard fails, if it does -/
  clipboardFault : Option String := none
  /-- the words for a file that holds no rules -/
  explanation : Path → Host.RulesFault → String := fun _ _ => "..."
  /-- how the status console puts its lines on rows -/
  layout : Console.Layout := .unbroken
  copied : List String := []
  printed : String := ""
  said : String := ""

namespace Machine

/-- change the tree -/
def change {ε : Type} (f : Tree → Place → Except ε Unit × Tree) :
    StateM Machine (Except ε Unit) := do
  let w ← get
  set { w with tree := (f w.tree w.here).2 }
  pure (f w.tree w.here).1

instance : Host (StateM Machine) where
  isDirectory p := do
    let w ← get
    pure ((w.tree.stat w.here p).map fun e => e = .directory)
  readFile p := do
    let w ← get
    pure (w.tree.read w.here p)
  writeFile p bytes := change fun tree here => tree.write here p bytes
  makeDir p := change fun tree here => tree.makeDir here p
  environment := do
    let w ← get
    pure w.environment
  explain p fault := do
    let w ← get
    pure (w.explanation p fault)
  say text := modify fun w => { w with said := w.said ++ w.layout.text text }
  print text := modify fun w => { w with printed := w.printed ++ text }
  readLine := do
    let w ← get
    match w.input with
    | [] => pure none
    | l :: ls => do
      set { w with input := ls }
      pure (some l)
  lineBound := do
    let w ← get
    pure (w.input.length + 1)
  copy text := do
    let w ← get
    match w.clipboardFault with
    | some reason => pure (.error reason)
    | none => do
      set { w with copied := w.copied ++ [text] }
      pure (.ok ())

/-- carry out a run on a machine -/
def execute {α : Type} (run : ExceptT Failure (StateM Machine) α) (w : Machine) :
    Except Failure α × Machine :=
  run.run.run w

end Machine

end DdlToJava
