import DdlToJava.Text.Case

/-!
# Targets

A run delivers what it generates to files, to the clipboard or to the standard output.  An answer
to the prompt names a target exactly; an argument may use any case, where a ligature or a sharp s
counts as the letters that it stands for.
-/

namespace DdlToJava

/-- where a run delivers to -/
inductive Target where
  | file
  | clipboard
  | stdout
  deriving DecidableEq, Repr

namespace Target

/-- all targets, in the order in which they are offered -/
def all : List Target := [.file, .clipboard, .stdout]

/-- the name of a target -/
def name : Target → String
  | .file => "file"
  | .clipboard => "clipboard"
  | .stdout => "stdout"

/-- the target with a name -/
def ofName? (s : String) : Option Target := all.find? fun t => t.name = s

theorem ofName?_name (t : Target) : ofName? t.name = some t := by
  cases t <;> decide

/-- the small ASCII letters that a character beyond ASCII counts as -/
def foldings : List (Char × List Char) :=
  [('ß', ['s', 's']), ('ſ', ['s']), ('ẞ', ['s', 's']), ('\u212A', ['k']), ('ﬀ', ['f', 'f']),
    ('ﬁ', ['f', 'i']), ('ﬂ', ['f', 'l']), ('ﬃ', ['f', 'f', 'i']), ('ﬄ', ['f', 'f', 'l']),
    ('ﬅ', ['s', 't']), ('ﬆ', ['s', 't'])]

/-- a character without its case -/
def foldChar (c : Char) : List Char := (foldings.lookup c).getD [c.toLower]

/-- the target with a name, in any case -/
def ofWord? (s : String) : Option Target :=
  ofName? (String.ofList (s.toList.flatMap foldChar))

end Target

end DdlToJava
