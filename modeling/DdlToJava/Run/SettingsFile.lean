import DdlToJava.Text.Keyword
import DdlToJava.Text.Word

/-!
# Settings files

A settings file has a binding per line: perhaps `export`, a name, `=` and a value.  A value in
quotes may run over several lines and hold escapes; a bare value ends before a comment that white
space sets off, or at the end of the line.  A line that does not fit is passed over, and so is a
byte order mark in front of the text.  Values may refer to variables:
`${NAME}` or `${NAME:-default}`, which see the bindings before them and the environment.
-/

namespace DdlToJava.SettingsFile

open Text

/-! ## the parts of a line -/

/-- white space within a line -/
def isInline (c : Char) : Bool := isSpace c && c != '\r' && c != '\n'

/-- the end of a line -/
def isLineEnd (c : Char) : Bool := c = '\r' || c = '\n'

/-- what follows the rest of the line and its end -/
def skipLine (cs : List Char) : List Char :=
  match cs.dropWhile fun c => !isLineEnd c with
  | [] => []
  | _ :: rest => rest

/-- what follows `export` and its white space, if the line has it -/
def skipExport (cs : List Char) : List Char :=
  if "export".toList.isPrefixOf cs then
    match run? isInline (cs.drop "export".length) with
    | some (_, rest) => rest
    | none => cs
  else cs

/-- what follows a comment, if the line has one -/
def skipComment (cs : List Char) : List Char :=
  match cs.dropWhile isInline with
  | '#' :: rest => rest.dropWhile fun c => !isLineEnd c
  | _ => cs

/-- what follows the end of the line, which must come after white space -/
def lineEnd? (cs : List Char) : Option (List Char) :=
  match cs.dropWhile isInline with
  | [] => some []
  | '\r' :: '\n' :: rest => some rest
  | c :: rest => if isLineEnd c then some rest else none

/-- a name: bare or in single quotes; nothing in front of a comment -/
def name? (cs : List Char) : Option (Option (List Char) × List Char) :=
  match cs with
  | '#' :: _ => some (none, cs)
  | '\x27' :: rest => do
    let (name, rest) ← run? (· ≠ '\x27') rest
    let rest ← symbol? '\x27' rest
    some (some name, rest)
  | _ => do
    let (name, rest) ← run? (fun c => c ≠ '=' && c ≠ '#' && !isSpace c) cs
    some (some name, rest)

/-- a value up to its closing quote `q`; what stands behind a backslash belongs to the value -/
def quotedValue? (q : Char) : List Char → Option (List Char × List Char)
  | [] => none
  | '\\' :: c :: cs => (quotedValue? q cs).map fun (v, rest) => ('\\' :: c :: v, rest)
  | c :: cs =>
    if c = q then some ([], cs) else (quotedValue? q cs).map fun (v, rest) => (c :: v, rest)

/-- the escapes of a value, each replaced by what it stands for -/
def unescape (escapes : List (Char × Char)) : List Char → List Char
  | [] => []
  | '\\' :: c :: cs =>
    match escapes.lookup c with
    | some d => d :: unescape escapes cs
    | none => '\\' :: unescape escapes (c :: cs)
  | c :: cs => c :: unescape escapes cs

/-- the escapes between single quotes -/
def singleEscapes : List (Char × Char) := [('\\', '\\'), ('\x27', '\x27')]

/-- the escapes between double quotes -/
def doubleEscapes : List (Char × Char) :=
  [('\\', '\\'), ('\x27', '\x27'), ('"', '"'), ('a', '\x07'), ('b', '\x08'), ('f', '\x0c'),
    ('n', '\n'), ('r', '\r'), ('t', '\t'), ('v', '\x0b')]

/-- the text before a comment that white space sets off -/
def beforeComment (cs : List Char) : List Char :=
  match cs with
  | [] => []
  | c :: rest =>
    if isSpace c && (trimStart rest).head? = some '#' then [] else c :: beforeComment rest

/-- a value, from behind the `=` -/
def value? (cs : List Char) : Option (List Char × List Char) :=
  match cs.dropWhile isInline with
  | '\x27' :: rest =>
    (quotedValue? '\x27' rest).map fun (v, rest) => (unescape singleEscapes v, rest)
  | '"' :: rest => (quotedValue? '"' rest).map fun (v, rest) => (unescape doubleEscapes v, rest)
  | _ =>
    some (trim (beforeComment (cs.takeWhile fun c => !isLineEnd c)),
      cs.dropWhile fun c => !isLineEnd c)

/-! ## bindings -/

/-- a name and its value; there is no value where the `=` is missing -/
abbrev Binding := String × Option (List Char)

/-- where the reader stands after a line, and the binding on it -/
structure LineRead where
  binding : Option Binding
  rest : List Char

/-- the value behind `=`, if there is one -/
def assigned? (cs : List Char) : Except (List Char) (Option (List Char) × List Char) :=
  match cs with
  | '=' :: rest =>
    match value? rest with
    | some (v, rest) => .ok (some v, rest)
    | none => .error rest
  | _ => .ok (none, cs)

/-- one line; its front is no white space -/
def readLine (cs : List Char) : LineRead :=
  let cs := skipExport cs
  match name? cs with
  | none => ⟨none, skipLine cs⟩
  | some (name, rest) =>
    match assigned? (rest.dropWhile isInline) with
    | .error rest => ⟨none, skipLine rest⟩
    | .ok (value, rest) =>
      let rest := skipComment rest
      match lineEnd? rest with
      | some after => ⟨name.map fun n => (String.ofList n, value), after⟩
      | none => ⟨none, skipLine rest⟩

/-- the bindings of a text -/
def bindings (cs : List Char) : List Binding :=
  match trimStart cs with
  | [] => []
  | c :: rest =>
    let line := readLine (c :: rest)
    line.binding.toList ++ (if _h : line.rest.length < cs.length then bindings line.rest else [])
termination_by cs.length

/-! ## references -/

/-- the reference behind `$` and a brace: a name, perhaps a default, and what follows the brace -/
def reference? (cs : List Char) : Option (List Char × List Char × List Char) :=
  let name := cs.takeWhile fun c => c ≠ '\x7d' && c ≠ ':'
  match cs.dropWhile fun c => c ≠ '\x7d' && c ≠ ':' with
  | ':' :: '-' :: rest =>
    match rest.dropWhile (· ≠ '\x7d') with
    | '\x7d' :: after => some (name, rest.takeWhile (· ≠ '\x7d'), after)
    | _ => none
  | '\x7d' :: after => some (name, [], after)
  | _ => none

/-- a value with its references replaced; a name without a value gives its default -/
def expand (look : String → Option String) (cs : List Char) : List Char :=
  match cs with
  | '$' :: '\x7b' :: rest =>
    match reference? rest with
    | some (name, default, after) =>
      let text := match look (String.ofList name) with
        | some v => v.toList
        | none => default
      text ++ (if _h : after.length < rest.length then expand look after else [])
    | none => '$' :: '\x7b' :: expand look rest
  | c :: rest => c :: expand look rest
  | [] => []
termination_by cs.length
decreasing_by all_goals simp only [List.length_cons]; omega

/-- the values so far, with a new one in the place of an old one of the same name -/
def assign (values : List (String × Option String)) (name : String) (v : Option String) :
    List (String × Option String) :=
  match values with
  | [] => [(name, v)]
  | (n, w) :: rest => if n = name then (n, v) :: rest else (n, w) :: assign rest name v

/-- the values of bindings, in the order in which their names first appear -/
def resolve (environment : List (String × String)) (bs : List Binding) :
    List (String × Option String) :=
  bs.foldl (fun values (name, value) =>
    let look := fun n => match values.lookup n with
      | some v => some (v.getD "")
      | none => environment.reverse.lookup n
    assign values name (value.map fun v => String.ofList (expand look v))) []

/-- the text without a byte order mark in front of it -/
def dropMark : List Char → List Char
  | '\ufeff' :: cs => cs
  | cs => cs

/-- the names and values of a settings file -/
def read (environment : List (String × String)) (text : List Char) :
    List (String × Option String) :=
  resolve environment (bindings (dropMark text))

end DdlToJava.SettingsFile
