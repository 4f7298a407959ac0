import DdlToJava.Console.Colour
import DdlToJava.Text.Case
import DdlToJava.Text.Space

/-!
# Styles

A style is written in words: attributes, each perhaps behind `not`, a colour, a background colour
behind `on` and the target of a link behind `link`.  Of words that exclude each other the last
counts.  `Style.name` writes a style in one order, so that two styles with the same effect have
the same name; `styleName` gives a name to every text, whether it writes a style or not.
-/

namespace DdlToJava.Console

open Text

/-- an attribute of a style, in the order in which names list them -/
inductive Attribute where
  | bold
  | dim
  | italic
  | underline
  | blink
  | blink2
  | reverse
  | conceal
  | strike
  | underline2
  | frame
  | encircle
  | overline
  deriving DecidableEq, Repr

namespace Attribute

/-- all attributes, in order -/
def all : List Attribute :=
  [.bold, .dim, .italic, .underline, .blink, .blink2, .reverse, .conceal, .strike, .underline2,
    .frame, .encircle, .overline]

theorem mem_all (a : Attribute) : a ∈ all := by cases a <;> decide

/-- the word for an attribute -/
def word : Attribute → String
  | bold => "bold"
  | dim => "dim"
  | italic => "italic"
  | underline => "underline"
  | blink => "blink"
  | blink2 => "blink2"
  | reverse => "reverse"
  | conceal => "conceal"
  | strike => "strike"
  | underline2 => "underline2"
  | frame => "frame"
  | encircle => "encircle"
  | overline => "overline"

/-- the short words -/
def shortWords : List (String × Attribute) :=
  [("d", dim), ("b", bold), ("i", italic), ("u", underline), ("r", reverse), ("c", conceal),
    ("s", strike), ("uu", underline2), ("o", overline)]

/-- the attribute that a word stands for -/
def ofWord? (w : String) : Option Attribute :=
  (all.find? fun a => a.word = w).or (shortWords.lookup w)

theorem ofWord?_word (a : Attribute) : ofWord? a.word = some a := by cases a <;> decide

end Attribute

/-- a style: what it says of attributes, the latest word first, its colours and its link -/
structure Style where
  attributes : List (Attribute × Bool) := []
  colour : Option String := none
  background : Option String := none
  link : Option String := none
  deriving DecidableEq, Repr

namespace Style

/-! ## reading -/

/-- why words write no style -/
inductive Fault where
  | noStyle
  | missingPart
  deriving DecidableEq, Repr

/-- a text in small letters -/
def small (w : String) : String := String.ofList (lower w.toList)

/-- the name of the colour that a word writes -/
def colourOf (w : String) : Except Fault String :=
  match Colour.check (lower w.toList) with
  | .ok () => .ok (small w)
  | .error .unknown => .error .noStyle
  | .error .missingPart => .error .missingPart

/-- the style that words write, on top of a style that is given -/
def ofWords (s : Style) : List String → Except Fault Style
  | [] => .ok s
  | w :: ws =>
    if small w = "on" then
      match ws with
      | [] => .error .noStyle
      | c :: ws => do
        let c ← colourOf c
        ofWords { s with background := some c } ws
    else if small w = "not" then
      match ws with
      | [] => .error .noStyle
      | a :: ws =>
        match Attribute.ofWord? a with
        | some a => ofWords { s with attributes := (a, false) :: s.attributes } ws
        | none => .error .noStyle
    else if small w = "link" then
      match ws with
      | [] => .error .noStyle
      | l :: ws => ofWords { s with link := some l } ws
    else
      match Attribute.ofWord? (small w) with
      | some a => ofWords { s with attributes := (a, true) :: s.attributes } ws
      | none => do
        let c ← colourOf w
        ofWords { s with colour := some c } ws

/-- the words of a text -/
def wordsOf (cs : List Char) : List String :=
  ((pieces ' ' (cs.map fun c => if isSpace c then ' ' else c)).filter (· ≠ [])).map String.ofList

/-- the name of the style without anything in it -/
def emptyName : String := "none"

/-- the style that a text writes -/
def ofText (cs : List Char) : Except Fault Style :=
  if trim cs = emptyName.toList then .ok {} else ofWords {} (wordsOf cs)

/-! ## writing -/

/-- the words for what a style says of an attribute -/
def attributeWords (s : Style) (a : Attribute) : List String :=
  match s.attributes.lookup a with
  | some true => [a.word]
  | some false => ["not", a.word]
  | none => []

/-- the words of a style, in order -/
def words (s : Style) : List String :=
  Attribute.all.flatMap s.attributeWords ++ s.colour.toList ++
    (s.background.toList.flatMap fun c => ["on", c]) ++
    s.link.toList.flatMap fun l => ["link", l]

/-- the name of a style -/
def name (s : Style) : String :=
  if s.words = [] then emptyName else String.intercalate " " s.words

theorem name_empty : name {} = "none" := rfl

end Style

/-- the name of the style that a text writes; a text that writes none is its own name, in small
letters -/
def styleName (cs : List Char) : Except Style.Fault String :=
  match Style.ofText cs with
  | .ok s => .ok s.name
  | .error .noStyle => .ok (String.ofList (lower (trim cs)))
  | .error .missingPart => .error .missingPart

end DdlToJava.Console
