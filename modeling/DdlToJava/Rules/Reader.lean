import DdlToJava.Rules.Basic
import DdlToJava.Rules.Numeral
import DdlToJava.Json.Parser

/-!
# Reading the rules

The rules are read from a JSON object with a section for each part.  Every key has two spellings,
and the first one wins where both stand; a missing key keeps its default and an unknown key is
passed over.  Every leaf is read on its own, so that all problems of a text are found, in the
order in which the rules are declared.  Switches and numbers may be written in several ways:
`leafBool` and `leafInt` say which.
-/

namespace DdlToJava

namespace Rules

/-- a step from a value to a part of it -/
inductive Step where
  | key (name : String)
  | index (n : Nat)
  deriving DecidableEq, Repr

/-- what is wrong with a part of the rules -/
inductive Fault where
  | notJson
  | notObject
  | notString
  | notList
  | notPath
  | notSwitch
  | unknownSwitch
  | notInteger
  | unreadableInteger
  | fractionalInteger
  | infiniteInteger
  | oversizedInteger
  deriving DecidableEq, Repr

/-- a fault and where it is -/
structure Problem where
  place : List Step := []
  fault : Fault
  deriving DecidableEq, Repr

/-- the outcome of reading a part: what is read, which counts only if there is no problem -/
structure Reading (α : Type) where
  value : α
  problems : List Problem := []

namespace Reading

variable {α β : Type}

/-- a part without a problem -/
def ok (a : α) : Reading α := ⟨a, []⟩

/-- a part with one fault, and what stands in for it -/
def fail (a : α) (f : Fault) : Reading α := ⟨a, [⟨[], f⟩]⟩

/-- the problems moved below a step -/
def under (s : Step) (r : Reading α) : Reading α :=
  { r with problems := r.problems.map fun p => { p with place := s :: p.place } }

/-- a function on the value -/
def map (f : α → β) (r : Reading α) : Reading β := ⟨f r.value, r.problems⟩

/-- apply what one reading gives to what the next one gives; the problems add up -/
def ap (f : Reading (α → β)) (r : Reading α) : Reading β :=
  ⟨f.value r.value, f.problems ++ r.problems⟩

/-- the value, or all the problems -/
def toExcept (r : Reading α) : Except (List Problem) α :=
  if r.problems = [] then .ok r.value else .error r.problems

theorem ap_problems (f : Reading (α → β)) (r : Reading α) :
    (f.ap r).problems = f.problems ++ r.problems := rfl

theorem under_problems_nil (s : Step) (r : Reading α) :
    (r.under s).problems = [] ↔ r.problems = [] := by
  simp [under]

theorem toExcept_ok (a : α) : (ok a).toExcept = .ok a := rfl

end Reading

open Reading

/-! ## leaves -/

/-- a text -/
def leafString : Json → Reading String
  | .string s => ok s
  | _ => fail "" .notString

/-- the items of a list of texts, the first of them at index `n` -/
def stringItems (n : Nat) : List Json → Reading (List String)
  | [] => ok []
  | v :: vs => (((leafString v).under (.index n)).map List.cons).ap (stringItems (n + 1) vs)

/-- a list of texts -/
def leafStrings : Json → Reading (List String)
  | .array items => stringItems 0 items
  | _ => fail [] .notList

/-- a path -/
def leafPath : Json → Reading Path
  | .string s => ok (Path.ofString s)
  | _ => fail {} .notPath

/-- the words for a switch that is on -/
def onWords : List String := ["1", "t", "true", "y", "yes", "on"]

/-- the words for a switch that is off -/
def offWords : List String := ["0", "f", "false", "n", "no", "off"]

/-- the switch that a word stands for, in either case -/
def switchOfWord? (s : String) : Option Bool :=
  let word := String.ofList (s.toList.map Char.toLower)
  if onWords.contains word then some true
  else if offWords.contains word then some false
  else none

/-- the size from which a number is no machine word any more -/
def wordLimit : Int := Nat.pow 2 63

/-- the machine word that a number is, if it is one.  A number with a point or an exponent has to
come to a whole number, and the lowest word counts only where it is written as an integer. -/
def word? : Json → Option Int
  | .int n => if -wordLimit ≤ n ∧ n < wordLimit then some n else none
  | .decimal d => match d.nearest.bind Binary.toInt? with
    | some n => if -wordLimit < n ∧ n < wordLimit then some n else none
    | none => none
  | _ => none

/-- the switch that a number stands for -/
def switchOfInt? (n : Int) : Option Bool :=
  if n = 1 then some true else if n = 0 then some false else none

/-- a switch that is known, or the fault of one that is not -/
def knownSwitch : Option Bool → Reading Bool
  | some b => ok b
  | none => fail false .unknownSwitch

/-- a switch: a truth value, a one or a zero, or a word for one.  What is neither a text nor a
machine word is no switch at all. -/
def leafBool (v : Json) : Reading Bool :=
  match v with
  | .bool b => ok b
  | .string s => knownSwitch (switchOfWord? s)
  | _ => match word? v with
    | some n => knownSwitch (switchOfInt? n)
    | none => fail false .notSwitch

/-- an integer: a number without a fraction, a truth value, or a text that writes one -/
def leafInt : Json → Reading Int
  | .int n => ok n
  | .bool b => ok (if b then 1 else 0)
  | .decimal d => match d.nearest with
    | none => fail 0 .infiniteInteger
    | some b => match b.toInt? with
      | none => fail 0 .fractionalInteger
      | some n => if -wordLimit < n ∧ n < wordLimit then ok n else fail 0 .oversizedInteger
  | .nan => fail 0 .infiniteInteger
  | .infinity _ => fail 0 .infiniteInteger
  | .string s => match Numeral.read s.toList with
    | .ok n => ok n
    | .error .overlong => fail 0 .oversizedInteger
    | .error .unreadable => fail 0 .unreadableInteger
  | _ => fail 0 .notInteger

/-! ## sections -/

/-- the part with one of two spellings of its key, or its default -/
def part {α : Type} (first second : String) (default : α) (read : Json → Reading α)
    (fields : List (String × Json)) : Reading α :=
  match Json.find? fields first with
  | some v => (read v).under (.key first)
  | none =>
    match Json.find? fields second with
    | some v => (read v).under (.key second)
    | none => ok default

/-- a section, which is an object -/
def sectionOf {α : Type} (default : α) (read : List (String × Json) → Reading α) :
    Json → Reading α
  | .object fields => read fields
  | _ => fail default .notObject

def readNaming (fs : List (String × Json)) : Reading NamingRules :=
  (((ok NamingRules.mk).ap
    (part "knownPrefixes" "known_prefixes" ({} : NamingRules).knownPrefixes leafStrings fs)).ap
    (part "tablePrefixes" "table_prefixes" ({} : NamingRules).tablePrefixes leafStrings fs)).ap
    (part "stripThreeLetterPrefix" "strip_three_letter_prefix"
      ({} : NamingRules).stripThreeLetterPrefix leafBool fs)

def readNumber (fs : List (String × Json)) : Reading NumberRules :=
  (((((ok NumberRules.mk).ap
    (part "tokens" "tokens" ({} : NumberRules).tokens leafStrings fs)).ap
    (part "defaultType" "default_type" ({} : NumberRules).defaultType leafString fs)).ap
    (part "largeThreshold" "large_threshold" ({} : NumberRules).largeThreshold leafInt fs)).ap
    (part "largeType" "large_type" ({} : NumberRules).largeType leafString fs)).ap
    (part "decimalType" "decimal_type" ({} : NumberRules).decimalType leafString fs)

def readString (fs : List (String × Json)) : Reading StringRules :=
  ((ok StringRules.mk).ap
    (part "type" "target_type" ({} : StringRules).targetType leafString fs)).ap
    (part "tokens" "tokens" ({} : StringRules).tokens leafStrings fs)

def readDate (fs : List (String × Json)) : Reading DateRules :=
  ((ok DateRules.mk).ap
    (part "type" "target_type" ({} : DateRules).targetType leafString fs)).ap
    (part "tokens" "tokens" ({} : DateRules).tokens leafStrings fs)

def readTypes (fs : List (String × Json)) : Reading TypeRules :=
  (((ok TypeRules.mk).ap
    (part "number" "number" {} (sectionOf {} readNumber) fs)).ap
    (part "string" "string" {} (sectionOf {} readString) fs)).ap
    (part "date" "date" {} (sectionOf {} readDate) fs)

def readValidation (fs : List (String × Json)) : Reading ValidationRules :=
  ((((ok ValidationRules.mk).ap
    (part "enabled" "enabled" ({} : ValidationRules).enabled leafBool fs)).ap
    (part "stringMarker" "string_marker" ({} : ValidationRules).stringMarker leafString fs)).ap
    (part "otherMarker" "other_marker" ({} : ValidationRules).otherMarker leafString fs)).ap
    (part "schemaAnnotation" "schema_annotation" ({} : ValidationRules).schemaNote leafBool fs)

def readOutput (fs : List (String × Json)) : Reading OutputRules :=
  ((((ok OutputRules.mk).ap
    (part "directory" "directory" ({} : OutputRules).directory leafPath fs)).ap
    (part "entitySuffix" "entity_suffix" ({} : OutputRules).entitySuffix leafString fs)).ap
    (part "dtoSuffix" "dto_suffix" ({} : OutputRules).dtoSuffix leafString fs)).ap
    (part "indent" "indent" ({} : OutputRules).indent leafString fs)

def readSections (fs : List (String × Json)) : Reading Rules :=
  ((((ok Rules.mk).ap
    (part "naming" "naming" {} (sectionOf {} readNaming) fs)).ap
    (part "typeMapping" "type_mapping" {} (sectionOf {} readTypes) fs)).ap
    (part "validation" "validation" {} (sectionOf {} readValidation) fs)).ap
    (part "output" "output" {} (sectionOf {} readOutput) fs)

/-! ## the whole -/

/-- the rules in a JSON value, or all its problems -/
def ofJson (v : Json) : Except (List Problem) Rules := (sectionOf {} readSections v).toExcept

/-- the rules in a JSON text, or all its problems -/
def ofText (text : String) : Except (List Problem) Rules :=
  match Json.parse? text with
  | some v => ofJson v
  | none => .error [⟨[], .notJson⟩]

end Rules

end DdlToJava
