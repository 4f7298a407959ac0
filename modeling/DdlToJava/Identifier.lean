import DdlToJava.Rules.Basic
import DdlToJava.Text.Case
import DdlToJava.Text.Pieces

/-!
# Java names

An identifier is cut at its underscores into segments of small letters.  A field name is the first
segment followed by the others with capitals; a known prefix that is glued to the first segment
gets a capital after it.  A type name drops the table prefixes and capitalizes every
segment.  Both may drop a first segment of three characters.  `accessorName` is the field name as
it stands after `get`.
-/

namespace DdlToJava

open Text

/-- the only fault of an identifier: there is nothing in it -/
inductive IdentifierError where
  | emptyIdentifier
  deriving DecidableEq, Repr

def IdentifierError.message : IdentifierError → String
  | .emptyIdentifier => "identifier must not be empty"

namespace Identifier

/-! ## segments -/

/-- the segments of an identifier in small letters -/
def segments (identifier : List Char) : List (List Char) := pieces '_' (lower identifier)

/-- drop a first segment of three characters, if another one follows -/
def stripShort (rules : NamingRules) : List (List Char) → List (List Char)
  | s :: t :: rest =>
    if rules.stripThreeLetterPrefix && s.length = 3 then t :: rest else s :: t :: rest
  | parts => parts

theorem stripShort_nil (rules : NamingRules) : stripShort rules [] = [] := rfl

theorem stripShort_single (rules : NamingRules) (s : List Char) : stripShort rules [s] = [s] := rfl

theorem stripShort_ne_nil (rules : NamingRules) {parts : List (List Char)} (h : parts ≠ []) :
    stripShort rules parts ≠ [] := by
  unfold stripShort
  split
  · split <;> simp
  · exact h

/-- the segments with capitals, run together -/
def camel (parts : List (List Char)) : List Char := parts.flatMap capitalize

theorem camel_nil : camel [] = [] := rfl

theorem camel_cons (p : List Char) (ps : List (List Char)) :
    camel (p :: ps) = capitalize p ++ camel ps := by
  simp [camel]

theorem camel_append (a b : List (List Char)) : camel (a ++ b) = camel a ++ camel b := by
  simp [camel]

/-! ## fields -/

/-- the first known prefix that `head` goes on after -/
def gluedPrefix? (rules : NamingRules) (head : List Char) : Option (List Char) :=
  (rules.knownPrefixes.map fun p => lower p.toList).find? fun p =>
    p.isPrefixOf head && p.length < head.length

/-- the first segment of a field name, with a capital after a known prefix -/
def fieldHead (rules : NamingRules) (head : List Char) : List Char :=
  match gluedPrefix? rules head with
  | some p => p ++ capitalize (head.drop p.length)
  | none => head

/-- the field name that the segments form -/
def fieldOfSegments (rules : NamingRules) : List (List Char) → List Char
  | [] => []
  | head :: rest => fieldHead rules head ++ camel rest

end Identifier

open Identifier

/-- the name of the Java field for a column -/
def NamingRules.fieldName (rules : NamingRules) (identifier : String) :
    Except IdentifierError String :=
  if identifier = "" then .error .emptyIdentifier
  else .ok (String.ofList (fieldOfSegments rules (stripShort rules (segments identifier.toList))))

/-! ## types -/

namespace Identifier

/-- is the segment one of the table prefixes? -/
def isTablePrefix (rules : NamingRules) (segment : List Char) : Bool :=
  (rules.tablePrefixes.map fun p => lower p.toList).contains segment

/-- the segments that a type name is made of: all of them when none would be left -/
def typeSegments (rules : NamingRules) (parts : List (List Char)) : List (List Char) :=
  match stripShort rules (parts.filter fun s => !isTablePrefix rules s) with
  | [] => parts
  | kept => kept

end Identifier

/-- the name of the Java type for a table -/
def NamingRules.typeName (rules : NamingRules) (identifier : String) :
    Except IdentifierError String :=
  if identifier = "" then .error .emptyIdentifier
  else .ok (String.ofList (camel (typeSegments rules (segments identifier.toList))))

/-- a field name as it stands after `get` -/
def accessorName (field : String) : String := String.ofList (capitalize field.toList)

end DdlToJava
