import DdlToJava.Rules.Basic
import DdlToJava.Text.Case

/-!
# From database types to Java types

A type is read by the first class that has one of its tokens in it: number, text, point in
time.  A type of no class is a text without a constraint.  The class, the precision and the scale
decide the Java type and the constraint that its getter carries.
-/

namespace DdlToJava

open Text

/-- a Java type and the constraint on its values, which may be empty -/
structure JavaType where
  name : String
  constraint : String := ""
  deriving DecidableEq, Repr

/-- the only fault of a size: no text can hold that many nines -/
inductive JavaTypeError where
  | tooManyNines
  deriving DecidableEq, Repr

def JavaTypeError.message : JavaTypeError → String
  | .tooManyNines => "cannot fit 'int' into an index-sized integer"

/-- what a type is, as far as the rules can tell -/
inductive TypeClass where
  | number
  | text
  | date
  | other
  deriving DecidableEq, Repr

/-! ## classes -/

namespace TypeClass

/-- does `part` stand somewhere in the text? -/
def occursIn (part : List Char) : List Char → Bool
  | [] => part.isEmpty
  | c :: cs => part.isPrefixOf (c :: cs) || occursIn part cs

/-- is one of the tokens in the type name, whatever the case of either? -/
def mentions (tokens : List String) (typeName : String) : Bool :=
  tokens.any fun t => occursIn (upper t.toList) (upper typeName.toList)

theorem mentions_nil (typeName : String) : mentions [] typeName = false := rfl

theorem mentions_append (a b : List String) (typeName : String) :
    mentions (a ++ b) typeName = (mentions a typeName || mentions b typeName) := by
  simp [mentions, List.any_append]

end TypeClass

open TypeClass

/-- the first class that the type name mentions -/
def TypeRules.classify (rules : TypeRules) (typeName : String) : TypeClass :=
  if mentions rules.number.tokens typeName then .number
  else if mentions rules.string.tokens typeName then .text
  else if mentions rules.date.tokens typeName then .date
  else .other

/-! ## constraints -/

namespace JavaType

/-- a text cannot be as long as this -/
def lengthLimit : Nat := Nat.pow 2 63

/-- the largest number of `n` digits, as a text -/
def nines (n : Nat) : String := String.ofList (List.replicate n '9')

/-- the bounds of a whole number; `suffix` marks the upper bound's Java type -/
def bounds (precision : Int) (suffix : String) : Except JavaTypeError String :=
  if precision ≤ 0 then .ok "@Min(0)"
  else if lengthLimit ≤ precision.toNat then .error .tooManyNines
  else .ok ("@Min(0) @Max(" ++ nines precision.toNat ++ suffix ++ ")")

/-- the digits of a decimal number before and after the point -/
def digits (precision scale : Int) : String :=
  "@Digits(integer = " ++ toString (max (precision - scale) 0) ++ ", fraction = "
    ++ toString scale ++ ")"

/-- the longest text that a column holds -/
def size (precision : Int) : String :=
  if precision > 0 then "@Size(max = " ++ toString precision ++ ")" else ""

end JavaType

open JavaType

/-- the Java type of a number -/
def NumberRules.javaType (rules : NumberRules) (precision scale : Int) :
    Except JavaTypeError JavaType :=
  if scale > 0 then .ok ⟨rules.decimalType, digits precision scale⟩
  else if precision > rules.largeThreshold then
    (bounds precision "L").map fun c => ⟨rules.largeType, c⟩
  else (bounds precision "").map fun c => ⟨rules.defaultType, c⟩

/-- the Java type and the constraint for a database type -/
def TypeRules.javaType (rules : TypeRules) (typeName : String) (precision scale : Int) :
    Except JavaTypeError JavaType :=
  match rules.classify typeName with
  | .number => rules.number.javaType precision scale
  | .text => .ok ⟨rules.string.targetType, size precision⟩
  | .date => .ok ⟨rules.date.targetType, ""⟩
  | .other => .ok ⟨rules.string.targetType, ""⟩

end DdlToJava
