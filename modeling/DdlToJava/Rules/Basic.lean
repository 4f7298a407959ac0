import DdlToJava.Path

/-!
# The rules of a generation

`Rules` holds every choice that a run can make: how names are formed, which Java type a database
type becomes, which constraints the getters carry and where the files go.  The defaults of the
fields are the built-in rules.
-/

namespace DdlToJava

/-- how identifiers become Java names -/
structure NamingRules where
  knownPrefixes : List String := ["nr", "cd", "ds", "dt", "fl", "vl", "nm", "tp"]
  tablePrefixes : List String := ["tb"]
  stripThreeLetterPrefix : Bool := true
  deriving DecidableEq, Repr

/-- the types that are numbers, and the Java types for them -/
structure NumberRules where
  tokens : List String := ["NUMBER"]
  defaultType : String := "Integer"
  largeThreshold : Int := 9
  largeType : String := "Long"
  decimalType : String := "BigDecimal"
  deriving DecidableEq, Repr

/-- the types that are texts; their Java type also serves what no rule names -/
structure StringRules where
  targetType : String := "String"
  tokens : List String := ["CHAR", "VARCHAR2", "TEXT"]
  deriving DecidableEq, Repr

/-- the types that are points in time -/
structure DateRules where
  targetType : String := "LocalDateTime"
  tokens : List String := ["DATE", "TIMESTAMP"]
  deriving DecidableEq, Repr

/-- how database types become Java types -/
structure TypeRules where
  number : NumberRules := {}
  string : StringRules := {}
  date : DateRules := {}
  deriving DecidableEq, Repr

/-- which annotations the getters carry -/
structure ValidationRules where
  enabled : Bool := true
  stringMarker : String := "@NotBlank"
  otherMarker : String := "@NotNull"
  schemaNote : Bool := true
  deriving DecidableEq, Repr

/-- where the files go and how they are laid out -/
structure OutputRules where
  directory : Path := { names := ["out"] }
  entitySuffix : String := "java"
  dtoSuffix : String := "DTO.java"
  indent : String := "    "
  deriving DecidableEq, Repr

/-- all the rules of a generation -/
structure Rules where
  naming : NamingRules := {}
  types : TypeRules := {}
  validation : ValidationRules := {}
  output : OutputRules := {}
  deriving DecidableEq, Repr

end DdlToJava
