import DdlToJava.Rules.Basic
import DdlToJava.Json.Printer

/-!
# Writing the rules

The rules as a JSON object with all sections and all keys, in the order of their declaration and
under the first spelling of each key.
-/

namespace DdlToJava

namespace Rules

/-- a list of texts as JSON -/
def jsonStrings (ss : List String) : Json := .array (ss.map .string)

def jsonNaming (r : NamingRules) : Json :=
  .object [("knownPrefixes", jsonStrings r.knownPrefixes),
    ("tablePrefixes", jsonStrings r.tablePrefixes),
    ("stripThreeLetterPrefix", .bool r.stripThreeLetterPrefix)]

def jsonNumber (r : NumberRules) : Json :=
  .object [("tokens", jsonStrings r.tokens), ("defaultType", .string r.defaultType),
    ("largeThreshold", .int r.largeThreshold), ("largeType", .string r.largeType),
    ("decimalType", .string r.decimalType)]

def jsonString (r : StringRules) : Json :=
  .object [("type", .string r.targetType), ("tokens", jsonStrings r.tokens)]

def jsonDate (r : DateRules) : Json :=
  .object [("type", .string r.targetType), ("tokens", jsonStrings r.tokens)]

def jsonTypes (r : TypeRules) : Json :=
  .object [("number", jsonNumber r.number), ("string", jsonString r.string),
    ("date", jsonDate r.date)]

def jsonValidation (r : ValidationRules) : Json :=
  .object [("enabled", .bool r.enabled), ("stringMarker", .string r.stringMarker),
    ("otherMarker", .string r.otherMarker), ("schemaAnnotation", .bool r.schemaNote)]

def jsonOutput (r : OutputRules) : Json :=
  .object [("directory", .string r.directory.toString), ("entitySuffix", .string r.entitySuffix),
    ("dtoSuffix", .string r.dtoSuffix), ("indent", .string r.indent)]

/-- the rules as JSON -/
def toJson (c : Rules) : Json :=
  .object [("naming", jsonNaming c.naming), ("typeMapping", jsonTypes c.types),
    ("validation", jsonValidation c.validation), ("output", jsonOutput c.output)]

/-- the rules as a JSON text -/
def toText (c : Rules) : String := c.toJson.render

end Rules

end DdlToJava
