import DdlToJava.Artifact.Dto
import DdlToJava.Artifact.Entity

/-!
# Artifacts

A table gives two artifacts, the entity and the transfer objects, each with a kind, a file name
and a text.  `combined` is the text of all of them with a ruled line between two.
-/

namespace DdlToJava

inductive ArtifactKind where
  | entity
  | dto
  deriving DecidableEq, Repr

/-- a generated source -/
structure Artifact where
  kind : ArtifactKind
  fileName : String
  body : String
  deriving DecidableEq, Repr

namespace Artifact

/-- a suffix without the points at its front -/
def bareSuffix (suffix : String) : String := String.ofList (suffix.toList.dropWhile (· = '.'))

/-- the entity of a table -/
def entity (rules : Rules) (t : Table) : Artifact where
  kind := .entity
  fileName := t.typeName ++ "." ++ bareSuffix rules.output.entitySuffix
  body := Entity.text rules t

/-- the transfer objects of a table -/
def dto (rules : Rules) (t : Table) : Artifact where
  kind := .dto
  fileName := t.typeName ++ rules.output.dtoSuffix
  body := Dto.text rules t

/-- the artifacts of a table, in the order of their delivery -/
def ofTable (rules : Rules) (t : Table) : List Artifact := [entity rules t, dto rules t]

/-- what stands between two artifacts -/
def separator : String := "\n\n" ++ String.ofList (List.replicate 30 '=') ++ "\n\n"

/-- the texts of the artifacts as one -/
def combined (as : List Artifact) : String := String.intercalate separator (as.map (·.body))

theorem ofTable_kinds (rules : Rules) (t : Table) :
    (ofTable rules t).map (·.kind) = [.entity, .dto] := rfl

theorem combined_ofTable (rules : Rules) (t : Table) :
    combined (ofTable rules t) = Entity.text rules t ++ separator ++ Dto.text rules t := rfl

end Artifact

end DdlToJava
