import DdlToJava.Path
import DdlToJava.Run.SettingsFile
import DdlToJava.Text.Case

/-!
# Settings

Three variables say where a run finds its input and its rules and where its files go.  They come
from the environment or, where it does not have them, from the settings file; their names count in
any case.
-/

namespace DdlToJava

/-- where a run reads and writes, unless it is told otherwise -/
structure Settings where
  inputFile : Path := { names := ["ddl.txt"] }
  configFile : Path := { names := ["entity-agent.json"] }
  outputDir : Option Path := none
  deriving DecidableEq, Repr

namespace Settings

/-- the settings file of a working directory -/
def fileName : Path := { names := [".env"] }

/-- names in small letters; of equal names the last counts -/
def value? (pairs : List (String × Option String)) (name : String) : Option String :=
  ((pairs.map fun (n, v) => (String.ofList (Text.lower n.toList), v)).reverse.lookup name).join

/-- the value of a variable from the environment or else from the file -/
def setting? (environment : List (String × String)) (file : List (String × Option String))
    (name : String) : Option String :=
  (value? (environment.map fun (n, v) => (n, some v)) name).or (value? file name)

/-- the settings that an environment and the text of a settings file make -/
def ofSources (environment : List (String × String)) (file : List Char) : Settings :=
  let look := fun name =>
    (setting? environment (SettingsFile.read environment file) name).map Path.ofString
  { inputFile := (look "entity_input_file").getD ({} : Settings).inputFile
    configFile := (look "entity_config_file").getD ({} : Settings).configFile
    outputDir := look "entity_output_dir" }

end Settings

end DdlToJava
