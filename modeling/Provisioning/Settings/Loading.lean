import Provisioning.Settings.Check
import Provisioning.Settings.Merge
import Provisioning.Settings.Source

/-!
Loading a configuration: the built-in settings, over them the global file, the files of the
workspace and the variables of the environment, in this order.
-/

namespace Provisioning.Configuration

/-- The entry that configures logging and is no setting itself. -/
def loggingKey : String := "logging"

/-- The configuration that sources make up over the built-in settings, unless logging is configured
in a way that cannot be read. -/
def ofSources? (sources : List Mapping) : Option Configuration := do
  let values := Merge.layered Settings.builtin.values sources
  let logging ← match Dict.get? values loggingKey with
    | some value => Log.Config.ofValue? value
    | none => some {}
  return { settings := ⟨Dict.erase values loggingKey⟩, logging }

def globalSources? (surroundings : Surroundings) : Option (List Mapping) :=
  match (Source.globalPath? surroundings.environment).bind (Source.found? surroundings) with
  | some place => (Source.ofPlace? surroundings.files place).map ([·])
  | none => some []

def workspaceSources? (surroundings : Surroundings) (workspace : String) :
    Option (List Mapping) :=
  ((Source.workspacePaths surroundings.environment workspace).filterMap
    (Source.found? surroundings)).mapM (Source.ofPlace? surroundings.files)

def load? (surroundings : Surroundings) (workspace : String) : Option Configuration := do
  let global ← globalSources? surroundings
  let files ← workspaceSources? surroundings workspace
  ofSources? (global ++ files ++ [Source.ofEnvironment surroundings.environment])

def loadFile? (surroundings : Surroundings) (path : String) : Option Configuration := do
  let source ← Source.ofFile? surroundings path
  ofSources? [source]

def loadText? (text : String) : Option Configuration := do
  let source ← Toml.read? text
  ofSources? [source]

end Provisioning.Configuration
