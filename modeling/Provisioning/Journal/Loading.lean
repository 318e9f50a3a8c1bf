import Provisioning.Log
import Provisioning.Settings.Loading

/-!
The events that loading a configuration reports.
-/

namespace Provisioning.Journal

open Log

/-- The global file is the only one that is missed. -/
def globalFile (surroundings : Surroundings) : List Event :=
  match Source.globalPath? surroundings.environment with
  | none => []
  | some path =>
      if (Source.found? surroundings path).isSome then [] else [{
        level := .warn
        target := "lineage::config::sources::global_file"
        message := "Global settings file not found. Consider creating it for user-level defaults."
        fields := [("config_path", .plain path)]
      }]

def workspaceFiles (surroundings : Surroundings) (workspace : String) : List Event :=
  (Source.workspacePaths surroundings.environment workspace).filterMap fun path =>
    if (Source.found? surroundings path).isSome then some {
      level := .debug
      target := "lineage::config::sources::workspace_file"
      message := "Adding workspace settings file"
      fields := [("config_path", .plain path)]
    }
    else
      none

def loaded : Option Configuration → List Event
  | none => []
  | some configuration => [{
      level := .debug
      target := "lineage::config::facade"
      message := "Loaded settings"
      fields := [("keys", .count configuration.settings.values.length)]
    }]

def load (surroundings : Surroundings) (workspace : String) : List Event :=
  globalFile surroundings ++ workspaceFiles surroundings workspace ++
    loaded (Configuration.load? surroundings workspace)

end Provisioning.Journal
