import Provisioning.Log.Config
import Provisioning.Log.Filter
import Provisioning.Settings.Source
import Provisioning.Text.Quoted

/-!
Setting up logging from a configuration and the environment, whose variables come first.
-/

namespace Provisioning.Log

inductive SetupFault where
  | config (fault : ConfigFault)
  | configuredModule (fault : DirectiveFault)
  | givenModule (fault : DirectiveFault)
  | directory
  | file (path : String)
  | repeated
  deriving DecidableEq

namespace SetupFault

def reason : SetupFault → String
  | .config fault => fault.message
  | .configuredModule fault => "Invalid log directive: " ++ fault.message
  | .givenModule fault => "Invalid log directive from env: " ++ fault.message
  | .directory => "Failed to create log directory"
  | .file path => "Failed to open log file " ++ (Text.quoted path).replace "'" "\\'"
  | .repeated => "a global default trace dispatcher has already been set"

def message (fault : SetupFault) : String :=
  "Logging setup failed: " ++ fault.reason

def isFromFiles : SetupFault → Bool
  | .directory | .file _ => true
  | _ => false

end SetupFault

structure Logger where
  filter : Filter
  format : Format
  color : Bool
  output : Destination
  place : List String := []

namespace Setup

def filterVariable : String := "LINEAGE_LOG"

def formatVariable : String := "LINEAGE_LOG_FORMAT"

def outputVariable : String := "LINEAGE_LOG_OUTPUT"

def modulesVariable : String := "LINEAGE_LOG_MODULES"

/-- A filter in the environment replaces every other one, unless it is at fault. -/
def givenFilter? (environment : Dict String) : Option Filter :=
  (Dict.get? environment filterVariable).bind Filter.read?

def moduleDirective (fault : DirectiveFault → SetupFault) (name level : String) :
    Except SetupFault Directive :=
  (Directive.read (name ++ "=" ++ level)).mapError fault

def configuredModules (config : Config) : Except SetupFault (List Directive) :=
  config.modules.mapM fun (name, level) => moduleDirective .configuredModule name level

/-- A piece without an equals sign is passed over. -/
def givenModules (environment : Dict String) : Except SetupFault (List Directive) :=
  let text := (Dict.get? environment modulesVariable).getD ""
  let pairs := (text.splitOn ",").filterMap fun piece => Text.splitOnce '=' piece.toList
  pairs.mapM fun (name, level) =>
    moduleDirective .givenModule (trimmed name) (trimmed level)
where
  trimmed (characters : List Char) : String :=
    String.ofList (Text.trimChars characters)

/-- Logging that is switched off stays off for every module. -/
def isOff (config : Config) : Bool :=
  config.level == "off"

def filter (environment : Dict String) (config : Config) : Except SetupFault Filter :=
  match givenFilter? environment with
  | some filter => .ok filter
  | none =>
      if isOff config then
        .ok (.ofDirectives [{ threshold := .off }])
      else do
        let configured ← configuredModules config
        let given ← givenModules environment
        return .ofDirectives (Filter.directives config.level ++ configured ++ given)

def notices (environment : Dict String) (config : Config) : List String :=
  if (givenFilter? environment).isSome || isOff config then [] else Filter.notices config.level

def format (environment : Dict String) (config : Config) : Except SetupFault Format :=
  let given? := (Dict.get? environment formatVariable).bind fun word =>
    (Format.ofWord word).toOption
  match given? with
  | some format => .ok format
  | none => (Format.ofWord config.format).mapError .config

def output (environment : Dict String) (config : Config) : Except SetupFault Destination :=
  let word := (Dict.get? environment outputVariable).getD config.output
  (Destination.ofWord word).mapError .config

def namesFile (path : String) : Bool :=
  !(["", ".", ".."].contains ((FilePath.pieces path).getLastD ""))

def openFile (files : FileTree) (directory : List String) (path : String) :
    Except SetupFault (FileTree × List String) :=
  let start := if FilePath.isAbsolute path then [] else directory
  let parents := (FilePath.parentComponents? path).getD []
  match files.makeDirectories? start parents with
  | none => .error .directory
  | some (files, parent) =>
      let place := parent ++ [(FilePath.pieces path).getLastD ""]
      if namesFile path && !files.isDirectory place then
        .ok (files.append place "", place)
      else
        .error (.file path)

def run (surroundings : Surroundings) (config : Config) :
    Except SetupFault (Logger × FileTree) := do
  let environment := surroundings.environment
  let filter ← filter environment config
  let format ← format environment config
  let output ← output environment config
  match output with
  | .file =>
      let (files, place) ← openFile surroundings.files surroundings.directory config.file
      return ({ filter, format, color := false, output, place }, files)
  | _ => return ({ filter, format, color := config.color, output }, surroundings.files)

end Setup

end Provisioning.Log
