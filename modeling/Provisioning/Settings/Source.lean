import Provisioning.FileTree
import Provisioning.Number.Decimal
import Provisioning.Text.Blank
import Provisioning.Text.Lowercase
import Provisioning.Toml.Reader

/-!
Where settings come from: TOML files at fixed places, and variables of the environment.
-/

namespace Provisioning

structure Surroundings where
  environment : Dict String := []
  files : FileTree := {}
  directory : List String := []

namespace Source

def application : String := "lineage"

def fileName : String := "settings.toml"

/-- The file for all workspaces, below the directory for configuration or else below home. -/
def globalPath? (environment : Dict String) : Option String :=
  let base? := match Dict.get? environment "XDG_CONFIG_HOME" with
    | some directory => if directory = "" then none else some directory
    | none => none
  let base? := match base? with
    | some directory => some directory
    | none => (Dict.get? environment "HOME").map fun home => FilePath.join home ".config"
  base?.map fun base => FilePath.join (FilePath.join base application) fileName

def defaultStage : String := "development"

/-- The files of a workspace: one for all stages, and over it one for the current stage. -/
def workspacePaths (environment : Dict String) (workspace : String) : List String :=
  let directory := FilePath.join workspace "config"
  let stage := (Dict.get? environment "LINEAGE_ENV").getD defaultStage
  [FilePath.join directory fileName, FilePath.join directory (stage ++ ".toml")]

def found? (surroundings : Surroundings) (path : String) : Option (List String) :=
  (surroundings.files.place? surroundings.directory path).filter surroundings.files.holds

def extended : List String → List String
  | [] => []
  | [name] => [name ++ ".toml"]
  | directory :: rest => directory :: extended rest

/-- The text of the file at a place, or else of the file whose name has the extension added. -/
def textAt? (files : FileTree) (place : List String) : Option String :=
  match files.file? place with
  | some text => some text
  | none => files.file? (extended place)

def ofPlace? (files : FileTree) (place : List String) : Option Mapping :=
  match textAt? files place with
  | some text => Toml.read? text
  | none => some []

def ofFile? (surroundings : Surroundings) (path : String) : Option Mapping := do
  let place ← surroundings.files.place? surroundings.directory path
  let text ← textAt? surroundings.files place
  Toml.read? text

def variableMark : String := "lineage_settings_"

def listKeys : List String := ["default_ownership", "mgmt_classes"]

/-- Two underscores stand for a point. -/
def dotted : List Char → List Char
  | '_' :: '_' :: rest => '.' :: dotted rest
  | character :: rest => character :: dotted rest
  | [] => []

def settingOf? (name : String) : Option String :=
  let name := (Text.lower name).toList
  if variableMark.toList.isPrefixOf name then
    some (String.ofList (dotted (name.drop variableMark.length)))
  else
    none

/-- A variable is a flag or a number if it reads as one, or else a text or a list of texts. -/
def valueOf (key text : String) : Value :=
  let characters := text.toList
  match flag? (Text.lower text), Number.readInt64? characters, Number.readFloat? characters with
  | some flag, _, _ => .bool flag
  | none, some number, _ => .int number
  | none, none, some number => .float number
  | none, none, none =>
      if listKeys.contains key then
        .list ((Text.stretches (· == ',') characters).map fun item => .str (String.ofList item))
      else
        .str text
where
  flag? (word : String) : Option Bool :=
    if word = "true" then some true else if word = "false" then some false else none

/-- The settings that an environment gives. Of several variables for one setting the last one in the
order of the names counts; an environment has no such order of its own, so that which one counts is
open where names differ in case alone. -/
def ofEnvironment (environment : Dict String) : Mapping :=
  environment.foldl (fun source (name, text) =>
    match settingOf? name with
    | some key => Dict.insert source key (valueOf key text)
    | none => source) []

end Source

end Provisioning
