import Provisioning.Dict
import Provisioning.FilePath
import Provisioning.Json.Access
import Provisioning.Log
import Provisioning.Number.Shortest
import Provisioning.Text.Lowercase
import Provisioning.Value

/-!
The configuration of logging: how detailed, in which format and where to.
-/

namespace Provisioning.Log

inductive Format where
  | text
  | json
  deriving DecidableEq, Repr

inductive Destination where
  | stdout
  | stderr
  | file
  | both
  deriving DecidableEq, Repr

inductive ConfigFault where
  | format (word : String)
  | destination (word : String)
  deriving DecidableEq

def ConfigFault.message : ConfigFault → String
  | .format word => s!"Invalid log format: {word} (must be 'json' or 'text')"
  | .destination word =>
      s!"Invalid log output: {word} (must be 'stdout', 'stderr', 'file', or 'both')"

def Format.ofWord (word : String) : Except ConfigFault Format :=
  if word = "json" then .ok .json
  else if word = "text" then .ok .text
  else .error (.format word)

def Destination.ofWord (word : String) : Except ConfigFault Destination :=
  if word = "stdout" then .ok .stdout
  else if word = "stderr" then .ok .stderr
  else if word = "file" then .ok .file
  else if word = "both" then .ok .both
  else .error (.destination word)

structure Config where
  level : String := "info"
  format : String := "text"
  output : String := "stdout"
  file : String := "lineage.log"
  color : Bool := true
  modules : Dict String := []
  deriving DecidableEq

namespace Config

def validate (config : Config) : Except ConfigFault Unit := do
  let _ ← Format.ofWord config.format
  let _ ← Destination.ofWord config.output
  return ()

def same (left right : Config) : Bool :=
  left.level == right.level && left.format == right.format && left.output == right.output &&
    FilePath.same left.file right.file && left.color == right.color &&
    left.modules == right.modules

structure Places (σ : Type) where
  level : Option σ
  format : Option σ
  output : Option σ
  file : Option σ
  color : Option σ
  modules : Option σ

def Places.ofEntries {σ : Type} (entries : Dict σ) : Places σ where
  level := Dict.get? entries "level"
  format := Dict.get? entries "format"
  output := Dict.get? entries "output"
  file := Dict.get? entries "file"
  color := Dict.get? entries "color"
  modules := Dict.get? entries "modules"

/-- A list gives the places in order and may end early. -/
def Places.ofItems {σ : Type} (items : List σ) : Places σ where
  level := items[0]?
  format := items[1]?
  output := items[2]?
  file := items[3]?
  color := items[4]?
  modules := items[5]?

def readOr? {σ α : Type} (read? : σ → Option α) (default : α) : Option σ → Option α
  | some written => read? written
  | none => some default

def ofPlaces? {σ : Type} (word? : σ → Option String) (flag? : σ → Option Bool)
    (words? : σ → Option (Dict String)) (places : Places σ) : Option Config := do
  let standard : Config := {}
  let level ← readOr? word? standard.level places.level
  let format ← readOr? word? standard.format places.format
  let output ← readOr? word? standard.output places.output
  let file ← readOr? word? standard.file places.file
  let color ← readOr? flag? standard.color places.color
  let modules ← readOr? words? standard.modules places.modules
  return { level, format, output, file, color, modules }

def wordsOfJson? : Json → Option (Dict String)
  | .object members => members.mapM fun member => member.2.text?.map fun word => (member.1, word)
  | _ => none

/-- JSON has to give every place its exact type, and no more places than there are. -/
def ofJson? (document : Json) : Option Config :=
  let read? := ofPlaces? Json.text? Json.flag? wordsOfJson?
  match document with
  | .object members => read? (Places.ofEntries members)
  | .array items => if items.length ≤ 6 then read? (Places.ofItems items) else none
  | _ => none

def toJson (config : Config) : Json :=
  .object [
    ("level", .str config.level),
    ("format", .str config.format),
    ("output", .str config.output),
    ("file", .str config.file),
    ("color", .bool config.color),
    ("modules", .object (Dict.mapValues Json.str config.modules))]

def wordOfValue? : Value → Option String
  | .str text => some text
  | .bool flag => some (toString flag)
  | .int number => some (toString number.toInt)
  | .float number => some (Number.floatText number)
  | _ => none

def flagWord? (word : String) : Option Bool :=
  if ["1", "true", "on", "yes"].contains word then some true
  else if ["0", "false", "off", "no"].contains word then some false
  else none

def flagOfValue? : Value → Option Bool
  | .bool flag => some flag
  | .int number => some (number != 0)
  | .float number => some (number != 0.0)
  | .str text => flagWord? (Text.lower text)
  | _ => none

def wordsOfValue? : Value → Option (Dict String)
  | .dict entries => entries.mapM fun entry =>
      (wordOfValue? entry.2).map fun word => (entry.1, word)
  | _ => none

def ofValue? (value : Value) : Option Config :=
  let read? := ofPlaces? wordOfValue? flagOfValue? wordsOfValue?
  match value with
  | .dict entries => read? (Places.ofEntries entries)
  | .list items => read? (Places.ofItems items)
  | _ => none

end Config

end Provisioning.Log
