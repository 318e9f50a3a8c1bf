import Provisioning.Log.Config
import Provisioning.Schema
import Provisioning.Settings
import Provisioning.Convert

/-!
Checking that every resolvable field of every kind can fall back to the settings.
-/

namespace Provisioning

inductive TerminusFault where
  | inheritToken
  | notTable (got : ValueType)
  | notMember (members : List String)
  deriving DecidableEq

def TerminusFault.message : TerminusFault → String
  | .inheritToken => "cannot itself be inherited"
  | .notTable got => s!"must be a table, got {got.name}"
  | .notMember members =>
      let choices := ", ".intercalate members
      s!"must be one of {choices}"

inductive SettingsFault where
  | missing (kind : Kind) (property key : String)
  | unusable (kind : Kind) (property key : String) (reason : TerminusFault)
  | logging (fault : Log.ConfigFault)
  deriving DecidableEq

def SettingsFault.message : SettingsFault → String
  | .missing kind property key =>
      s!"{kind.name} property '{property}': no settings value for '{key}' or 'default_{key}'"
  | .unusable kind property key reason =>
      s!"{kind.name} property '{property}': setting '{key}' {reason.message}"
  | .logging fault => s!"Logging: {fault.message}"

structure Configuration where
  settings : Settings
  logging : Log.Config

namespace Settings

/-- Mappings fall back to an entry of their own name only; null stands for an empty table. -/
def checkTable (settings : Settings) (key : String) : Option TerminusFault :=
  match settings.get? key with
  | none | some .null | some (.dict _) => none
  | some other => some (.notTable other.type)

def isMember (key : String) (members : List String) : Value → Bool
  | .str token => (memberFor key members token).isOk
  | _ => false

def checkTerminus (key : String) (shape : Shape) (value : Value) : Option TerminusFault :=
  if Convert.isInheritToken value then
    some .inheritToken
  else
    match shape.members? with
    | some members => if isMember key members value then none else some (.notMember members)
    | none => none

def checkField (settings : Settings) (kind : Kind) (field : Field) : Option SettingsFault :=
  match field.shape? with
  | none => none
  | some shape =>
      let key := field.terminusKey
      if !shape.isResolvable then
        none
      else if shape.isMapping then
        (settings.checkTable key).map (.unusable kind field.name key)
      else
        match settings.terminus? key with
        | none => some (.missing kind field.name key)
        | some value => (checkTerminus key shape value).map (.unusable kind field.name key)

def check (settings : Settings) : List SettingsFault :=
  Kind.all.flatMap fun kind => kind.fields.filterMap (settings.checkField kind)

end Settings

def Configuration.check (configuration : Configuration) : List SettingsFault :=
  configuration.settings.check ++
    match configuration.logging.validate with
    | .ok _ => []
    | .error fault => [.logging fault]

end Provisioning
