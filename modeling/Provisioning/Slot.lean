import Provisioning.Convert
import Provisioning.Schema

/-!
What an item stores for a property, and how values are brought into that form and back.
-/

namespace Provisioning

inductive Slot where
  | scalar (state : Inheritable Value)
  | choice (state : Inheritable String)
  | mapping (state : Inheritable Overlay)
  | interfaces (records : Dict Mapping)

namespace Slot

def emptyValue : Shape → Value
  | .bool | .inheritBool => .bool false
  | .int | .inheritInt => .int 0
  | .float | .inheritFloat => .float 0.0
  | .inheritList => .list []
  | _ => .str ""

def initialChoice (members : List String) : Initial → Inheritable String
  | .inherit => .inherit
  | .member token => .own token
  | _ => .own (members.headD "")

def initialMapping : Initial → Inheritable Overlay
  | .inherit => .inherit
  | _ => .own {}

def initialScalar (shape : Shape) : Initial → Inheritable Value
  | .inherit => .inherit
  | .text text => .own (.str text)
  | .bool flag => .own (.bool flag)
  | .int number => .own (.int number)
  | .empty | .member _ => .own (emptyValue shape)

def initial (shape : Shape) (start : Initial) : Slot :=
  match shape with
  | .choice members | .inheritChoice members => .choice (initialChoice members start)
  | .map _ | .inheritMap _ | .inheritYamlMap => .mapping (initialMapping start)
  | .interfaces => .interfaces []
  | shape => .scalar (initialScalar shape start)

def memberValue (field : String) (members : List String) : Value → Except ItemError String
  | .str token => memberFor field members token
  | other => Convert.refuse field (.memberType other.type)

def interfaceRecord (field : String) (entry : String × Value) :
    Except ItemError (String × Mapping) :=
  match entry with
  | (name, .dict record) =>
      match (Dict.keys record).find? fun key => !interfaceFields.contains key with
      | some unknown => Convert.refuse field (.interfaceAttribute name unknown)
      | none => .ok (name, record)
  | (name, _) => Convert.refuse field (.interfaceRecord name)

def interfaceRecords (field : String) : Value → Except ItemError (Dict Mapping)
  | .null => .ok []
  | .dict entries => entries.mapM (interfaceRecord field)
  | other => Convert.refuse field (.wrongType "a dict of interfaces" other.type)

/-- A plain field owns its value and refuses the inherit token. -/
def coerceOwn {α : Type} (field : String) (convert : Value → Except ItemError α)
    (value : Value) : Except ItemError (Inheritable α) := do
  Convert.notInherited field value
  let converted ← convert value
  return .own converted

def coerce (field : String) (shape : Shape) (value : Value) : Except ItemError Slot :=
  match shape with
  | .text => do
      let state ← coerceOwn field (Convert.text field) value
      return .scalar (state.map .str)
  | .bool => do
      let state ← coerceOwn field (Convert.flag field) value
      return .scalar (state.map .bool)
  | .int => do
      let state ← coerceOwn field (Convert.integer field) value
      return .scalar (state.map .int)
  | .float => do
      let state ← coerceOwn field (Convert.number field) value
      return .scalar (state.map .float)
  | .choice members => do
      let state ← coerceOwn field (memberValue field members) value
      return .choice state
  | .map multiple => do
      let state ← coerceOwn field (Convert.overlay field multiple) value
      return .mapping state
  | .inheritText => do
      let state ← Convert.inheritable (Convert.text field) value
      return .scalar (state.map .str)
  | .inheritList => do
      let state ← Convert.inheritable (Convert.texts field) value
      return .scalar (state.map Value.ofTexts)
  | .inheritBool => do
      let state ← Convert.inheritable (Convert.flag field) value
      return .scalar (state.map .bool)
  | .inheritInt => do
      let state ← Convert.inheritable (Convert.integer field) value
      return .scalar (state.map .int)
  | .inheritFloat => do
      let state ← Convert.inheritable (Convert.number field) value
      return .scalar (state.map .float)
  | .inheritChoice members => do
      let state ← Convert.inheritable (memberValue field members) value
      return .choice state
  | .inheritMap multiple => do
      let state ← Convert.inheritable (Convert.overlay field multiple) value
      return .mapping state
  | .inheritYamlMap => do
      let state ← Convert.inheritable (Convert.yamlOverlay field) value
      return .mapping state
  | .interfaces => do
      let records ← interfaceRecords field value
      return .interfaces records
  | .derived _ => .error (.readOnly field)

def toValue : Slot → Value
  | .scalar (.own value) => value
  | .choice (.own member) => .str member
  | .mapping (.own overlay) => .dict overlay.toMapping
  | .scalar .inherit | .choice .inherit | .mapping .inherit => .str inheritToken
  | .interfaces records => .dict (records.mapValues .dict)

def isInherit : Slot → Bool
  | .scalar state => state.isInherit
  | .choice state => state.isInherit
  | .mapping state => state.isInherit
  | .interfaces _ => false

def inherited : Slot → Slot
  | .choice _ => .choice .inherit
  | .mapping _ => .mapping .inherit
  | .scalar _ | .interfaces _ => .scalar .inherit

end Slot

end Provisioning
