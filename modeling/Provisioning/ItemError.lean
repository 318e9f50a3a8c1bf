import Provisioning.Kind
import Provisioning.Text.Quoted
import Provisioning.Value

/-!
What can go wrong with an item, by cause, and the wording of each cause.
-/

namespace Provisioning

inductive Refusal where
  | notInheritable
  | wrongType (wanted : String) (got : ValueType)
  | listEntry (got : ValueType)
  | yamlDocument (got : ValueType)
  | notInteger (text : String)
  | notNumber (text : String)
  | notNumeric (got : ValueType)
  | notFinite
  | memberType (got : ValueType)
  | notMember (token : String) (members : List String)
  | interfaceRecord (name : String)
  | interfaceAttribute (name key : String)
  | badName (name : String)
  | nameType (got : ValueType)
  | blank
  | negative
  | nameRequired
  | fieldRequired
  | settingType (got : ValueType)
  deriving DecidableEq

def Refusal.message : Refusal → String
  | .notInheritable => "this field cannot be inherited"
  | .wrongType wanted got => s!"must be {wanted}, got {got.name}"
  | .listEntry got => s!"list entries must be str, got {got.name}"
  | .yamlDocument got => s!"YAML must evaluate to a dictionary, got {got.name}"
  | .notInteger text => s!"'{text}' is not an integer"
  | .notNumber text => s!"'{text}' is not a number"
  | .notNumeric got => s!"needs to be numeric, got {got.name}"
  | .notFinite => "needs to be a finite number"
  | .memberType got => s!"enum tokens must be str, got {got.name}"
  | .notMember token members =>
      let choices := ", ".intercalate members
      s!"'{token}' is not one of {choices}"
  | .interfaceRecord name => s!"interface '{name}' must be a dict"
  | .interfaceAttribute name key =>
      s!"interface '{name}' has unknown attribute '{key}'"
  | .badName name =>
      s!"invalid characters in '{name}'; only letters, digits, '_', '-', '.' and ':' are allowed"
  | .nameType got => s!"must be of type str, got {got.name}"
  | .blank => "must not be empty"
  | .negative => "must not be negative"
  | .nameRequired => "a name is required"
  | .fieldRequired => "is required"
  | .settingType got => s!"enum settings must be str, got {got.name}"

inductive Malformation where
  | danglingEscape
  | unclosedQuote (text : String)
  | yaml
  deriving DecidableEq

def Malformation.message : Malformation → String
  | .danglingEscape => "no escaped character"
  | .unclosedQuote text => s!"no closing quotation in '{text}'"
  | .yaml => "the text is not a YAML document"

inductive ExpectedShape where
  | scalar
  | choice
  | dict
  | inheritableDict
  | settingsDict
  deriving DecidableEq

def ExpectedShape.description : ExpectedShape → String
  | .scalar => "a scalar"
  | .choice => "an enum"
  | .dict => "a dict"
  | .inheritableDict => "an inheritable dict"
  | .settingsDict => "a dict in the settings"

inductive ItemError where
  | refused (field : String) (reason : Refusal)
  | unresolved (item property : String)
  | unknownAttribute (kind : Kind) (item property : String)
  | unknownFields (keys : List String)
  | readOnly (property : String)
  | wrongShape (property : String) (expected : ExpectedShape)
  | incomparable (type : ValueType)
  | cycle (item : String)
  | malformed (cause : Malformation)
  deriving DecidableEq

def ItemError.message : ItemError → String
  | .refused field reason => s!"Invalid value for '{field}': {reason.message}"
  | .unresolved item property =>
      s!"{item} inherits property '{property}', but neither its parents nor the settings have it"
  | .unknownAttribute kind item property =>
      kind.name ++ " \"" ++ item ++ "\" does not have property '" ++ property ++ "'"
  | .unknownFields keys =>
      s!"The following keys supplied could not be set: {Text.quotedList keys}"
  | .readOnly property => s!"Property '{property}' is derived and cannot be set"
  | .wrongShape property expected => s!"Property '{property}' is not {expected.description}"
  | .incomparable type => s!"find cannot compare type: {type.name}"
  | .cycle item => s!"Inheritance cycle detected at item '{item}'"
  | .malformed cause => s!"Malformed input: {cause.message}"

end Provisioning
