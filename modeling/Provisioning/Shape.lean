import Provisioning.Choice

/-!
The shapes that the values of a field take, and the state a field starts in.
-/

namespace Provisioning

inductive Derivation where
  | kernelDevicePath
  | initrdDevicePath
  deriving DecidableEq, Repr

def Derivation.sourceField : Derivation → String
  | .kernelDevicePath => "remote_boot_kernel"
  | .initrdDevicePath => "remote_boot_initrd"

/-- The plain shapes hold a value of their own; the `inherit` shapes may leave it to an ancestor.
With `multiple`, the text form of a mapping may give a key more than once. -/
inductive Shape where
  | text
  | bool
  | int
  | float
  | choice (members : List String)
  | map (multiple : Bool)
  | inheritText
  | inheritList
  | inheritBool
  | inheritInt
  | inheritFloat
  | inheritChoice (members : List String)
  | inheritMap (multiple : Bool)
  | inheritYamlMap
  | interfaces
  | derived (derivation : Derivation)
  deriving DecidableEq, Repr

namespace Shape

def isResolvable : Shape → Bool
  | .inheritText | .inheritList | .inheritBool | .inheritInt | .inheritFloat
  | .inheritChoice _ | .inheritMap _ | .inheritYamlMap => true
  | _ => false

def isMapping : Shape → Bool
  | .map _ | .inheritMap _ | .inheritYamlMap => true
  | _ => false

def members? : Shape → Option (List String)
  | .choice members | .inheritChoice members => some members
  | _ => none

end Shape

inductive Initial where
  | inherit
  | empty
  | text (text : String)
  | bool (flag : Bool)
  | int (number : Int64)
  | member (token : String)
  deriving DecidableEq

end Provisioning
