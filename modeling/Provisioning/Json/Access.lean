import Provisioning.Dict
import Provisioning.Json

/-!
Looking into a JSON document. Every look has an optional form, and a form that takes an empty value
for whatever is missing or of another type.
-/

namespace Provisioning.Json

def text? : Json → Option String
  | .str text => some text
  | _ => none

def flag? : Json → Option Bool
  | .bool flag => some flag
  | _ => none

def toText (document : Json) : String :=
  document.text?.getD ""

def toFlag (document : Json) : Bool :=
  document.flag?.getD false

def toItems : Json → List Json
  | .array items => items
  | _ => []

def toTexts (document : Json) : List String :=
  document.toItems.map toText

def toMembers : Json → List (String × Json)
  | .object members => members
  | _ => []

def member? (document : Json) (key : String) : Option Json :=
  Dict.get? document.toMembers key

def member (document : Json) (key : String) : Json :=
  (document.member? key).getD .null

def memberText (document : Json) (key : String) : String :=
  (document.member key).toText

def memberFlag (document : Json) (key : String) : Bool :=
  (document.member key).toFlag

end Provisioning.Json
