import Provisioning.Json
import Provisioning.Number.Integer
import Provisioning.Value

/-!
Values as JSON and back. JSON has no infinite number and no not-a-number: both become null.
-/

namespace Provisioning

/-- An integer that does not fit 64 bits is kept as the nearest float. -/
def Value.ofInteger (number : Int) : Value :=
  match Number.toInt64? number with
  | some fitting => .int fitting
  | none => .float (Float.ofInt number)

mutual

def Value.ofJson : Json → Value
  | .null => .null
  | .bool flag => .bool flag
  | .int number => .ofInteger number
  | .float number => .float number
  | .str text => .str text
  | .array items => .list (Value.ofJsonItems items)
  | .object members => .dict (Value.ofJsonMembers members)

def Value.ofJsonItems : List Json → List Value
  | [] => []
  | item :: rest => Value.ofJson item :: Value.ofJsonItems rest

def Value.ofJsonMembers : List (String × Json) → List (String × Value)
  | [] => []
  | (key, member) :: rest => (key, Value.ofJson member) :: Value.ofJsonMembers rest

end

mutual

def Value.toJson : Value → Json
  | .null => .null
  | .bool flag => .bool flag
  | .int number => .int number.toInt
  | .float number => if number.isFinite then .float number else .null
  | .str text => .str text
  | .list items => .array (Value.toJsonItems items)
  | .dict entries => .object (Value.toJsonMembers entries)

def Value.toJsonItems : List Value → List Json
  | [] => []
  | item :: rest => Value.toJson item :: Value.toJsonItems rest

def Value.toJsonMembers : List (String × Value) → List (String × Json)
  | [] => []
  | (key, value) :: rest => (key, Value.toJson value) :: Value.toJsonMembers rest

end

def Mapping.ofJson (document : Json) : Mapping :=
  match Value.ofJson document with
  | .dict entries => entries
  | _ => []

end Provisioning
