import Provisioning.Dict

/-!
Values whose type is known only when they are looked at: settings entries, stored fields and the
flat dictionaries items are read from and written to.
-/

namespace Provisioning

inductive Value where
  | null
  | bool (flag : Bool)
  | int (number : Int64)
  | float (number : Float)
  | str (text : String)
  | list (items : List Value)
  | dict (entries : List (String × Value))
  deriving Inhabited

abbrev Mapping := Dict Value

inductive ValueType where
  | null
  | bool
  | int
  | float
  | str
  | list
  | dict
  deriving DecidableEq, Repr

def ValueType.name : ValueType → String
  | .null => "null"
  | .bool => "bool"
  | .int => "int"
  | .float => "float"
  | .str => "str"
  | .list => "list"
  | .dict => "dict"

namespace Value

def type : Value → ValueType
  | .null => .null
  | .bool _ => .bool
  | .int _ => .int
  | .float _ => .float
  | .str _ => .str
  | .list _ => .list
  | .dict _ => .dict

def isNull : Value → Bool
  | .null => true
  | _ => false

def text? : Value → Option String
  | .str text => some text
  | _ => none

def items? : Value → Option (List Value)
  | .list items => some items
  | _ => none

def entries? : Value → Option Mapping
  | .dict entries => some entries
  | _ => none

def ofTexts (texts : List String) : Value :=
  .list (texts.map .str)

mutual

/-- Equality of values, with floats compared as numbers: zeros of either sign are equal, and what
is not a number differs from itself. -/
def same : Value → Value → Bool
  | .null, .null => true
  | .bool left, .bool right => left == right
  | .int left, .int right => left == right
  | .float left, .float right => left == right
  | .str left, .str right => left == right
  | .list left, .list right => sameItems left right
  | .dict left, .dict right => sameEntries left right
  | _, _ => false

def sameItems : List Value → List Value → Bool
  | [], [] => true
  | left :: lefts, right :: rights => same left right && sameItems lefts rights
  | _, _ => false

def sameEntries : List (String × Value) → List (String × Value) → Bool
  | [], [] => true
  | (leftKey, left) :: lefts, (rightKey, right) :: rights =>
      leftKey == rightKey && same left right && sameEntries lefts rights
  | _, _ => false

end

end Value

end Provisioning
