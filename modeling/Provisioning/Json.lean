/-!
JSON documents with their numbers already read. Integers and floats stay apart: a number written
without a point or an exponent is an integer.
-/

namespace Provisioning

inductive Json where
  | null
  | bool (flag : Bool)
  | int (number : Int)
  | float (number : Float)
  | str (text : String)
  | array (items : List Json)
  | object (members : List (String × Json))
  deriving Inhabited

end Provisioning
