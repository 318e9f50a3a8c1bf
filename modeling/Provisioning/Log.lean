/-!
Log events as data: what the operations on items and settings report while they work.
-/

namespace Provisioning.Log

inductive Level where
  | error
  | warn
  | info
  | debug
  | trace
  deriving DecidableEq, Repr

namespace Level

def name : Level → String
  | .error => "ERROR"
  | .warn => "WARN"
  | .info => "INFO"
  | .debug => "DEBUG"
  | .trace => "TRACE"

def rank : Level → Nat
  | .error => 1
  | .warn => 2
  | .info => 3
  | .debug => 4
  | .trace => 5

end Level

/-- A plain text is shown as it is; a quoted one in quotes, where the format has quotes at all. -/
inductive FieldValue where
  | plain (text : String)
  | quoted (text : String)
  | count (number : Nat)
  deriving DecidableEq

structure Event where
  level : Level
  target : String
  message : String
  fields : List (String × FieldValue) := []
  deriving DecidableEq

end Provisioning.Log
