import Provisioning.Log
import Provisioning.Number.Integer
import Provisioning.Text.Blank

/-!
How detailed events may be: nothing passes, or everything up to a level.
-/

namespace Provisioning.Log

inductive Threshold where
  | off
  | upTo (level : Level)
  deriving DecidableEq, Repr

namespace Threshold

def admits : Threshold → Level → Bool
  | .off, _ => false
  | .upTo most, level => level.rank ≤ most.rank

def all : List Threshold :=
  [.off, .upTo .error, .upTo .warn, .upTo .info, .upTo .debug, .upTo .trace]

def name : Threshold → String
  | .off => "OFF"
  | .upTo level => level.name

def ofNumber? (characters : List Char) : Option Threshold :=
  let digits := match characters with
    | '+' :: digits => digits
    | digits => digits
  (Number.readNat? digits).bind fun number => all[number]?

/-- A threshold is written as its number, or as its name in any case. -/
def read? (text : String) : Option Threshold :=
  match ofNumber? text.toList with
  | some threshold => some threshold
  | none => all.find? fun threshold => Text.sameIgnoringCase threshold.name text

end Threshold

end Provisioning.Log
