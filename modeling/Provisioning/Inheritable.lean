/-!
The state of a property that an item may leave to its ancestors.
-/

namespace Provisioning

universe u v

def inheritToken : String := "<<inherit>>"

inductive Inheritable (α : Type u) where
  | own (value : α)
  | inherit
  deriving DecidableEq

namespace Inheritable

variable {α : Type u} {β : Type v}

def isInherit : Inheritable α → Bool
  | .own _ => false
  | .inherit => true

def own? : Inheritable α → Option α
  | .own value => some value
  | .inherit => none

def map (change : α → β) : Inheritable α → Inheritable β
  | .own value => .own (change value)
  | .inherit => .inherit

end Inheritable

end Provisioning
