/-!
The kinds of items and what each kind may hang under.
-/

namespace Provisioning

inductive Kind where
  | distro
  | profile
  | system
  | template
  deriving DecidableEq, Repr

namespace Kind

/-- Every kind, in the order in which names are searched. -/
def all : List Kind := [.distro, .profile, .system, .template]

def name : Kind → String
  | .distro => "distro"
  | .profile => "profile"
  | .system => "system"
  | .template => "template"

def ofName? (text : String) : Option Kind :=
  all.find? fun kind => kind.name == text

def hasTree : Kind → Bool
  | .template => false
  | _ => true

def hasChildren : Kind → Bool
  | .distro | .profile => true
  | .system | .template => false

/-- The kind of the parent. A subobject hangs under an item of its own kind. -/
def parentKind? : Kind → (isSubobject : Bool) → Option Kind
  | .profile, true => some .profile
  | .profile, false => some .distro
  | .system, _ => some .profile
  | .distro, _ | .template, _ => none

/-- The kinds that a child's name may refer to, in the order in which they are tried. -/
def childKinds : Kind → List Kind
  | .distro => [.profile]
  | .profile => [.profile, .system]
  | .system | .template => []

def requiredFields : Kind → List String
  | .distro => ["kernel"]
  | .profile | .system => ["parent"]
  | .template => ["template_uri"]

theorem mem_all (kind : Kind) : kind ∈ all := by
  cases kind <;> decide

theorem ofName?_name (kind : Kind) : ofName? kind.name = some kind := by
  cases kind <;> decide

end Kind

end Provisioning
