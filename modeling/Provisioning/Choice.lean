import Provisioning.ItemError
import Provisioning.Text.Blank

/-!
Fields with a fixed set of members. A member may be written in any case and with white space
around it; it is stored in its canonical spelling.
-/

namespace Provisioning

def memberFor (field : String) (members : List String) (token : String) :
    Except ItemError String :=
  let trimmed := Text.trim token
  match members.find? fun member => Text.sameIgnoringCase member trimmed with
  | some member => .ok member
  | none => .error (.refused field (.notMember trimmed members))

class Choice (α : Type) where
  all : List α
  token : α → String

namespace Choice

variable {α : Type} [Choice α]

def tokens (α : Type) [Choice α] : List String :=
  (all : List α).map token

/-- The member that `text` names. A refusal shows the text as it was given. -/
def ofToken (field : String) (text : String) : Except ItemError α :=
  let trimmed := Text.trim text
  match (all : List α).find? fun member => Text.sameIgnoringCase (token member) trimmed with
  | some member => .ok member
  | none => .error (.refused field (.notMember text (tokens α)))

end Choice

inductive Arch where
  | i386
  | x86_64
  | ppc64le
  | aarch64
  | s390x
  deriving DecidableEq, Repr

instance : Choice Arch where
  all := [.i386, .x86_64, .ppc64le, .aarch64, .s390x]
  token
    | .i386 => "i386"
    | .x86_64 => "x86_64"
    | .ppc64le => "ppc64le"
    | .aarch64 => "aarch64"
    | .s390x => "s390x"

inductive DiskDriver where
  | raw
  | qcow2
  | qed
  | vdi
  | vmdk
  deriving DecidableEq, Repr

instance : Choice DiskDriver where
  all := [.raw, .qcow2, .qed, .vdi, .vmdk]
  token
    | .raw => "raw"
    | .qcow2 => "qcow2"
    | .qed => "qed"
    | .vdi => "vdi"
    | .vmdk => "vmdk"

inductive PowerType where
  | ipmilan
  | ipmilanplus
  | redfish
  | apc
  | virsh
  deriving DecidableEq, Repr

instance : Choice PowerType where
  all := [.ipmilan, .ipmilanplus, .redfish, .apc, .virsh]
  token
    | .ipmilan => "ipmilan"
    | .ipmilanplus => "ipmilanplus"
    | .redfish => "redfish"
    | .apc => "apc"
    | .virsh => "virsh"

end Provisioning
