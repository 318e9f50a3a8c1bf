import Provisioning.Kind
import Provisioning.Shape

/-!
The fields of every kind, each declared once with its shape, its first state, and the names under
which it is resolved and found in the settings.
-/

namespace Provisioning

inductive CoreField where
  | uid
  | name
  | comment
  | ctime
  | mtime
  | parent
  | depth
  | isSubobject
  | children
  deriving DecidableEq, Repr

inductive Access where
  | core (field : CoreField)
  | property (shape : Shape)
  deriving DecidableEq, Repr

/-- `resolveAs` and `settingsKey` are given where they differ from the field's own name and from
the name under which it is resolved. -/
structure Field where
  name : String
  access : Access
  initial : Initial := .empty
  resolveAs : Option String := none
  settingsKey : Option String := none
  deriving DecidableEq

namespace Field

def shape? (field : Field) : Option Shape :=
  match field.access with
  | .property shape => some shape
  | .core _ => none

def resolutionName (field : Field) : String :=
  field.resolveAs.getD field.name

def terminusKey (field : Field) : String :=
  field.settingsKey.getD field.resolutionName

def isDerived (field : Field) : Bool :=
  match field.access with
  | .property (.derived _) => true
  | _ => false

end Field

def interfaceFields : List String := [
  "bonding_opts", "bridge_opts", "cnames", "connected_mode", "dhcp_tag", "dns_name",
  "if_gateway", "interface_master", "interface_type", "ip_address", "ipv6_address",
  "ipv6_default_gateway", "ipv6_mtu", "ipv6_prefix", "ipv6_secondaries", "ipv6_static_routes",
  "mac_address", "management", "mtu", "netmask", "static", "static_routes", "virt_bridge"
]

namespace Schema

def core (name : String) (field : CoreField) : Field :=
  { name, access := .core field }

def property (name : String) (shape : Shape) (initial : Initial) : Field :=
  { name, access := .property shape, initial }

def identityFields : List Field := [
  core "uid" .uid,
  core "name" .name,
  core "comment" .comment,
  core "ctime" .ctime,
  core "mtime" .mtime,
  { property "owners" .inheritList .inherit with settingsKey := some "default_ownership" }
]

def treeFields : List Field := [
  core "parent" .parent,
  core "depth" .depth,
  core "is_subobject" .isSubobject,
  core "children" .children
]

def bootFields : List Field := [
  property "kernel_options" (.inheritMap true) .empty,
  property "kernel_options_post" (.inheritMap true) .empty,
  property "autoinstall_meta" (.inheritMap true) .empty,
  property "fetchable_files" (.inheritMap false) .empty,
  property "boot_files" (.inheritMap false) .empty,
  property "template_files" (.map false) .empty,
  property "mgmt_classes" .inheritList .empty,
  property "mgmt_parameters" .inheritYamlMap .empty
]

def autoinstallField : Field :=
  property "autoinstall" .inheritText .inherit

def proxyField : Field :=
  { property "proxy" .inheritText .inherit with resolveAs := some "proxy_url_int" }

def diskDriverField : Field :=
  property "virt_disk_driver" (.inheritChoice (Choice.tokens DiskDriver)) .inherit

def distroFields : List Field := [
  property "arch" (.choice (Choice.tokens Arch)) (.member "x86_64"),
  property "kernel" .text .empty,
  property "initrd" .text .empty,
  property "os_version" .text .empty,
  property "remote_boot_kernel" .text .empty,
  property "remote_boot_initrd" .text .empty,
  property "remote_grub_kernel" (.derived .kernelDevicePath) .empty,
  property "remote_grub_initrd" (.derived .initrdDevicePath) .empty
]

def profileFields : List Field := [
  autoinstallField,
  proxyField,
  property "enable_menu" .inheritBool .inherit,
  property "virt_ram" .inheritInt .inherit,
  property "virt_file_size" .inheritFloat .inherit,
  diskDriverField
]

def systemFields : List Field := [
  autoinstallField,
  proxyField,
  diskDriverField,
  property "hostname" .text .empty,
  property "netboot_enabled" .bool (.bool false),
  { property "power_type" (.inheritChoice (Choice.tokens PowerType)) .inherit with
    settingsKey := some "power_management_default_type" },
  property "interfaces" .interfaces .empty
]

def templateFields : List Field := [
  property "template_type" .text (.text "cheetah"),
  property "template_uri" .text .empty,
  property "built_in" .bool (.bool false)
]

end Schema

open Schema in
def Kind.fields : Kind → List Field
  | .distro => identityFields ++ treeFields ++ bootFields ++ distroFields
  | .profile => identityFields ++ treeFields ++ bootFields ++ profileFields
  | .system => identityFields ++ treeFields ++ bootFields ++ systemFields
  | .template => identityFields ++ templateFields

namespace Kind

def field? (kind : Kind) (name : String) : Option Field :=
  kind.fields.find? fun field => field.name == name

def hasField (kind : Kind) (name : String) : Bool :=
  (kind.field? name).isSome

/-- The field of this name, or else the one that is resolved under it. -/
def resolvable? (kind : Kind) (property : String) : Option Field :=
  match kind.field? property with
  | some field => some field
  | none => kind.fields.find? fun field => field.resolveAs == some property

end Kind

end Provisioning
