import Provisioning.Value

/-!
The settings that every chain of inheritance ends in.
-/

namespace Provisioning

structure Settings where
  values : Mapping := []

namespace Settings

def get? (settings : Settings) (key : String) : Option Value :=
  settings.values.get? key

def insert (settings : Settings) (key : String) (value : Value) : Settings :=
  ⟨settings.values.insert key value⟩

def defaultKey (key : String) : String :=
  "default_" ++ key

def terminus? (settings : Settings) (key : String) : Option Value :=
  match settings.get? key with
  | some value => some value
  | none => settings.get? (defaultKey key)

def builtin : Settings := ⟨[
  ("autoinstall_meta", .dict []),
  ("boot_files", .dict []),
  ("default_autoinstall", .str "default.ks"),
  ("default_ownership", .list [.str "admin"]),
  ("default_virt_disk_driver", .str "raw"),
  ("default_virt_file_size", .float 5.0),
  ("default_virt_ram", .int 512),
  ("enable_menu", .bool true),
  ("fetchable_files", .dict []),
  ("kernel_options", .dict []),
  ("kernel_options_post", .dict []),
  ("mgmt_classes", .list []),
  ("mgmt_parameters", .dict []),
  ("power_management_default_type", .str "ipmilanplus"),
  ("proxy_url_ext", .str ""),
  ("proxy_url_int", .str ""),
  ("template_files", .dict [])
]⟩

theorem builtin_sorted : Dict.Sorted builtin.values := by
  simp only [Dict.Sorted, builtin]
  decide

end Settings

end Provisioning
