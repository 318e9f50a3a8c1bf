import Provisioning.Proofs.LayeredKeys
import Provisioning.Proofs.SettingsFaults
import Provisioning.Settings.Loading

/-!
The settings that a configuration is loaded with: what the global file, the files of the workspace
and the environment say, each over the ones before it and all of them over the built-in settings.
-/

namespace Provisioning

namespace Settings

end Settings

namespace Configuration

end Configuration

end Provisioning
