import DocPages.Config.Decode
import DocPages.Config.Format
import DocPages.PropertyKind

/-!
What a program chooses where the library leaves it open: TOML as the format of configurations, and
the kinds of properties.
-/

namespace DocPages.Config

/-- The valid configuration in a TOML text. -/
def ofText : String → Except ConfigError Config := ConfigFormat.ofText parse?

/-- Loads the TOML configuration at a path, or the nearest one. -/
def load : FileSystem → Location → Option String → Except ConfigError Config :=
  ConfigFormat.load parse?

end DocPages.Config
