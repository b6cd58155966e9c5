import Entitlement.Host.Inquiry
import Entitlement.Settings

-- The settings file on the machine.
namespace Entitlement.Settings

open Host

def defaultPath : String := "/etc/entitle.toml"

-- Reads the file. If there is none, all settings have their default.
def load (path : String) : Action Settings := do
  if ← fileExists path then
    match parse? (← orFail ("failed to read config: " ++ path) (readText path)) with
    | some settings => pure settings
    | none => throw (.config path)
  else pure defaults

def save (s : Settings) (path : String) : Action Unit := do
  match Path.parent? path with
  | some parent =>
    orFail ("failed to create config dir: " ++ parent) (ask (.file (.createDirectories parent)))
  | none => pure ()
  orFail ("failed to write config: " ++ path) (ask (.file (.write path (Text.encode s.render))))

end Entitlement.Settings
