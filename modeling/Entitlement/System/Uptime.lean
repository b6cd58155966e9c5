import Entitlement.Host.Inquiry

-- The log of the times when the system was up, which is sent along if that is wished.
namespace Entitlement.Uptime

open Host

def logPath : String := "/etc/zypp/suse-uptime.log"

def ofText (text : String) : List String :=
  ((Text.lines text.toList).map Text.trimmed).filterMap fun line =>
    if line.isEmpty then none else some (String.ofList line)

-- Reads a log. If there is none, it has no lines.
def load (path : String) : Action (List String) := do
  if ← fileExists path then
    pure (ofText (← orFail ("failed to read uptime log: " ++ path) (readText path)))
  else do
    debug ("no uptime log path=" ++ path)
    pure []

end Entitlement.Uptime
