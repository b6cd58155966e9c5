import Entitlement.Host.Inquiry
import Entitlement.Json.Access
import Entitlement.Json.Decode
import Entitlement.Text.Base64

-- Logins to the container registry, in the configuration files of container tools.
-- Such a file is a JSON object with a member `auths` that holds an entry for each registry. Only the entry of one
-- registry is ever touched: it is added if there is none, and removed if it holds a given login. All else in the
-- file stays.
namespace Entitlement.RegistryLogin

def registry : String := "https://registry.suse.com"

def encode (login password : String) : String :=
  String.ofList (Text.Base64.encode (Text.encode (login ++ ":" ++ password)))

-- The login and the password in an encoded login. The first colon ends the login.
def decode? (auth : String) : Option (String × String) := do
  let text ← Text.decode? (← Text.Base64.decode? auth.toList)
  let (login, password) ← Text.splitFirst ':' text.toList
  some (String.ofList login, String.ofList password)

abbrev Members := List (String × Json)

-- The entries of a configuration; without `auths`, or if that is `null`, there are none.
def entries (config : Members) : Result Members :=
  match Json.lookUp config "auths" with
  | none | some .null => .ok []
  | some (.object entries) => .ok entries
  | some _ => .error (.config "registry config 'auths' is not an object")

def withEntries (config entries : Members) : Members := Json.Reader.insertMember "auths" (.object entries) config

-- The configuration with a login added; nothing if there is an entry for the registry.
def add (login password : String) (config : Members) : Result (Option Members) := do
  let entries ← entries config
  if (Json.lookUp entries registry).isSome then pure none
  else
    let entry := Json.object [("auth", .string (encode login password))]
    pure (some (withEntries config (Json.Reader.insertMember registry entry entries)))

def login? : Json → Option (String × String)
  | .object members => match Json.lookUp members "auth" with
    | some (.string auth) => decode? auth
    | _ => none
  | _ => none

-- The configuration without a login; nothing if the entry for the registry is not that login.
def remove (login password : String) (config : Members) : Result (Option Members) := do
  let entries ← entries config
  if (Json.lookUp entries registry).bind login? = some (login, password) then
    pure (some (withEntries config (entries.filter fun m => m.1 != registry)))
  else pure none

-- The configuration in a file. An empty file, or one of blanks only, is an empty configuration.
def ofBytes (path : String) (bytes : Bytes) : Result Members :=
  if bytes.all Text.isAsciiBlank then .ok []
  else do
    match ← Json.Format.value.decode bytes with
    | .object members => pure members
    | _ => throw (.config ("registry config is not a JSON object: " ++ path))

open Host

def load (path : String) : Action (Option Members) := do
  if ← fileExists path then
    let bytes ← orFail ("failed to read registry config: " ++ path) (read path)
    some <$> liftExcept (ofBytes path bytes)
  else pure none

def save (path : String) (config : Members) : Action Unit := writeSecret path (Json.object config).pretty

def addTo (path login password : String) : Action Unit := do
  let config := (← load path).getD []
  match ← liftExcept (add login password config) with
  | some config => save path config
  | none => debug ("registry already configured, skipping path=" ++ path)

def removeFrom (path login password : String) : Action Bool := do
  match ← load path with
  | none => pure false
  | some config =>
    match ← liftExcept (remove login password config) with
    | some config => do
      save path config
      pure true
    | none => pure false

def defaultPaths : Operation (List String) := do
  let home ← home
  let runtime ← environment "XDG_RUNTIME_DIR"
  pure ((home.map fun path => Path.join path ".docker/config.json").toList
    ++ (runtime.map fun path => Path.join path "containers/auth.json").toList)

end Entitlement.RegistryLogin
