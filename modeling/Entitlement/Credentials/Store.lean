import Entitlement.Credentials.Registry
import Entitlement.Registration.Collaboration

-- The store of credentials: files below the root of the system, and the configuration files of container tools.
-- The system has one credentials file; every service has one of its own in the same directory, which never
-- holds a token. Files are readable by their owner only.
namespace Entitlement

structure CredentialStore where
  root : String
  registryConfigs : List String
deriving DecidableEq

namespace CredentialStore

open Host

def directory : String := "etc/zypp/credentials.d"

def systemFile : String := "SCCcredentials"

def ofRoot (root : String) : Operation CredentialStore := do
  pure ⟨root, ← RegistryLogin.defaultPaths⟩

def servicePath (s : CredentialStore) (service : String) : String :=
  Path.join (Path.join s.root directory) service

def systemPath (s : CredentialStore) : String := s.servicePath systemFile

def readFile (path : String) : Action Credentials := do
  if ← fileExists path then
    match Credentials.parse? (← orFail ("failed to read credentials: " ++ path) (readText path)) with
    | some credentials => pure credentials
    | none => throw (.malformedCredentials path)
  else throw (.missingCredentials path)

def system (s : CredentialStore) : Action Credentials := readFile s.systemPath

def hasSystem (s : CredentialStore) : Operation Bool := do
  match ← s.system.run with
  | .ok _ => pure true
  | .error _ => pure false

def writeSystem (s : CredentialStore) (credentials : Credentials) : Action Unit := do
  debug ("writing system credentials path=" ++ s.systemPath)
  writeSecret s.systemPath credentials.render

-- Keeps a new token. The file is written only if the token has changed.
def updateToken (s : CredentialStore) (token : String) : Action Unit := do
  let credentials ← s.system
  if credentials.token = some token then pure ()
  else s.writeSystem { credentials with token := some token }

def removeSystem (s : CredentialStore) : Action Unit := removeIfPresent s.systemPath

def writeService (s : CredentialStore) (service : String) : Action Unit := do
  let system ← s.system
  let path := s.servicePath service
  debug ("writing service credentials path=" ++ path)
  writeSecret path (Credentials.render ⟨system.username, system.password, none⟩)

def removeService (s : CredentialStore) (service : String) : Action Unit :=
  removeIfPresent (s.servicePath service)

def addRegistryLogin (s : CredentialStore) (c : Credentials) : Action Unit :=
  s.registryConfigs.forM fun path => RegistryLogin.addTo path c.username c.password

def removeRegistryLogin (s : CredentialStore) (c : Credentials) : Action Unit :=
  s.registryConfigs.forM fun path => discard (RegistryLogin.removeFrom path c.username c.password)

def perform (s : CredentialStore) : (call : Registration.StoreCall) → Action call.Reply
  | .systemCredentials => s.system
  | .writeSystem credentials => s.writeSystem credentials
  | .removeSystem => s.removeSystem
  | .writeService service => s.writeService service
  | .removeService service => s.removeService service
  | .addRegistryLogin credentials => s.addRegistryLogin credentials
  | .removeRegistryLogin credentials => s.removeRegistryLogin credentials

end CredentialStore
end Entitlement
