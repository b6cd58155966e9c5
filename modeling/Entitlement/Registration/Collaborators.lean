import Entitlement.Packages.Manager
import Entitlement.Server

-- The collaborators of a registration on a machine: a server that is asked over the network, a package manager
-- that is run, and a store of credentials in files.
-- A registration asks its collaborators by calls that fail or succeed. On a machine each call is an operation of
-- its own, so that the whole registration is an operation on that machine.
namespace Entitlement.Registration

structure Collaborators where
  server : Server
  packages : PackageManager
  store : CredentialStore

namespace Collaborators

def ofSettings (s : Settings) : Host.Operation Collaborators := do
  let store ← CredentialStore.ofRoot s.root
  pure ⟨← Server.ofSettings s store, PackageManager.ofSettings s, store⟩

def answer (c : Collaborators) : (q : collaboration.Question) → Host.Operation (collaboration.Answer q)
  | .server call => (c.server.perform call).run
  | .packages call => (c.packages.perform call).run
  | .store call => (c.store.perform call).run
  | .hasSystemCredentials => c.store.hasSystem
  | .isServicePlugin name => c.packages.isServicePlugin name
  | .fileExists path => Host.fileExists path
  | .report level event => Host.ask (.report level event)

def perform (c : Collaborators) (action : Action α) : Host.Action α := Program.attempt c.answer action

end Collaborators
end Entitlement.Registration
