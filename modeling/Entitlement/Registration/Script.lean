import Entitlement.Host.FileSystem
import Entitlement.Registration.Collaboration

-- Collaborators that follow a script: what they answer is settled beforehand, rules say which calls fail, and all
-- calls and events are kept.
-- They show a registration by itself, without a server, a package manager or files of credentials.
namespace Entitlement.Registration

inductive Call where
  | server (call : ServerCall)
  | packages (call : PackageCall)
  | store (call : StoreCall)

def ServerCall.name : ServerCall → String
  | announce _ _ => "announce"
  | updateSystem _ => "update_system"
  | activate _ _ _ => "activate"
  | upgrade _ => "upgrade"
  | downgrade _ => "downgrade"
  | deactivate _ => "deactivate"
  | productTree _ => "product_tree"
  | activations => "activations"
  | migrations _ _ => "migrations"
  | synchronize _ => "synchronize"
  | deregister => "deregister"

def PackageCall.name : PackageCall → String
  | installedProducts => "installed_products"
  | installedServices => "installed_services"
  | addService _ _ _ => "add_service"
  | removeService _ => "remove_service"
  | refreshAllServices => "refresh_all_services"
  | installReleasePackage _ => "install_release_package"
  | removeReleasePackage _ => "remove_release_package"
  | setReleaseVersion _ => "set_release_version"
  | repositories => "repositories"
  | findProductPackages _ => "find_product_packages"
  | disableRepository _ => "disable_repository"
  | refreshRepositories _ _ => "refresh_repositories"
  | distUpgrade _ _ => "dist_upgrade"

def StoreCall.name : StoreCall → String
  | systemCredentials => "system"
  | writeSystem _ => "write_system"
  | removeSystem => "remove_system"
  | writeService _ => "write_service"
  | removeService _ => "remove_service"
  | addRegistryLogin _ => "add_registry"
  | removeRegistryLogin _ => "remove_registry"

def Call.name : Call → String
  | server call => call.name
  | packages call => call.name
  | store call => call.name

-- A rule by which calls of a label fail: some of them pass first, and only so many fail.
structure Mishap where
  label : String
  error : Error
  skip : Nat
  times : Option Nat
  seen : Nat

def Mishap.strikes (m : Mishap) : Bool := m.skip < m.seen && m.times.all fun n => m.seen ≤ m.skip + n

structure Script where
  label : Call → String
  files : FileSystem
  isRegistered : Bool
  login : Login
  credentialsPath : String
  tree : Product
  installed : List Product
  services : List InstalledService
  activations : List Activation
  migrations : List MigrationPath
  repositories : List Repository
  packages : List ProductPackage
  plugins : List String
  serviceFor : ServerCall → Product → Service
  downgradesByUpgrade : Bool
  mishaps : List Mishap
  calls : List Call
  events : List (Level × String)

namespace Script

-- The error of the first rule that strikes a call; the rules before it have seen the call, too.
def strike (label : String) : List Mishap → List Mishap × Option Error
  | [] => ([], none)
  | m :: rest =>
    let m := if m.label = label then { m with seen := m.seen + 1 } else m
    if m.label = label && m.strikes then (m :: rest, some m.error)
    else
      let (rest, error) := strike label rest
      (m :: rest, error)

def isKept : Call → Bool
  | .store .systemCredentials => false
  | _ => true

-- Makes a call, which a rule may let fail before anything comes of it.
def make (call : Call) (reply : Script → Result α × Script) : StateM Script (Result α) := fun s =>
  let (mishaps, error) := strike (s.label call) s.mishaps
  let s := { s with mishaps := mishaps, calls := if isKept call then call :: s.calls else s.calls }
  match error with
  | some e => (.error e, s)
  | none => reply s

def answerServer (call : ServerCall) : StateM Script (Result call.Reply) := fun s =>
  match call with
  | .announce regcode info => make (.server (.announce regcode info)) (fun s => (.ok s.login, s)) s
  | .activate p r e =>
    make (.server (.activate p r e)) (fun s => (.ok (s.serviceFor (.activate p r e) p), s)) s
  | .upgrade p => make (.server (.upgrade p)) (fun s => (.ok (s.serviceFor (.upgrade p) p), s)) s
  | .downgrade p =>
    let call : ServerCall := if s.downgradesByUpgrade then .upgrade p else .downgrade p
    make (.server call) (fun s => (.ok (s.serviceFor call p), s)) s
  | .deactivate p => make (.server (.deactivate p)) (fun s => (.ok (s.serviceFor (.deactivate p) p), s)) s
  | .productTree p => make (.server (.productTree p)) (fun s => (.ok s.tree, s)) s
  | .activations => make (.server .activations) (fun s => (.ok s.activations, s)) s
  | .migrations ps target => make (.server (.migrations ps target)) (fun s => (.ok s.migrations, s)) s
  | .synchronize ps => make (.server (.synchronize ps)) (fun s => (.ok ps, s)) s
  | .updateSystem info => make (.server (.updateSystem info)) (fun s => (.ok (), s)) s
  | .deregister => make (.server .deregister) (fun s => (.ok (), s)) s

-- What the package manager answers. Of what it is told to change, nothing changes its answers.
def packagesReply (s : Script) : (call : PackageCall) → call.Reply
  | .installedProducts => s.installed
  | .installedServices => s.services
  | .repositories => s.repositories
  | .findProductPackages identifier => s.packages.filter fun p => p.name == identifier
  | .addService _ _ _ | .removeService _ | .refreshAllServices | .installReleasePackage _
  | .removeReleasePackage _ | .setReleaseVersion _ | .disableRepository _ | .refreshRepositories _ _
  | .distUpgrade _ _ => ()

-- What the store answers. A system is registered as long as it has credentials.
def storeReply (s : Script) : (call : StoreCall) → Result call.Reply × Script
  | .systemCredentials =>
    (if s.isRegistered then .ok s.login.credentials else .error (.missingCredentials s.credentialsPath), s)
  | .writeSystem _ => (.ok (), { s with isRegistered := true })
  | .removeSystem => (.ok (), { s with isRegistered := false })
  | .writeService _ | .removeService _ | .addRegistryLogin _ | .removeRegistryLogin _ => (.ok (), s)

def answer : (q : collaboration.Question) → StateM Script (collaboration.Answer q)
  | .server call => answerServer call
  | .packages call => make (.packages call) fun s => (.ok (s.packagesReply call), s)
  | .store call => make (.store call) fun s => s.storeReply call
  | .hasSystemCredentials => fun s => (s.isRegistered, s)
  | .isServicePlugin name => fun s => (s.plugins.contains name, s)
  | .fileExists path => fun s => (s.files.pathExists path, s)
  | .report level event => fun s => ((), { s with events := (level, event) :: s.events })

def run (action : Action α) : StateM Script (Result α) := Program.attempt answer action

end Script
end Entitlement.Registration
