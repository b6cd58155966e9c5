import Entitlement.Activation
import Entitlement.Credentials
import Entitlement.Level
import Entitlement.MigrationPath
import Entitlement.Packages
import Entitlement.Program
import Entitlement.Settings
import Entitlement.System.Info

-- Whom a registration works with: the registration server, the package manager and the store of credentials.
-- A registration is a program that calls them. Every call may fail with any error; what is asked besides, and
-- the events that are reported, cannot fail. Nothing is assumed of the answers, so that what is proved of a
-- program holds with every server and on every system.
namespace Entitlement

namespace Registration

inductive ServerCall where
  | announce (regcode : String) (info : SystemInfo)
  | updateSystem (info : SystemInfo)
  | activate (product : Product) (regcode : String) (email : Option String)
  | upgrade (product : Product)
  | downgrade (product : Product)
  | deactivate (product : Product)
  | productTree (product : Product)
  | activations
  | migrations (installed : List Product) (target : Option Product)
  | synchronize (products : List Product)
  | deregister

abbrev ServerCall.Reply : ServerCall → Type
  | announce _ _ => Login
  | updateSystem _ => Unit
  | activate _ _ _ | upgrade _ | downgrade _ | deactivate _ => Service
  | productTree _ => Product
  | activations => List Activation
  | migrations _ _ => List MigrationPath
  | synchronize _ => List Product
  | deregister => Unit

inductive PackageCall where
  | installedProducts
  | installedServices
  | addService (url name : String) (refresh : Bool)
  | removeService (name : String)
  | refreshAllServices
  | installReleasePackage (identifier : String)
  | removeReleasePackage (identifier : String)
  | setReleaseVersion (version : String)
  | repositories
  | findProductPackages (identifier : String)
  | disableRepository (name : String)
  | refreshRepositories (version : Option String) (force : Bool)
  | distUpgrade (version : Option String) (options : UpgradeOptions)

abbrev PackageCall.Reply : PackageCall → Type
  | installedProducts => List Product
  | installedServices => List InstalledService
  | repositories => List Repository
  | findProductPackages _ => List ProductPackage
  | addService _ _ _ | removeService _ | refreshAllServices | installReleasePackage _
  | removeReleasePackage _ | setReleaseVersion _ | disableRepository _ | refreshRepositories _ _
  | distUpgrade _ _ => Unit

inductive StoreCall where
  | systemCredentials
  | writeSystem (credentials : Credentials)
  | removeSystem
  | writeService (service : String)
  | removeService (service : String)
  | addRegistryLogin (credentials : Credentials)
  | removeRegistryLogin (credentials : Credentials)

abbrev StoreCall.Reply : StoreCall → Type
  | systemCredentials => Credentials
  | writeSystem _ | removeSystem | writeService _ | removeService _ | addRegistryLogin _
  | removeRegistryLogin _ => Unit

inductive Question where
  | server (call : ServerCall)
  | packages (call : PackageCall)
  | store (call : StoreCall)
  | hasSystemCredentials
  | isServicePlugin (name : String)
  | fileExists (path : String)
  | report (level : Level) (event : String)

abbrev Question.Answer : Question → Type
  | server call => Result call.Reply
  | packages call => Result call.Reply
  | store call => Result call.Reply
  | hasSystemCredentials | isServicePlugin _ | fileExists _ => Bool
  | report _ _ => Unit

abbrev collaboration : Inquiry := ⟨Question, Question.Answer⟩

abbrev Action := ExceptT Error (Program collaboration)

def ask (q : Question) : Action q.Answer :=
  ExceptT.lift (Program.ask q .done : Program collaboration q.Answer)

def server (call : ServerCall) : Action call.Reply :=
  ExceptT.mk (Program.ask (.server call) .done : Program collaboration (Result call.Reply))

def packages (call : PackageCall) : Action call.Reply :=
  ExceptT.mk (Program.ask (.packages call) .done : Program collaboration (Result call.Reply))

def store (call : StoreCall) : Action call.Reply :=
  ExceptT.mk (Program.ask (.store call) .done : Program collaboration (Result call.Reply))

def debug (event : String) : Action Unit := ask (.report .debug event)

def info (event : String) : Action Unit := ask (.report .info event)

def warn (event : String) : Action Unit := ask (.report .warn event)

def isServicePlugin (name : String) : Action Bool := ask (.isServicePlugin name)

def fileExists (path : String) : Action Bool := ask (.fileExists path)

def isRegistered : Action Bool := ask .hasSystemCredentials

def requireRegistration : Action Unit := do
  if ← isRegistered then pure () else throw .systemNotRegistered

def baseProduct : Action Product := do
  match findBase (← packages .installedProducts) with
  | some base => pure base
  | none => throw .cannotDetectBaseProduct

end Registration
end Entitlement
