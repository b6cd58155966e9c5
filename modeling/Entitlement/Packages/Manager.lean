import Entitlement.Host.Inquiry
import Entitlement.Packages.Listing
import Entitlement.Registration.Collaboration
import Entitlement.Text.Quoted

-- The package manager: which commands do what a registration asks of it.
-- Every command names the root of the system that it works on, unless that is the root of the machine. A command
-- fails by an exit code that is not accepted; the first failure ends the operation.
namespace Entitlement

structure PackageManager where
  root : String
  insecure : Bool
  autoImportKeys : Bool
deriving DecidableEq

namespace PackageManager

open Host

def program : String := "/usr/bin/zypper"

def packageQuery : String := "/usr/bin/rpm"

def success : Int := 0

def noRepositories : Int := 6

-- The machine must be started again.
def rebootNeeded : Int := 102

-- The package manager must be started again.
def restartNeeded : Int := 103

def nothingProvides : Int := 104

def repositoriesSkipped : Int := 106

def ofSettings (s : Settings) : PackageManager := ⟨s.root, s.insecure, s.autoImportKeys⟩

def rootArguments (m : PackageManager) : List String :=
  if m.root.isEmpty || Path.isRoot m.root then [] else ["--root", m.root]

-- What a command says of its failure: its errors, or its output if it reported no errors.
def complaint (output : CommandOutput) : String :=
  let captured := if output.errors.all Text.isAsciiBlank then output.output else output.errors
  Text.trim (Text.decodeLenient captured)

-- Runs a command on the system; its exit code must be one of those that are accepted.
def run (m : PackageManager) (arguments : List String) (accepted : List Int) : Action Bytes := do
  let command : Command := ⟨program, m.rootArguments ++ arguments⟩
  debug ("executing command=" ++ command.line)
  let output ← Host.run command
  if accepted.contains output.exitCode then pure output.output
  else throw (.command command.line output.exitCode (complaint output))

def execute (m : PackageManager) (arguments : List String) (accepted : List Int) : Action Unit :=
  discard (m.run arguments accepted)

def fileBelow (m : PackageManager) (path : String) : String :=
  Path.join m.root (String.ofList (path.toList.dropWhile (· = '/')))

def releaseTypeDirectory : String := "/var/lib/suseRegister/OEM"

-- The release type that the vendor of the machine has set for a product line: the first line of a file.
def vendorReleaseType (m : PackageManager) (productLine : String) : Operation (Option String) := do
  if productLine.isEmpty then pure none
  else
    let path := Path.join (m.fileBelow releaseTypeDirectory) productLine
    match ← readText path with
    | .error _ => pure none
    | .ok text =>
      let first := ((Text.lines text.toList).head?.map fun line => String.ofList (Text.trimmed line)).getD ""
      if first.isEmpty then pure none
      else do
        debug ("using OEM release type path=" ++ path ++ " release_type=" ++ Text.quoted first)
        pure (some first)

def withVendorReleaseType (m : PackageManager) (p : Product) : Operation Product := do
  match ← m.vendorReleaseType p.productLine with
  | some releaseType => pure { p with releaseType := releaseType }
  | none => pure p

def installedProducts (m : PackageManager) : Action (List Product) := do
  let output ← m.run ["--disable-repositories", "--xmlout", "--non-interactive", "products", "-i"] [success]
  let products ← liftExcept (Listing.products output)
  products.mapM fun p => (m.withVendorReleaseType p : Operation Product)

def baseProduct (m : PackageManager) : Action Product := do
  match findBase (← m.installedProducts) with
  | some base => pure base
  | none => throw .cannotDetectBaseProduct

-- Whether the release package of a product is installed. A query that cannot be made finds nothing.
def isReleasePackageInstalled (m : PackageManager) (identifier : String) : Operation Bool := do
  match ← ask (.run ⟨packageQuery, m.rootArguments ++ ["-q", identifier ++ "-release"]⟩) with
  | .ok output => pure (output.exitCode == success)
  | .error _ => pure false

def maySkipRepositories (identifier : String) : Bool :=
  identifier.toList.map Char.toLower = "packagehub".toList

def keyArguments (m : PackageManager) : List String :=
  if m.autoImportKeys then ["--gpg-auto-import-keys"] else []

def installReleasePackage (m : PackageManager) (identifier : String) : Action Unit := do
  if identifier.isEmpty then pure ()
  else if ← m.isReleasePackageInstalled identifier then pure ()
  else do
    info ("Installing release package for " ++ identifier)
    m.execute
      (m.keyArguments ++ ["--no-refresh", "--non-interactive", "install", "--no-recommends",
        "--auto-agree-with-product-licenses", "-t", "product", identifier])
      (success :: if maySkipRepositories identifier then [repositoriesSkipped] else [])

def removeReleasePackage (m : PackageManager) (identifier : String) : Action Unit :=
  if identifier.isEmpty then pure ()
  else m.execute ["--no-refresh", "--non-interactive", "remove", "-t", "product", identifier]
    [success, nothingProvides]

def installedServices (m : PackageManager) : Action (List InstalledService) := do
  let output ← m.run ["--xmlout", "--non-interactive", "services", "-d"] [success, noRepositories]
  liftExcept (Listing.services output)

def uncheckedUrl (url : String) : String :=
  if Text.occurs "ssl_verify=" url then url
  else url ++ (if url.toList.contains '?' then "&" else "?") ++ "ssl_verify=no"

def removeService (m : PackageManager) (name : String) : Action Unit := do
  debug ("removing service service=" ++ Text.quoted name)
  m.execute ["--non-interactive", "removeservice", name] [success]

def refreshService (m : PackageManager) (name : String) : Action Unit :=
  m.execute ["--non-interactive", "refs", name] [success]

def addService (m : PackageManager) (url name : String) (refresh : Bool) : Action Unit := do
  m.removeService name
  info ("Adding service " ++ name)
  m.execute ["--non-interactive", "addservice", "-t", "ris",
    if m.insecure then uncheckedUrl url else url, name] [success]
  m.execute ["--non-interactive", "modifyservice", "-r", name] [success]
  if refresh then m.refreshService name

def refreshAllServices (m : PackageManager) : Action Unit := m.execute ["--non-interactive", "refs"] [success]

def pluginDirectory : String := "/usr/lib/zypp/plugins/services"

def isServicePlugin (m : PackageManager) (name : String) : Operation Bool :=
  fileExists (Path.join (m.fileBelow pluginDirectory) name)

def releaseArguments (version : Option String) : List String :=
  match version with
  | some version => ["--releasever", version]
  | none => []

def setReleaseVersion (m : PackageManager) (version : String) : Action Unit :=
  m.execute ["--non-interactive", "--releasever", version, "ref", "-f"] [success]

def repositories (m : PackageManager) : Action (List Repository) := do
  let output ← m.run ["--xmlout", "--non-interactive", "repos", "-d"] [success, noRepositories]
  liftExcept (Listing.repositories output)

def findProductPackages (m : PackageManager) (identifier : String) : Action (List ProductPackage) := do
  let output ← m.run ["--xmlout", "--no-refresh", "--non-interactive", "search", "-s", "--match-exact", "-t",
    "product", identifier] [success, noRepositories, nothingProvides]
  liftExcept (Listing.packages output)

def disableRepository (m : PackageManager) (name : String) : Action Unit :=
  m.execute ["--non-interactive", "modifyrepo", "-d", name] [success]

def refreshRepositories (m : PackageManager) (version : Option String) (force : Bool) : Action Unit :=
  m.execute (["--non-interactive"] ++ releaseArguments version ++ m.keyArguments ++ ["ref"]
    ++ if force then ["-f"] else []) [success]

-- An argument that is given only if it is wished.
def wished (wish : Bool) (argument : String) : List String := if wish then [argument] else []

-- Upgrades the distribution. Whether vendors may change is always said, whatever the system's default.
def distUpgrade (m : PackageManager) (version : Option String) (o : UpgradeOptions) : Action Unit :=
  m.execute (wished o.nonInteractive "--non-interactive" ++ releaseArguments version
    ++ ["--no-refresh", "dist-upgrade"]
    ++ wished o.autoAgreeWithLicenses "--auto-agree-with-licenses"
    ++ [if o.allowVendorChange then "--allow-vendor-change" else "--no-allow-vendor-change"]
    ++ wished o.noRecommends "--no-recommends" ++ wished o.downloadOnly "--download-only"
    ++ wished o.dryRun "--dry-run") [success, rebootNeeded, restartNeeded]

def distributionTarget (m : PackageManager) : Action String := do
  let output ← m.run ["targetos"] [success]
  pure (Text.trim (Text.decodeLenient output))

def perform (m : PackageManager) : (call : Registration.PackageCall) → Action call.Reply
  | .installedProducts => m.installedProducts
  | .installedServices => m.installedServices
  | .addService url name refresh => m.addService url name refresh
  | .removeService name => m.removeService name
  | .refreshAllServices => m.refreshAllServices
  | .installReleasePackage identifier => m.installReleasePackage identifier
  | .removeReleasePackage identifier => m.removeReleasePackage identifier
  | .setReleaseVersion version => m.setReleaseVersion version
  | .repositories => m.repositories
  | .findProductPackages identifier => m.findProductPackages identifier
  | .disableRepository name => m.disableRepository name
  | .refreshRepositories version force => m.refreshRepositories version force
  | .distUpgrade version options => m.distUpgrade version options

end PackageManager
end Entitlement
