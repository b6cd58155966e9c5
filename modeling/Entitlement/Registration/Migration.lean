import Entitlement.Edition
import Entitlement.Registration.Rollback
import Entitlement.Registration.Status

-- Planning a migration and applying it.
-- A plan lists the paths that the server offers. Applying a path upgrades its products on the server, refreshes the
-- repositories and upgrades the distribution. What fails before the upgrade is complete is rolled back on the server,
-- except when the upgrade stopped half-way: then the system is no longer what the server would be rolled back to.
namespace Entitlement.Registration

-- The exit code of a distribution upgrade that stopped while it was changing the system.
def commitFailed : Int := 8

structure MigrationPlan where
  systemProducts : List Product
  installed : TextSet
  available : List MigrationPath
  unavailable : List MigrationPath

namespace MigrationPlan

def isInstalled (plan : MigrationPlan) (product : Product) : Bool :=
  plan.installed.contains product.tripletText

def toJson (plan : MigrationPlan) : Json := .object [
  ("available", .array (plan.available.map MigrationPath.toJson)),
  ("unavailable", .array (plan.unavailable.map MigrationPath.toJson))]

end MigrationPlan

structure MigrationOptions where
  disableObsolete : Bool := false
  upgrade : UpgradeOptions := {}

structure MigrationReport where
  baseVersion : String
  disabled : List String
deriving DecidableEq, Inhabited

structure MigrationFailure where
  error : Error
  inconsistent : Bool
  rollback : Option (Result Unit)

def MigrationFailure.message (failure : MigrationFailure) : String :=
  "migration failed: " ++ failure.error.message

-- Installs the release packages of the products, whatever happens to some; tells whether all are there.
def installReleasePackages : List Product → Action Bool
  | [] => pure true
  | product :: rest => do
    match ← outcome (packages (.installReleasePackage product.name)) with
    | .ok () => installReleasePackages rest
    | .error e =>
      warn ("Can't install release package for registered product " ++ product.name ++ ": " ++ e.message)
      let _ ← installReleasePackages rest
      return false

-- Installs the release package of every product of the system. If one is missing and `rollBack` is set, the server
-- is rolled back to what is installed, and the products are read again.
def checkSystemProducts (rollBack : Bool) : Action (List Product) := do
  let products ← systemProducts
  let complete ← installReleasePackages products
  if !complete && rollBack then
    info "Calling rollback to make sure the server is synchronized with the system state."
    rollback
    systemProducts
  else return products

def productMigrations (installed : List Product) (target : Option Product) : Action (List MigrationPath) := do
  requireRegistration
  server (.migrations installed target)

def planMigrations (target : Option Triplet) : Action MigrationPlan := do
  requireRegistration
  packages (.refreshRepositories none false)
  let products ← checkSystemProducts true
  let installed := TextSet.ofList (tripletTexts products)
  let target := target.map fun t => { Product.ofTriplet t with isBase := true }
  let paths ← productMigrations products target
  let available := (paths.filter MigrationPath.isAvailable).map (MigrationPath.sort installed)
  let unavailable := (paths.filter (!MigrationPath.isAvailable ·)).map (MigrationPath.sort installed)
  debug ("migration paths available=" ++ toString available.length
    ++ " unavailable=" ++ toString unavailable.length)
  return ⟨products, installed, available, unavailable⟩

def stepFor (action product : String) (body : Action α) : Action α :=
  ExceptT.adapt (Error.productStep action product) body

-- Upgrades the products of a path on the server; the answer is the version of the last base product, or the
-- version given if there is none.
def upgradeProducts (baseVersion : String) : List Product → Action String
  | [] => pure baseVersion
  | product :: rest => do
    let name := product.displayName
    info ("Upgrading product " ++ name)
    let service ← stepFor "Upgrading" name (server (.upgrade product))
    stepFor "Updating service of" name (reconcileService service)
    upgradeProducts (if product.isBase then product.version else baseVersion) rest

-- Migrates the system on the server; the answer is the version that the system is pinned to.
def migrateSystem (path : MigrationPath) : Action String := do
  requireRegistration
  let installed ← packages .installedProducts
  let baseVersion ← upgradeProducts "" path
  let _ ← server (.synchronize (MigrationPath.applyTo installed path))
  if !baseVersion.isEmpty then packages (.setReleaseVersion baseVersion)
  return baseVersion

def enabledLabels (repositories : List Repository) : List String :=
  ((repositories.filter (·.enabled)).flatMap fun r => [r.name, r.aliasName]).filter (!·.isEmpty)

def isObsolete (enabled disabled : List String) (product : Product) (package : ProductPackage) : Bool :=
  enabled.contains package.repository && !disabled.contains package.repository
    && Edition.compare package.edition product.version == .lt

-- Disables the repositories of obsolete packages of a product; the answer lists all that are disabled.
def disableFor (enabled : List String) (product : Product) (disabled : List String) :
    List ProductPackage → Action (List String)
  | [] => pure disabled
  | package :: rest => do
    if isObsolete enabled disabled product package then
      info ("Disabling obsolete repository " ++ package.repository)
      packages (.disableRepository package.repository)
      disableFor enabled product (disabled ++ [package.repository]) rest
    else disableFor enabled product disabled rest

def disableForAll (enabled disabled : List String) : List Product → Action (List String)
  | [] => pure disabled
  | product :: rest => do
    let found ← packages (.findProductPackages product.name)
    let disabled ← disableFor enabled product disabled found
    disableForAll enabled disabled rest

def disableObsoleteRepositories (path : MigrationPath) : Action (List String) := do
  let repositories ← packages .repositories
  disableForAll (enabledLabels repositories) [] path

def releaseVersion (version : String) : Option String := if version.isEmpty then none else some version

def prepareMigration (path : MigrationPath) (options : MigrationOptions) : Action MigrationReport := do
  let baseVersion ← migrateSystem path
  let disabled ← if options.disableObsolete then disableObsoleteRepositories path else pure []
  packages (.refreshRepositories (releaseVersion baseVersion) true)
  return ⟨baseVersion, disabled⟩

def rollBackAfter (error : Error) : Action MigrationFailure := do
  warn ("Migration failed: " ++ error.message)
  info "Performing repository rollback ..."
  let result ← outcome rollback
  match result with
  | .ok () => info "Rollback successful"
  | .error e => warn ("Rollback failed: " ++ e.message)
  return ⟨error, false, some result⟩

def pathSummary (path : MigrationPath) : String :=
  match findBase path with
  | some base => base.displayName
  | none => "the selected products"

-- Applies a migration. No error escapes: a failure is part of the answer.
def applyMigration (path : MigrationPath) (options : MigrationOptions) :
    Action (Except MigrationFailure MigrationReport) := do
  match ← outcome (prepareMigration path options) with
  | .error e => return .error (← rollBackAfter e)
  | .ok report =>
    match ← outcome (packages (.distUpgrade (releaseVersion report.baseVersion) options.upgrade)) with
    | .error e =>
      if e.exitCode = some commitFailed then
        warn "The migration has failed and the system is most likely in an inconsistent state"
        return .error ⟨e, true, none⟩
      else return .error (← rollBackAfter e)
    | .ok () =>
      match ← outcome (checkSystemProducts false) with
      | .error e => return .error ⟨e, false, none⟩
      | .ok _ =>
        info ("Migration to " ++ pathSummary path ++ " finished")
        return .ok report

end Entitlement.Registration
