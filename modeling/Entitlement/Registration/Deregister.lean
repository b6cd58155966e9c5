import Entitlement.Registration.Rollback

-- Deactivating products, deregistering a system, and removing what the registration left behind.
-- The dependent products of a system are deactivated before those they depend on, the base product last. What
-- happens to that, the local credentials are cleaned up at the end.
namespace Entitlement.Registration

-- The tool that registers guests in public clouds; where it is installed, it also deregisters them.
def cloudGuestTool : String := "/usr/sbin/registercloudguest"

structure DeregisterOutcome where
  products : List ProductService

def DeregisterOutcome.toJson (o : DeregisterOutcome) : Json :=
  .object [("products", .array (o.products.map ProductService.toJson))]

def deactivateProduct (settings : Settings) (product : Product) : Action Service := do
  info ("Deactivating " ++ product.tripletText ++ " ...")
  let service ← server (.deactivate product)
  if settings.skipServiceInstall then return service
  removeOrRefreshService service.name
  info ("Removing release package " ++ product.name)
  packages (.removeReleasePackage product.name)
  return service

def deactivate (settings : Settings) (triplet : Triplet) : Action ProductService := do
  requireRegistration
  let product := Product.ofTriplet triplet
  let base ← baseProduct
  if base.same product then throw .baseProductDeactivation
  let service ← deactivateProduct settings product
  return ProductService.of product service

def isServerService (settings : Settings) (service : InstalledService) : Bool :=
  Text.occurs settings.baseUrl service.url

def cleanup (settings : Settings) : Action Unit := do
  info "Cleaning up ..."
  let services ← packages .installedServices
  (services.filter (isServerService settings)).forM fun service => do
    debug ("removing server service service=" ++ service.name ++ " url=" ++ service.url)
    removeService service.name
  store .removeSystem

def deregisterSystem (settings : Settings) : Action (List ProductService) := do
  let base ← baseProduct
  let installed ← packages .installedProducts
  let tree ← server (.productTree base)
  let extensions ← ExceptT.mk (pure (installedExtensions tree installed))
  let dependents ← extensions.reverse.mapM fun extension => do
    let service ← deactivateProduct settings extension
    return ProductService.of extension service
  info ("Deactivating " ++ base.tripletText ++ " ...")
  let service ← server (.deactivate base)
  if !settings.skipServiceInstall then removeOrRefreshService service.name
  server .deregister
  info "Successfully deregistered system"
  return dependents ++ [ProductService.of base service]

-- Removes the registry login, if it is known, and cleans up. Failures are no more than warnings.
def cleanUpRegistration (settings : Settings) (credentials : Option Credentials) : Action Unit := do
  if let some credentials := credentials then
    match ← outcome (store (.removeRegistryLogin credentials)) with
    | .ok () => pure ()
    | .error e => warn ("unable to remove container registry authentication: " ++ e.message)
  match ← outcome (cleanup settings) with
  | .ok () => pure ()
  | .error e => warn ("cleanup after deregistration failed: " ++ e.message)

def deregister (settings : Settings) (product : Option Triplet) : Action DeregisterOutcome := do
  match product with
  | some triplet =>
    requireRegistration
    return ⟨[← deactivate settings triplet]⟩
  | none =>
    if ← fileExists (settings.rootPath cloudGuestTool) then
      throw (.unsupportedOperation
        "de-registration is disabled by registercloudguest, use `registercloudguest --clean` instead")
    requireRegistration
    info ("Deregistering system from " ++ settings.baseUrl)
    -- A registry entry is only removed when it holds this login.
    let credentials ← outcome (store .systemCredentials)
    let result ← outcome (deregisterSystem settings)
    cleanUpRegistration settings credentials.toOption
    return ⟨← ExceptT.mk (pure result)⟩

end Entitlement.Registration
