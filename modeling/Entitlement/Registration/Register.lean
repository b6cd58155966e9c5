import Entitlement.Product.Tree
import Entitlement.Registration.ProductService

-- Registering a system and activating products.
-- A registration announces a system that the server does not know and updates one that it knows. It activates the
-- requested product, and on the installed base product every extension that is free, recommended and available.
namespace Entitlement.Registration

structure RegisterOptions where
  regcode : String := ""
  product : Option Triplet := none
  email : Option String := none

structure RegisterOutcome where
  announced : Bool
  products : List ProductService

def RegisterOutcome.toJson (o : RegisterOutcome) : Json :=
  .object [("announced", .bool o.announced), ("products", .array (o.products.map ProductService.toJson))]

def activateProduct (settings : Settings) (product : Product) (regcode : String) (email : Option String)
    (installReleasePackage : Bool) : Action Service := do
  info ("Activating " ++ product.tripletText ++ " ...")
  let service ← server (.activate product regcode email)
  if settings.skipServiceInstall then return service
  addService settings service
  if installReleasePackage then
    info ("Installing release package " ++ product.name)
    packages (.installReleasePackage product.name)
  return service

-- The product to activate, and whether to install its release package. Without a request it is the installed
-- base product; a requested one is the base product when it is the installed one.
def requestedProduct (request : Option Triplet) : Action (Product × Bool) :=
  match request with
  | none => do return (← baseProduct, false)
  | some triplet => do
    let product := Product.ofTriplet triplet
    match ← outcome baseProduct with
    | .ok base =>
      if base.same product then
        return ({ product with isBase := true, releaseType := base.releaseType }, true)
      else return (product, true)
    | .error e =>
      debug ("no installed base product to compare with: " ++ e.message)
      return (product, true)

-- Makes the system known to the server; the answer tells whether it was announced.
def announceOrUpdate (regcode : String) (system : SystemInfo) : Action Bool := do
  if ← isRegistered then
    debug "system credentials present, updating instead of announcing"
    server (.updateSystem system)
    return false
  else
    let login ← server (.announce regcode system)
    store (.writeSystem login.credentials)
    return true

-- Gives container tools the login of the system. A failure is no more than a warning.
def addRegistryLogin : Action Unit := do
  let added : Action Unit := do
    let credentials ← store .systemCredentials
    store (.addRegistryLogin credentials)
  match ← outcome added with
  | .ok () => pure ()
  | .error e => warn ("unable to configure container registry authentication: " ++ e.message)

def activatedWithBase (extension : Product) : Bool :=
  extension.free && extension.recommended && extension.available

-- Activates the extensions of the base product, and adds what was activated to the list.
def activateExtensions (settings : Settings) (options : RegisterOptions) (base : Product)
    (activated : List ProductService) : Action (List ProductService) := do
  let tree ← server (.productTree base)
  let visit (extension : Product) :
      ExceptT Error (StateT (List ProductService) (Program collaboration)) Bool := do
    if activatedWithBase extension then
      let service ← ExceptT.mk (StateT.lift
        (activateProduct settings extension options.regcode options.email false).run)
      modify fun done => done ++ [ProductService.of extension service]
    return true
  let (result, activated) ← ExceptT.lift ((tree.traverse visit).run.run activated)
  ExceptT.mk (pure (result.map fun () => activated))

def register (settings : Settings) (options : RegisterOptions) (system : SystemInfo) :
    Action RegisterOutcome := do
  let (product, installReleasePackage) ← requestedProduct options.product
  info ("Registering system to " ++ settings.baseUrl)
  let announced ← announceOrUpdate options.regcode system
  addRegistryLogin
  let service ← activateProduct settings product options.regcode options.email installReleasePackage
  let first := [ProductService.of product service]
  let products ← if product.isBase then activateExtensions settings options product first else pure first
  info "Successfully registered system"
  return ⟨announced, products⟩

def activate (settings : Settings) (triplet : Triplet) (regcode : String) (email : Option String) :
    Action ProductService := do
  requireRegistration
  let product := Product.ofTriplet triplet
  let service ← activateProduct settings product regcode email true
  return ProductService.of product service

def updateSystem (system : SystemInfo) : Action Unit := do
  requireRegistration
  debug ("updating system information hostname=" ++ system.hostname)
  server (.updateSystem system)

end Entitlement.Registration
