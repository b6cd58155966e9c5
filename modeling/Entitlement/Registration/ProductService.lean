import Entitlement.Registration.Collaboration

-- The services behind products: how they are installed, removed and replaced, and what is told of them.
-- The credentials of a service are written before it is added and removed after it, so that no service is ever
-- without them.
namespace Entitlement.Registration

structure ProductService where
  product : Triplet
  friendlyName : String
  id : Int
  name : String
  url : String
deriving DecidableEq, Inhabited

namespace ProductService

def of (product : Product) (service : Service) : ProductService :=
  ⟨product.triplet, product.friendlyName, service.id, service.name, service.url⟩

def toJson (p : ProductService) : Json := .object (
  [("identifier", .string p.product.name), ("version", .string p.product.version),
    ("arch", .string p.product.arch)]
    ++ Json.member? "name" p.friendlyName
    ++ [("service", .object [("id", Json.integer p.id), ("name", .string p.name), ("url", .string p.url)])])

end ProductService

def addService (settings : Settings) (service : Service) : Action Unit := do
  info ("Adding service " ++ service.name)
  store (.writeService service.name)
  packages (.addService service.url service.name !settings.noServiceRefresh)

def removeService (name : String) : Action Unit := do
  packages (.removeService name)
  store (.removeService name)

-- Every product stands behind the dummy service, so a deactivated product's repositories go away when it is
-- refreshed. Any other service is removed.
def removeOrRefreshService (name : String) : Action Unit := do
  if name = Service.dummyName then
    info "Refreshing services"
    packages .refreshAllServices
  else
    info ("Removing service " ++ name)
    removeService name

-- Removes a service unless it is a plugin's.
def removeUnlessPlugin (name : String) : Action Unit := do
  if ← isServicePlugin name then
    debug ("service plugin present, not removing service=" ++ Text.quoted name)
  else removeService name

-- Puts the service that the server returned in the place of its former one and of the one that it makes
-- obsolete.
def reconcileService (service : Service) : Action Unit := do
  removeUnlessPlugin service.name
  if !service.obsoletedName.isEmpty then
    info ("Removing service " ++ service.obsoletedName)
    removeUnlessPlugin service.obsoletedName
  if ← isServicePlugin service.name then
    debug ("service plugin present, not adding service=" ++ service.name)
  else
    info ("Adding service " ++ service.name)
    store (.writeService service.name)
    packages (.addService service.url service.name true)

end Entitlement.Registration
