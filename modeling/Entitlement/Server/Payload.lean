import Entitlement.Product.Document

-- The bodies of requests to the registration server.
namespace Entitlement.Payload

def productMembers (p : Product) : List (String × Json) :=
  [("identifier", .string p.name), ("version", .string p.version), ("arch", .string p.arch),
    ("release_type", .string p.releaseType)]

def product (p : Product) : Json := .object (productMembers p)

def activation (p : Product) (regcode : String) (email : Option String) : Json :=
  .object (productMembers p ++ [("token", .string regcode)] ++ Json.option? "email" (email.map .string))

def migrations (installed : List Product) (target : Option Product) : Json :=
  .object ([("installed_products", .array (installed.map Product.toJson))]
    ++ Json.option? "target_base_product" (target.map Product.toJson))

def synchronization (products : List Product) : Json :=
  .object [("products", .array (products.map Product.toJson))]

end Entitlement.Payload
