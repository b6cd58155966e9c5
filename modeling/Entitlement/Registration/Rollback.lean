import Entitlement.Product.Tree
import Entitlement.Registration.ProductService

-- Rolling the server back to the installed products, after a migration that did not come to its end.
namespace Entitlement.Registration

def downgradeProduct (product : Product) : Action Unit := do
  info ("Downgrading " ++ product.tripletText ++ " ...")
  let service ← server (.downgrade product)
  reconcileService service

def installedExtensions (tree : Product) (installed : List Product) : Result (List Product) := do
  let extensions ← tree.flatten
  return extensions.filter fun extension => (tripletTexts installed).contains extension.tripletText

def rollback : Action Unit := do
  requireRegistration
  info "Starting to sync system product activations to the server. This can take some time..."
  let base ← baseProduct
  downgradeProduct base
  let installed ← packages .installedProducts
  let tree ← server (.productTree base)
  let extensions ← ExceptT.mk (pure (installedExtensions tree installed))
  extensions.forM downgradeProduct
  let _ ← server (.synchronize installed)
  packages (.setReleaseVersion base.version)

end Entitlement.Registration
