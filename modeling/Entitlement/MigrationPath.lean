import Entitlement.Product.Document
import Entitlement.TextSet

-- Migration paths: the products that a migration would bring a system to.
namespace Entitlement

abbrev MigrationPath := List Product

namespace MigrationPath

def isAvailable (path : MigrationPath) : Bool := path.all (·.available)

-- The products of a path are ranked: base products, then new ones, then those already installed.
def rank (installed : TextSet) (p : Product) : Nat :=
  if p.isBase then 0 else if installed.contains p.tripletText then 2 else 1

def notAfter (installed : TextSet) (p q : Product) : Bool := rank installed p ≤ rank installed q

-- Products of one rank keep their order.
def sort (installed : TextSet) (path : MigrationPath) : MigrationPath := path.mergeSort (notAfter installed)

def format : Json.Format MigrationPath := Product.format.list

def toJson (path : MigrationPath) : Json := .array (path.map Product.toJson)

-- The products of a system after a migration: each installed product is replaced by the product of its name
-- in the path, and the other products of the path are added.
def applyTo (installed : List Product) (path : MigrationPath) : List Product :=
  installed.map (fun p => (path.find? fun target => target.name == p.name).getD p)
    ++ path.filter fun target => !installed.any fun p => p.name == target.name

end MigrationPath
end Entitlement
