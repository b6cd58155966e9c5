import Entitlement.Product

-- Walking the extensions of a product in the order of the server, each before its own extensions.
-- The product at the root is not visited. Its extensions are on level 1; a tree with extensions below level
-- `depthLimit` is refused when the walk reaches them.
namespace Entitlement

def depthLimit : Nat := 32

namespace Product

variable {m : Type → Type} [Monad m]

mutual

-- Walks the extensions of a product, which stand on the first of `levels` levels that are left. The
-- visitor tells whether to go on to the extensions of what it has visited.
def walkBelow (root : String) (visit : Product → ExceptT Error m Bool) (levels : Nat) :
    Product → ExceptT Error m Unit
  | ⟨_, []⟩ => pure ()
  | ⟨_, extension :: rest⟩ => match levels with
    | 0 => throw (.treeTooDeep root depthLimit)
    | levels + 1 => do
      if ← visit extension then walkBelow root visit levels extension
      walkAll root visit levels rest

-- Walks siblings; `levels` levels are left below them.
def walkAll (root : String) (visit : Product → ExceptT Error m Bool) (levels : Nat) :
    List Product → ExceptT Error m Unit
  | [] => pure ()
  | extension :: rest => do
    if ← visit extension then walkBelow root visit levels extension
    walkAll root visit levels rest

end

def traverse (root : Product) (visit : Product → ExceptT Error m Bool) : ExceptT Error m Unit :=
  walkBelow root.tripletText visit depthLimit root

def flatten (root : Product) : Result (List Product) :=
  let walk : ExceptT Error (StateM (List Product)) Unit :=
    root.traverse fun extension => do
      modify (extension :: ·)
      pure true
  match walk.run [] with
  | (.ok (), reversed) => .ok reversed.reverse
  | (.error e, _) => .error e

end Product
end Entitlement
