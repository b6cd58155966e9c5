import Entitlement.Triplet
import Entitlement.Text.LowerCase

-- Products: what a system has installed and what a registration server offers.
-- A product carries the extensions offered on top of it, so that a product of the server is a tree. Two
-- products are the same when their triplets are.
namespace Entitlement

structure OfferedRepository where
  name : String
  url : String
  enabled : Bool
  autorefresh : Bool
  installerUpdates : Bool
  distroTarget : Option String
  description : Option String
  arch : List String
deriving DecidableEq, Inhabited

structure ProductFacts where
  name : String
  version : String
  arch : String
  release : String
  summary : String
  isBase : Bool
  friendlyName : String
  releaseType : String
  productLine : String
  available : Bool
  free : Bool
  recommended : Bool
  id : Int
  description : String
  eulaUrl : String
  formerName : String
  productType : String
  shortName : String
  longName : String
  releaseStage : String
  repositories : List OfferedRepository
deriving DecidableEq, Inhabited

structure Product extends ProductFacts where
  extensions : List Product
deriving Inhabited

namespace Product

def blank : Product := ⟨{
    name := "", version := "", arch := "", release := "", summary := "", isBase := false
    friendlyName := "", releaseType := "", productLine := "", available := false, free := false
    recommended := false, id := 0, description := "", eulaUrl := "", formerName := ""
    productType := "", shortName := "", longName := "", releaseStage := "", repositories := [] }, []⟩

-- The product that a user names; it counts as available.
def ofTriplet (t : Triplet) : Product :=
  { blank with name := t.name, version := t.version, arch := t.arch, available := true }

def triplet (p : Product) : Triplet := ⟨p.name, p.version, p.arch⟩

def tripletText (p : Product) : String := p.triplet.text

def same (p q : Product) : Bool := p.triplet = q.triplet

def unidentified (p : Product) : Bool := p.name.isEmpty || p.version.isEmpty || p.arch.isEmpty

def edition (p : Product) : String :=
  if p.release.isEmpty then p.version else p.version ++ "-" ++ p.release

def displayName (p : Product) : String :=
  if p.friendlyName.isEmpty then p.tripletText else p.friendlyName

-- The target that a distribution reports for this product: every product of the `sle` family has one name.
def distroTarget (p : Product) : String :=
  let name := Text.lower p.name
  let family := if "sle".toList.isPrefixOf name.toList then "sle" else name
  let major := String.ofList (p.version.toList.takeWhile (· != '.'))
  family ++ "-" ++ major ++ "-" ++ p.arch

def query (p : Product) : List (String × String) :=
  [("identifier", p.name), ("version", p.version), ("arch", p.arch), ("release_type", p.releaseType)]

end Product

def tripletTexts (products : List Product) : List String := products.map Product.tripletText

def findBase (products : List Product) : Option Product := products.find? (·.isBase)

end Entitlement
