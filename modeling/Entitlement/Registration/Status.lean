import Entitlement.Product.Tree
import Entitlement.Registration.Collaboration

-- What is registered: the installed products with their activations, all products of the system, and the tree of
-- extensions with those that are activated.
namespace Entitlement.Registration

structure ProductStatus where
  subscription : String := ""
  summary : String := ""
  product : Triplet
  status : String
  regcode : String := ""
  startsAt : String := ""
  expiresAt : String := ""
  subscriptionStatus : String := ""
  kind : String := ""
deriving DecidableEq, Inhabited

namespace ProductStatus

def registered : String := "Registered"

def notRegistered : String := "Not Registered"

def isRegistered (s : ProductStatus) : Bool := s.status == registered

def toJson (s : ProductStatus) : Json := .object (
  Json.member? "name" s.subscription
    ++ [("identifier", .string s.product.name), ("version", .string s.product.version),
      ("arch", .string s.product.arch), ("status", .string s.status)]
    ++ Json.member? "regcode" s.regcode
    ++ Json.member? "starts_at" s.startsAt
    ++ Json.member? "expires_at" s.expiresAt
    ++ Json.member? "subscription_status" s.subscriptionStatus
    ++ Json.member? "type" s.kind)

def dateText (date : Option Timestamp) : String := (date.map Timestamp.display).getD ""

-- The status of an installed product. A free product is activated without a subscription.
def of (activations : List Activation) (product : Product) : ProductStatus :=
  match Activation.find? activations product.tripletText with
  | none => { product := product.triplet, summary := product.summary, status := notRegistered }
  | some a =>
    if a.regcode.isEmpty then
      { product := product.triplet, summary := product.summary, status := registered }
    else {
      subscription := a.name
      summary := product.summary
      product := product.triplet
      status := registered
      regcode := a.regcode
      startsAt := dateText a.startsAt
      expiresAt := dateText a.expiresAt
      subscriptionStatus := a.status
      kind := a.kind }

end ProductStatus

def statuses : Action (List ProductStatus) := do
  let installed ← packages .installedProducts
  let activations ← if ← isRegistered then server .activations else pure []
  return installed.map (ProductStatus.of activations)

def status (triplet : Triplet) : Action (Option ProductStatus) := do
  return (← statuses).find? fun s => s.product.text == triplet.text

def addUnknown (known : List Product) : List Product → List Product
  | [] => known
  | p :: rest =>
    if (tripletTexts known).contains p.tripletText then addUnknown known rest
    else addUnknown (known ++ [p]) rest

def systemProducts : Action (List Product) := do
  let installed ← packages .installedProducts
  if ← isRegistered then
    let activations ← server .activations
    return addUnknown installed (activations.map Activation.product)
  else return installed

structure ExtensionFacts where
  product : Triplet
  friendlyName : String
  activated : Bool
  available : Bool
  free : Bool
deriving DecidableEq, Inhabited

structure Extension extends ExtensionFacts where
  extensions : List Extension
deriving Inhabited

namespace Extension

variable (activated : TextSet) (root : String)

mutual

def list (levels : Nat) : Product → Result Extension
  | ⟨facts, extensions⟩ => do
    let listed ← listAll levels extensions
    let product : Triplet := ⟨facts.name, facts.version, facts.arch⟩
    return ⟨⟨product, facts.friendlyName, activated.contains product.text, facts.available, facts.free⟩, listed⟩

def listAll (levels : Nat) : List Product → Result (List Extension)
  | [] => .ok []
  | p :: rest => match levels with
    | 0 => .error (.treeTooDeep root depthLimit)
    | below + 1 => do
      let first ← list below p
      let others ← listAll levels rest
      return first :: others

end

mutual

def toJson : Extension → Json
  | ⟨facts, extensions⟩ => .object [
      ("identifier", .string facts.product.name), ("version", .string facts.product.version),
      ("arch", .string facts.product.arch), ("name", .string facts.friendlyName),
      ("activated", .bool facts.activated), ("available", .bool facts.available),
      ("free", .bool facts.free), ("extensions", .array (toJsons extensions))]

def toJsons : List Extension → List Json
  | [] => []
  | e :: rest => toJson e :: toJsons rest

end

end Extension

def extensionTree : Action Extension := do
  requireRegistration
  let base ← baseProduct
  let activations ← server .activations
  let activated := TextSet.ofList (activations.map Activation.tripletText)
  let tree ← server (.productTree base)
  ExceptT.mk (pure (Extension.list activated tree.tripletText depthLimit tree))

end Entitlement.Registration
