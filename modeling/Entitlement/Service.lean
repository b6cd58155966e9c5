import Entitlement.Product.Document

-- Services: where the package manager gets the repositories of a product.
namespace Entitlement

structure Service where
  id : Int
  url : String
  name : String
  obsoletedName : String
  product : Product
deriving Inhabited

structure InstalledService where
  name : String
  url : String
deriving DecidableEq, Inhabited

namespace Service

-- The service that several products share. It is refreshed, never removed.
def dummyName : String := "SMT_DUMMY_NOREMOVE_SERVICE"

def isDummy (s : Service) : Bool := s.name == dummyName

def blank : Service := ⟨0, "", "", "", Product.blank⟩

def shape : Json.RecordShape := ⟨"Service", [
  .optional "id" .integer, .optional "url" .text, .optional "name" .text,
  .optional "obsoleted_service_name" .text, .optional "product" Product.format.shape]⟩

def fieldNames : List String := shape.fieldNames

def read : Json.Reader Service := fun room node => do
  let (fields, room) ← Json.Fields.ofNode? fieldNames 0 room node
  some {
    id := ← fields.optional "id" room Json.Reader.integer64 0
    url := ← fields.optional "url" room Json.Reader.string ""
    name := ← fields.optional "name" room Json.Reader.string ""
    obsoletedName := ← fields.optional "obsoleted_service_name" room Json.Reader.string ""
    product := ← fields.optional "product" room Product.read Product.blank }

def format : Json.Format Service := ⟨read, .record shape.name, shape :: Product.format.schema⟩

def toJson (s : Service) : Json := .object [
  ("id", Json.integer s.id), ("url", .string s.url), ("name", .string s.name),
  ("obsoleted_service_name", .string s.obsoletedName), ("product", s.product.toJson)]

end Service
end Entitlement
