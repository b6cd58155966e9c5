import Entitlement.Service
import Entitlement.Calendar.Timestamp

-- Activations: the products of a system that the registration server has activated, each with its subscription.
namespace Entitlement

structure Activation where
  name : String
  status : String
  regcode : String
  kind : String
  startsAt : Option Timestamp
  expiresAt : Option Timestamp
  service : Service
deriving Inhabited

namespace Activation

def product (a : Activation) : Product := a.service.product

def tripletText (a : Activation) : String := a.product.tripletText

def dateShape : Json.Shape :=
  .nullable (.content "an RFC 3339 formatted date and time string" fun text =>
    match Timestamp.parse text with
    | .ok _ => none
    | .error fault => some fault.message)

def shape : Json.RecordShape := ⟨"Activation", [
  .optional "name" .text, .optional "status" .text, .optional "regcode" .text, .optional "type" .text,
  .optional "starts_at" dateShape, .optional "expires_at" dateShape,
  .required "service" Service.format.shape]⟩

def fieldNames : List String := shape.fieldNames

def timestamp : Json.Reader Timestamp := fun room node =>
  (Json.Reader.string room node).bind fun text => (Timestamp.parse text).toOption

def read : Json.Reader Activation := fun room node => do
  let (fields, room) ← Json.Fields.ofNode? fieldNames fieldNames.length room node
  some {
    name := ← fields.optional "name" room Json.Reader.string ""
    status := ← fields.optional "status" room Json.Reader.string ""
    regcode := ← fields.optional "regcode" room Json.Reader.string ""
    kind := ← fields.optional "type" room Json.Reader.string ""
    startsAt := ← fields.nullable "starts_at" room timestamp
    expiresAt := ← fields.nullable "expires_at" room timestamp
    service := ← fields.required "service" room Service.read }

def format : Json.Format Activation := ⟨read, .record shape.name, shape :: Service.format.schema⟩

def dateJson (date : Option Timestamp) : Json :=
  match date with
  | some t => .string t.text
  | none => .null

def toJson (a : Activation) : Json := .object [
  ("name", .string a.name), ("status", .string a.status), ("regcode", .string a.regcode),
  ("type", .string a.kind), ("starts_at", dateJson a.startsAt), ("expires_at", dateJson a.expiresAt),
  ("service", a.service.toJson)]

-- Puts an activation into a list that is sorted by triplet; it replaces one of the same triplet.
def insert (a : Activation) : List Activation → List Activation
  | [] => [a]
  | b :: rest =>
    if a.tripletText = b.tripletText then a :: rest
    else if a.tripletText < b.tripletText then a :: b :: rest
    else b :: insert a rest

def byTriplet (activations : List Activation) : List Activation :=
  activations.foldl (fun sorted a => insert a sorted) []

def find? (activations : List Activation) (triplet : String) : Option Activation :=
  (byTriplet activations).find? fun a => a.tripletText == triplet

end Activation
end Entitlement
