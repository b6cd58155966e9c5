import Entitlement.Error
import Entitlement.Json.Diagnosis
import Entitlement.Json.Record

-- Formats: how values of a type are read from documents, and what is wrong with a document that is refused.
namespace Entitlement.Json

structure Format (α : Type) where
  read : Reader α
  shape : Shape
  schema : Schema

namespace Format

def value : Format Json := ⟨Reader.value, .any, []⟩

def list (f : Format α) : Format (List α) := ⟨Reader.list f.read, .list f.shape, f.schema⟩

def decode (f : Format α) (bytes : Bytes) : Result α :=
  match ofBytes? f.read bytes with
  | some value => .ok value
  | none => .error (.json (((fault? f.schema depthLimit f.shape bytes).map Fault.message).getD ""))

end Format
end Entitlement.Json
