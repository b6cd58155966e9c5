
-- What a reader expects of a document, so that a document that it refuses can be explained.
namespace Entitlement.Json

-- What a value must be. Records are named, since they may hold themselves.
inductive Shape where
  | any
  | text
  | flag
  | integer
  -- A text that a check accepts; `expected` names it, and the check explains why it refuses a text.
  | content (expected : String) (check : String → Option String)
  | nullable (shape : Shape)
  | list (shape : Shape)
  | record (name : String)

-- A field of a record. It may be missing from an object, or at the end of a list of the fields.
structure FieldShape where
  name : String
  shape : Shape
  inObject : Bool
  inList : Bool

namespace FieldShape

-- A field that must be there.
def required (name : String) (shape : Shape) : FieldShape := ⟨name, shape, true, true⟩

def optional (name : String) (shape : Shape) : FieldShape := ⟨name, shape, false, false⟩

def nullable (name : String) (shape : Shape) : FieldShape := ⟨name, .nullable shape, false, true⟩

end FieldShape

structure RecordShape where
  name : String
  fields : List FieldShape

def RecordShape.fieldNames (r : RecordShape) : List String := r.fields.map (·.name)

abbrev Schema := List RecordShape

def Schema.find? (s : Schema) (name : String) : Option RecordShape := List.find? (·.name == name) s

end Entitlement.Json
