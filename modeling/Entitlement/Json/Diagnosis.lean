import Entitlement.Json.Scan
import Entitlement.Json.Shape

-- Why a document is not what a reader expects: its first fault.
-- The document is read from its start to the first byte that settles that it is refused. Whatever no field asks for
-- is passed over without a look at its meaning, but it must be well formed.
namespace Entitlement.Json

namespace Shape

def expected : Shape → String
  | any => "any value"
  | text => "a string"
  | flag => "a boolean"
  | integer => "i64"
  | content expected _ => expected
  | nullable shape => expected shape
  | list _ => "a sequence"
  | record name => "struct " ++ name

-- The flaw of a value that is complete when it starts, and of a list or an object where none is expected.
def flaw? : Shape → Scan.Start → Option Flaw
  | any, _ => none
  | nullable _, .null => none
  | nullable shape, start => flaw? shape start
  | text, .text _ | flag, .bool _ | list _, .list | record _, .list | record _, .object => none
  | integer, .number (.integer n) =>
    if -(limit63 : Int) ≤ n ∧ n < limit63 then none
    else some (.range (Scan.Start.describe (.number (.integer n))) integer.expected)
  | content _ check, .text s => (check s).map .content
  | shape, start => some (.kind start.describe shape.expected)

def items? : Shape → Option Shape
  | any => some any
  | list shape => some shape
  | nullable shape => items? shape
  | _ => none

def record? (schema : Schema) : Shape → Option RecordShape
  | record name => schema.find? name
  | nullable shape => record? schema shape
  | _ => none

end Shape

namespace Scan

-- Enters a list or an object. The room is the number of containers that may be opened.
def enter : Nat → Scan Nat
  | 0 => failAhead .tooDeep
  | room + 1 => do
    advance
    return room

-- The end of a list that holds the first fields of a record only.
def endOfFields (record : RecordShape) (count : Nat) : Scan Unit := do
  advance
  match (record.fields.drop count).findIdx? (·.inList) with
  | some i => fail (.tooFewItems (count + i) record.name record.fields.length)
  | none => return ()

def endOfMembers (record : RecordShape) (seen : List String) : Scan Unit := do
  advance
  match record.fields.find? fun f => f.inObject && !seen.contains f.name with
  | some f => fail (.missingField f.name)
  | none => return ()

-- A key that occurs again. An object that ends there is left.
def repeated (name : String) : Scan Unit := do
  if (← peekVisible?) = some (byte '\x7d') then advance
  fail (.repeatedField name)

-- `steps` bounds the recursion: between two steps that read nothing, one byte at least is read.
mutual

def value (schema : Schema) : Nat → Nat → Shape → Scan Unit
  | 0, _, _ => return ()
  | steps + 1, room, shape => do
    let start ← start
    match shape.flaw? start with
    | some flaw => fail flaw
    | none => match start, shape.record? schema, shape.items? with
      | .list, some record, _ => do fields schema steps (← enter room) record true 0
      | .object, some record, _ => do members schema steps (← enter room) record true []
      | .list, none, some inner => do items schema steps (← enter room) inner true
      | .object, none, _ => do anyMembers schema steps (← enter room) true
      | _, _, _ => return ()

def items (schema : Schema) : Nat → Nat → Shape → Bool → Scan Unit
  | 0, _, _, _ => return ()
  | steps + 1, room, shape, first => do
    if ← hasItem first then
      value schema steps room shape
      items schema steps room shape false
    else advance

def fields (schema : Schema) : Nat → Nat → RecordShape → Bool → Nat → Scan Unit
  | 0, _, _, _, _ => return ()
  | steps + 1, room, record, first, count => do
    match record.fields[count]? with
    | none => listEnd
    | some field =>
      if ← hasItem first then
        value schema steps room field.shape
        fields schema steps room record false (count + 1)
      else endOfFields record count

def members (schema : Schema) : Nat → Nat → RecordShape → Bool → List String → Scan Unit
  | 0, _, _, _, _ => return ()
  | steps + 1, room, record, first, seen => do
    if ← hasMember first then
      let name ← key
      match record.fields.find? (·.name == name) with
      | none => do
        colon
        skipValue
        members schema steps room record false seen
      | some field => do
        if seen.contains name then repeated name
        colon
        value schema steps room field.shape
        members schema steps room record false (name :: seen)
    else endOfMembers record seen

def anyMembers (schema : Schema) : Nat → Nat → Bool → Scan Unit
  | 0, _, _ => return ()
  | steps + 1, room, first => do
    if ← hasMember first then
      discard key
      colon
      value schema steps room .any
      anyMembers schema steps room false
    else advance

end

def document (schema : Schema) (room : Nat) (shape : Shape) : Scan Unit := do
  value schema (4 * (← cursor).rest.length + 4) room shape
  documentEnd

end Scan

def fault? (schema : Schema) (room : Nat) (shape : Shape) (bytes : Bytes) : Option Fault :=
  match Scan.document schema room shape (Cursor.start bytes) with
  | .ok _ => none
  | .error fault => some fault

end Entitlement.Json
