import Entitlement.Json.Node
import Entitlement.Json.Value

-- Reading values out of JSON documents.
-- A reader is told how many containers it may still open: a document is at most `depthLimit` containers
-- deep where it is read, while what no reader looks at may be nested without limit. A record is written as
-- an object, or as an array of its fields in their order. In an object a field of the record occurs at most
-- once, and members that are no field are ignored.
namespace Entitlement.Json

def depthLimit : Nat := 127

abbrev Reader (α : Type) := Nat → Node → Option α

namespace Reader

def string : Reader String
  | _, .string s => s
  | _, _ => none

def bool : Reader Bool
  | _, .bool b => some b
  | _, _ => none

def integer (low high : Int) : Reader Int
  | _, .number s => (s.value?.bind Number.integer?).filter fun n => low ≤ n && n ≤ high
  | _, _ => none

def integer64 : Reader Int := integer (-(limit63 : Int)) (limit63 - 1)

def natural (bound : Nat) : Reader Nat := fun room node =>
  (integer 0 ((bound : Int) - 1) room node).map Int.toNat

def nullable (read : Reader α) : Reader (Option α)
  | _, .null => some none
  | room, node => (read room node).map some

def list (read : Reader α) : Reader (List α)
  | room + 1, .array items => items.mapM (read room)
  | _, _ => none

-- Puts a member into an object whose members are sorted by name; a later member replaces an earlier one
-- of its name.
def insertMember (name : String) (value : Json) : List (String × Json) → List (String × Json)
  | [] => [(name, value)]
  | (other, old) :: rest =>
    if name = other then (name, value) :: rest
    else if name < other then (name, value) :: (other, old) :: rest
    else (other, old) :: insertMember name value rest

-- Any value. The members of an object come out sorted by name, the last of several of one name kept.
def value : Reader Json
  | _, .null => some .null
  | _, .bool b => some (.bool b)
  | _, .number s => s.value?.map .number
  | _, .string s => s.map .string
  | 0, .array _ => none
  | 0, .object _ => none
  | room + 1, .array items => (items.mapM (value room)).map .array
  | room + 1, .object members => do
    let read ← members.mapM fun m => do some ((← m.1), (← value room m.2))
    some (.object (read.foldl (fun sorted m => insertMember m.1 m.2 sorted) []))

end Reader

abbrev Fields := List (String × Node)

namespace Fields

def ofMembers? (names : List String) : List (Scribed × Node) → Option Fields
  | [] => some []
  | (none, _) :: _ => none
  | (some name, node) :: rest => do
    let fields ← ofMembers? names rest
    if names.contains name then
      if fields.any fun f => f.1 == name then none else some ((name, node) :: fields)
    else some fields

-- The items of an array as the first fields of the record; `needed` of them must be there.
def ofItems? (names : List String) (needed : Nat) (items : List Node) : Option Fields :=
  if needed ≤ items.length ∧ items.length ≤ names.length then some (names.zip items) else none

-- The fields of a record, with the number of containers that may be opened inside it. In an array the
-- first `needed` fields must be present.
def ofNode? (names : List String) (needed : Nat) : Reader (Fields × Nat)
  | room + 1, .object members => (ofMembers? names members).map (·, room)
  | room + 1, .array items => (ofItems? names needed items).map (·, room)
  | _, _ => none

def get? (fields : Fields) (name : String) : Option Node := (fields.find? fun f => f.1 == name).map (·.2)

-- A field that must be there.
def required (fields : Fields) (name : String) (room : Nat) (read : Reader α) : Option α :=
  (fields.get? name).bind (read room)

def optional (fields : Fields) (name : String) (room : Nat) (read : Reader α) (absent : α) : Option α :=
  match fields.get? name with
  | some node => read room node
  | none => some absent

def nullable (fields : Fields) (name : String) (room : Nat) (read : Reader α) : Option (Option α) :=
  fields.optional name room (Reader.nullable read) none

def nullableOr (fields : Fields) (name : String) (room : Nat) (read : Reader α) (absent : α) : Option α :=
  (fields.nullable name room read).map fun value => value.getD absent

end Fields

def ofText? (read : Reader α) (text : String) : Option α := (Node.ofText? text).bind (read depthLimit)

def ofBytes? (read : Reader α) (bytes : Bytes) : Option α := (Node.ofBytes? bytes).bind (read depthLimit)

end Entitlement.Json
