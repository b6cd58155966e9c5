import Entitlement.Json.Value

-- Looking into values whose shape is not known.
-- A member that is missing counts as `null`, and a value of another kind than the one that is looked for counts as
-- an empty one.
namespace Entitlement.Json

def lookUp (members : List (String × Json)) (name : String) : Option Json :=
  (members.find? fun m => m.1 == name).map (·.2)

def members : Json → List (String × Json)
  | object members => members
  | _ => []

def items : Json → List Json
  | array items => items
  | _ => []

def asText? : Json → Option String
  | string s => some s
  | _ => none

def asInteger? : Json → Option Int
  | number n => n.integer?
  | _ => none

def asFlag : Json → Bool
  | bool b => b
  | _ => false

def has (j : Json) (name : String) : Bool := (lookUp j.members name).isSome

def get (j : Json) (name : String) : Json := (lookUp j.members name).getD null

def text? (j : Json) (name : String) : Option String := (j.get name).asText?

def text (j : Json) (name : String) : String := (j.text? name).getD ""

def flag (j : Json) (name : String) : Bool := (j.get name).asFlag

def integer? (j : Json) (name : String) : Option Int := (j.get name).asInteger?

def list (j : Json) (name : String) : List Json := (j.get name).items

def texts (j : Json) (name : String) : List String := (j.list name).map fun item => item.asText?.getD ""

end Entitlement.Json
