import Entitlement.Json.Token
import Entitlement.Text.Utf8

-- JSON documents as they are written: members in their order and repeated ones kept, numbers by their
-- spelling, strings that may turn out to be no text. What a reader does not look at may be faulty in those
-- ways.
-- `Node.ofTokens?` builds the tree of a token list with a stack of open containers, so that no depth of
-- nesting is too large for it.
namespace Entitlement.Json

abbrev Scribed := Option String

inductive Node where
  | null
  | bool (b : Bool)
  | number (s : Spelling)
  | string (s : Scribed)
  | array (items : List Node)
  | object (members : List (Scribed × Node))

namespace Node

inductive Open where
  | array (items : List Node)
  | object (members : List (Scribed × Node)) (key : Scribed)

-- What may come next: any value, a value or the end of an empty array, a comma or the end of an array,
-- and so on; or nothing, after the document.
inductive Expected where
  | value
  | firstItem
  | afterItem
  | firstKey (members : List (Scribed × Node))
  | key (members : List (Scribed × Node))
  | colon (members : List (Scribed × Node)) (key : Scribed)
  | afterMember (members : List (Scribed × Node))
  | nothing (document : Node)

structure Progress where
  stack : List Open
  expected : Expected

def deliver (value : Node) : List Open → Progress
  | [] => ⟨[], .nothing value⟩
  | .array items :: stack => ⟨.array (value :: items) :: stack, .afterItem⟩
  | .object members key :: stack => ⟨stack, .afterMember ((key, value) :: members)⟩

def scribed (units : List CodeUnit) : Scribed := (characters? units).map String.ofList

def startValue (stack : List Open) : Token → Option Progress
  | .null => some (deliver .null stack)
  | .bool b => some (deliver (.bool b) stack)
  | .number s => some (deliver (.number s) stack)
  | .string units => some (deliver (.string (scribed units)) stack)
  | .beginArray => some ⟨.array [] :: stack, .firstItem⟩
  | .beginObject => some ⟨stack, .firstKey []⟩
  | _ => none

def closeArray : List Open → Option Progress
  | .array items :: stack => some (deliver (.array items.reverse) stack)
  | _ => none

def advance (p : Progress) (token : Token) : Option Progress :=
  match p.expected, token with
  | .value, _ => startValue p.stack token
  | .firstItem, .endArray | .afterItem, .endArray => closeArray p.stack
  | .firstItem, _ => startValue p.stack token
  | .afterItem, .comma => some ⟨p.stack, .value⟩
  | .firstKey members, .endObject | .afterMember members, .endObject =>
    some (deliver (.object members.reverse) p.stack)
  | .firstKey members, .string units | .key members, .string units =>
    some ⟨p.stack, .colon members (scribed units)⟩
  | .colon members key, .colon => some ⟨.object members key :: p.stack, .value⟩
  | .afterMember members, .comma => some ⟨p.stack, .key members⟩
  | _, _ => none

def ofTokensFrom : Progress → List Token → Option Node
  | ⟨_, .nothing document⟩, [] => some document
  | _, [] => none
  | p, token :: rest => match advance p token with
    | some next => ofTokensFrom next rest
    | none => none

def ofTokens? (tokens : List Token) : Option Node := ofTokensFrom ⟨[], .value⟩ tokens

def read? (text : List (Option Char)) : Option Node := (tokens? text).bind ofTokens?

def ofText? (text : String) : Option Node := read? (text.toList.map some)

def ofBytes? (bytes : Bytes) : Option Node := read? (Text.decode bytes)

end Node
end Entitlement.Json
