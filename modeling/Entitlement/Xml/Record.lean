import Entitlement.Xml.Element
import Entitlement.Xml.Reference

-- Elements as records: attributes and children by name, each at most once, and lists of elements.
-- Attributes and children that a record does not know are passed over; but the attributes must be well written, and
-- references in text that stands beside the children must be known.
namespace Entitlement.Xml

namespace Node

-- The text of a node, unless it is an element.
def text? : Node → Option (List Char)
  | .text raw => resolve? raw
  | .verbatim content => some content
  | .element _ _ _ _ => none

def isElement : Node → Bool
  | .element _ _ _ _ => true
  | _ => false

def saysText (node : Node) : Bool :=
  match node.text? with
  | some content => !content.all isBlank
  | none => !node.isElement

def hasLocalName (name : String) : Node → Bool
  | .element n _ _ _ => localName n = name.toList
  | _ => false

def rawName? : Node → Option (List Char)
  | .element n _ _ _ => some n
  | _ => none

end Node

structure Record where
  attributes : List Attribute
  children : List Node

namespace Record

def ofNode? : Node → Option Record
  | .element name attributes children .tag =>
    let attributes := Attributes.ofTag (size name) attributes
    if attributes.fault.isNone && children.all fun c => c.isElement || c.text?.isSome then
      some ⟨attributes.read, children⟩
    else none
  | _ => none

-- The value of an attribute; the empty text if there is none.
def attribute? (r : Record) (name : String) : Option String :=
  match r.attributes.filter fun a => a.localName? = some name.toList with
  | [] => some ""
  | [a] => (resolve? a.value).map String.ofList
  | _ => none

def child? (r : Record) (name : String) : Option (Option Node) :=
  match r.children.filter (Node.hasLocalName name) with
  | [] => some none
  | [child] => some (some child)
  | _ => none

-- The text in a child, which holds nothing else; the empty text if there is no such child.
def text? (r : Record) (name : String) : Option String := do
  match ← r.child? name with
  | none => some ""
  | some (.element _ _ children _) => (children.mapM Node.text?).map fun parts => String.ofList parts.flatten
  | some _ => none

def record? (r : Record) (name : String) : Option (Option Record) := do
  match ← r.child? name with
  | none => some none
  | some child => (ofNode? child).map some

-- The elements of a run that all have the spelling of its first one, and what follows the run. Text that says
-- something has no place in it.
def run? (spelling : List Char) : List Node → Option (List Node × List Node)
  | [] => some ([], [])
  | node :: rest =>
    if node.isElement then
      if node.rawName? = some spelling then (run? spelling rest).map fun parts => (node :: parts.1, parts.2)
      else some ([], node :: rest)
    else if node.saysText then none
    else run? spelling rest

-- The elements of a name, which must stand together.
def elements? (r : Record) (name : String) : Option (List Node) :=
  match r.children.dropWhile fun c => !c.hasLocalName name with
  | [] => some []
  | first :: rest => do
    let (run, after) ← run? (first.rawName?.getD []) (first :: rest)
    if after.any (Node.hasLocalName name) then none else some run

def list? (r : Record) (name : String) : Option (List Record) := do
  (← r.elements? name).mapM ofNode?

end Record

-- The root element as a record. Only blanks may stand in front of it.
def Document.record? (d : Document) : Option Record :=
  if d.before.all fun node => match node with
    | .text raw => raw.all isBlank
    | _ => false
  then d.root.toOption.bind Record.ofNode?
  else none

end Entitlement.Xml
