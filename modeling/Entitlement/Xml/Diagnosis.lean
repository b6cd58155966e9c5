import Entitlement.Xml.Record

-- Why a text is not what a reader expects: its first fault.
-- The text is followed from its start. Blanks around the text between two tags do not count for it.
namespace Entitlement.Xml

-- What an element must be: one that holds text only, a record, or one of several elements of its name.
inductive Shape where
  | text
  | record (name : String) (attributes : List String) (children : List (String × Shape))
  | list (item : Shape)

def Shape.item : Shape → Shape
  | list item => item
  | shape => shape

def Shape.name : Shape → String
  | record name _ _ => name
  | _ => ""

def trimStart : List Node → List Node
  | .text raw :: rest => match dropBlanks raw with
    | [] => trimStart rest
    | cs => .text cs :: rest
  | nodes => nodes

def trimEnd : List Node → List Node
  | [] => []
  | [.text raw] => [.text (Text.dropEnd isBlank raw)]
  | node :: rest => node :: trimEnd rest

def content : Node → Except Fault (List Char)
  | .text raw => resolve raw
  | .verbatim text => .ok text
  | .element _ _ _ _ => .ok []

-- The text that nodes in a row make, the last node first; nothing if they are blank.
def textOf (nodes : List Node) : Except Fault (Option (List Char)) :=
  match trimEnd (trimStart nodes.reverse) with
  | [] => .ok none
  | nodes => do return some (← nodes.mapM content).flatten

def checkClosing (name : List Char) : Closing → Except Fault Unit
  | .tag => .ok ()
  | .endOfText => .error (.noEndTag (String.ofList name))
  | .broken fault => .error fault

def checkAttributes (names seen : List String) : List Attribute → Except Fault Unit
  | [] => .ok ()
  | a :: rest =>
    match a.localName?.bind fun name => names.find? (·.toList = name) with
    | none => checkAttributes names seen rest
    | some name => do
      if seen.contains name then throw (.repeatedField ("@" ++ name))
      let _ ← resolve a.value
      checkAttributes names (name :: seen) rest

-- Text beside the children of a record is not looked at, but it has no place between the items of a list.
def checkBeside (run : Option (List Char × Shape)) (texts : List Node) : Except Fault Unit := do
  match ← textOf texts, run with
  | some text, some (_, item) =>
    if !text.all isBlank then throw (.textForRecord (String.ofList text) item.name)
  | _, _ => return ()

-- The children of an element that holds text only; `texts` are those so far, the last one first.
def checkText (texts : List Node) : List Node → Except Fault Unit
  | [] => discard (textOf texts)
  | .element name _ _ _ :: _ => do
    let _ ← textOf texts
    throw (.unexpectedElement (String.ofList name))
  | node :: rest => checkText (node :: texts) rest

mutual

def check (shape : Shape) : Node → Except Fault Unit
  | .element name attributes children closing => do
    match shape with
    | .record _ names fields => do
      let attributes := Attributes.ofTag (size name) attributes
      checkAttributes names [] attributes.read
      if let some fault := attributes.fault then throw fault
      checkChildren fields [] none [] children
    | _ => checkText [] children
    checkClosing name closing
  | _ => return ()

-- The first fault of the children of a record, given the fields that were seen, the spelling and the shape of a list
-- that may go on, and the texts since the last element.
def checkChildren (fields : List (String × Shape)) (seen : List String) (run : Option (List Char × Shape))
    (texts : List Node) : List Node → Except Fault Unit
  | [] => checkBeside run texts
  | .element name attributes children closing :: rest => do
    checkBeside run texts
    if run.any fun r => r.1 = name then
      check ((run.map (·.2)).getD .text) (.element name attributes children closing)
      checkChildren fields seen run [] rest
    else match fields.find? fun f => f.1.toList = localName name with
      | none => do
        checkClosing name closing
        checkChildren fields seen none [] rest
      | some (key, shape) => do
        if seen.contains key then throw (.repeatedField key)
        check shape.item (.element name attributes children closing)
        let run := match shape with
          | .list item => some (name, item)
          | _ => none
        checkChildren fields (key :: seen) run [] rest
  | node :: rest => checkChildren fields seen run (node :: texts) rest

end

def Document.check (shape : Shape) (d : Document) : Except Fault Unit := do
  if let some text := ← textOf d.before.reverse then throw (.textForRecord (String.ofList text) shape.name)
  Xml.check shape (← d.root)

end Entitlement.Xml
