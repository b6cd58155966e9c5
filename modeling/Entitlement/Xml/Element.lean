import Entitlement.Xml.Attribute

-- The elements of an XML text.
-- Reading the tokens checks that tags are nested, and stops where the first element ends. What stands in a tag or
-- a text is checked only where it is asked for, so that elements that nobody asks about may hold anything. Where the
-- text breaks off or is broken, the elements that are open end there with a fault.
namespace Entitlement.Xml

inductive Closing where
  | tag
  | endOfText
  | broken (fault : Fault)
deriving DecidableEq

inductive Node where
  | element (name attributes : List Char) (children : List Node) (closing : Closing)
  | text (raw : List Char)
  | verbatim (text : List Char)

-- An element whose end has not come: its name, its attributes, and its children, the last first.
structure Frame where
  name : List Char
  attributes : List Char
  children : List Node

namespace Frame

def push (node : Node) (frame : Frame) : Frame := { frame with children := node :: frame.children }

def close (frame : Frame) (closing : Closing) : Node :=
  .element frame.name frame.attributes frame.children.reverse closing

end Frame

def splitTag (tag : List Char) : List Char × List Char :=
  (tag.takeWhile (!isBlank ·), tag.dropWhile (!isBlank ·))

-- What is read of a text: what stands in front of the first element, and the element or why there is none.
structure Document where
  before : List Node
  root : Except Fault Node

def closeAll (closing : Closing) (node : Node) : List Frame → Node
  | [] => node
  | frame :: outer => closeAll closing ((frame.push node).close closing) outer

def breakOff (before : List Node) (frames : List Frame) (closing : Closing) : Document :=
  match frames, closing with
  | frame :: outer, _ => ⟨before.reverse, .ok (closeAll closing (frame.close closing) outer)⟩
  | [], .broken fault => ⟨before.reverse, .error fault⟩
  | [], _ => ⟨before.reverse, .error .endOfText⟩

-- Reads tokens, given what stood in front of the first element, the last node first, and the open elements from the
-- inner to the outer.
def readTokens (before : List Node) : List Frame → List Token → Document
  | frames, [] => breakOff before frames .endOfText
  | frames, token :: rest => match token, frames with
    | .broken fault, _ => breakOff before frames (.broken fault)
    | .text raw, [] => readTokens (.text raw :: before) [] rest
    | .text raw, frame :: outer => readTokens before (frame.push (.text raw) :: outer) rest
    | .verbatim text, [] => readTokens (.verbatim text :: before) [] rest
    | .verbatim text, frame :: outer => readTokens before (frame.push (.verbatim text) :: outer) rest
    | .opening tag, _ =>
      if tag.getLast? = some '/' then
        let (name, attributes) := splitTag tag.dropLast
        deliver (.element name attributes [] .tag) frames rest
      else
        let (name, attributes) := splitTag tag
        readTokens before (⟨name, attributes, []⟩ :: frames) rest
    | .closing name, [] => breakOff before [] (.broken (.strayEndTag (String.ofList name)))
    | .closing name, frame :: outer =>
      if frame.name = name then deliver (frame.close .tag) outer rest
      else breakOff before frames (.broken (.otherEndTag (String.ofList frame.name) (String.ofList name)))
where
  -- Puts an element into the innermost open one. Without one, it is the root.
  deliver (node : Node) (frames : List Frame) (rest : List Token) : Document :=
    match frames with
    | [] => ⟨before.reverse, .ok node⟩
    | frame :: outer => readTokens before (frame.push node :: outer) rest

def Document.ofText (text : List Char) : Document := readTokens [] [] (tokens text)

end Entitlement.Xml
