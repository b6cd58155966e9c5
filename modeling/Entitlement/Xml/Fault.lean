import Entitlement.Text.Quoted

-- What can be wrong with an XML text, or with its place in what is read from it.
-- Positions count the bytes of a tag from its name on, or those of a text from its start.
namespace Entitlement.Xml

inductive NumberFault where
  | sign
  | empty
  | digit
  | large
  | zero
  | noCharacter (n : Nat)
deriving DecidableEq

def NumberFault.message : NumberFault → String
  | sign => "unexpected number sign"
  | empty => "cannot parse integer from empty string"
  | digit => "invalid digit found in string"
  | large => "number too large to fit in target type"
  | zero => "0x0 character is not permitted in XML"
  | noCharacter n => "`" ++ toString n ++ "` is not a valid codepoint"

inductive Fault where
  | markup
  | openInstruction
  | openComment
  | openDoctype
  | openVerbatim
  | openTag
  | noDoctypeName
  | noEndTag (name : String)
  | strayEndTag (name : String)
  | otherEndTag (expected found : String)
  | noEquals (position : Nat)
  | noValue (position : Nat)
  | noQuote (position : Nat)
  | openValue (position : Nat) (quote : Char)
  | repeatedAttribute (position first : Nat)
  | unknownReference (start stop : Nat) (name : String)
  | openReference (start stop : Nat)
  | number (fault : NumberFault)
  | endOfText
  | unexpectedElement (name : String)
  | repeatedField (name : String)
  | textForRecord (text record : String)
deriving DecidableEq

namespace Fault

def byteText (b : UInt8) : String := "0x" ++ String.ofList ((Nat.toDigits 16 b.toNat).map Char.toUpper)

def shownByte (b : UInt8) : String :=
  if b = 34 then "\\\"" else if 32 ≤ b && b < 127 then String.ofList [Char.ofNat b.toNat] else byteText b

def shownName (name : String) : String :=
  "\"" ++ String.join (name.toList.flatMap fun c => (String.utf8EncodeChar c).map shownByte) ++ "\""

def range (start stop : Nat) : String := toString start ++ ".." ++ toString stop

def message : Fault → String
  | markup => "syntax error: unknown or missed symbol in markup"
  | openInstruction =>
    "syntax error: processing instruction or xml declaration not closed: `?>` not found before end of input"
  | openComment => "syntax error: comment not closed: `-->` not found before end of input"
  | openDoctype => "syntax error: DOCTYPE not closed: `>` not found before end of input"
  | openVerbatim => "syntax error: CDATA not closed: `]]>` not found before end of input"
  | openTag => "syntax error: tag not closed: `>` not found before end of input"
  | noDoctypeName =>
    "ill-formed document: `<!DOCTYPE>` declaration does not contain a name of a document type"
  | noEndTag name =>
    "ill-formed document: start tag not closed: `</" ++ name ++ ">` not found before end of input"
  | strayEndTag name => "ill-formed document: close tag `</" ++ name ++ ">` does not match any open tag"
  | otherEndTag expected found =>
    "ill-formed document: expected `</" ++ expected ++ ">`, but `</" ++ found ++ ">` was found"
  | noEquals position =>
    inTag position "attribute key must be directly followed by `=` or space"
  | noValue position => inTag position "`=` must be followed by an attribute value"
  | noQuote position => inTag position ("attribute value must be enclosed in `\"` or `" ++ apostrophe ++ "`")
  | openValue position quote =>
    inTag position ("missing closing quote `" ++ quote.toString ++ "` in attribute value")
  | repeatedAttribute position first =>
    inTag position ("duplicated attribute, previous declaration at position " ++ toString first)
  | unknownReference start stop name =>
    "at " ++ range start stop ++ ": unrecognized entity `" ++ name ++ "`"
  | openReference start stop =>
    "Error while escaping character at range " ++ range start stop ++ ": Cannot find ';' after '&'"
  | number fault => "invalid character reference: " ++ fault.message
  | endOfText => "unexpected `Event::Eof`"
  | unexpectedElement name => "unexpected `Event::Start(" ++ shownName name ++ ")`"
  | repeatedField name => "duplicate field `" ++ name ++ "`"
  | textForRecord text record => "invalid type: string " ++ Text.quoted text ++ ", expected struct " ++ record
where
  apostrophe : String := (Char.ofNat 39).toString
  inTag (position : Nat) (text : String) : String :=
    "error while parsing attribute: position " ++ toString position ++ ": " ++ text

end Fault
end Entitlement.Xml
