import Entitlement.Text.Split
import Entitlement.Xml.Token

-- The attributes in a tag: names with values in quotation marks, and no name twice.
namespace Entitlement.Xml

structure Attribute where
  name : List Char
  value : List Char
deriving DecidableEq

structure Attributes where
  read : List Attribute
  fault : Option Fault

namespace Attributes

def faulty (fault : Fault) : Attributes := ⟨[], some fault⟩

def cons (a : Attribute) (rest : Attributes) : Attributes := ⟨a :: rest.read, rest.fault⟩

-- How far the reading has come; what is collected stands in reverse order. A name is kept with the position of its
-- start.
inductive Stage where
  | between
  | name (start : Nat) (letters : List Char)
  | equals (start : Nat) (name : List Char)
  | quote (name : List Char)
  | value (name : List Char) (quote : Char) (letters : List Char)

def scan (known : List (List Char × Nat)) (position : Nat) : Stage → List Char → Attributes
  | .between, [] => ⟨[], none⟩
  | .name _ _, [] | .equals _ _, [] => faulty (.noEquals position)
  | .quote _, [] => faulty (.noValue position)
  | .value _ quote _, [] => faulty (.openValue position quote)
  | .between, c :: rest =>
    if isBlank c then scan known (position + 1) .between rest
    else scan known (position + c.utf8Size) (.name position [c]) rest
  | .name start letters, c :: rest =>
    if c = '=' then begin known start letters.reverse (position + 1) rest
    else if isBlank c then scan known (position + 1) (.equals start letters.reverse) rest
    else scan known (position + c.utf8Size) (.name start (c :: letters)) rest
  | .equals start name, c :: rest =>
    if isBlank c then scan known (position + 1) (.equals start name) rest
    else if c = '=' then begin known start name (position + 1) rest
    else faulty (.noEquals position)
  | .quote name, c :: rest =>
    if isBlank c then scan known (position + 1) (.quote name) rest
    else if c = '"' || c.toNat = 39 then scan known (position + 1) (.value name c []) rest
    else faulty (.noQuote position)
  | .value name quote letters, c :: rest =>
    if c = quote then cons ⟨name, letters.reverse⟩ (scan known (position + 1) .between rest)
    else scan known (position + c.utf8Size) (.value name quote (c :: letters)) rest
where
  begin (known : List (List Char × Nat)) (start : Nat) (name : List Char) (position : Nat) (rest : List Char) :
      Attributes :=
    match known.find? fun k => k.1 == name with
    | some (_, first) => faulty (.repeatedAttribute start first)
    | none => scan ((name, start) :: known) position (.quote name) rest

def ofTag (nameSize : Nat) (cs : List Char) : Attributes := scan [] nameSize .between cs

end Attributes

def localName (name : List Char) : List Char :=
  match Text.splitFirst ':' name with
  | some (_, rest) => rest
  | none => name

def Attribute.localName? (a : Attribute) : Option (List Char) :=
  match Text.splitFirst ':' a.name with
  | some (space, rest) => if space = "xmlns".toList then none else some rest
  | none => if a.name = "xmlns".toList then none else some a.name

end Entitlement.Xml
