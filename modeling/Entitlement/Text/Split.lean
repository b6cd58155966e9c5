import Entitlement.Text.Blank

-- Cutting text at a character: all pieces, the first cut, the last cut, and lines.
namespace Entitlement.Text

-- The pieces between the separators, empty ones included; a text without separator is one piece.
def split (separator : Char) : List Char → List (List Char)
  | [] => [[]]
  | c :: rest =>
    if c = separator then [] :: split separator rest
    else match split separator rest with
      | piece :: pieces => (c :: piece) :: pieces
      | [] => [[c]]

-- What stands before and after the first separator.
def splitFirst (separator : Char) : List Char → Option (List Char × List Char)
  | [] => none
  | c :: rest =>
    if c = separator then some ([], rest)
    else (splitFirst separator rest).map fun parts => (c :: parts.1, parts.2)

-- What stands before and after the last separator.
def splitLast (separator : Char) (cs : List Char) : Option (List Char × List Char) :=
  (splitFirst separator cs.reverse).map fun parts => (parts.2.reverse, parts.1.reverse)

-- A line that a line feed ends also loses one carriage return in front of it.
def dropReturn (line : List Char) : List Char :=
  if line.getLast? = some '\r' then line.dropLast else line

-- Turns the pieces between line feeds into lines: the last piece is a line only if it holds text.
def linesOfPieces : List (List Char) → List (List Char)
  | [] => []
  | [last] => if last.isEmpty then [] else [last]
  | piece :: pieces => dropReturn piece :: linesOfPieces pieces

def lines (cs : List Char) : List (List Char) := linesOfPieces (split '\n' cs)

def stripStart : List Char → List Char → Option (List Char)
  | [], cs => some cs
  | _ :: _, [] => none
  | s :: start, c :: cs => if s = c then stripStart start cs else none

def contains (part : List Char) : List Char → Bool
  | [] => part.isEmpty
  | c :: cs => part.isPrefixOf (c :: cs) || contains part cs

def occurs (part text : String) : Bool := contains part.toList text.toList

end Entitlement.Text
