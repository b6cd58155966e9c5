import Entitlement.Toml.Item
import Entitlement.Toml.Scalar
import Entitlement.Toml.Quotation

-- Reading TOML documents.
-- A document is read expression by expression: a key with its value, the header of a table, or nothing, each up to the
-- end of its line. Values are nested at most `nestingLimit` deep. Lists inside of values are read with a
-- count of steps that the length of the text bounds.
namespace Entitlement.Toml

def nestingLimit : Nat := 80

def isSpace (c : Char) : Bool := c == ' ' || c == '\t'

def dropSpaces (cs : List Char) : List Char := cs.dropWhile isSpace

def isBareKeyChar (c : Char) : Bool := c.isAlphanum || c == '_' || c == '-'

def dropComment (cs : List Char) : Option (List Char) :=
  match cs with
  | '#' :: text =>
    let comment := text.takeWhile fun c => c != '\n'
    let rest := text.drop comment.length
    -- The carriage return of a line end is no part of the comment.
    let comment := if rest.head? = some '\n' ∧ comment.getLast? = some '\r' then comment.dropLast else comment
    if comment.all isPlain then some rest else none
  | _ => some cs

-- Drops spaces, a comment and the end of the line, which must follow.
def endLine (cs : List Char) : Option (List Char) :=
  match dropComment (dropSpaces cs) with
  | some [] => some []
  | some ('\n' :: rest) => some rest
  | some ('\r' :: '\n' :: rest) => some rest
  | _ => none

def dropTrivia : Nat → List Char → Option (List Char)
  | 0, cs => some cs
  | steps + 1, cs => match dropSpaces cs with
    | '\n' :: rest => dropTrivia steps rest
    | '\r' :: '\n' :: rest => dropTrivia steps rest
    | '#' :: text => (dropComment ('#' :: text)).bind (dropTrivia steps)
    | rest => some rest

def readKeyPart (cs : List Char) : Option (String × List Char) :=
  match cs.takeWhile isBareKeyChar with
  | [] => (readQuotedLine cs).map fun found => (String.ofList found.1, found.2)
  | bare => some (String.ofList bare, cs.drop bare.length)

def readKey : Nat → List Char → Option (List String × List Char)
  | 0, _ => none
  | steps + 1, cs => do
    let (part, rest) ← readKeyPart cs
    match dropSpaces rest with
    | '.' :: more => do
      let (parts, rest) ← readKey steps (dropSpaces more)
      some (part :: parts, rest)
    | rest => some ([part], rest)

def endsBare (c : Char) : Bool :=
  isSpace c || c == '\n' || c == '\r' || c == ',' || c == ']' || c == '\x7d' || c == '#' || c == '='
    || c == '[' || c == '\x7b' || c == '"' || c == '\''

-- An unquoted value. A single space may divide a date from a time.
def readBare (cs : List Char) : Option (Item × List Char) :=
  let word := cs.takeWhile (!endsBare ·)
  let rest := cs.drop word.length
  let second := match rest with
    | ' ' :: time => time.takeWhile (!endsBare ·)
    | _ => []
  if isDate word && second.head?.any isDigit then
    if isMoment (word ++ ' ' :: second) then some (.scalar, rest.drop (second.length + 1)) else none
  else if word = "true".toList then some (.bool true, rest)
  else if word = "false".toList then some (.bool false, rest)
  else if isNumberOrMoment word then some (.scalar, rest)
  else none

def readItems (value : List Char → Option (Item × List Char)) : Nat → List Char → Option (List Char)
  | 0, _ => none
  | steps + 1, cs => do
    match ← dropTrivia cs.length cs with
    | ']' :: rest => some rest
    | cs =>
      let (_, rest) ← value cs
      match ← dropTrivia rest.length rest with
      | ',' :: rest => readItems value steps rest
      | ']' :: rest => some rest
      | _ => none

def readInline (value : List Char → Option (Item × List Char)) :
    Nat → Entries → List Char → Option (List Char)
  | 0, _, _ => none
  | steps + 1, entries, cs => do
    match ← dropTrivia cs.length cs with
    | '\x7d' :: rest => some rest
    | cs =>
      let (path, rest) ← readKey cs.length cs
      match dropSpaces rest with
      | '=' :: rest =>
        let (item, rest) ← value (dropSpaces rest)
        let key ← path.getLast?
        let entries ← entries.setDotted path.dropLast key item
        match ← dropTrivia rest.length rest with
        | ',' :: rest => readInline value steps entries rest
        | '\x7d' :: rest => some rest
        | _ => none
      | _ => none

def readValue : Nat → List Char → Option (Item × List Char)
  | 0, _ => none
  | depth + 1, cs => match cs with
    | '"' :: _ | '\'' :: _ =>
      (readQuoted cs).map fun found => (.text (String.ofList found.1), found.2)
    | '[' :: rest => (readItems (readValue depth) (rest.length + 1) rest).map (.array, ·)
    | '\x7b' :: rest => (readInline (readValue depth) (rest.length + 1) [] rest).map (.inline, ·)
    | _ => readBare cs

structure Reading where
  root : Entries
  current : List String

def readHeader (cs : List Char) : Option (List String × String × List Char) := do
  let cs := dropSpaces cs
  let (path, rest) ← readKey cs.length cs
  some (path.dropLast, ← path.getLast?, dropSpaces rest)

def readExpression (reading : Reading) (cs : List Char) : Option (Reading × List Char) :=
  match dropSpaces cs with
  | '[' :: '[' :: rest => do
    match ← readHeader rest with
    | (path, key, ']' :: ']' :: rest) =>
      let root ← reading.root.appendTable path key
      some (⟨root, path ++ [key]⟩, ← endLine rest)
    | _ => none
  | '[' :: rest => do
    match ← readHeader rest with
    | (path, key, ']' :: rest) =>
      let root ← reading.root.defineTable path key
      some (⟨root, path ++ [key]⟩, ← endLine rest)
    | _ => none
  | [] => some (reading, [])
  | c :: rest =>
    if c = '\n' ∨ c = '\r' ∨ c = '#' then (endLine (c :: rest)).map (reading, ·)
    else do
      let (path, rest) ← readKey (rest.length + 1) (c :: rest)
      match rest with
      | '=' :: rest => do
        let (item, rest) ← readValue nestingLimit (dropSpaces rest)
        let key ← path.getLast?
        let root ← reading.root.modifyAt .implied (Entries.setDotted path.dropLast key item) reading.current
        some (⟨root, reading.current⟩, ← endLine rest)
      | _ => none

def readExpressions : Nat → Reading → List Char → Option Entries
  | _, reading, [] => some reading.root
  | 0, _, _ => none
  | steps + 1, reading, cs => do
    let (reading, rest) ← readExpression reading cs
    readExpressions steps reading rest

-- Reads a document; a byte order mark may stand before it.
def read? (text : String) : Option Entries :=
  let cs := match text.toList with
    | '\uFEFF' :: rest => rest
    | cs => cs
  readExpressions (cs.length + 1) ⟨[], []⟩ cs

end Entitlement.Toml
