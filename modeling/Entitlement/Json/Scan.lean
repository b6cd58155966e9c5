import Entitlement.Json.Fault
import Entitlement.Json.Token
import Entitlement.Json.Value
import Entitlement.Text.Quoted

-- The words, numbers and strings of a JSON document, byte by byte, with the fault that stops the reading.
-- A flaw that a byte shows is placed behind that byte. A byte that is only looked at counts as read for that, so
-- `failAhead` places a flaw one byte further than `fail`.
-- What nobody asks for is read leniently: escapes need not make a text, and numbers may have any size.
namespace Entitlement.Json

abbrev Scan (α : Type) := StateT Cursor (Except Fault) α

namespace Scan

def fail (flaw : Flaw) : Scan α := fun c => .error ⟨flaw, c.line, c.column⟩

def failAhead (flaw : Flaw) : Scan α := fun c => fail flaw c.advance

def byte (c : Char) : UInt8 := c.toUInt8

def cursor : Scan Cursor := fun c => .ok (c, c)

def peek? : Scan (Option UInt8) := do return (← cursor).rest.head?

def advance : Scan Unit := modify Cursor.advance

def next? : Scan (Option UInt8) := do
  let b ← peek?
  advance
  return b

def isBlank (b : UInt8) : Bool := b = byte ' ' || b = byte '\t' || b = byte '\n' || b = byte '\r'

-- The next byte that is no blank; it stays.
def peekVisible? : Scan (Option UInt8) := do
  modify (·.dropWhile isBlank)
  peek?

-- The next byte that is no blank. The document must not end before it.
def visible (atEnd : Flaw) : Scan UInt8 := do
  match ← peekVisible? with
  | some b => return b
  | none => failAhead atEnd

def digit? (b : UInt8) : Option Nat := Text.digitValue? (Char.ofNat b.toNat)

def isDigit (b : UInt8) : Bool := (digit? b).isSome

def word : List Char → Scan Unit
  | [] => return ()
  | l :: letters => do
    match ← next? with
    | none => fail .endInValue
    | some b => if b = byte l then word letters else fail .noWord

def digits : Scan (List Nat) := do
  let found := (← cursor).rest.takeWhile isDigit
  modify (·.dropWhile isDigit)
  return found.filterMap digit?

-- The first of the digits that follow, as many as make a value up to the limit and one more.
def digitsUpTo (limit : Nat) : Bytes → Nat → List Nat
  | [], _ => []
  | b :: rest, value => match digit? b with
    | some d => if value ≤ limit then d :: digitsUpTo limit rest (10 * value + d) else []
    | none => []

def advanceBy : Nat → Scan Unit
  | 0 => return ()
  | n + 1 => do
    advance
    advanceBy n

def endInNumber (lenient : Bool) : Flaw := if lenient then .number else .endInValue

def whole (lenient : Bool) : Scan (List Nat) := do
  match ← next? with
  | none => fail (endInNumber lenient)
  | some b => match digit? b with
    | none => fail .number
    | some 0 =>
      if ((← peek?).map isDigit).getD false then failAhead .number
      return [0]
    | some d => return d :: (← digits)

def fraction (lenient : Bool) : Scan (Option (List Nat)) := do
  if (← peek?) = some (byte '.') then
    advance
    match ← digits, ← peek? with
    | [], none => failAhead (endInNumber lenient)
    | [], some _ => failAhead .number
    | found, _ => return some found
  else return none

def exponent (lenient : Bool) : Scan (Option (Bool × Nat)) := do
  let mark ← peek?
  if mark = some (byte 'e') || mark = some (byte 'E') then
    advance
    let sign ← peek?
    if sign = some (byte '+') || sign = some (byte '-') then advance
    match ← next? with
    | none => fail (endInNumber lenient)
    | some b => match digit? b with
      | some d => return some (sign = some (byte '-'), d)
      | none => fail .number
  else return none

def number (negative : Bool) : Scan Number := do
  let whole ← whole false
  let fraction ← fraction false
  -- The digits of an exponent that is too large are not read to their end.
  let exponent ← match ← exponent false with
    | none => pure none
    | some (down, first) => do
      let more := digitsUpTo Spelling.exponentLimit (← cursor).rest first
      advanceBy more.length
      pure (some (down, first :: more))
  match Spelling.value? ⟨negative, whole, fraction, exponent⟩ with
  | some n =>
    modify (·.dropWhile isDigit)
    return n
  | none => fail .numberRange

def skipNumber : Scan Unit := do
  discard (whole true)
  discard (fraction true)
  if (← exponent true).isSome then modify (·.dropWhile isDigit)

def hexNumber : Scan Nat := do
  let found := (← cursor).rest.take 4
  advanceBy found.length
  if found.length < 4 then fail .endInString
  match found.mapM fun b => Text.hexValue? (Char.ofNat b.toNat) with
  | some values => return values.foldl (fun n d => 16 * n + d) 0
  | none => fail .escape

def insidePair (b : UInt8) : Scan Unit := do
  match ← next? with
  | none => fail .endInString
  | some found => if found ≠ b then fail .shortEscape

def escapedChar (lenient : Bool) : Scan Char := do
  match ← next? with
  | none => fail .endInString
  | some b =>
    if b = byte 'u' then
      let n ← hexNumber
      if lenient || n < 0xD800 || 0xDFFF < n then return Char.ofNat n
      if 0xDC00 ≤ n then fail .surrogate
      insidePair (byte '\\')
      insidePair (byte 'u')
      let m ← hexNumber
      if m < 0xDC00 || 0xDFFF < m then fail .surrogate
      return Char.ofNat (0x10000 + (n - 0xD800) * 0x400 + (m - 0xDC00))
    else match escaped? (Char.ofNat b.toNat) with
      | some c => return c
      | none => fail .escape

-- The bytes of a string up to its closing quote; `room` is the number of bytes that may follow.
def stringBytes (lenient : Bool) : Nat → Scan Bytes
  | 0 => fail .endInString
  | room + 1 => do
    match ← peek? with
    | none => fail .endInString
    | some b =>
      if b = byte '"' then
        advance
        return []
      else if b = byte '\\' then
        advance
        let c ← escapedChar lenient
        return String.utf8EncodeChar c ++ (← stringBytes lenient room)
      else if b < 0x20 then
        if !lenient then advance
        fail .controlCharacter
      else
        advance
        return b :: (← stringBytes lenient room)

def string : Scan String := do
  let bytes ← stringBytes false ((← cursor).rest.length + 1)
  match Text.decode? bytes with
  | some text => return text
  | none => fail .encoding

def skipString : Scan Unit := do discard (stringBytes true ((← cursor).rest.length + 1))

-- How a value begins: a list or an object has yet to be entered, all else has been read.
inductive Start where
  | null
  | bool (b : Bool)
  | number (n : Number)
  | text (s : String)
  | list
  | object

def Start.describe : Start → String
  | null => "null"
  | bool b => "boolean `" ++ (if b then "true" else "false") ++ "`"
  | number (.integer n) => "integer `" ++ String.ofList (writeInteger n) ++ "`"
  | number (.floating bits) => "floating point `" ++ String.ofList (writeFloating bits) ++ "`"
  | text s => "string " ++ Text.quoted s
  | list => "sequence"
  | object => "map"

def start : Scan Start := do
  let b ← visible .endInValue
  if b = byte '[' then return .list
  else if b = byte '\x7b' then return .object
  else if isDigit b then return .number (← number false)
  else match Char.ofNat b.toNat with
    | 'n' => do
      advance
      word ['u', 'l', 'l']
      return .null
    | 't' => do
      advance
      word ['r', 'u', 'e']
      return .bool true
    | 'f' => do
      advance
      word ['a', 'l', 's', 'e']
      return .bool false
    | '-' => do
      advance
      return .number (← number true)
    | '"' => do
      advance
      return .text (← string)
    | _ => failAhead .noValue

-- Whether another item of a list follows, which then comes next; else its closing bracket does.
def hasItem (first : Bool) : Scan Bool := do
  let b ← visible .endInList
  if b = byte ']' then return false
  else if first then return true
  else if b = byte ',' then
    advance
    if (← visible .endInValue) = byte ']' then failAhead .trailingComma
    return true
  else failAhead .noCommaInList

-- Whether another member of an object follows, whose key then comes next; else its closing brace does.
def hasMember (first : Bool) : Scan Bool := do
  let b ← visible .endInObject
  if b = byte '\x7d' then return false
  else if first then
    if b ≠ byte '"' then failAhead .key
    return true
  else if b = byte ',' then
    advance
    let b ← visible .endInValue
    if b = byte '\x7d' then failAhead .trailingComma
    if b ≠ byte '"' then failAhead .key
    return true
  else failAhead .noCommaInObject

def key : Scan String := do
  advance
  string

def colon : Scan Unit := do
  if (← visible .endInObject) = byte ':' then advance else failAhead .noColon

def listEnd : Scan Unit := do
  let b ← visible .endInList
  if b = byte ']' then advance
  else if b = byte ',' then
    advance
    failAhead (if (← peekVisible?) = some (byte ']') then .trailingComma else .surplus)
  else failAhead .surplus

def documentEnd : Scan Unit := do if (← peekVisible?).isSome then failAhead .surplus

inductive Bracket where
  | list
  | object
deriving DecidableEq

def Bracket.close : Bracket → UInt8
  | list => byte ']'
  | object => byte '\x7d'

def Bracket.atEnd : Bracket → Flaw
  | list => .endInList
  | object => .endInObject

def Bracket.noComma : Bracket → Flaw
  | list => .noCommaInList
  | object => .noCommaInObject

def skipKey : Bracket → Scan Unit
  | .list => return ()
  | .object => do
    if (← visible .endInObject) ≠ byte '"' then failAhead .key
    advance
    skipString
    colon

def skipStart : Scan (Option Bracket) := do
  let b ← visible .endInValue
  if b = byte '[' then
    advance
    return some .list
  else if b = byte '\x7b' then
    advance
    return some .object
  else
    if isDigit b then skipNumber
    else match Char.ofNat b.toNat with
      | 'n' => do
        advance
        word ['u', 'l', 'l']
      | 't' => do
        advance
        word ['r', 'u', 'e']
      | 'f' => do
        advance
        word ['a', 'l', 's', 'e']
      | '-' => do
        advance
        skipNumber
      | '"' => do
        advance
        skipString
      | _ => failAhead .noValue
    return none

-- Passes over the rest of a value, given its open containers from the inner to the outer. `fresh` tells that
-- the innermost one has just been opened, `next` that a value comes next. Every step reads at least one byte.
def skipFrom (fresh next : Bool) : List Bracket → Nat → Scan Unit
  | _, 0 => return ()
  | brackets, room + 1 => do
    if next then
      match ← skipStart with
      | some bracket => skipFrom true false (bracket :: brackets) room
      | none => skipFrom false false brackets room
    else match brackets with
      | [] => return ()
      | bracket :: outer =>
        let b ← visible bracket.atEnd
        if b = bracket.close then
          advance
          skipFrom false false outer room
        else if fresh then
          skipKey bracket
          skipFrom false true brackets room
        else if b = byte ',' then
          advance
          skipKey bracket
          skipFrom false true brackets room
        else failAhead bracket.noComma

def skipValue : Scan Unit := do skipFrom false true [] (2 * (← cursor).rest.length + 2)

end Scan
end Entitlement.Json
