import Entitlement.Text.Utf8

-- What can be wrong with a JSON document, and where.
-- A place is a line, counted from 1, and the number of bytes of that line in front of it.
namespace Entitlement.Json

inductive Flaw where
  | endInList
  | endInObject
  | endInString
  | endInValue
  | noColon
  | noCommaInList
  | noCommaInObject
  | noWord
  | noValue
  | escape
  | shortEscape
  | surrogate
  | encoding
  | controlCharacter
  | number
  | numberRange
  | key
  | trailingComma
  | surplus
  | tooDeep
  | kind (found expected : String)
  | range (found expected : String)
  | tooFewItems (count : Nat) (record : String) (fields : Nat)
  | missingField (name : String)
  | repeatedField (name : String)
  | content (text : String)
deriving DecidableEq

def Flaw.message : Flaw → String
  | endInList => "EOF while parsing a list"
  | endInObject => "EOF while parsing an object"
  | endInString => "EOF while parsing a string"
  | endInValue => "EOF while parsing a value"
  | noColon => "expected `:`"
  | noCommaInList => "expected `,` or `]`"
  | noCommaInObject => "expected `,` or `\x7d`"
  | noWord => "expected ident"
  | noValue => "expected value"
  | escape => "invalid escape"
  | shortEscape => "unexpected end of hex escape"
  | surrogate => "lone leading surrogate in hex escape"
  | encoding => "invalid unicode code point"
  | controlCharacter => "control character (\\u0000-\\u001F) found while parsing a string"
  | number => "invalid number"
  | numberRange => "number out of range"
  | key => "key must be a string"
  | trailingComma => "trailing comma"
  | surplus => "trailing characters"
  | tooDeep => "recursion limit exceeded"
  | kind found expected => "invalid type: " ++ found ++ ", expected " ++ expected
  | range found expected => "invalid value: " ++ found ++ ", expected " ++ expected
  | tooFewItems count record fields =>
    "invalid length " ++ toString count ++ ", expected struct " ++ record ++ " with " ++ toString fields
      ++ (if fields = 1 then " element" else " elements")
  | missingField name => "missing field `" ++ name ++ "`"
  | repeatedField name => "duplicate field `" ++ name ++ "`"
  | content text => text

structure Cursor where
  rest : Bytes
  line : Nat
  column : Nat

namespace Cursor

def start (bytes : Bytes) : Cursor := ⟨bytes, 1, 0⟩

def advance (c : Cursor) : Cursor :=
  match c.rest with
  | [] => c
  | b :: rest => if b = 10 then ⟨rest, c.line + 1, 0⟩ else ⟨rest, c.line, c.column + 1⟩

def dropFrom (p : UInt8 → Bool) : Bytes → Nat → Nat → Cursor
  | [], line, column => ⟨[], line, column⟩
  | b :: rest, line, column =>
    if p b then
      if b = 10 then dropFrom p rest (line + 1) 0 else dropFrom p rest line (column + 1)
    else ⟨b :: rest, line, column⟩

def dropWhile (p : UInt8 → Bool) (c : Cursor) : Cursor := dropFrom p c.rest c.line c.column

end Cursor

structure Fault where
  flaw : Flaw
  line : Nat
  column : Nat
deriving DecidableEq

def Fault.message (f : Fault) : String :=
  f.flaw.message ++ " at line " ++ toString f.line ++ " column " ++ toString f.column

end Entitlement.Json
