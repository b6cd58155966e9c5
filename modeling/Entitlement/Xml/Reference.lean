import Entitlement.Text.Numeral
import Entitlement.Xml.Fault

-- References in XML texts: each stands for one character, by a name or by a number.
namespace Entitlement.Xml

-- The value of the digits of a base, which must fit into 32 bits.
def digitsOf (base : Nat) : Nat → List Char → Except NumberFault Nat
  | value, [] => .ok value
  | value, c :: rest => match (Text.hexValue? c).filter (· < base) with
    | none => .error .digit
    | some d => if base * value + d < limit32 then digitsOf base (base * value + d) rest else .error .large

def characterOf (n : Nat) : Except NumberFault Char :=
  if n = 0 then .error .zero
  else if n < 0xD800 || (0xDFFF < n && n < 0x110000) then .ok (Char.ofNat n)
  else .error (.noCharacter n)

def numbered (base : Nat) (digits : List Char) : Except NumberFault Char :=
  match digits with
  | [] => .error .empty
  | '+' :: _ | '-' :: _ => .error .sign
  | _ => digitsOf base 0 digits >>= characterOf

def named? (name : List Char) : Option Char :=
  match name with
  | ['l', 't'] => some '<'
  | ['g', 't'] => some '>'
  | ['a', 'm', 'p'] => some '&'
  | ['a', 'p', 'o', 's'] => some (Char.ofNat 39)
  | ['q', 'u', 'o', 't'] => some '"'
  | _ => none

def reference (start stop : Nat) (name : List Char) : Except Fault Char :=
  match name with
  | '#' :: 'x' :: digits => (numbered 16 digits).mapError .number
  | '#' :: digits => (numbered 10 digits).mapError .number
  | _ => match named? name with
    | some c => .ok c
    | none => .error (.unknownReference start stop (String.ofList name))

def size : List Char → Nat
  | [] => 0
  | c :: rest => c.utf8Size + size rest

-- Replaces the references in a text of a size, from a position on. While a reference is being read, its start and
-- its letters in reverse order are kept.
def resolveFrom (total : Nat) : Nat → Option (Nat × List Char) → List Char → Except Fault (List Char)
  | _, none, [] => .ok []
  | _, some (start, _), [] => .error (.openReference start total)
  | position, none, c :: rest =>
    if c = '&' then resolveFrom total (position + 1) (some (position, [])) rest
    else (resolveFrom total (position + c.utf8Size) none rest).map (c :: ·)
  | position, some (start, letters), c :: rest =>
    if c = ';' then do
      let character ← reference (start + 1) position letters.reverse
      return character :: (← resolveFrom total (position + 1) none rest)
    else if c = '&' then .error (.openReference start total)
    else resolveFrom total (position + c.utf8Size) (some (start, c :: letters)) rest

def resolve (raw : List Char) : Except Fault (List Char) := resolveFrom (size raw) 0 none raw

def resolve? (raw : List Char) : Option (List Char) := (resolve raw).toOption

end Entitlement.Xml
