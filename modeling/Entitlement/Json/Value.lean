import Entitlement.Json.Number

-- JSON values, and how they are written.
-- The members of an object keep their order. A value is written compactly, or over several lines with two
-- spaces for each level. `Written` values hold plain text, so strings need no code units.
namespace Entitlement

inductive Json where
  | null
  | bool (b : Bool)
  | number (n : Json.Number)
  | string (s : String)
  | array (items : List Json)
  | object (members : List (String × Json))

namespace Json

def integer (n : Int) : Json := .number (.integer n)

def member? (name text : String) : List (String × Json) :=
  if text.isEmpty then [] else [(name, .string text)]

def option? (name : String) : Option Json → List (String × Json)
  | none => []
  | some value => [(name, value)]

def list? (name : String) (items : List Json) : List (String × Json) :=
  if items.isEmpty then [] else [(name, .array items)]

def strings (texts : List String) : Json := .array (texts.map .string)

def escape (c : Char) : List Char :=
  if c = '"' then ['\\', '"']
  else if c = '\\' then ['\\', '\\']
  else if c = '\x08' then ['\\', 'b']
  else if c = '\t' then ['\\', 't']
  else if c = '\n' then ['\\', 'n']
  else if c = '\x0c' then ['\\', 'f']
  else if c = '\r' then ['\\', 'r']
  else if c.toNat < 0x20 then
    ['\\', 'u', '0', '0', Nat.digitChar (c.toNat / 16), Nat.digitChar (c.toNat % 16)]
  else [c]

def writeString (s : String) : List Char := '"' :: s.toList.flatMap escape ++ ['"']

def writeInteger (n : Int) : List Char :=
  if n < 0 then '-' :: Nat.toDigits 10 n.natAbs else Nat.toDigits 10 n.natAbs

def hiddenBit : Nat := 0x10000000000000

def mantissa (bits : UInt64) : Bool × Nat × Int :=
  let n : Nat := bits.toNat
  let fraction := n % hiddenBit
  let exponent : Nat := n / hiddenBit % 0x800
  if exponent = 0 then (n / limit63 = 1, fraction, -1074)
  else (n / limit63 = 1, fraction + hiddenBit, (exponent : Int) - 1075)

-- The multiple of `10 ^ p` nearest to `m * 2 ^ e`, if it lies between the midpoints to the neighbours of
-- `m`: the answer is its factor. Of two as near ones the even factor is taken.
def onGrid (m : Nat) (e p : Int) : Option Nat :=
  -- Everything is scaled to integers: the number is `4 * m * unit`, one step of the grid is `step`.
  let unit := Nat.pow 2 e.toNat * Nat.pow 10 (-p).toNat
  let step := 4 * Nat.pow 2 (-e).toNat * Nat.pow 10 p.toNat
  let value := 4 * m * unit
  let low := value - (if m = hiddenBit ∧ e ≠ -1074 then unit else 2 * unit)
  let high := value + 2 * unit
  let inside (x : Nat) : Bool :=
    if m % 2 = 0 then low ≤ x ∧ x ≤ high else low < x ∧ x < high
  let below := value / step
  let distance := value % step
  let first := if 2 * distance < step ∨ (2 * distance = step ∧ below % 2 = 0) then below else below + 1
  let second := if first = below then below + 1 else below
  if inside (first * step) then some first
  else if inside (second * step) then some second
  else none

-- The shortest decimal that reads back as `m * 2 ^ e`, as digits and a power of ten, sought on the grids
-- from `10 ^ p` downwards.
def shortest (m : Nat) (e : Int) : Nat → Int → Nat × Int
  | 0, p => (m, p)
  | tries + 1, p => match onGrid m e p with
    | some (n + 1) => (n + 1, p)
    | _ => shortest m e tries (p - 1)

-- The digits of a number, which end at the power `p` of ten. It is written positionally when its point falls at most
-- five places before its digits or sixteen places after their start, and with an exponent otherwise.
def layOut (digits : List Char) (p : Int) : List Char :=
  let point := (digits.length : Int) + p
  if 0 ≤ p ∧ point ≤ 16 then digits ++ List.replicate p.toNat '0' ++ ['.', '0']
  else if 0 < point ∧ point ≤ 16 then
    digits.take point.toNat ++ '.' :: digits.drop point.toNat
  else if -5 < point ∧ point ≤ 0 then
    '0' :: '.' :: List.replicate (-point).toNat '0' ++ digits
  else
    let exponent := 'e' :: writeInteger (point - 1)
    match digits with
    | [d] => d :: exponent
    | d :: rest => d :: '.' :: rest ++ exponent
    | [] => exponent

def writeFloating (bits : UInt64) : List Char :=
  let (negative, m, e) := mantissa bits
  let sign := if negative then ['-'] else []
  if m = 0 then sign ++ ['0', '.', '0']
  else
    let (n, p) := shortest m e 700 310
    sign ++ layOut (Nat.toDigits 10 n) p

def Number.write : Number → List Char
  | .integer n => writeInteger n
  | .floating bits => writeFloating bits

mutual

def write : Json → List Char
  | .null => ['n', 'u', 'l', 'l']
  | .bool true => ['t', 'r', 'u', 'e']
  | .bool false => ['f', 'a', 'l', 's', 'e']
  | .number n => n.write
  | .string s => writeString s
  | .array items => '[' :: writeItems items ++ [']']
  | .object members => '\x7b' :: writeMembers members ++ ['\x7d']

def writeItems : List Json → List Char
  | [] => []
  | [item] => write item
  | item :: next :: rest => write item ++ ',' :: writeItems (next :: rest)

def writeMembers : List (String × Json) → List Char
  | [] => []
  | [(name, value)] => writeString name ++ ':' :: write value
  | (name, value) :: next :: rest =>
    writeString name ++ ':' :: write value ++ ',' :: writeMembers (next :: rest)

end

def newline (level : Nat) : List Char := '\n' :: List.replicate (2 * level) ' '

mutual

def writeLines (level : Nat) : Json → List Char
  | .array [] => ['[', ']']
  | .array (item :: rest) => '[' :: writeItemLines (level + 1) (item :: rest) ++ newline level ++ [']']
  | .object [] => ['\x7b', '\x7d']
  | .object (m :: rest) =>
    '\x7b' :: writeMemberLines (level + 1) (m :: rest) ++ newline level ++ ['\x7d']
  | .null => ['n', 'u', 'l', 'l']
  | .bool true => ['t', 'r', 'u', 'e']
  | .bool false => ['f', 'a', 'l', 's', 'e']
  | .number n => n.write
  | .string s => writeString s

def writeItemLines (level : Nat) : List Json → List Char
  | [] => []
  | [item] => newline level ++ writeLines level item
  | item :: next :: rest =>
    newline level ++ writeLines level item ++ ',' :: writeItemLines level (next :: rest)

def writeMemberLines (level : Nat) : List (String × Json) → List Char
  | [] => []
  | [(name, value)] => newline level ++ writeString name ++ [':', ' '] ++ writeLines level value
  | (name, value) :: next :: rest =>
    newline level ++ writeString name ++ [':', ' '] ++ writeLines level value
      ++ ',' :: writeMemberLines level (next :: rest)

end

def compact (value : Json) : String := String.ofList (write value)

def pretty (value : Json) : String := String.ofList (writeLines 0 value)

end Json
end Entitlement
