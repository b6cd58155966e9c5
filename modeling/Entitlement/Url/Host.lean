import Entitlement.Text.LowerCase
import Entitlement.Text.Percent
import Entitlement.Text.Punycode
import Entitlement.Text.Split

-- Hosts of addresses: names of domains, internet addresses of both versions, and texts of no known kind.
-- A name of a domain is brought into its one spelling: in lower case, with labels beyond ASCII in Punycode. A
-- name whose last label is a number is an internet address.
namespace Entitlement.Url

inductive Fault where
  | emptyHost
  | port
  | ipv4
  | ipv6
  | domainCharacter
  | noScheme
deriving DecidableEq

def Fault.message : Fault → String
  | emptyHost => "empty host"
  | port => "invalid port number"
  | ipv4 => "invalid IPv4 address"
  | ipv6 => "invalid IPv6 address"
  | domainCharacter => "invalid domain character"
  | noScheme => "relative URL without a base"

inductive Host where
  | domain (name : String)
  | ipv4 (address : Nat)
  | ipv6 (pieces : List Nat)
  | verbatim (text : String)
deriving DecidableEq

namespace Host

-- A number in decimal, octal or hexadecimal notation, by how it starts. `some none` is too large.
def number? (label : List Char) : Option (Option Nat) :=
  let digits (base : Nat) (cs : List Char) : Option (Option Nat) := do
    let values ← cs.mapM fun c => (Text.hexValue? c).filter (· < base)
    let value := values.foldl (fun n d => base * n + d) 0
    some (if value < limit32 then some value else none)
  match label with
  | [] => none
  | '0' :: 'x' :: rest | '0' :: 'X' :: rest => digits 16 rest
  | '0' :: c :: rest => digits 8 (c :: rest)
  | _ => digits 10 label

def labels (name : List Char) : List (List Char) :=
  let all := Text.split '.' name
  if all.getLast? = some [] then all.dropLast else all

def endsInNumber (name : List Char) : Bool :=
  match (labels name).getLast? with
  | some label => (!label.isEmpty && label.all Char.isDigit) || (number? label).isSome
  | none => false

-- The address with the given parts; the last stands for all the bytes that are left.
def joinParts : Nat → List Nat → Option Nat
  | _, [] => none
  | room, [last] => if last < room then some last else none
  | room, part :: rest =>
    if part < 256 then (joinParts (room / 256) rest).map (part * (room / 256) + ·) else none

def ipv4? (name : List Char) : Except Fault Nat :=
  let parts := labels name
  if parts.length > 4 then .error .ipv4
  else match parts.mapM fun label => (number? label).join with
    | some numbers => match joinParts limit32 numbers with
      | some address => .ok address
      | none => .error .ipv4
    | none => .error .ipv4

def byte? (cs : List Char) : Option Nat :=
  if cs.length > 1 && cs.head? = some '0' then none else (Text.digits? cs).filter (· < 256)

-- The pieces between the colons of a part; only the last may be an address of version 4.
def pieces? : List (List Char) → Option (List Nat)
  | [] => some []
  | [last] =>
    if last.contains '.' then
      match (Text.split '.' last).mapM byte? with
      | some [a, b, c, d] => some [256 * a + b, 256 * c + d]
      | _ => none
    else piece? last
  | piece :: rest => do
    let front ← piece? piece
    let back ← pieces? rest
    some (front ++ back)
where
  piece? (cs : List Char) : Option (List Nat) :=
    if cs.isEmpty || cs.length > 4 then none
    else (cs.mapM Text.hexValue?).map fun values => [values.foldl (fun n d => 16 * n + d) 0]

def side? (cs : List Char) : Option (List Nat) := if cs.isEmpty then some [] else pieces? (Text.split ':' cs)

-- What stands before and after the first pair of colons.
def splitGap : List Char → Option (List Char × List Char)
  | ':' :: ':' :: rest => some ([], rest)
  | c :: rest => (splitGap rest).map fun parts => (c :: parts.1, parts.2)
  | [] => none

-- The eight pieces of an address; a pair of colons stands for one or more zeros.
def ipv6? (text : List Char) : Option (List Nat) :=
  match splitGap text with
  | some (front, back) => do
    let front ← if front.contains '.' then none else side? front
    let back ← side? back
    let present := front.length + back.length
    if present < 8 then some (front ++ List.replicate (8 - present) 0 ++ back) else none
  | none => (pieces? (Text.split ':' text)).filter (·.length = 8)

def zeroRun (pieces : List Nat) : Nat := (pieces.takeWhile (· = 0)).length

def longestRun : Nat → List Nat → Option (Nat × Nat)
  | _, [] => none
  | index, piece :: rest =>
    let here := zeroRun (piece :: rest)
    match longestRun (index + 1) rest with
    | some (start, length) => if here ≥ length then some (index, here) else some (start, length)
    | none => if here ≥ 2 then some (index, here) else none

def renderPieces (pieces : List Nat) : String :=
  let colons (ps : List Nat) : String := ":".intercalate (ps.map Text.hexadecimal)
  match longestRun 0 pieces with
  | some (start, length) => colons (pieces.take start) ++ "::" ++ colons (pieces.drop (start + length))
  | none => colons pieces

def forbidden : List Char :=
  ['\x00', '\t', '\n', '\r', ' ', '#', '/', ':', '<', '>', '?', '@', '[', '\\', ']', '^', '|']

def asciiLabel (label : List Char) : List Char :=
  let lowered := (Text.lower (String.ofList label)).toList
  if lowered.all (·.toNat < 0x80) then lowered else ['x', 'n', '-', '-'] ++ Text.Punycode.encode lowered

def isDot (c : Char) : Bool := c = '.' || c = '\u3002' || c = '\uFF0E' || c = '\uFF61'

def asciiName (name : List Char) : List Char :=
  let name := (name.filter (· ≠ '\u00AD')).map fun c => if isDot c then '.' else c
  ['.'].intercalate ((Text.split '.' name).map asciiLabel)

def ofText (text : List Char) : Except Fault Host :=
  match text with
  | '[' :: rest =>
    if rest.getLast? = some ']' then
      match ipv6? rest.dropLast with
      | some pieces => .ok (.ipv6 pieces)
      | none => .error .ipv6
    else .error .ipv6
  | _ =>
    let name := asciiName (Text.decodeLenient (Text.percentDecode text)).toList
    if name.isEmpty then .error .emptyHost
    else if name.any fun c => Text.isControl c || c = '%' || forbidden.contains c then .error .domainCharacter
    else if endsInNumber name then (ipv4? name).map Host.ipv4
    else .ok (.domain (String.ofList name))

def ofVerbatim (text : List Char) : Except Fault Host :=
  match text with
  | '[' :: _ => ofText text
  | _ =>
    if text.any forbidden.contains then .error .domainCharacter
    else .ok (.verbatim (String.ofList (Text.percentEncode [] text)))

def render : Host → String
  | domain name => name
  | ipv4 address => ".".intercalate
      ([address / 0x1000000, address / 0x10000 % 0x100, address / 0x100 % 0x100, address % 0x100].map toString)
  | ipv6 pieces => "[" ++ renderPieces pieces ++ "]"
  | verbatim text => text

end Host
end Entitlement.Url
