import Entitlement.Text.Numeral
import Entitlement.Text.Utf8

-- Percent encoding: a character that may not stand for itself is written as its UTF-8 bytes, each as a percent
-- sign and two hexadecimal digits.
namespace Entitlement.Text

def upperHexDigit (n : Nat) : Char := if n < 10 then Char.ofNat (48 + n) else Char.ofNat (55 + n)

def percentByte (b : UInt8) : List Char :=
  ['%', upperHexDigit (b.toNat / 16), upperHexDigit (b.toNat % 16)]

def percentChar (c : Char) : List Char := (String.utf8EncodeChar c).flatMap percentByte

def isControl (c : Char) : Bool := c.toNat < 0x20 || c.toNat = 0x7F

def percentEncode (escaped : List Char) (cs : List Char) : List Char :=
  cs.flatMap fun c =>
    if isControl c || c.toNat ≥ 0x80 || escaped.contains c then percentChar c else [c]

-- The bytes that a percent-encoded text stands for. A percent sign without two digits stands for itself.
def percentDecode : List Char → Bytes
  | '%' :: a :: b :: rest => match hexValue? a, hexValue? b with
    | some x, some y => UInt8.ofNat (16 * x + y) :: percentDecode rest
    | _, _ => String.utf8EncodeChar '%' ++ percentDecode (a :: b :: rest)
  | c :: rest => String.utf8EncodeChar c ++ percentDecode rest
  | [] => []

def isFormLetter (c : Char) : Bool := c.isAlphanum || c = '*' || c = '-' || c = '.' || c = '_'

def formEncode (cs : List Char) : List Char :=
  cs.flatMap fun c => if c = ' ' then ['+'] else if isFormLetter c then [c] else percentChar c

def formPairs (pairs : List (String × String)) : List Char :=
  ['&'].intercalate (pairs.map fun p => formEncode p.1.toList ++ '=' :: formEncode p.2.toList)

end Entitlement.Text
