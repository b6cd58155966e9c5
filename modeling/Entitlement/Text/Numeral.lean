
-- Decimal numerals of bounded size.
-- A numeral is one or more ASCII digits after an optional plus sign, or for signed numbers an optional
-- sign of either kind; it is refused when its value is outside the bounds.
namespace Entitlement

-- The least numbers that do not fit into 16, 31, 32, 63 and 64 bits.
abbrev limit16 : Nat := 0x10000

abbrev limit31 : Nat := 0x80000000

abbrev limit32 : Nat := 0x100000000

abbrev limit63 : Nat := 0x8000000000000000

abbrev limit64 : Nat := 0x10000000000000000

namespace Text

def digitValue? (c : Char) : Option Nat :=
  if '0' ≤ c ∧ c ≤ '9' then some (c.toNat - 48) else none

def digitsFrom? : Nat → List Char → Option Nat
  | value, [] => some value
  | value, c :: rest => match digitValue? c with
    | some d => digitsFrom? (10 * value + d) rest
    | none => none

def digits? : List Char → Option Nat
  | [] => none
  | cs => digitsFrom? 0 cs

def natural? (bound : Nat) (cs : List Char) : Option Nat :=
  let value := match cs with
    | '+' :: rest => digits? rest
    | _ => digits? cs
  value.filter (· < bound)

def integer? (bound : Nat) (cs : List Char) : Option Int :=
  let value : Option Int := match cs with
    | '-' :: rest => (digits? rest).map fun n => -(n : Int)
    | '+' :: rest => (digits? rest).map Int.ofNat
    | _ => (digits? cs).map Int.ofNat
  value.filter fun n => -(bound : Int) ≤ n && n < bound

def padded (width n : Nat) : String :=
  let text := toString n
  String.ofList (List.replicate (width - text.length) '0') ++ text

def hexadecimal (n : Nat) : String := String.ofList (Nat.toDigits 16 n)

def hexValue? (c : Char) : Option Nat :=
  if '0' ≤ c ∧ c ≤ '9' then some (c.toNat - 48)
  else if 'a' ≤ c ∧ c ≤ 'f' then some (c.toNat - 87)
  else if 'A' ≤ c ∧ c ≤ 'F' then some (c.toNat - 55)
  else none

end Text
end Entitlement
