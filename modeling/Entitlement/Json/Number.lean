import Entitlement.Text.Numeral

-- Numbers of JSON documents: how they are spelled, and the value of a spelling.
-- A spelling without fraction and exponent is an integer when it fits into 64 bits, signed or unsigned.
-- Every other one is a binary floating-point number: the first digits that fit into 64 bits, scaled by one
-- power of ten. A number too large for that is refused.
namespace Entitlement.Json

-- The spelling of a number: its sign, its digits before and after the point, its exponent.
structure Spelling where
  negative : Bool
  whole : List Nat
  fraction : Option (List Nat)
  exponent : Option (Bool × List Nat)

-- The value of a number. A floating-point number is held by its 64 bits.
inductive Number where
  | integer (n : Int)
  | floating (bits : UInt64)
deriving DecidableEq

namespace Spelling

def significand : Nat → List Nat → Nat × Nat
  | value, [] => (value, 0)
  | value, d :: rest =>
    if 10 * value + d < limit64 then significand (10 * value + d) rest else (value, rest.length + 1)

def ofDigits (digits : List Nat) : Nat := digits.foldl (fun value d => 10 * value + d) 0

def powerOfTen (n : Nat) : Float := Float.ofScientific 1 false n

def scaleDown (x : Float) (power : Nat) : Float :=
  if power ≤ 308 then x / powerOfTen power
  else if x == 0 then x
  else scaleDown (x / powerOfTen 308) (power - 308)
termination_by power

-- The floating-point number of a significand and a power of ten; `none` beyond the largest one.
def scale (value : Nat) (power : Int) : Option Float :=
  let x := (UInt64.ofNat value).toFloat
  if power < 0 then some (scaleDown x power.natAbs)
  else if power ≤ 308 then
    let y := x * powerOfTen power.natAbs
    if y.isInf then none else some y
  else if value = 0 then some x else none

def exponentLimit : Nat := limit31 - 1

def floating (s : Spelling) : Option Float :=
  let (value, surplus) := significand 0 s.whole
  let (value, power) : Nat × Int := match s.fraction with
    | none => (value, surplus)
    | some digits =>
      if surplus > 0 then (value, surplus)
      else
        let (value, left) := significand value digits
        (value, -((digits.length - left : Nat) : Int))
  let signed (x : Float) : Float := if s.negative then -x else x
  match s.exponent with
  | none => (scale value power).map signed
  | some (down, digits) =>
    let exponent := ofDigits digits
    if exponent > exponentLimit then
      if value = 0 ∨ down then some (signed 0) else none
    else (scale value (if down then power - exponent else power + exponent)).map signed

def value? (s : Spelling) : Option Number :=
  let n := ofDigits s.whole
  let plain := s.fraction.isNone && s.exponent.isNone
  if plain && !s.negative && n < limit64 then some (.integer n)
  else if plain && s.negative && 0 < n && n ≤ limit63 then some (.integer (-(n : Int)))
  else s.floating.map fun x => .floating x.toBits

end Spelling

def Number.integer? : Number → Option Int
  | .integer n => some n
  | .floating _ => none

end Entitlement.Json
