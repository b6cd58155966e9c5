import Entitlement.Text.Split
import Entitlement.Text.Numeral
import Entitlement.Calendar.Timestamp

-- The unquoted values of TOML: truth values, numbers, dates and times.
namespace Entitlement.Toml

def isDigit (c : Char) : Bool := (Text.digitValue? c).isSome

def isDigits (kind : Char → Bool) (cs : List Char) : Bool :=
  (Text.split '_' cs).all fun piece => !piece.isEmpty && piece.all kind

def dropSign : List Char → List Char
  | '+' :: rest | '-' :: rest => rest
  | cs => cs

-- A decimal integer without its sign: no zero leads it unless it is zero.
def isWhole (cs : List Char) : Bool :=
  isDigits isDigit cs && (cs.length ≤ 1 || cs.head? != some '0')

def isInteger (cs : List Char) : Bool :=
  match cs with
  | '0' :: 'x' :: rest => isDigits (fun c => (Text.hexValue? c).isSome) rest
  | '0' :: 'o' :: rest => isDigits (fun c => '0' ≤ c ∧ c ≤ '7') rest
  | '0' :: 'b' :: rest => isDigits (fun c => c = '0' ∨ c = '1') rest
  | _ => isWhole (dropSign cs)

-- The parts of a number before and after its exponent mark.
def exponentParts (cs : List Char) : List Char × Option (List Char) :=
  match Text.splitFirst 'e' (cs.map fun c => if c = 'E' then 'e' else c) with
  | some (number, exponent) => (number, some exponent)
  | none => (cs, none)

def isFloat (cs : List Char) : Bool :=
  let body := dropSign cs
  if body = ['i', 'n', 'f'] ∨ body = ['n', 'a', 'n'] then true
  else
    let (number, exponent) := exponentParts body
    let validExponent := match exponent with
      | some digits => isDigits isDigit (dropSign digits)
      | none => true
    match Text.splitFirst '.' number with
    | some (whole, fraction) => isWhole whole && isDigits isDigit fraction && validExponent
    | none => exponent.isSome && isWhole number && validExponent

def isField (width low high : Nat) (cs : List Char) : Bool :=
  cs.length == width && match Text.digits? cs with
    | some n => low ≤ n && n ≤ high
    | none => false

def isDate (cs : List Char) : Bool :=
  match Text.split '-' cs with
  | [year, month, day] =>
    match Text.digits? year, Text.digits? month with
    | some y, some m => year.length == 4 && isField 2 1 12 month && isField 2 1 (Timestamp.daysInMonth y m) day
    | _, _ => false
  | _ => false

-- A time of day; the seconds may be missing.
def isTime (cs : List Char) : Bool :=
  match Text.split ':' cs with
  | [hour, minute] => isField 2 0 23 hour && isField 2 0 59 minute
  | [hour, minute, second] =>
    isField 2 0 23 hour && isField 2 0 59 minute && match Text.splitFirst '.' second with
      | some (whole, fraction) => isField 2 0 60 whole && !fraction.isEmpty && fraction.all isDigit
      | none => isField 2 0 60 second
  | _ => false

def isOffset (cs : List Char) : Bool :=
  match Text.split ':' cs with
  | [hour, minute] => isField 2 0 23 hour && isField 2 0 59 minute
  | _ => false

def isTimeWithOffset (cs : List Char) : Bool :=
  let time := cs.takeWhile fun c => isDigit c || c == ':' || c == '.'
  isTime time && match cs.drop time.length with
    | [] => true
    | ['Z'] | ['z'] => true
    | '+' :: offset | '-' :: offset => isOffset offset
    | _ => false

def isMoment (cs : List Char) : Bool :=
  isDate cs || isTime cs || (isDate (cs.take 10) && match cs.drop 10 with
    | 'T' :: time | 't' :: time | ' ' :: time => isTimeWithOffset time
    | _ => false)

def isNumberOrMoment (cs : List Char) : Bool := isInteger cs || isFloat cs || isMoment cs

end Entitlement.Toml
