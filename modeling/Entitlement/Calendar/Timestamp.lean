import Entitlement.Text.Blank
import Entitlement.Text.Numeral

-- Points in time, to the nanosecond.
-- They are read from texts such as `2021-06-30T01:00:00.5+02:00`: blanks may stand before numbers and
-- separators, the date and the time may be divided by a space, and `UTC` may stand for the offset. They are
-- held as seconds from the start of 1970 in universal time. A leap second is held as a second of more than
-- a billion nanoseconds.
namespace Entitlement

structure Timestamp where
  seconds : Int
  nanoseconds : Nat
deriving DecidableEq, Inhabited

namespace Timestamp

def billion : Nat := 1000000000

-- The number of the day on which a month of a year starts, counted from the start of 1970. The year
-- counts from March, so that a leap day is its last.
def daysOf (year : Int) (month day : Nat) : Int :=
  let y : Int := if month ≤ 2 then year - 1 else year
  let era := y.fdiv 400
  let yearOfEra := y - era * 400
  let m : Int := if month ≤ 2 then month + 9 else month - 3
  let dayOfYear := (153 * m + 2) / 5 + day - 1
  era * 146097 + (yearOfEra * 365 + yearOfEra / 4 - yearOfEra / 100 + dayOfYear) - 719468

def dateOf (days : Int) : Int × Nat × Nat :=
  let z := days + 719468
  let era := z.fdiv 146097
  let d := z - era * 146097
  let yearOfEra := (d - d / 1460 + d / 36524 - d / 146096) / 365
  let dayOfYear := d - (365 * yearOfEra + yearOfEra / 4 - yearOfEra / 100)
  let m := (5 * dayOfYear + 2) / 153
  let day := dayOfYear - (153 * m + 2) / 5 + 1
  let month := if m < 10 then m + 3 else m - 9
  let year := yearOfEra + era * 400 + (if month ≤ 2 then 1 else 0)
  (year, month.toNat, day.toNat)

def isLeapYear (year : Int) : Bool := year % 4 = 0 ∧ (year % 100 ≠ 0 ∨ year % 400 = 0)

def daysInMonth (year : Int) (month : Nat) : Nat :=
  if month = 2 then (if isLeapYear year then 29 else 28)
  else if month = 4 ∨ month = 6 ∨ month = 9 ∨ month = 11 then 30 else 31

inductive Fault where
  | short
  | malformed
  | outOfRange
  | surplus
deriving DecidableEq

def Fault.message : Fault → String
  | short => "premature end of input"
  | malformed => "input contains invalid characters"
  | outOfRange => "input is out of range"
  | surplus => "trailing input"

-- Readers give what they read from the start of a text, and the rest of the text.

def isDigit (c : Char) : Bool := (Text.digitValue? c).isSome

def number (width : Nat) (cs : List Char) : Except Fault (Nat × List Char) :=
  let digits := (cs.take width).takeWhile isDigit
  match Text.digits? digits with
  | some n => .ok (n, cs.drop digits.length)
  | none => .error (if cs.isEmpty then .short else .malformed)

def field (low high : Nat) (cs : List Char) : Except Fault (Nat × List Char) := do
  let (n, rest) ← number 2 (Text.dropBlanks cs)
  if low ≤ n ∧ n ≤ high then pure (n, rest) else throw .outOfRange

def separator (c : Char) (cs : List Char) : Except Fault (List Char) :=
  match Text.dropBlanks cs with
  | d :: rest => if d = c then .ok rest else .error .malformed
  | [] => .error .short

-- A year has up to four digits, or after a sign any number of them that fits into 32 bits.
def year (cs : List Char) : Except Fault (Int × List Char) := do
  let (year, rest) : Int × List Char ← match Text.dropBlanks cs with
    | '-' :: rest => (number rest.length rest).map fun r => (-(r.1 : Int), r.2)
    | '+' :: rest => (number rest.length rest).map fun r => ((r.1 : Int), r.2)
    | rest => (number 4 rest).map fun r => ((r.1 : Int), r.2)
  if -(limit31 : Int) ≤ year ∧ year < limit31 then pure (year, rest) else throw .outOfRange

def fraction (cs : List Char) : Except Fault (Nat × List Char) :=
  match cs with
  | '.' :: rest => do
    let (n, after) ← number 9 rest
    let width := rest.length - after.length
    pure (n * Nat.pow 10 (9 - width), after.dropWhile isDigit)
  | _ => .ok (0, cs)

def twoDigits (cs : List Char) : Except Fault (Nat × List Char) :=
  match cs with
  | a :: b :: rest => match Text.digitValue? a, Text.digitValue? b with
    | some m, some n => .ok (10 * m + n, rest)
    | _, _ => .error .malformed
  | [c] => .error (if c.toNat < 0x80 then .short else .malformed)
  | [] => .error .short

-- The offset from universal time in seconds. Minutes may follow the hours at once, or after colons and
-- blanks.
def offset (cs : List Char) : Except Fault (Int × List Char) :=
  match cs with
  | 'Z' :: rest | 'z' :: rest => .ok (0, rest)
  | sign :: rest =>
    if (cs.take 3).map Char.toUpper = ['U', 'T', 'C'] then .ok (0, cs.drop 3)
    else if sign = '+' ∨ sign = '-' ∨ sign = '−' then do
      let (hours, rest) ← twoDigits rest
      let (minutes, rest) ← twoDigits (rest.dropWhile fun c => c = ':' || Text.isBlank c)
      if minutes ≥ 60 then throw .outOfRange
      let seconds : Int := hours * 3600 + minutes * 60
      pure (if sign = '+' then seconds else -seconds, rest)
    else .error .malformed
  | [] => .error .short

def firstYear : Int := -262143

def lastYear : Int := 262142

def dateEnd (cs : List Char) : Except Fault (List Char) :=
  match cs with
  | 'T' :: rest | 't' :: rest | ' ' :: rest => .ok rest
  | [] => .error .short
  | _ => .error .malformed

def parse (text : String) : Except Fault Timestamp := do
  let (year, cs) ← year text.toList
  let (month, cs) ← separator '-' cs >>= field 1 12
  let (day, cs) ← separator '-' cs >>= field 1 31
  let (hour, cs) ← dateEnd cs >>= field 0 23
  let (minute, cs) ← separator ':' cs >>= field 0 59
  let (second, cs) ← separator ':' cs >>= field 0 60
  let (nanoseconds, cs) ← fraction cs
  let (offset, cs) ← offset (Text.dropBlanks cs)
  if !cs.all Text.isBlank then throw .surplus
  if firstYear ≤ year ∧ year ≤ lastYear ∧ day ≤ daysInMonth year month ∧ offset.natAbs < 86400 then
    let clock : Int := hour * 3600 + minute * 60 + (if second = 60 then 59 else second : Nat)
    pure {
      seconds := daysOf year month day * 86400 + clock - offset
      nanoseconds := nanoseconds + if second = 60 then billion else 0 }
  else throw .outOfRange

-- A year is written with at least four digits, and with a sign when these do not suffice.
def yearText (year : Int) : String :=
  if year < 0 then "-" ++ Text.padded 4 year.natAbs
  else if year ≤ 9999 then Text.padded 4 year.natAbs
  else "+" ++ Text.padded 4 year.natAbs

def parts (t : Timestamp) : String × String :=
  let days := t.seconds.fdiv 86400
  let clock := (t.seconds - days * 86400).toNat
  let (year, month, day) := dateOf days
  let second := clock % 60 + t.nanoseconds / billion
  (yearText year ++ "-" ++ Text.padded 2 month ++ "-" ++ Text.padded 2 day,
    Text.padded 2 (clock / 3600) ++ ":" ++ Text.padded 2 (clock / 60 % 60) ++ ":" ++ Text.padded 2 second)

-- The fraction of the second in thousands, millions or billions, whichever is exact first.
def fractionText (nanoseconds : Nat) : String :=
  let n := nanoseconds % billion
  if n = 0 then ""
  else if n % 1000000 = 0 then "." ++ Text.padded 3 (n / 1000000)
  else if n % 1000 = 0 then "." ++ Text.padded 6 (n / 1000)
  else "." ++ Text.padded 9 n

def text (t : Timestamp) : String :=
  let (date, time) := t.parts
  date ++ "T" ++ time ++ fractionText t.nanoseconds ++ "Z"

def display (t : Timestamp) : String :=
  let (date, time) := t.parts
  date ++ " " ++ time ++ " UTC"

end Timestamp
end Entitlement
