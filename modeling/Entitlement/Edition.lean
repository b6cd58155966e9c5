import Entitlement.Text.Split
import Entitlement.Text.Numeral

-- The order of editions.
-- An edition is a version, and perhaps a release after a hyphen that does not count here. Versions are compared
-- segment by segment: as numbers where both segments are numerals, as texts otherwise. A missing segment counts
-- as zero.
namespace Entitlement.Edition

def segments (edition : String) : List (List Char) :=
  Text.split '.' (edition.toList.takeWhile (· != '-'))

def number? (segment : List Char) : Option Nat := Text.natural? limit64 segment

def compareText (a b : List Char) : Ordering :=
  if a = b then .eq else if a < b then .lt else .gt

def compareSegment (a b : List Char) : Ordering :=
  match number? a, number? b with
  | some m, some n => compare m n
  | _, _ => compareText a b

def compareSegments : List (List Char) → List (List Char) → Ordering
  | [], [] => .eq
  | a :: as, [] => (compareSegment a ['0']).then (compareSegments as [])
  | [], b :: bs => (compareSegment ['0'] b).then (compareSegments [] bs)
  | a :: as, b :: bs => (compareSegment a b).then (compareSegments as bs)
termination_by as bs => as.length + bs.length

def compare (left right : String) : Ordering := compareSegments (segments left) (segments right)

end Entitlement.Edition
