import Mathlib.Data.List.GetD
import Mathlib.Order.Compare
import Mathlib.Order.PiLex
import Entitlement.Proofs.Edition.Order
import Entitlement.Proofs.Text.Split

-- Editions whose versions are rows of numbers. They are ordered as these rows are with zeros behind them: by the first
-- place where the numbers differ. How a number is spelled does not count, nor do zeros at the end, nor the release.
namespace Entitlement

-- What a row of digits is read as.

namespace Text

variable {cs : List Char} {bound : Nat}

theorem digitValue?_of_isDigit {c : Char} (digit : c.isDigit = true) : digitValue? c = some (c.toNat - 48) := by
  have within := Char.isDigit_iff_toNat.mp digit
  exact if_pos ⟨within.1,within.2⟩

theorem digitsFrom?_eq (digits : ∀ c ∈ cs, c.isDigit = true) (value : Nat) :
    digitsFrom? value cs = some (Nat.ofDigitChars 10 cs value) := by
  induction cs generalizing value with
  | nil => rfl
  | cons c rest ih =>
    obtain ⟨first,later⟩ := List.forall_mem_cons.mp digits
    rw [digitsFrom?,digitValue?_of_isDigit first,Nat.ofDigitChars_cons]
    exact ih later _

theorem natural?_of_digits (filled : cs ≠ []) (digits : ∀ c ∈ cs, c.isDigit = true)
    (bounded : Nat.ofDigitChars 10 cs 0 < bound) : natural? bound cs = some (Nat.ofDigitChars 10 cs 0) := by
  obtain ⟨c,rest,rfl⟩ := List.exists_cons_of_ne_nil filled
  have unsigned : c ≠ '+' := by
    rintro rfl
    cases digits '+' List.mem_cons_self
  have read : digits? (c :: rest) = some (Nat.ofDigitChars 10 (c :: rest) 0) := digitsFrom?_eq digits 0
  unfold natural?
  split
  · rename_i same
    exact absurd (List.cons.inj same).1 unsigned
  · rw [read,Option.filter_some,if_pos (decide_eq_true bounded)]

end Text

namespace Edition

-- A number that fits into 64 bits, in decimal digits.

def value (digits : List Char) : Nat := Nat.ofDigitChars 10 digits 0

structure Numeral (digits : List Char) : Prop where
  filled : digits ≠ []
  decimal : ∀ c ∈ digits, c.isDigit = true
  bounded : value digits < limit64

-- The text of an edition: numerals with points between them, and a release after a hyphen or none.
structure Spells (edition : String) (numerals : List (List Char)) : Prop where
  filled : numerals ≠ []
  each : ∀ digits ∈ numerals, Numeral digits
  text : ∃ release : List Char, edition.toList = ['.'].intercalate numerals ++ release ∧ ∀ c ∈ release.head?, c = '-'

def extended (numbers : List Nat) (place : Nat) : Nat := numbers.getD place 0

section Numerals

variable {a b c : String} {digits : List Char} {k m n l : List (List Char)} {place : Nat}

theorem Numeral.number? (numeral : Numeral digits) : number? digits = some (value digits) :=
  Text.natural?_of_digits numeral.filled numeral.decimal numeral.bounded

theorem Numeral.free {separator : Char} (numeral : Numeral digits) (other : separator.isDigit = false) :
    separator ∉ digits := by
  intro member
  rw [numeral.decimal separator member] at other
  cases other

theorem numeral_absent : Numeral absent := ⟨nofun,List.all_eq_true.mp rfl,by decide⟩

theorem not_mem_intercalate (each : ∀ digits ∈ m, Numeral digits) : '-' ∉ ['.'].intercalate m := by
  intro member
  induction m with
  | nil => cases member
  | cons digits rest ih =>
    obtain ⟨first,later⟩ := List.forall_mem_cons.mp each
    cases rest with
    | nil =>
      rw [List.intercalate_singleton] at member
      exact first.free rfl member
    | cons next more =>
      rw [List.intercalate_cons_cons,List.append_assoc,List.mem_append,List.mem_append] at member
      rcases member with own | point | behind
      · exact first.free rfl own
      · cases List.mem_singleton.mp point
      · exact ih later behind

theorem Spells.segments_eq (spells : Spells a m) : segments a = m := by
  obtain ⟨release,text,hyphen⟩ := spells.text
  have free := not_mem_intercalate spells.each
  have version : a.toList.takeWhile (· != '-') = ['.'].intercalate m := by
    rw [text,List.takeWhile_append_of_pos]
    · cases release with
      | nil => exact List.append_nil _
      | cons c rest =>
        cases hyphen c rfl
        exact List.append_nil _
    · intro c member
      rw [bne_iff_ne]
      rintro rfl
      exact free member
  rw [segments,version,Text.split_intercalate spells.filled]
  exact fun digits member => (spells.each digits member).free rfl

theorem Spells.numeral (spells : Spells a m) (place : Nat) : Numeral (segmentAt a place) := by
  rw [segmentAt,spells.segments_eq,List.getD_eq_getElem?_getD]
  cases found : m[place]? with
  | none => exact numeral_absent
  | some digits => exact spells.each digits (List.mem_of_getElem? found)

theorem Spells.value_eq (spells : Spells a m) (place : Nat) :
    value (segmentAt a place) = extended (m.map value) place := by
  rw [segmentAt,spells.segments_eq,extended]
  exact (List.getD_map m absent value).symm

theorem Spells.compareSegment_eq (first : Spells a m) (second : Spells b n) (place : Nat) :
    compareSegment (segmentAt a place) (segmentAt b place) =
      Ord.compare (extended (m.map value) place) (extended (n.map value) place) := by
  rw [compareSegment_numbers (first.numeral place).number? (second.numeral place).number?,first.value_eq,second.value_eq]

theorem Spells.alike_iff (first : Spells a m) (second : Spells b n) :
    Alike (segmentAt a place) (segmentAt b place) ↔
      extended (m.map value) place = extended (n.map value) place := by
  rw [Alike,first.compareSegment_eq second,Nat.compare_eq_eq]

theorem Spells.compare_eq_iff (first : Spells a m) (second : Spells b n) :
    compare a b = .eq ↔ extended (m.map value) = extended (n.map value) := by
  rw [Edition.compare_eq_iff,funext_iff]
  exact forall_congr' fun i => first.alike_iff second

theorem Spells.compare_of_lt (first : Spells a m) (second : Spells b n)
    (less : toLex (extended (m.map value)) < toLex (extended (n.map value))) : compare a b = .lt := by
  obtain ⟨place,before,there⟩ := less
  refine compare_of_place nofun (fun j early => (first.alike_iff second).mpr (before j early)) ?_
  rw [first.compareSegment_eq second,Nat.compare_eq_lt]
  exact there

-- The order of the sequences of numbers is the lexicographic one.
theorem Spells.compare_eq (first : Spells a m) (second : Spells b n) :
    compare a b = Ord.compare (toLex (extended (m.map value))) (toLex (extended (n.map value))) := by
  rcases lt_trichotomy (toLex (extended (m.map value))) (toLex (extended (n.map value))) with less | same | more
  · rw [first.compare_of_lt second less,compare_lt_iff_lt.mpr less]
  · rw [(first.compare_eq_iff second).mpr (toLex.injective same),compare_eq_iff_eq.mpr same]
  · rw [compare_swap b a,second.compare_of_lt first more,compare_gt_iff_gt.mpr more]
    rfl

-- The same numbers with zeros in front of them, and zeros at the end of the row.
def Pads (m k : List (List Char)) : Prop :=
  ∃ zeros, List.Forall₂ (fun digits padded => ∃ count, padded = List.replicate count '0' ++ digits)
    (m ++ List.replicate zeros absent) k

theorem value_padded (count : Nat) (digits : List Char) : value (List.replicate count '0' ++ digits) = value digits := by
  rw [value,Nat.ofDigitChars_append,Nat.ofDigitChars_replicate_zero,Nat.mul_zero,value]

theorem extended_append_zeros (numbers : List Nat) (zeros : Nat) :
    extended (numbers ++ List.replicate zeros 0) = extended numbers := by
  funext place
  rcases Nat.lt_or_ge place numbers.length with within | behind
  · exact List.getD_append _ _ _ _ within
  · rw [extended,extended,List.getD_append_right _ _ _ _ behind,List.getD_eq_default _ _ behind,
      List.getD_eq_getElem?_getD,List.getElem?_replicate]
    split <;> rfl

theorem Pads.extended_eq (pads : Pads m k) : extended (k.map value) = extended (m.map value) := by
  obtain ⟨zeros,padded⟩ := pads
  have same : k.map value = (m ++ List.replicate zeros absent).map value := by
    generalize m ++ List.replicate zeros absent = row at padded
    induction padded with
    | nil => rfl
    | cons pad _ ih =>
      obtain ⟨count,rfl⟩ := pad
      rw [List.map_cons,List.map_cons,ih,value_padded]
  rw [same,List.map_append,List.map_replicate]
  exact extended_append_zeros _ zeros

def Numbered : Set String := {edition | ∃ numerals, Spells edition numerals}

-- Where all segments are numerals no text stands between any two.
theorem ascends_numbered : Ascends Numbered := by
  intro p _ q memberQ r _ between
  obtain ⟨numerals,spells⟩ := memberQ
  obtain ⟨place,_,wedged⟩ := between
  have textual := wedged.textual
  rw [(spells.numeral place).number?] at textual
  cases textual

structure ComparesNumbers (a b : String) (m n : List (List Char)) : Prop where
  lexicographic : compare a b = Ord.compare (toLex (extended (m.map value))) (toLex (extended (n.map value)))
  equal_iff : compare a b = .eq ↔ extended (m.map value) = extended (n.map value)
  unmoved : ∀ c d k l, Spells c k → Spells d l → Pads m k → Pads n l → compare c d = compare a b

theorem compare_numerals (first : Spells a m) (second : Spells b n) :
    ComparesNumbers a b m n ∧ Preorders Numbered := by
  refine ⟨⟨first.compare_eq second,first.compare_eq_iff second,?_⟩,ascends_numbered.preorders⟩
  intro c d k l third fourth padsLeft padsRight
  rw [third.compare_eq fourth,first.compare_eq second,padsLeft.extended_eq,padsRight.extended_eq]

theorem fifteen_three_compared :
    Spells "15.3-150300.1" [['1','5'],['3']] ∧ Spells "15.10" [['1','5'],['1','0']] ∧
      ComparesNumbers "15.3-150300.1" "15.10" [['1','5'],['3']] [['1','5'],['1','0']] ∧ Preorders Numbered := by
  have three : Numeral ['3'] := ⟨nofun,List.all_eq_true.mp rfl,by decide⟩
  have ten : Numeral ['1','0'] := ⟨nofun,List.all_eq_true.mp rfl,by decide⟩
  have fifteen : Numeral ['1','5'] := ⟨nofun,List.all_eq_true.mp rfl,by decide⟩
  have first : Spells "15.3-150300.1" [['1','5'],['3']] :=
    ⟨nofun,by simp [fifteen,three],"-150300.1".toList,by decide,by rintro c ⟨⟩; rfl⟩
  have second : Spells "15.10" [['1','5'],['1','0']] := ⟨nofun,by simp [fifteen,ten],[],by decide,nofun⟩
  exact ⟨first,second,compare_numerals first second⟩

end Numerals

end Edition
end Entitlement
