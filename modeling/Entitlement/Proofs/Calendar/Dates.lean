import Entitlement.Calendar.Timestamp

-- The dates of points in time. Days are counted through the years and months before them, and each day has one date,
-- which is the one that it is displayed with: the arithmetic of cycles of 400 years comes to nothing else.
namespace Entitlement.Timestamp

-- The leap days up to a year and in it, from the start of the year 1.
def leapDays (year : Int) : Int := year / 4 - year / 100 + year / 400

def daysBefore (year : Int) : Nat → Nat
  | 0 | 1 => 0
  | month + 2 => daysBefore year (month + 1) + daysInMonth year (month + 1)

-- The first day of the year 1 is the day 1.
def dayNumber (year : Int) (month day : Nat) : Int :=
  365 * (year - 1) + leapDays (year - 1) + daysBefore year month + day

structure IsDate (year : Int) (month day : Nat) : Prop where
  inYear : 1 ≤ month ∧ month ≤ 12
  inMonth : 1 ≤ day ∧ day ≤ daysInMonth year month

theorem leapDays_step (year : Int) : leapDays year = leapDays (year - 1) + if isLeapYear year then 1 else 0 := by
  unfold leapDays isLeapYear
  simp only [decide_eq_true_eq]
  split
  · omega
  · omega

-- Days with different dates have different numbers: no date is after the end of its month, and none after the end of
-- its year.

section IsDate

variable {year later : Int} {month day month' day' : Nat}

theorem daysBefore_succ (year : Int) {month : Nat} (low : 1 ≤ month) :
    daysBefore year (month + 1) = daysBefore year month + daysInMonth year month := by
  cases month with
  | zero => cases low
  | succ _ => rfl

theorem daysBefore_mono (year : Int) {earlier later : Nat} (le : earlier ≤ later) :
    daysBefore year earlier ≤ daysBefore year later := by
  induction le with
  | refl => exact Nat.le_refl _
  | @step month _ ih =>
    cases month with
    | zero => exact ih
    | succ month => exact Nat.le_trans ih (daysBefore_succ year (Nat.le_add_left 1 month) ▸ Nat.le_add_right _ _)

theorem IsDate.monthEnd (date : IsDate year month day) : daysBefore year month + day ≤ daysBefore year (month + 1) := by
  rw [daysBefore_succ year date.inYear.1]
  exact Nat.add_le_add_left date.inMonth.2 _

theorem IsDate.yearEnd (date : IsDate year month day) :
    daysBefore year month + day ≤ 365 + if isLeapYear year then 1 else 0 := by
  have december := daysBefore_mono year (Nat.succ_le_succ date.inYear.2)
  have whole : daysBefore year 13 = 365 + if isLeapYear year then 1 else 0 := by
    cases leap : isLeapYear year <;> simp [daysBefore,daysInMonth,leap]
  exact whole ▸ Nat.le_trans date.monthEnd december

theorem leapDays_mono {earlier later : Int} (le : earlier ≤ later) :
    365 * earlier + leapDays earlier ≤ 365 * later + leapDays later := by
  unfold leapDays
  omega

theorem IsDate.lt_of_year (one : IsDate year month day) (other : IsDate later month' day') (before : year < later) :
    dayNumber year month day < dayNumber later month' day' := by
  have ends := one.yearEnd
  have step := leapDays_step year
  have years := leapDays_mono (Int.le_sub_one_of_lt before)
  have first := other.inMonth.1
  unfold dayNumber
  cases leap : isLeapYear year with
  | true => simp only [leap,if_true] at ends step; omega
  | false => simp only [leap,Bool.false_eq_true,if_false] at ends step; omega

theorem IsDate.lt_of_month (one : IsDate year month day) (other : IsDate year month' day') (before : month < month') :
    dayNumber year month day < dayNumber year month' day' := by
  have ends := one.monthEnd
  have months : daysBefore year (month + 1) ≤ daysBefore year month' := daysBefore_mono year before
  have first := other.inMonth.1
  unfold dayNumber
  omega

theorem IsDate.unique (one : IsDate year month day) (other : IsDate later month' day')
    (same : dayNumber year month day = dayNumber later month' day') : year = later ∧ month = month' ∧ day = day' := by
  rcases Int.lt_trichotomy year later with before | rfl | after
  · exact absurd same (Int.ne_of_lt (one.lt_of_year other before))
  · rcases Nat.lt_trichotomy month month' with before | rfl | after
    · exact absurd same (Int.ne_of_lt (one.lt_of_month other before))
    · exact ⟨rfl,rfl,Int.ofNat.inj (Int.add_left_cancel same)⟩
    · exact absurd same.symm (Int.ne_of_lt (other.lt_of_month one after))
  · exact absurd same.symm (Int.ne_of_lt (other.lt_of_year one after))

end IsDate

-- A day of a cycle falls into a century, four years of it, a year of those and a day of that. The last day of the four
-- years and the last day of the cycle have no year to themselves.
structure Falls (day century quad year rest : Int) : Prop where
  sum : day = 36524 * century + 1461 * quad + 365 * year + rest
  centuries : 0 ≤ century ∧ century ≤ 3
  quads : 0 ≤ quad ∧ quad ≤ 24
  years : 0 ≤ year ∧ year ≤ 3
  rests : 0 ≤ rest ∧ rest ≤ 365
  last : rest = 365 → year = 3 ∧ (quad < 24 ∨ century = 3)

theorem exists_falls {day : Int} (low : 0 ≤ day) (high : day < 146097) :
    ∃ century quad year rest, Falls day century quad year rest := by
  have centuries : ∃ century part, day = 36524 * century + part ∧ 0 ≤ century ∧ century ≤ 3 ∧ 0 ≤ part ∧
      (part ≤ 36523 ∨ part = 36524 ∧ century = 3) := by
    by_cases last : day = 146096
    · exact ⟨3,36524,by omega⟩
    · exact ⟨day / 36524,day % 36524,by omega⟩
  obtain ⟨century,part,rfl,_,_,_,_⟩ := centuries
  have years : ∃ year rest, part % 1461 = 365 * year + rest ∧ 0 ≤ year ∧ year ≤ 3 ∧ 0 ≤ rest ∧
      (rest ≤ 364 ∨ rest = 365 ∧ year = 3) := by
    by_cases last : part % 1461 = 1460
    · exact ⟨3,365,by omega⟩
    · exact ⟨part % 1461 / 365,part % 1461 % 365,by omega⟩
  obtain ⟨year,rest,_,_,_,_,_⟩ := years
  exact ⟨century,part / 1461,year,rest,by omega,by omega,by omega,by omega,by omega,by omega⟩

section Falls

variable {day century quad year rest : Int}

-- Where the days are divided as if years had 365 of them, those that are too many are taken away first.
theorem Falls.yearOfEra (falls : Falls day century quad year rest) :
    (day - day / 1460 + day / 36524 - day / 146096) / 365 = 100 * century + 4 * quad + year := by
  obtain ⟨sum,⟨_,_⟩,⟨_,_⟩,⟨_,_⟩,⟨_,_⟩,last⟩ := falls
  have eras : day / 146096 = day / 36524 - century := by
    by_cases final : day = 146096
    · have one : day / 146096 = 1 := by omega
      have four : day / 36524 = 4 := by omega
      omega
    · have low : day < 146096 := by omega
      have none : day / 146096 = 0 := by omega
      have inside : 1461 * quad + 365 * year + rest ≤ 36523 := by omega
      have own : day / 36524 = century := by omega
      omega
  have quads : day / 1460 = 25 * century + quad + (24 * century + quad + 365 * year + rest) / 1460 := by omega
  have within : 0 ≤ rest - (24 * century + quad + 365 * year + rest) / 1460 ∧
      rest - (24 * century + quad + 365 * year + rest) / 1460 ≤ 364 := by omega
  rw [eras,quads]
  generalize (24 * century + quad + 365 * year + rest) / 1460 = surplus at within
  omega

theorem Falls.quarters (falls : Falls day century quad year rest) :
    (100 * century + 4 * quad + year) / 4 = 25 * century + quad ∧ (100 * century + 4 * quad + year) / 100 = century := by
  obtain ⟨_,⟨_,_⟩,⟨_,_⟩,⟨_,_⟩,_,_⟩ := falls
  omega

-- A year that ends in a leap day comes before a leap year: it starts with March.
theorem Falls.leaps (falls : Falls day century quad year rest) (era : Int) (full : rest = 365) :
    isLeapYear (100 * century + 4 * quad + year + era * 400 + 1) = true := by
  obtain ⟨_,⟨_,_⟩,⟨_,_⟩,_,_,last⟩ := falls
  obtain ⟨rfl,inside⟩ := last full
  simp only [isLeapYear,decide_eq_true_eq]
  omega

theorem Falls.leapDays (falls : Falls day century quad year rest) (era : Int) :
    leapDays (100 * century + 4 * quad + year + era * 400) = 97 * era + 24 * century + quad := by
  obtain ⟨_,⟨_,_⟩,⟨_,_⟩,⟨_,_⟩,_,_⟩ := falls
  unfold Timestamp.leapDays
  have quarters : (100 * century + 4 * quad + year + era * 400) / 4 = 25 * century + quad + 100 * era := by omega
  have hundreds : (100 * century + 4 * quad + year + era * 400) / 100 = century + 4 * era := by omega
  have eras : (100 * century + 4 * quad + year + era * 400) / 400 = era := by omega
  omega

end Falls

-- Counted from March, five months have 153 days, and the other three a day less or more.

theorem months_from_march {month : Nat} (low : 3 ≤ month) (high : month ≤ 12) : month = 3 ∨ month = 4 ∨ month = 5 ∨
    month = 6 ∨ month = 7 ∨ month = 8 ∨ month = 9 ∨ month = 10 ∨ month = 11 ∨ month = 12 := by omega

theorem daysInMonth_eq (year : Int) {month : Nat} (low : 3 ≤ month) (high : month ≤ 12) :
    daysInMonth year month = (153 * (month - 2) + 2) / 5 - (153 * (month - 3) + 2) / 5 := by
  rcases months_from_march low high with rfl | rfl | rfl | rfl | rfl | rfl | rfl | rfl | rfl | rfl <;> rfl

theorem daysBefore_eq (year : Int) {month : Nat} (low : 3 ≤ month) (high : month ≤ 12) :
    daysBefore year month = (153 * (month - 3) + 2) / 5 + if isLeapYear year then 60 else 59 := by
  rcases months_from_march low high with rfl | rfl | rfl | rfl | rfl | rfl | rfl | rfl | rfl | rfl <;>
    cases leap : isLeapYear year <;> simp [daysBefore,daysInMonth,leap]

-- A day of a year that starts with March.
theorem isDate_of_march (year : Int) {day : Nat} (high : day ≤ 365) (leaps : day = 365 → isLeapYear (year + 1) = true) :
    let m := (5 * day + 2) / 153
    let month := if m < 10 then m + 3 else m - 9
    let own := year + if month ≤ 2 then 1 else 0
    let dayOfMonth := day - (153 * m + 2) / 5 + 1
    IsDate own month dayOfMonth ∧ dayNumber own month dayOfMonth = 365 * year + leapDays year + day - 305 := by
  intro m month own dayOfMonth
  have step := leapDays_step year
  have begun : (153 * m + 2) / 5 ≤ day := by omega
  have ended : day < (153 * (m + 1) + 2) / 5 := by omega
  by_cases early : m < 10
  · have sameMonth : month = m + 3 := if_pos early
    have sameYear : own = year := by omega
    rw [sameMonth,sameYear]
    refine ⟨⟨by omega,?_⟩,?_⟩
    · rw [daysInMonth_eq year (by omega) (by omega)]
      simp only [Nat.add_sub_cancel,show m + 3 - 2 = m + 1 by omega]
      omega
    · rw [dayNumber,daysBefore_eq year (by omega) (by omega),Nat.add_sub_cancel]
      cases leap : isLeapYear year with
      | true => simp only [leap,if_true] at step ⊢; omega
      | false => simp only [leap,Bool.false_eq_true,if_false] at step ⊢; omega
  · have sameMonth : month = m - 9 := if_neg early
    have sameYear : own = year + 1 := congrArg (year + ·) (if_pos (by omega))
    rw [sameMonth,sameYear,dayNumber,Int.add_sub_cancel]
    rcases (by omega : m = 10 ∨ m = 11) with last | last
    · have before : daysBefore (year + 1) (m - 9) = 0 := by rw [last]; rfl
      have length : daysInMonth (year + 1) (m - 9) = 31 := by rw [last]; rfl
      exact ⟨⟨by omega,by omega,by omega⟩,by omega⟩
    · have before : daysBefore (year + 1) (m - 9) = 31 := by rw [last]; rfl
      have length : daysInMonth (year + 1) (m - 9) = if isLeapYear (year + 1) then 29 else 28 := by rw [last]; rfl
      have fits : day - 336 ≤ daysInMonth (year + 1) (m - 9) := by
        rw [length]
        by_cases full : day = 365
        · rw [leaps full,full]; decide
        · split <;> omega
      exact ⟨⟨by omega,by omega,by omega⟩,by omega⟩

-- The month is found in whole numbers, none of which is negative.
theorem month_toNat (m : Nat) :
    (if (m : Int) < 10 then (m : Int) + 3 else (m : Int) - 9).toNat = if m < 10 then m + 3 else m - 9 := by
  split <;> split <;> omega

theorem january_or_february (m : Nat) :
    (if (m : Int) < 10 then (m : Int) + 3 else (m : Int) - 9) ≤ 2 ↔ (if m < 10 then m + 3 else m - 9) ≤ 2 := by
  split <;> split <;> omega

-- Every day has its date.
theorem dateOf_isDate (days : Int) :
    IsDate (dateOf days).1 (dateOf days).2.1 (dateOf days).2.2 ∧
      dayNumber (dateOf days).1 (dateOf days).2.1 (dateOf days).2.2 = days + dayNumber 1970 1 1 := by
  have first : dayNumber 1970 1 1 = 719163 := rfl
  have era : (days + 719468).fdiv 146097 = (days + 719468) / 146097 := Int.fdiv_eq_ediv_of_nonneg _ (by decide)
  have low : 0 ≤ days + 719468 - (days + 719468) / 146097 * 146097 := by omega
  have high : days + 719468 - (days + 719468) / 146097 * 146097 < 146097 := by omega
  obtain ⟨century,quad,year,rest,falls⟩ := exists_falls low high
  have sum := falls.sum
  obtain ⟨day,rfl⟩ := Int.eq_ofNat_of_zero_le falls.rests.1
  obtain ⟨fours,hundreds⟩ := falls.quarters
  have dayOfYear : days + 719468 - (days + 719468) / 146097 * 146097 -
      (365 * (100 * century + 4 * quad + year) + (25 * century + quad) - century) = day := by omega
  obtain ⟨isDate,number⟩ := isDate_of_march (100 * century + 4 * quad + year + (days + 719468) / 146097 * 400)
    (Int.ofNat_le.mp falls.rests.2) (fun full => falls.leaps _ (congrArg Int.ofNat full))
  have month : (5 * (day : Int) + 2) / 153 = ((5 * day + 2) / 153 : Nat) := by omega
  have dayOfMonth : ((day : Int) - (153 * ((5 * day + 2) / 153 : Nat) + 2) / 5 + 1).toNat =
      day - (153 * ((5 * day + 2) / 153) + 2) / 5 + 1 := by omega
  simp only [dateOf,era,falls.yearOfEra,fours,hundreds,dayOfYear,month,month_toNat,january_or_february,dayOfMonth]
  refine ⟨isDate,number.trans ?_⟩
  rw [falls.leapDays]
  omega

-- A point in time as a date and a time of that day.
structure FallsOn (t : Timestamp) (year : Int) (month day hour minute second : Nat) : Prop where
  date : IsDate year month day
  clock : hour < 24 ∧ minute < 60 ∧ second < 60
  seconds : t.seconds = (dayNumber year month day - dayNumber 1970 1 1) * 86400 + (hour * 3600 + minute * 60 + second)

theorem FallsOn.unique {year year' : Int} {month day hour minute second month' day' hour' minute' second' : Nat}
    (one : FallsOn t year month day hour minute second) (other : FallsOn t year' month' day' hour' minute' second') :
    year = year' ∧ month = month' ∧ day = day' ∧ hour = hour' ∧ minute = minute' ∧ second = second' := by
  obtain ⟨date,⟨_,_,_⟩,seconds⟩ := one
  obtain ⟨date',⟨_,_,_⟩,seconds'⟩ := other
  have same : dayNumber year month day = dayNumber year' month' day' := by omega
  obtain ⟨rfl,rfl,rfl⟩ := date.unique date' same
  exact ⟨rfl,rfl,rfl,by omega,by omega,by omega⟩

def digits (width n : Nat) : List Char := (Nat.toDigits 10 n).leftpad width '0'

def sign (year : Int) : List Char := if year < 0 then ['-'] else if year ≤ 9999 then [] else ['+']

def spelled (year : Int) (month day hour minute second : Nat) : List Char :=
  sign year ++ digits 4 year.natAbs ++ '-' :: digits 2 month ++ '-' :: digits 2 day ++
    ' ' :: digits 2 hour ++ ':' :: digits 2 minute ++ ':' :: digits 2 second ++ [' ','U','T','C']

-- The text of a point in time. A leap second is shown as the second after the one that it belongs to.
def Shows (t : Timestamp) (text : String) : Prop :=
  ∃ year month day hour minute second, FallsOn t year month day hour minute second ∧
    text.toList = spelled year month day hour minute (second + t.nanoseconds / 1000000000)

theorem Shows.unique {one other : String} (first : Shows t one) (second : Shows t other) : one = other := by
  obtain ⟨_,_,_,_,_,_,falls,text⟩ := first
  obtain ⟨_,_,_,_,_,_,falls',text'⟩ := second
  obtain ⟨rfl,rfl,rfl,rfl,rfl,rfl⟩ := falls.unique falls'
  exact String.toList_inj.mp (text.trans text'.symm)

theorem toList_padded (width n : Nat) : (Text.padded width n).toList = digits width n := by
  simp [Text.padded,digits,List.leftpad,toString,Nat.repr]

theorem toList_yearText (year : Int) : (yearText year).toList = sign year ++ digits 4 year.natAbs := by
  unfold yearText sign
  split
  · simp [toList_padded]
  · split
    · simp [toList_padded]
    · simp [toList_padded]

theorem display_shows (t : Timestamp) : Shows t t.display := by
  obtain ⟨isDate,number⟩ := dateOf_isDate (t.seconds.fdiv 86400)
  have days : t.seconds.fdiv 86400 = t.seconds / 86400 := Int.fdiv_eq_ediv_of_nonneg _ (by decide)
  generalize clock : (t.seconds - t.seconds.fdiv 86400 * 86400).toNat = second
  refine ⟨_,_,_,second / 3600,second / 60 % 60,second % 60,⟨isDate,?_,?_⟩,?_⟩
  · omega
  · rw [number]
    omega
  · simp [display,parts,spelled,toList_yearText,toList_padded,clock,billion]

end Entitlement.Timestamp
