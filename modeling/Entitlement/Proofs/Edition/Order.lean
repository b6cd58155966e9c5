import Mathlib.Data.Char
import Mathlib.Data.List.Lex
import Mathlib.Data.Nat.Find
import Mathlib.Data.Set.Basic
import Entitlement.Edition

-- The order of editions. Two editions compare as their segments do at the first place where these are not alike. Within a
-- place numerals go by number and all else by text, and the two need not fit together: a text may stand between two
-- numerals that do not ascend. Apart from such texts the comparison is a total preorder.
namespace Entitlement.Edition

-- The segments of one place.

section Segments

variable {a b c low text high : List Char} {m n : Nat}

theorem compareText_eq_lt_iff : compareText a b = .lt ↔ a < b := by
  unfold compareText
  split_ifs with same less
  · exact iff_of_false nofun (same ▸ lt_irrefl a)
  · exact iff_of_true rfl less
  · exact iff_of_false nofun less

theorem compareText_eq_eq_iff : compareText a b = .eq ↔ a = b := by
  unfold compareText
  split_ifs with same less
  · exact iff_of_true rfl same
  · exact iff_of_false nofun same
  · exact iff_of_false nofun same

theorem compareText_ne_gt : compareText a b ≠ .gt ↔ a ≤ b := by
  unfold compareText
  split_ifs with same less
  · exact iff_of_true nofun same.le
  · exact iff_of_true nofun less.le
  · exact iff_of_false (fun other => other rfl) fun below => less (lt_of_le_of_ne below same)

theorem compareText_swap (a b : List Char) : compareText b a = (compareText a b).swap := by
  rcases lt_trichotomy a b with less | rfl | more
  · simp [compareText,less,less.ne,less.ne',less.not_gt]
  · simp [compareText]
  · simp [compareText,more,more.ne,more.ne',more.not_gt]

theorem compareSegment_numbers (left : number? a = some m) (right : number? b = some n) :
    compareSegment a b = Ord.compare m n := by
  simp only [compareSegment,left,right]

theorem compareSegment_texts (either : number? a = none ∨ number? b = none) :
    compareSegment a b = compareText a b := by
  unfold compareSegment
  split
  · rename_i left right
    simp [left,right] at either
  · rfl

theorem compareSegment_swap (a b : List Char) : compareSegment b a = (compareSegment a b).swap := by
  by_cases either : number? a = none ∨ number? b = none
  · rw [compareSegment_texts either,compareSegment_texts either.symm,compareText_swap]
  · simp only [not_or,Option.ne_none_iff_exists'] at either
    obtain ⟨⟨m,left⟩,n,right⟩ := either
    rw [compareSegment_numbers left right,compareSegment_numbers right left,Nat.compare_swap]

-- Segments that count as the same: one text, or two spellings of one number.
def Alike (a b : List Char) : Prop := compareSegment a b = .eq

theorem alike_iff : Alike a b ↔ a = b ∨ ∃ n, number? a = some n ∧ number? b = some n := by
  by_cases either : number? a = none ∨ number? b = none
  · rw [Alike,compareSegment_texts either,compareText_eq_eq_iff]
    refine (or_iff_left ?_).symm
    rintro ⟨n,left,right⟩
    simp [left,right] at either
  · simp only [not_or,Option.ne_none_iff_exists'] at either
    obtain ⟨⟨m,left⟩,n,right⟩ := either
    rw [Alike,compareSegment_numbers left right,Nat.compare_eq_eq,left,right]
    constructor
    · rintro rfl
      exact .inr ⟨m,rfl,rfl⟩
    · rintro (rfl | ⟨k,first,second⟩)
      · exact Option.some.inj (left.symm.trans right)
      · exact (Option.some.inj first).trans (Option.some.inj second).symm

theorem Alike.refl (a : List Char) : Alike a a := alike_iff.mpr (.inl rfl)

theorem Alike.symm (alike : Alike a b) : Alike b a := by
  rw [Alike,compareSegment_swap a b,alike]
  rfl

theorem Alike.trans (first : Alike a b) (second : Alike b c) : Alike a c := by
  rcases alike_iff.mp first with rfl | ⟨m,left,middle⟩
  · exact second
  rcases alike_iff.mp second with rfl | ⟨n,also,right⟩
  · exact first
  rw [middle] at also
  cases also
  exact alike_iff.mpr (.inr ⟨m,left,right⟩)

-- A text between two numerals that do not ascend as numbers.
structure Wedged (low text high : List Char) : Prop where
  above : low < text
  below : text < high
  textual : number? text = none
  numerals : ∃ m n, number? low = some m ∧ number? high = some n ∧ n ≤ m

theorem Wedged.compare_low (wedged : Wedged low text high) : compareSegment low text = .lt := by
  rw [compareSegment_texts (.inr wedged.textual),compareText_eq_lt_iff]
  exact wedged.above

theorem Wedged.compare_high (wedged : Wedged low text high) : compareSegment text high = .lt := by
  rw [compareSegment_texts (.inl wedged.textual),compareText_eq_lt_iff]
  exact wedged.below

-- Of three segments that go round in a circle two are numerals, and the third is a text between them.

theorem alike_of_texts (ab : compareText a b ≠ .gt) (bc : compareText b c ≠ .gt) (ca : compareText c a ≠ .gt) :
    Alike a b ∧ Alike b c := by
  rw [compareText_ne_gt] at ab bc ca
  have first : a = b := le_antisymm ab (bc.trans ca)
  have second : b = c := le_antisymm bc (ca.trans ab)
  exact ⟨alike_iff.mpr (.inl first),alike_iff.mpr (.inl second)⟩

theorem wedged_of_numerals (left : number? a = some m) (right : number? b = some n) (textual : number? c = none)
    (ab : compareSegment a b ≠ .gt) (bc : compareSegment b c ≠ .gt) (ca : compareSegment c a ≠ .gt) :
    Wedged b c a := by
  rw [compareSegment_numbers left right,Nat.compare_ne_gt] at ab
  rw [compareSegment_texts (.inr textual),compareText_ne_gt] at bc
  rw [compareSegment_texts (.inl textual),compareText_ne_gt] at ca
  have apartRight : b ≠ c := by rintro rfl; simp [right] at textual
  have apartLeft : c ≠ a := by rintro rfl; simp [left] at textual
  exact ⟨lt_of_le_of_ne bc apartRight,lt_of_le_of_ne ca apartLeft,textual,n,m,right,left,ab⟩

theorem wedged_of_circle (ab : compareSegment a b ≠ .gt) (bc : compareSegment b c ≠ .gt)
    (ca : compareSegment c a ≠ .gt) :
    (Alike a b ∧ Alike b c) ∨ Wedged a b c ∨ Wedged b c a ∨ Wedged c a b := by
  -- With one numeral at most, every pair is compared as text.
  have textual (first : number? a = none ∨ number? b = none) (second : number? b = none ∨ number? c = none)
      (third : number? c = none ∨ number? a = none) : Alike a b ∧ Alike b c := by
    rw [compareSegment_texts first] at ab
    rw [compareSegment_texts second] at bc
    rw [compareSegment_texts third] at ca
    exact alike_of_texts ab bc ca
  cases one : number? a with
  | none =>
    cases two : number? b with
    | none => exact .inl (textual (.inl one) (.inl two) (.inr one))
    | some n =>
      cases three : number? c with
      | none => exact .inl (textual (.inl one) (.inr three) (.inl three))
      | some k => exact .inr (.inr (.inr (wedged_of_numerals two three one bc ca ab)))
  | some m =>
    cases two : number? b with
    | none =>
      cases three : number? c with
      | none => exact .inl (textual (.inr two) (.inl two) (.inl three))
      | some k => exact .inr (.inl (wedged_of_numerals three one two ca ab bc))
    | some n =>
      cases three : number? c with
      | none => exact .inr (.inr (.inl (wedged_of_numerals one two three ab bc ca)))
      | some k =>
        rw [compareSegment_numbers one two,Nat.compare_ne_gt] at ab
        rw [compareSegment_numbers two three,Nat.compare_ne_gt] at bc
        rw [compareSegment_numbers three one,Nat.compare_ne_gt] at ca
        obtain ⟨rfl,rfl⟩ : m = n ∧ n = k := by omega
        exact .inl ⟨alike_iff.mpr (.inr ⟨m,one,two⟩),alike_iff.mpr (.inr ⟨m,two,three⟩)⟩

end Segments

-- Rows of segments, place by place. A row goes on with zeros.

def absent : List Char := ['0']

theorem alike_absent : compareSegment absent absent = .eq := Alike.refl absent

section Rows

variable {as bs : List (List Char)} {order : Ordering}

theorem compareSegments_step (as bs : List (List Char)) :
    compareSegments as bs =
      (compareSegment (as.headD absent) (bs.headD absent)).then (compareSegments as.tail bs.tail) := by
  match as,bs with
  | [],[] => simp only [List.headD_nil,List.tail_nil,alike_absent,compareSegments]; rfl
  | a :: as,[] => rw [compareSegments]; rfl
  | [],b :: bs => rw [compareSegments]; rfl
  | a :: as,b :: bs => rw [compareSegments]; rfl

theorem getD_zero (as : List (List Char)) : as.getD 0 absent = as.headD absent := by cases as <;> rfl

theorem getD_succ (as : List (List Char)) (i : Nat) : as.getD (i + 1) absent = as.tail.getD i absent := by
  cases as <;> rfl

theorem compareSegments_eq_iff :
    compareSegments as bs = .eq ↔ ∀ i, Alike (as.getD i absent) (bs.getD i absent) := by
  have step (as bs : List (List Char)) (ih : compareSegments as.tail bs.tail = .eq ↔
      ∀ i, Alike (as.tail.getD i absent) (bs.tail.getD i absent)) :
      compareSegments as bs = .eq ↔ ∀ i, Alike (as.getD i absent) (bs.getD i absent) := by
    rw [compareSegments_step,Ordering.then_eq_eq,ih]
    constructor
    · rintro ⟨first,later⟩ i
      cases i with
      | zero => rw [getD_zero,getD_zero]; exact first
      | succ i => rw [getD_succ,getD_succ]; exact later i
    · intro all
      have first := all 0
      rw [getD_zero,getD_zero] at first
      refine ⟨first,fun i => ?_⟩
      rw [← getD_succ,← getD_succ]
      exact all (i + 1)
  induction as, bs using compareSegments.induct with
  | case1 => exact iff_of_true (by rw [compareSegments]) fun i => .refl _
  | case2 a as ih => exact step _ _ ih
  | case3 b bs ih => exact step _ _ ih
  | case4 a as b bs ih => exact step _ _ ih

-- The first place where two rows are not alike, and how they compare there.
def DecidedAt (as bs : List (List Char)) (order : Ordering) (i : Nat) : Prop :=
  (∀ j < i, Alike (as.getD j absent) (bs.getD j absent)) ∧ compareSegment (as.getD i absent) (bs.getD i absent) = order

theorem decidedAt_zero : DecidedAt as bs order 0 ↔ compareSegment (as.headD absent) (bs.headD absent) = order := by
  rw [DecidedAt,getD_zero,getD_zero]
  exact and_iff_right nofun

theorem decidedAt_succ {i : Nat} :
    DecidedAt as bs order (i + 1) ↔ Alike (as.headD absent) (bs.headD absent) ∧ DecidedAt as.tail bs.tail order i := by
  rw [DecidedAt,getD_succ,getD_succ,Nat.forall_lt_succ_left,getD_zero,getD_zero,and_assoc]
  simp only [getD_succ]
  rfl

theorem compareSegments_of_decidedAt {i : Nat} (unlike : order ≠ .eq) (decided : DecidedAt as bs order i) :
    compareSegments as bs = order := by
  induction i generalizing as bs with
  | zero =>
    rw [compareSegments_step,decidedAt_zero.mp decided]
    cases order with
    | eq => exact absurd rfl unlike
    | _ => rfl
  | succ i ih =>
    obtain ⟨alike,later⟩ := decidedAt_succ.mp decided
    rw [compareSegments_step,alike]
    exact ih later

theorem compareSegments_swap (as bs : List (List Char)) : compareSegments bs as = (compareSegments as bs).swap := by
  induction as, bs using compareSegments.induct with
  | case1 => rw [compareSegments]; rfl
  | case2 a as ih => rw [compareSegments,compareSegments,Ordering.swap_then,ih,← compareSegment_swap]
  | case3 b bs ih => rw [compareSegments,compareSegments,Ordering.swap_then,ih,← compareSegment_swap]
  | case4 a as b bs ih => rw [compareSegments,compareSegments,Ordering.swap_then,ih,← compareSegment_swap]

end Rows

-- Editions.

def segmentAt (edition : String) (place : Nat) : List Char := (segments edition).getD place absent

section Editions

variable {a b c p q r : String} {place : Nat} {editions : Set String}

theorem compare_eq_iff : compare a b = .eq ↔ ∀ i, Alike (segmentAt a i) (segmentAt b i) := compareSegments_eq_iff

theorem compare_of_place {order : Ordering} (unlike : order ≠ .eq)
    (before : ∀ j < place, Alike (segmentAt a j) (segmentAt b j))
    (there : compareSegment (segmentAt a place) (segmentAt b place) = order) : compare a b = order :=
  compareSegments_of_decidedAt unlike ⟨before,there⟩

theorem compare_swap (a b : String) : compare b a = (compare a b).swap := compareSegments_swap _ _

theorem equivalence_compare : Equivalence fun a b => compare a b = .eq where
  refl a := compare_eq_iff.mpr fun i => .refl _
  symm {a b} same := by rw [compare_swap a b,same]; rfl
  trans first second :=
    compare_eq_iff.mpr fun i => (compare_eq_iff.mp first i).trans (compare_eq_iff.mp second i)

-- Where two editions are alike so far, they do not descend at a place unless as a whole.
theorem compareSegment_ne_gt (ordered : compare a b ≠ .gt)
    (before : ∀ j < place, Alike (segmentAt a j) (segmentAt b j)) :
    compareSegment (segmentAt a place) (segmentAt b place) ≠ .gt :=
  fun more => ordered (compare_of_place nofun before more)

-- Three editions, alike up to a place where the segment of the second is wedged between those of the others.
def Interposed (p q r : String) : Prop :=
  ∃ place, (∀ j < place, Alike (segmentAt p j) (segmentAt q j) ∧ Alike (segmentAt q j) (segmentAt r j)) ∧
    Wedged (segmentAt p place) (segmentAt q place) (segmentAt r place)

theorem Interposed.compare_first (interposed : Interposed p q r) : compare p q = .lt := by
  obtain ⟨place,before,wedged⟩ := interposed
  exact compare_of_place nofun (fun j early => (before j early).1) wedged.compare_low

theorem Interposed.compare_second (interposed : Interposed p q r) : compare q r = .lt := by
  obtain ⟨place,before,wedged⟩ := interposed
  exact compare_of_place nofun (fun j early => (before j early).2) wedged.compare_high

theorem interposed_of_circle (ab : compare a b ≠ .gt) (bc : compare b c ≠ .gt) (ca : compare c a ≠ .gt) :
    (compare a b = .eq ∧ compare b c = .eq) ∨ Interposed a b c ∨ Interposed b c a ∨ Interposed c a b := by
  classical
  by_cases all : ∀ i, Alike (segmentAt a i) (segmentAt b i) ∧ Alike (segmentAt b i) (segmentAt c i)
  · exact .inl ⟨compare_eq_iff.mpr fun i => (all i).1,compare_eq_iff.mpr fun i => (all i).2⟩
  -- At the first place where the three are not alike the segments go round in a circle too.
  have apart := not_forall.mp all
  have before : ∀ j < Nat.find apart, Alike (segmentAt a j) (segmentAt b j) ∧ Alike (segmentAt b j) (segmentAt c j) :=
    fun j early => not_not.mp (Nat.find_min apart early)
  have first : ∀ j < Nat.find apart, Alike (segmentAt a j) (segmentAt b j) := fun j early => (before j early).1
  have second : ∀ j < Nat.find apart, Alike (segmentAt b j) (segmentAt c j) := fun j early => (before j early).2
  have third : ∀ j < Nat.find apart, Alike (segmentAt c j) (segmentAt a j) := fun j early =>
    ((first j early).trans (second j early)).symm
  rcases wedged_of_circle (compareSegment_ne_gt ab first) (compareSegment_ne_gt bc second)
    (compareSegment_ne_gt ca third) with alike | wedged | wedged | wedged
  · exact absurd alike (Nat.find_spec apart)
  · exact .inr (.inl ⟨_,before,wedged⟩)
  · exact .inr (.inr (.inl ⟨_,fun j early => ⟨second j early,third j early⟩,wedged⟩))
  · exact .inr (.inr (.inr ⟨_,fun j early => ⟨third j early,first j early⟩,wedged⟩))

-- Comparing is a total preorder on these editions, and those that compare as equal stand for each other.
structure Preorders (editions : Set String) : Prop where
  reflexive : ∀ a ∈ editions, compare a a = .eq
  reversed : ∀ a ∈ editions, ∀ b ∈ editions, compare b a = (compare a b).swap
  transitive : ∀ a ∈ editions, ∀ b ∈ editions, ∀ c ∈ editions,
    compare a b ≠ .gt → compare b c ≠ .gt → compare a c ≠ .gt
  interchangeable : ∀ a ∈ editions, ∀ b ∈ editions, compare a b = .eq →
    ∀ c ∈ editions, compare a c = compare b c ∧ compare c a = compare c b

-- Wherever one edition is interposed between two others, these ascend all the same.
def Ascends (editions : Set String) : Prop :=
  ∀ p ∈ editions, ∀ q ∈ editions, ∀ r ∈ editions, Interposed p q r → compare p r = .lt

theorem Ascends.transitive (ascends : Ascends editions) (memberA : a ∈ editions) (memberB : b ∈ editions)
    (memberC : c ∈ editions) (ab : compare a b ≠ .gt) (bc : compare b c ≠ .gt) : compare a c ≠ .gt := by
  intro descends
  have back : compare c a = .lt := by rw [compare_swap a c,descends]; rfl
  rcases interposed_of_circle ab bc (back ▸ nofun) with ⟨first,second⟩ | between | between | between
  · rw [equivalence_compare.trans first second] at descends
    cases descends
  · rw [ascends _ memberA _ memberB _ memberC between] at descends
    cases descends
  · rw [compare_swap b a,ascends _ memberB _ memberC _ memberA between] at ab
    exact ab rfl
  · rw [compare_swap c b,ascends _ memberC _ memberA _ memberB between] at bc
    exact bc rfl

theorem Ascends.transCmp (ascends : Ascends editions) : Std.TransCmp fun a b : editions => compare a b where
  eq_swap {a b} := compare_swap b a
  isLE_trans {a b c} ab bc := by
    rw [Ordering.isLE_iff_ne_gt] at ab bc ⊢
    exact ascends.transitive a.2 b.2 c.2 ab bc

theorem Ascends.preorders (ascends : Ascends editions) : Preorders editions where
  reflexive a _ := equivalence_compare.refl a
  reversed a _ b _ := compare_swap a b
  transitive _ memberA _ memberB _ memberC := ascends.transitive memberA memberB memberC
  interchangeable a memberA b memberB same c memberC := by
    have ordered := ascends.transCmp
    have left : compare a c = compare b c :=
      @ordered.congr_left editions _ ⟨a,memberA⟩ ⟨b,memberB⟩ ⟨c,memberC⟩ same
    refine ⟨left,?_⟩
    rw [compare_swap a c,compare_swap b c]
    exact congrArg Ordering.swap left

theorem Preorders.ascends (preorders : Preorders editions) : Ascends editions := by
  intro p memberP q memberQ r memberR between
  have first := between.compare_first
  have second := between.compare_second
  have ordered := preorders.transitive p memberP q memberQ r memberR (first ▸ nofun) (second ▸ nofun)
  cases whole : compare p r with
  | lt => rfl
  | gt => exact absurd whole ordered
  | eq =>
    -- Otherwise the second would stand below the third and above it.
    have below := (preorders.interchangeable p memberP r memberR whole q memberQ).1
    rw [first,compare_swap q r,second] at below
    cases below

-- The comparison goes either way, and being equal is an equivalence. It is a total preorder on just those editions among
-- which an interposed one does no harm.
theorem preorders_iff_ascends (editions : Set String) :
    (∀ a b, compare b a = (compare a b).swap) ∧ Equivalence (fun a b => compare a b = .eq) ∧
      (Preorders editions ↔ Ascends editions) :=
  ⟨compare_swap,equivalence_compare,Preorders.ascends,Ascends.preorders⟩

theorem compare_single {one other : List Char} (left : segments a = [one]) (right : segments b = [other]) :
    compare a b = compareSegment one other := by
  rw [compare,left,right,compareSegments_step]
  change (compareSegment one other).then (compareSegments [] []) = _
  rw [compareSegments]
  cases compareSegment one other <;> rfl

-- Editions that go round in a circle, and two spellings of a number with a text between them.
theorem ten_descends :
    (compare "10" "1a" = .lt ∧ compare "1a" "9" = .lt ∧ compare "10" "9" = .gt) ∧
      (compare "1" "01" = .eq ∧ compare "1" "0a" = .gt ∧ compare "01" "0a" = .lt) ∧ ¬ Preorders Set.univ := by
  have first : compare "10" "1a" = .lt := (compare_single rfl rfl).trans (by decide)
  have second : compare "1a" "9" = .lt := (compare_single rfl rfl).trans (by decide)
  have third : compare "10" "9" = .gt := (compare_single rfl rfl).trans (by decide)
  have same : compare "1" "01" = .eq := (compare_single rfl rfl).trans (by decide)
  have above : compare "1" "0a" = .gt := (compare_single rfl rfl).trans (by decide)
  have below : compare "01" "0a" = .lt := (compare_single rfl rfl).trans (by decide)
  refine ⟨⟨first,second,third⟩,⟨same,above,below⟩,fun preorders => ?_⟩
  have ordered := preorders.transitive "10" trivial "1a" trivial "9" trivial
  rw [first,second,third] at ordered
  exact ordered (by decide) (by decide) rfl

end Editions

end Entitlement.Edition
