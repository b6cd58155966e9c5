import Entitlement.Json.Token
import Entitlement.Json.Value
import Mathlib.Data.Nat.Digits.Lemmas
import Mathlib.Tactic.IntervalCases

-- Numbers by their spelling, and that the scanner finds a number that is written as it is spelled. It learns only from
-- the next character that a number has ended, so that a number is followed by something that ends it.
namespace Entitlement.Json

section Steps

variable {stage next : Stage} {c : Char} {found : List Token} {rest : List (Option Char)}

theorem tokensFrom_step (step : advance stage (some c) = some (found,next)) :
    tokensFrom stage (some c :: rest) = (tokensFrom next rest).map (found ++ ·) := by
  rw [tokensFrom,step]
  simp only [Option.bind_eq_bind,Option.bind_some]
  cases tokensFrom next rest <;> rfl

theorem tokensFrom_silent (step : advance stage (some c) = some ([],next)) :
    tokensFrom stage (some c :: rest) = tokensFrom next rest := by
  rw [tokensFrom_step step]
  simp

theorem tokensFrom_word {letter : Char} {letters : List Char} {token : Token} :
    tokensFrom (.word (letter :: letters) token) ((letter :: letters).map some ++ rest) =
      (tokensFrom .between rest).map (token :: ·) := by
  induction letters generalizing letter with
  | nil =>
    have step : advance (.word [letter] token) (some letter) = some ([token],.between) := by simp [advance]
    exact tokensFrom_step step
  | cons later letters ih =>
    have step : advance (.word (letter :: later :: letters) token) (some letter) =
        some ([],.word (later :: letters) token) := by
      simp [advance]
    exact (tokensFrom_silent step).trans ih

end Steps

-- What may follow a value: the end of the text, or the end of an item, a member or a line.
def Delimited (rest : List (Option Char)) : Prop :=
  rest = [] ∨ ∃ c more, rest = some c :: more ∧ c ∈ [',',']','\x7d','\n']

theorem delimited_nil : Delimited [] := .inl rfl

theorem delimited_cons {c : Char} {more : List (Option Char)} (delimiter : c ∈ [',',']','\x7d','\n']) :
    Delimited (some c :: more) := .inr ⟨c,more,rfl,delimiter⟩

theorem digitValue?_digitChar : ∀ d < 10, Text.digitValue? (Nat.digitChar d) = some d := by decide

namespace Spelling

def chars (digits : List Nat) : List Char := digits.map Nat.digitChar

-- A row of digits that is not empty.
structure Run (digits : List Nat) : Prop where
  some : digits ≠ []
  each : ∀ d ∈ digits, d < 10

theorem Run.append {first second : List Nat} (run : Run first) (each : ∀ d ∈ second, d < 10) : Run (first ++ second) where
  some := List.append_ne_nil_of_left_ne_nil run.some second
  each := List.forall_mem_append.mpr ⟨run.each,each⟩

structure Proper (s : Spelling) : Prop where
  whole : Run s.whole
  lead : s.whole = [0] ∨ s.whole.head? ≠ some 0
  fraction : ∀ digits ∈ s.fraction, Run digits
  exponent : ∀ e ∈ s.exponent, Run e.2

def sign (negative : Bool) : List Char := if negative then ['-'] else []

def write (s : Spelling) : List Char :=
  sign s.negative ++ chars s.whole ++ (s.fraction.map fun digits => '.' :: chars digits).getD []
    ++ (s.exponent.map fun e => 'e' :: (sign e.1 ++ chars e.2)).getD []

variable {s : Spelling} {rest : List (Option Char)} {digits whole : List Nat} {negative down : Bool}
  {fraction : Option (List Nat)} {part : NumberPart}

-- Digits that only make a part of a number longer.
theorem tokensFrom_chars {put : List Nat → Spelling}
    (grows : ∀ d < 10, ∀ before, continueNumber part (put before) (Nat.digitChar d) = some (part,put (d :: before)))
    (each : ∀ d ∈ digits, d < 10) (before : List Nat) :
    tokensFrom (.number part (put before)) ((chars digits).map some ++ rest) =
      tokensFrom (.number part (put (digits.reverse ++ before))) rest := by
  induction digits generalizing before with
  | nil => rfl
  | cons d more ih =>
    obtain ⟨small,later⟩ := List.forall_mem_cons.mp each
    have step : advance (.number part (put before)) (some (Nat.digitChar d)) = some ([],.number part (put (d :: before))) := by
      simp [advance,grows d small before]
    have first : (chars (d :: more)).map some ++ rest = some (Nat.digitChar d) :: ((chars more).map some ++ rest) := rfl
    rw [first,tokensFrom_silent step,ih later]
    simp

theorem grows_whole : ∀ d < 10, ∀ before, continueNumber .whole ⟨negative,before,none,none⟩ (Nat.digitChar d) =
    some (.whole,⟨negative,d :: before,none,none⟩) := by
  intro d small before
  simp [continueNumber,digitValue?_digitChar d small]

theorem grows_fraction : ∀ d < 10, ∀ before,
    continueNumber .fraction ⟨negative,whole,some before,none⟩ (Nat.digitChar d) =
      some (.fraction,⟨negative,whole,some (d :: before),none⟩) := by
  intro d small before
  simp [continueNumber,digitValue?_digitChar d small]

theorem grows_exponent : ∀ d < 10, ∀ before,
    continueNumber .exponent ⟨negative,whole,fraction,some (down,before)⟩ (Nat.digitChar d) =
      some (.exponent,⟨negative,whole,fraction,some (down,d :: before)⟩) := by
  intro d small before
  simp [continueNumber,digitValue?_digitChar d small]

-- The stage behind the digits before the point.
def wholePart (whole : List Nat) : NumberPart := if whole = [0] then .zero else .whole

theorem advance_digit : ∀ d < 10, advance .between (some (Nat.digitChar d)) =
    some ([],.number (wholePart [d]) ⟨false,[d],none,none⟩) := by
  intro d small
  interval_cases d <;> rfl

theorem advance_signedDigit : ∀ d < 10, advance (.number .sign ⟨true,[],none,none⟩) (some (Nat.digitChar d)) =
    some ([],.number (wholePart [d]) ⟨true,[d],none,none⟩) := by
  intro d small
  interval_cases d <;> rfl

theorem tokensFrom_whole (run : Run whole) (lead : whole = [0] ∨ whole.head? ≠ some 0) :
    tokensFrom .between ((sign negative ++ chars whole).map some ++ rest) =
      tokensFrom (.number (wholePart whole) ⟨negative,whole.reverse,none,none⟩) rest := by
  obtain ⟨d,more,rfl⟩ := List.exists_cons_of_ne_nil run.some
  obtain ⟨small,later⟩ := List.forall_mem_cons.mp run.each
  have opening : tokensFrom .between ((sign negative ++ chars (d :: more)).map some ++ rest) =
      tokensFrom (.number (wholePart [d]) ⟨negative,[d],none,none⟩) ((chars more).map some ++ rest) := by
    cases negative with
    | false => exact tokensFrom_silent (advance_digit d small)
    | true => exact (tokensFrom_silent rfl).trans (tokensFrom_silent (advance_signedDigit d small))
  rw [opening]
  by_cases zero : d = 0
  · obtain rfl : more = [] := by simpa [zero] using lead
    rfl
  · have part : ∀ others, wholePart (d :: others) = .whole := fun others => by simp [wholePart,zero]
    rw [part,part,tokensFrom_chars grows_whole later,List.reverse_cons]

theorem tokensFrom_fraction (complete : part = .zero ∨ part = .whole) (run : Run digits) :
    tokensFrom (.number part ⟨negative,whole,none,none⟩) (('.' :: chars digits).map some ++ rest) =
      tokensFrom (.number .fraction ⟨negative,whole,some digits.reverse,none⟩) rest := by
  obtain ⟨d,more,rfl⟩ := List.exists_cons_of_ne_nil run.some
  obtain ⟨small,later⟩ := List.forall_mem_cons.mp run.each
  have point : advance (.number part ⟨negative,whole,none,none⟩) (some '.') =
      some ([],.number .point ⟨negative,whole,none,none⟩) := by rcases complete with rfl | rfl <;> rfl
  have first : advance (.number .point ⟨negative,whole,none,none⟩) (some (Nat.digitChar d)) =
      some ([],.number .fraction ⟨negative,whole,some [d],none⟩) := by
    simp [advance,continueNumber,digitValue?_digitChar d small]
  have pieces : ('.' :: chars (d :: more)).map some ++ rest =
      some '.' :: some (Nat.digitChar d) :: ((chars more).map some ++ rest) := rfl
  rw [pieces,tokensFrom_silent point,tokensFrom_silent first,tokensFrom_chars grows_fraction later,List.reverse_cons]

theorem tokensFrom_exponent (complete : part = .zero ∨ part = .whole ∨ part = .fraction) (run : Run digits) :
    tokensFrom (.number part ⟨negative,whole,fraction,none⟩) (('e' :: (sign down ++ chars digits)).map some ++ rest) =
      tokensFrom (.number .exponent ⟨negative,whole,fraction,some (down,digits.reverse)⟩) rest := by
  obtain ⟨d,more,rfl⟩ := List.exists_cons_of_ne_nil run.some
  obtain ⟨small,later⟩ := List.forall_mem_cons.mp run.each
  have mark : advance (.number part ⟨negative,whole,fraction,none⟩) (some 'e') =
      some ([],.number .exponentMark ⟨negative,whole,fraction,none⟩) := by rcases complete with rfl | rfl | rfl <;> rfl
  cases down with
  | false =>
    have first : advance (.number .exponentMark ⟨negative,whole,fraction,none⟩) (some (Nat.digitChar d)) =
        some ([],.number .exponent ⟨negative,whole,fraction,some (false,[d])⟩) := by
      simp [advance,continueNumber,digitValue?_digitChar d small]
    have pieces : ('e' :: (sign false ++ chars (d :: more))).map some ++ rest =
        some 'e' :: some (Nat.digitChar d) :: ((chars more).map some ++ rest) := rfl
    rw [pieces,tokensFrom_silent mark,tokensFrom_silent first,tokensFrom_chars grows_exponent later,List.reverse_cons]
  | true =>
    have minus : advance (.number .exponentMark ⟨negative,whole,fraction,none⟩) (some '-') =
        some ([],.number .exponentSign ⟨negative,whole,fraction,some (true,[])⟩) := rfl
    have first : advance (.number .exponentSign ⟨negative,whole,fraction,some (true,[])⟩) (some (Nat.digitChar d)) =
        some ([],.number .exponent ⟨negative,whole,fraction,some (true,[d])⟩) := by
      simp [advance,continueNumber,digitValue?_digitChar d small]
    have pieces : ('e' :: (sign true ++ chars (d :: more))).map some ++ rest =
        some 'e' :: some '-' :: some (Nat.digitChar d) :: ((chars more).map some ++ rest) := rfl
    rw [pieces,tokensFrom_silent mark,tokensFrom_silent minus,tokensFrom_silent first,tokensFrom_chars grows_exponent later,
      List.reverse_cons]

-- The number ends where something else begins.
theorem tokensFrom_finished (complete : part.complete = true) (delimited : Delimited rest) :
    tokensFrom (.number part s) rest = (tokensFrom .between rest).map (.number s.finished :: ·) := by
  rcases delimited with rfl | ⟨c,more,rfl,delimiter⟩
  · cases part <;> first | rfl | cases complete
  simp only [List.mem_cons,List.not_mem_nil,or_false] at delimiter
  have started : ∃ found, startToken c = some (found,.between) := by
    rcases delimiter with rfl | rfl | rfl | rfl <;> exact ⟨_,rfl⟩
  obtain ⟨found,started⟩ := started
  have ended : advance (.number part s) (some c) = some (.number s.finished :: found,.between) := by
    have stops : continueNumber part s c = none := by
      rcases delimiter with rfl | rfl | rfl | rfl <;> cases part <;> rfl
    have other : Text.digitValue? c = none := by rcases delimiter with rfl | rfl | rfl | rfl <;> rfl
    simp [advance,stops,complete,other,started]
  have between : advance .between (some c) = some (found,.between) := started
  rw [tokensFrom_step ended,tokensFrom_step between,Option.map_map]
  rfl

theorem tokensFrom_write (proper : Proper s) (delimited : Delimited rest) :
    tokensFrom .between (s.write.map some ++ rest) = (tokensFrom .between rest).map (.number s :: ·) := by
  obtain ⟨negative,whole,fraction,exponent⟩ := s
  obtain ⟨run,lead,fractionRun,exponentRun⟩ := proper
  have start : wholePart whole = .zero ∨ wholePart whole = .whole := by
    unfold wholePart
    split
    · exact .inl rfl
    · exact .inr rfl
  simp only [write,List.map_append,List.append_assoc]
  rw [← List.append_assoc,← List.map_append,tokensFrom_whole run lead]
  cases fraction with
  | none => cases exponent with
    | none =>
      have complete : (wholePart whole).complete = true := by rcases start with same | same <;> rw [same] <;> rfl
      rw [Option.map_none,Option.map_none]
      exact (tokensFrom_finished complete delimited).trans (by simp [finished])
    | some e =>
      rw [Option.map_none,Option.map_some]
      have parts : wholePart whole = .zero ∨ wholePart whole = .whole ∨ wholePart whole = .fraction := by
        rcases start with same | same <;> simp [same]
      exact (tokensFrom_exponent parts (exponentRun e rfl)).trans
        ((tokensFrom_finished rfl delimited).trans (by simp [finished]))
  | some digits =>
    rw [Option.map_some,Option.getD_some,tokensFrom_fraction start (fractionRun digits rfl)]
    cases exponent with
    | none =>
      rw [Option.map_none]
      exact (tokensFrom_finished rfl delimited).trans (by simp [finished])
    | some e =>
      rw [Option.map_some]
      exact (tokensFrom_exponent (.inr (.inr rfl)) (exponentRun e rfl)).trans
        ((tokensFrom_finished rfl delimited).trans (by simp [finished]))

end Spelling

section Numbers

open Spelling

-- The digits of a number, the last one first.
def places (n : Nat) : List Nat := if n = 0 then [0] else Nat.digits 10 n

theorem toDigits_eq_chars (n : Nat) : Nat.toDigits 10 n = chars (places n).reverse := by
  induction n using Nat.strongRecOn with
  | ind n ih =>
    by_cases small : n < 10
    · rw [Nat.toDigits_of_lt_base small]
      by_cases zero : n = 0
      · rw [zero]
        rfl
      · rw [places,if_neg zero,Nat.digits_of_lt 10 n zero small]
        rfl
    · have positive : 0 < n := by omega
      have more : n / 10 ≠ 0 := by omega
      rw [Nat.toDigits_of_base_le (by decide) (by omega),ih (n / 10) (by omega),places,places,if_neg more,
        if_neg (by omega),Nat.digits_def' (by decide) positive]
      simp [chars]

theorem run_places (n : Nat) : Run (places n).reverse := by
  by_cases zero : n = 0
  · rw [zero]
    exact ⟨by decide,by decide⟩
  · rw [places,if_neg zero]
    refine ⟨List.reverse_ne_nil_iff.mpr (Nat.digits_ne_nil_iff_ne_zero.mpr zero),fun d member => ?_⟩
    exact Nat.digits_lt_base (by decide) (List.mem_reverse.mp member)

theorem lead_places {n : Nat} (zero : n ≠ 0) : (places n).reverse.head? ≠ some 0 := by
  rw [places,if_neg zero,List.head?_reverse]
  have filled : Nat.digits 10 n ≠ [] := Nat.digits_ne_nil_iff_ne_zero.mpr zero
  rw [List.getLast?_eq_some_getLast filled]
  simpa using Nat.getLast_digit_ne_zero 10 zero

def integerSpelling (n : Int) : Spelling := ⟨n < 0,(places n.natAbs).reverse,none,none⟩

theorem proper_integerSpelling (n : Int) : Proper (integerSpelling n) where
  whole := run_places n.natAbs
  lead := by
    by_cases zero : n = 0
    · rw [zero]
      exact .inl rfl
    · exact .inr (lead_places (Int.natAbs_ne_zero.mpr zero))
  fraction _ impossible := nomatch impossible
  exponent _ impossible := nomatch impossible

theorem writeInteger_eq (n : Int) : writeInteger n = sign (n < 0) ++ chars (places n.natAbs).reverse := by
  unfold writeInteger sign
  rw [toDigits_eq_chars]
  by_cases below : n < 0 <;> simp [below]

theorem write_integerSpelling (n : Int) : (integerSpelling n).write = writeInteger n := by
  rw [writeInteger_eq]
  simp [Spelling.write,integerSpelling]

theorem shortest_ne_zero {m : Nat} (some : m ≠ 0) (e : Int) (tries : Nat) (p : Int) : (shortest m e tries p).1 ≠ 0 := by
  induction tries generalizing p with
  | zero => exact some
  | succ tries ih =>
    unfold shortest
    split
    · exact Nat.succ_ne_zero _
    · exact ih _

variable {digits : List Nat}

theorem run_of_sublist {part : List Nat} (run : Run digits) (sub : part.Sublist digits) (some : part ≠ []) : Run part :=
  ⟨some,fun d member => run.each d (sub.subset member)⟩

theorem each_zeros (count : Nat) : ∀ d ∈ List.replicate count 0, d < 10 := by
  intro d member
  rw [List.eq_of_mem_replicate member]
  decide

theorem run_zero : Run [0] := ⟨by decide,by decide⟩

-- The spelling of a floating-point number by its digits: with a point behind them, among them or before them, or with an
-- exponent.
def laidOut (negative : Bool) (digits : List Nat) (p : Int) : Spelling :=
  let point := (digits.length : Int) + p
  if 0 ≤ p ∧ point ≤ 16 then ⟨negative,digits ++ List.replicate p.toNat 0,some [0],none⟩
  else if 0 < point ∧ point ≤ 16 then ⟨negative,digits.take point.toNat,some (digits.drop point.toNat),none⟩
  else if -5 < point ∧ point ≤ 0 then ⟨negative,[0],some (List.replicate (-point).toNat 0 ++ digits),none⟩
  else ⟨negative,digits.take 1,if digits.length = 1 then none else some (digits.drop 1),
    some (point - 1 < 0,(places (point - 1).natAbs).reverse)⟩

theorem proper_laidOut (negative : Bool) (run : Run digits) (lead : digits.head? ≠ some 0) (p : Int) :
    Proper (laidOut negative digits p) := by
  have filled : 0 < digits.length := List.length_pos_iff.mpr run.some
  have front {count : Nat} (positive : 0 < count) : Run (digits.take count) := by
    refine run_of_sublist run (List.take_sublist _ _) (List.ne_nil_of_length_pos ?_)
    rw [List.length_take]
    omega
  have back {count : Nat} (short : count < digits.length) : Run (digits.drop count) := by
    refine run_of_sublist run (List.drop_sublist _ _) (List.ne_nil_of_length_pos ?_)
    rw [List.length_drop]
    omega
  have start {count : Nat} (positive : 0 < count) : (digits.take count).head? ≠ some 0 := by
    rwa [List.head?_take,if_neg (by omega)]
  have given {part : List Nat} (run : Run part) : ∀ digits ∈ some part, Run digits := by simp [run]
  unfold laidOut
  generalize point : (digits.length : Int) + p = k
  dsimp only
  split_ifs with behind among before single
  · refine ⟨run.append (each_zeros _),.inr ?_,given run_zero,nofun⟩
    rwa [List.head?_append_of_ne_nil _ run.some]
  · exact ⟨front (by omega),.inr (start (by omega)),given (back (by omega)),nofun⟩
  · refine ⟨run_zero,.inl rfl,given ⟨List.append_ne_nil_of_right_ne_nil _ run.some,?_⟩,nofun⟩
    exact List.forall_mem_append.mpr ⟨each_zeros _,run.each⟩
  · exact ⟨front Nat.one_pos,.inr (start Nat.one_pos),nofun,by simp [run_places]⟩
  · exact ⟨front Nat.one_pos,.inr (start Nat.one_pos),given (back (by omega)),by simp [run_places]⟩

theorem write_laidOut (negative : Bool) (run : Run digits) (p : Int) :
    (laidOut negative digits p).write = sign negative ++ layOut (chars digits) p := by
  have length : (chars digits).length = digits.length := List.length_map _
  have zero : Nat.digitChar 0 = '0' := rfl
  unfold laidOut layOut
  simp only [length]
  generalize (digits.length : Int) + p = k
  split_ifs with behind among before single
  · simp [Spelling.write,chars,zero]
  · simp [Spelling.write,chars]
  · simp [Spelling.write,chars,zero]
  · obtain ⟨first,rfl⟩ := List.length_eq_one_iff.mp single
    simp [Spelling.write,chars,writeInteger_eq]
  · obtain ⟨first,others,rfl⟩ := List.exists_cons_of_ne_nil run.some
    obtain ⟨second,more,rfl⟩ := List.exists_cons_of_ne_nil fun none : others = [] => single (by rw [none]; rfl)
    simp [Spelling.write,chars,writeInteger_eq]

def floatingSpelling (bits : UInt64) : Spelling :=
  let (negative,m,e) := mantissa bits
  if m = 0 then ⟨negative,[0],some [0],none⟩
  else
    let (n,p) := shortest m e 700 310
    laidOut negative (places n).reverse p

theorem proper_floatingSpelling (bits : UInt64) : Proper (floatingSpelling bits) := by
  unfold floatingSpelling
  generalize mantissa bits = parts
  obtain ⟨negative,m,e⟩ := parts
  by_cases nothing : m = 0
  · simp only [if_pos nothing]
    exact ⟨run_zero,.inl rfl,by simp [run_zero],nofun⟩
  · simp only [if_neg nothing]
    exact proper_laidOut negative (run_places _) (lead_places (shortest_ne_zero nothing e 700 310)) _

theorem write_floatingSpelling (bits : UInt64) : (floatingSpelling bits).write = writeFloating bits := by
  unfold floatingSpelling writeFloating
  generalize mantissa bits = parts
  obtain ⟨negative,m,e⟩ := parts
  by_cases nothing : m = 0
  · simp [nothing,Spelling.write,chars,sign]
  · simp only [if_neg nothing,toDigits_eq_chars]
    exact write_laidOut negative (run_places _) _

def Number.spelling : Number → Spelling
  | .integer n => integerSpelling n
  | .floating bits => floatingSpelling bits

theorem proper_spelling (n : Number) : n.spelling.Proper := by
  cases n with
  | integer n => exact proper_integerSpelling n
  | floating bits => exact proper_floatingSpelling bits

theorem write_spelling (n : Number) : n.spelling.write = n.write := by
  cases n with
  | integer n => exact write_integerSpelling n
  | floating bits => exact write_floatingSpelling bits

end Numbers

end Entitlement.Json
