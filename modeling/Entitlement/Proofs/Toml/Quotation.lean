import Mathlib.Tactic.IntervalCases
import Entitlement.Toml.Quotation

-- A quoted text is read as the text that was written, whatever it holds and whichever form it was written in. Of a text
-- over several lines up to two quotes stand as they are, also before the three that close it, so that each reader is
-- run from the first of the quotes that stand in a row.
namespace Entitlement.Toml

variable {c quote : Char} {cs rest tail : List Char} {found : Found}

def Found.prepend (front : List Char) (found : Found) : Found := (front ++ found.1,found.2)

-- How many quotes stand in a row.

theorem le_longestRun (cs : List Char) (longest run : Nat) : longest ≤ longestRun quote longest run cs := by
  induction cs generalizing longest run with
  | nil => exact Nat.le_refl longest
  | cons d rest ih =>
    unfold longestRun
    split
    · exact (Nat.le_max_left longest (run + 1)).trans (ih _ _)
    · exact ih longest 0

theorem not_mem_of_longestRun {longest run : Nat} (none : longestRun quote longest run cs = 0) : quote ∉ cs := by
  induction cs generalizing longest run with
  | nil => exact List.not_mem_nil
  | cons d rest ih =>
    unfold longestRun at none
    by_cases same : d = quote
    · rw [if_pos same] at none
      have least := @le_longestRun quote rest (max longest (run + 1)) (run + 1)
      omega
    · rw [if_neg same] at none
      exact List.not_mem_cons_of_ne_of_not_mem (Ne.symm same) (ih none)

-- Characters that need an escape.

theorem hexValue?_upper : ∀ d < 16, Text.hexValue? (Nat.digitChar d).toUpper = some d := by decide

theorem control_lt (control : isPlain c = false) : c.toNat < 0x80 := by
  simp only [isPlain,Bool.or_eq_false_iff,Bool.and_eq_false_iff,decide_eq_false_iff_not] at control
  rcases control.2 with low | delete
  · omega
  · have same : c.toNat = 0x7F := by simpa using delete
    omega

theorem scalarChar?_toNat (c : Char) : scalarChar? c.toNat = some c := by
  have valid := c.valid
  unfold scalarChar?
  rw [if_pos]
  · simp
  · rcases valid with low | high
    · exact .inl low
    · exact .inr high

-- The two readers of texts in double quotes differ in how a text ends and in what a line feed means. An escape is the
-- same to both.
structure Unescapes (severalLines : Bool) (read : Spot → List Char → Option Found) : Prop where
  plain : ∀ c rest, isPlain c = true → c ≠ '"' → c ≠ '\\' → read .text (c :: rest) = (read .text rest).map (.cons c)
  lineFeed : severalLines = true → ∀ rest, read .text ('\n' :: rest) = (read .text rest).map (.cons '\n')
  backslash : ∀ rest, read .text ('\\' :: rest) = read .escape rest
  letter : ∀ c e rest, shortEscape? c = some e → read .escape (c :: rest) = (read .text rest).map (.cons e)
  number : ∀ rest, read .escape ('u' :: rest) = read (.digits 4 0) rest
  digit : ∀ missing value c d rest, Text.hexValue? c = some d → 1 < missing →
    read (.digits missing value) (c :: rest) = read (.digits (missing - 1) (16 * value + d)) rest
  last : ∀ value c d e rest, Text.hexValue? c = some d → scalarChar? (16 * value + d) = some e →
    read (.digits 1 value) (c :: rest) = (read .text rest).map (.cons e)

section Unescapes

variable {severalLines : Bool} {read : Spot → List Char → Option Found}

theorem Unescapes.control (unescapes : Unescapes severalLines read) (control : isPlain c = false) :
    read .text ('\\' :: 'u' :: '0' :: '0' :: (Nat.digitChar (c.toNat / 16)).toUpper ::
      (Nat.digitChar (c.toNat % 16)).toUpper :: tail) = (read .text tail).map (.cons c) := by
  have small := control_lt control
  have high := hexValue?_upper (c.toNat / 16) (by omega)
  have low := hexValue?_upper (c.toNat % 16) (by omega)
  have zero : Text.hexValue? '0' = some 0 := rfl
  have value : 16 * (16 * (16 * (16 * 0 + 0) + 0) + c.toNat / 16) + c.toNat % 16 = c.toNat := by omega
  rw [unescapes.backslash,unescapes.number,unescapes.digit _ _ _ _ _ zero (by decide),
    unescapes.digit _ _ _ _ _ zero (by decide),unescapes.digit _ _ _ _ _ high (by decide)]
  exact unescapes.last _ _ _ _ _ low (by rw [value]; exact scalarChar?_toNat c)

theorem Unescapes.escape (unescapes : Unescapes severalLines read) (other : c ≠ '"') :
    read .text (escapeBasic severalLines c ++ tail) = (read .text tail).map (.cons c) := by
  have lettered {letter : Char} (short : shortEscape? letter = some c) :
      read .text ('\\' :: letter :: tail) = (read .text tail).map (.cons c) := by
    rw [unescapes.backslash,unescapes.letter _ _ _ short]
  unfold escapeBasic
  by_cases short : c ∈ ['\x08','\t','\x0c','\r','\\']
  · simp only [List.mem_cons,List.not_mem_nil,or_false] at short
    rcases short with rfl | rfl | rfl | rfl | rfl <;> exact lettered rfl
  simp only [List.mem_cons,List.not_mem_nil,or_false,not_or] at short
  obtain ⟨backspace,tab,page,back,backslash⟩ := short
  by_cases feed : c = '\n'
  · subst feed
    cases severalLines with
    | false => exact lettered rfl
    | true => exact unescapes.lineFeed rfl tail
  simp only [backspace,tab,feed,page,back,backslash,if_false]
  cases plain : isPlain c with
  | true => exact unescapes.plain c tail plain other backslash
  | false => exact unescapes.control plain

end Unescapes

-- One line in double quotes.

theorem unescapes_readBasic : Unescapes false readBasic where
  plain c rest plain other backslash := by simp [readBasic,plain,other,backslash]
  lineFeed impossible := nomatch impossible
  backslash rest := rfl
  letter c e rest short := by rw [readBasic,short]
  number rest := rfl
  digit missing value c d rest hex more := by
    rw [readBasic,hex]
    simp [Nat.not_le.mpr more]
  last value c d e rest hex scalar := by
    rw [readBasic,hex]
    simp [scalar]

theorem readBasic_writeBasic (cs : List Char) (run : Nat) (tail : List Char) :
    readBasic .text (writeBasic false 0 run cs ++ '"' :: tail) = some (cs,tail) := by
  induction cs generalizing run with
  | nil => rfl
  | cons c rest ih =>
    unfold writeBasic
    by_cases same : c = '"'
    · subst same
      rw [if_pos rfl,if_neg (Nat.not_lt_zero run),List.cons_append,List.cons_append,unescapes_readBasic.backslash,
        unescapes_readBasic.letter _ _ _ rfl,ih]
      rfl
    · rw [if_neg same,List.append_assoc,unescapes_readBasic.escape same,ih]
      rfl

-- One line in single quotes.

theorem readLiteral_append (free : '\'' ∉ cs) (plain : ∀ c ∈ cs, isPlain c = true) (tail : List Char) :
    readLiteral (cs ++ '\'' :: tail) = some (cs,tail) := by
  induction cs with
  | nil => rfl
  | cons c rest ih =>
    obtain ⟨other,later⟩ := List.ne_and_not_mem_of_not_mem_cons free
    obtain ⟨first,others⟩ := List.forall_mem_cons.mp plain
    rw [List.cons_append,readLiteral,if_neg (Ne.symm other),if_pos first,ih later others]
    rfl

-- Where several lines end.

theorem closing?_apart {d : Char} (other : d ≠ quote) {run : Nat} (few : run ≤ 2) (tail : List Char) :
    closing? quote (List.replicate run quote ++ d :: tail) = none := by
  interval_cases run <;> rcases tail with _ | ⟨first,_ | ⟨second,more⟩⟩ <;> simp [closing?,other]

theorem closing?_cons {d : Char} (other : d ≠ quote) (tail : List Char) : closing? quote (d :: tail) = none :=
  closing?_apart other (Nat.zero_le 2) tail

-- Up to two more quotes may stand before the three that close.
theorem closing?_replicate {run : Nat} (few : run ≤ 2) (apart : tail.head? ≠ some quote) :
    closing? quote (List.replicate run quote ++ quote :: quote :: quote :: tail) =
      some (List.replicate run quote,tail) := by
  have other : ∀ d more, tail = d :: more → d ≠ quote := by
    rintro d more rfl
    simpa using apart
  interval_cases run
  · cases tail with
    | nil => simp [closing?]
    | cons d more => cases more <;> simp [closing?,other d _ rfl]
  · cases tail with
    | nil => simp [closing?]
    | cons d more => simp [closing?,other d more rfl]
  · simp [closing?]

-- Quotes that are followed by something else stand for themselves.
theorem quotes_prepend {read : List Char → Option Found}
    (step : ∀ rest, closing? quote (quote :: rest) = none → read (quote :: rest) = (read rest).map (.cons quote))
    {d : Char} (other : d ≠ quote) {run : Nat} (few : run ≤ 2) :
    read (List.replicate run quote ++ d :: tail) = (read (d :: tail)).map (.prepend (List.replicate run quote)) := by
  induction run with
  | zero =>
    have same : Found.prepend [] = id := rfl
    simp [same]
  | succ run ih =>
    have runsOn := closing?_apart other few tail
    rw [List.replicate_succ,List.cons_append] at runsOn ⊢
    rw [step _ runsOn,ih (Nat.le_of_succ_le few),Option.map_map]
    rfl

-- Several lines in double quotes.

theorem readBasicLines_closing (closes : closing? '"' cs = some found) : readBasicLines .text cs = some found := by
  cases cs with
  | nil => cases closes
  | cons c rest => rw [readBasicLines,closes]

theorem readBasicLines_plain (runsOn : closing? '"' (c :: rest) = none) (plain : isPlain c = true) (other : c ≠ '\\') :
    readBasicLines .text (c :: rest) = (readBasicLines .text rest).map (.cons c) := by
  have feed : c ≠ '\n' := fun same => by rw [same] at plain; cases plain
  have back : c ≠ '\r' := fun same => by rw [same] at plain; cases plain
  rw [readBasicLines,runsOn]
  simp [other,feed,back,plain]

theorem readBasicLines_quotes {d : Char} (other : d ≠ '"') {run : Nat} (few : run ≤ 2) :
    readBasicLines .text (List.replicate run '"' ++ d :: tail) =
      (readBasicLines .text (d :: tail)).map (.prepend (List.replicate run '"')) :=
  quotes_prepend (fun _ runsOn => readBasicLines_plain runsOn rfl (by decide)) other few

theorem unescapes_readBasicLines : Unescapes true readBasicLines where
  plain c rest plain other backslash := readBasicLines_plain (closing?_cons other rest) plain backslash
  lineFeed _ rest := by
    rw [readBasicLines,closing?_cons (by decide)]
    rfl
  backslash rest := by
    rw [readBasicLines,closing?_cons (by decide)]
    rfl
  letter c e rest short := by
    have blank : c ≠ ' ' ∧ c ≠ '\t' ∧ c ≠ '\r' ∧ c ≠ '\n' := by
      refine ⟨?_,?_,?_,?_⟩ <;> rintro rfl <;> cases short
    simp [readBasicLines,blank,short]
  number rest := by simp [readBasicLines,shortEscape?,longEscape?]
  digit missing value c d rest hex more := by
    rw [readBasicLines,hex]
    simp [Nat.not_le.mpr more]
  last value c d e rest hex scalar := by
    rw [readBasicLines,hex]
    simp [scalar]

theorem escapeBasic_eq_cons {severalLines : Bool} (other : c ≠ '"') :
    ∃ d more, escapeBasic severalLines c = d :: more ∧ d ≠ '"' := by
  unfold escapeBasic
  split_ifs <;> exact ⟨_,_,rfl,by first | decide | exact other⟩

theorem readBasicLines_writeBasic (cs : List Char) {run : Nat} (few : run ≤ 2) (apart : tail.head? ≠ some '"') :
    readBasicLines .text (List.replicate run '"' ++ (writeBasic true 2 run cs ++ '"' :: '"' :: '"' :: tail)) =
      some (List.replicate run '"' ++ cs,tail) := by
  induction cs generalizing run with
  | nil => exact readBasicLines_closing (by simpa [writeBasic] using closing?_replicate few apart)
  | cons c rest ih =>
    have next := @ih 0 (Nat.zero_le 2)
    simp only [List.replicate_zero,List.nil_append] at next
    unfold writeBasic
    by_cases same : c = '"'
    · subst same
      rw [if_pos rfl]
      by_cases more : run < 2
      · have another := @ih (run + 1) more
        simpa [more,List.replicate_succ'] using another
      · rw [if_neg more,List.cons_append,List.cons_append,readBasicLines_quotes (by decide) few,
          unescapes_readBasicLines.backslash,unescapes_readBasicLines.letter _ _ _ rfl,next]
        rfl
    · obtain ⟨d,others,whole,apartToo⟩ := @escapeBasic_eq_cons c true same
      have escaped := @Unescapes.escape c (writeBasic true 2 0 rest ++ '"' :: '"' :: '"' :: tail) _ _
        unescapes_readBasicLines same
      rw [whole] at escaped
      rw [if_neg same,whole,List.cons_append,List.cons_append,readBasicLines_quotes apartToo few]
      simp only [List.cons_append,List.append_assoc] at escaped ⊢
      rw [escaped,next]
      rfl

-- Several lines in single quotes.

theorem readLiteralLines_closing (closes : closing? '\'' cs = some found) : readLiteralLines cs = some found := by
  cases cs with
  | nil => cases closes
  | cons c rest => rw [readLiteralLines,closes]

theorem readLiteralLines_plain (runsOn : closing? '\'' (c :: rest) = none) (fits : isPlain c = true ∨ c = '\n') :
    readLiteralLines (c :: rest) = (readLiteralLines rest).map (.cons c) := by
  rw [readLiteralLines,runsOn]
  rcases fits with plain | rfl
  · have back : c ≠ '\r' := fun same => by rw [same] at plain; cases plain
    by_cases feed : c = '\n' <;> simp [feed,back,plain]
  · rfl

theorem readLiteralLines_append {longest run : Nat} (few : run ≤ 2) (fewer : longestRun '\'' longest run cs ≤ 2)
    (fits : ∀ c ∈ cs, isPlain c = true ∨ c = '\n') (apart : tail.head? ≠ some '\'') :
    readLiteralLines (List.replicate run '\'' ++ (cs ++ '\'' :: '\'' :: '\'' :: tail)) =
      some (List.replicate run '\'' ++ cs,tail) := by
  induction cs generalizing longest run with
  | nil => exact readLiteralLines_closing (by simpa using closing?_replicate few apart)
  | cons c rest ih =>
    obtain ⟨first,others⟩ := List.forall_mem_cons.mp fits
    unfold longestRun at fewer
    by_cases same : c = '\''
    · subst same
      rw [if_pos rfl] at fewer
      have more : run + 1 ≤ 2 := (Nat.le_max_right longest (run + 1)).trans ((le_longestRun rest _ _).trans fewer)
      have another := ih more fewer others
      simpa [List.replicate_succ'] using another
    · rw [if_neg same] at fewer
      have next := @ih longest 0 (Nat.zero_le 2) fewer others
      simp only [List.replicate_zero,List.nil_append] at next
      have step := fun (more : List Char) (runsOn : closing? '\'' ('\'' :: more) = none) =>
        readLiteralLines_plain runsOn (.inl rfl)
      rw [List.cons_append,quotes_prepend step same few,readLiteralLines_plain (closing?_cons same _) first,next]
      rfl

-- All four forms. A quote that two more follow opens a text over several lines.

theorem readQuoted_double (single : ∀ more, rest ≠ '"' :: '"' :: more) : readQuoted ('"' :: rest) = readBasic .text rest := by
  unfold readQuoted
  split
  · rename_i same
    exact absurd (List.cons.inj same).2 (single _)
  all_goals simp_all

theorem readQuoted_apostrophe (single : ∀ more, rest ≠ '\'' :: '\'' :: more) :
    readQuoted ('\'' :: rest) = readLiteral rest := by
  unfold readQuoted
  split
  case h_3 =>
    rename_i same
    exact absurd (List.cons.inj same).2 (single _)
  all_goals simp_all

theorem readQuoted_basic (cs : List Char) (apart : tail.head? ≠ some '"') :
    readQuoted ('"' :: (writeBasic false 0 0 cs ++ '"' :: tail)) = some (cs,tail) := by
  rw [readQuoted_double,readBasic_writeBasic]
  intro more same
  cases cs with
  | nil =>
    cases same
    exact apart rfl
  | cons c others =>
    unfold writeBasic at same
    by_cases quoted : c = '"'
    · rw [if_pos quoted] at same
      cases same
    · obtain ⟨d,_,head,other⟩ := @escapeBasic_eq_cons c false quoted
      rw [if_neg quoted,head] at same
      exact other (List.cons.inj same).1

theorem readQuoted_literal (free : '\'' ∉ cs) (plain : ∀ c ∈ cs, isPlain c = true) (apart : tail.head? ≠ some '\'') :
    readQuoted ('\'' :: (cs ++ '\'' :: tail)) = some (cs,tail) := by
  rw [readQuoted_apostrophe,readLiteral_append free plain]
  intro more same
  cases cs with
  | nil =>
    cases same
    exact apart rfl
  | cons c others => exact free ((List.cons.inj same).1 ▸ List.mem_cons_self)

-- The line feed that a text over several lines begins with is not part of it.

theorem dropFirstLineFeed_start {severalLines : Bool}
    (open_ : severalLines = false → ∃ d more, rest = d :: more ∧ d ≠ '\n' ∧ d ≠ '\r') :
    dropFirstLineFeed ((if severalLines then ['\n'] else []) ++ rest) = rest := by
  cases severalLines with
  | true => rfl
  | false =>
    obtain ⟨d,more,rfl,feed,back⟩ := open_ rfl
    unfold dropFirstLineFeed
    split <;> simp_all

theorem readQuoted_basicLines (cs : List Char) (apart : tail.head? ≠ some '"') :
    readQuoted ('"' :: '"' :: '"' :: ((if cs.contains '\n' then ['\n'] else []) ++
      (writeBasic true 2 0 cs ++ '"' :: '"' :: '"' :: tail))) = some (cs,tail) := by
  rw [readQuoted,dropFirstLineFeed_start]
  · exact @readBasicLines_writeBasic tail cs 0 (Nat.zero_le 2) apart
  intro oneLine
  cases cs with
  | nil => exact ⟨'"',_,rfl,by decide,by decide⟩
  | cons c others =>
    have feed : c ≠ '\n' := by
      rintro rfl
      simp at oneLine
    unfold writeBasic
    by_cases quoted : c = '"'
    · subst quoted
      exact ⟨'"',_,rfl,by decide,by decide⟩
    rw [if_neg quoted]
    unfold escapeBasic
    split_ifs
    all_goals first | exact ⟨_,_,rfl,by decide,by decide⟩ | exact ⟨c,_,rfl,feed,by assumption⟩

theorem readQuoted_literalLines (few : longestRun '\'' 0 0 cs ≤ 2) (fits : ∀ c ∈ cs, isPlain c = true ∨ c = '\n')
    (apart : tail.head? ≠ some '\'') :
    readQuoted ('\'' :: '\'' :: '\'' :: ((if cs.contains '\n' then ['\n'] else []) ++
      (cs ++ '\'' :: '\'' :: '\'' :: tail))) = some (cs,tail) := by
  rw [readQuoted,dropFirstLineFeed_start]
  · exact @readLiteralLines_append cs tail 0 0 (Nat.zero_le 2) few fits apart
  intro oneLine
  cases cs with
  | nil => exact ⟨'\'',_,rfl,by decide,by decide⟩
  | cons c others =>
    have feed : c ≠ '\n' := by
      rintro rfl
      simp at oneLine
    have plain := (fits c List.mem_cons_self).resolve_right feed
    refine ⟨c,_,rfl,feed,?_⟩
    rintro rfl
    cases plain

theorem fits_of_needsEscape (fits : needsEscape cs = false) : ∀ c ∈ cs, isPlain c = true ∨ c = '\n' := by
  intro c member
  have one := List.any_eq_false.mp fits c member
  cases plain : isPlain c with
  | true => exact .inl rfl
  | false => exact .inr (by simpa [plain] using one)

theorem readQuoted_writeQuoted (s : String) (apart : tail.head? ≠ some '"' ∧ tail.head? ≠ some '\'') :
    readQuoted (writeQuoted s ++ tail) = some (s.toList,tail) := by
  obtain ⟨double,single⟩ := apart
  unfold writeQuoted
  generalize s.toList = cs
  have basic := @readQuoted_basic tail cs double
  have basicLines := @readQuoted_basicLines tail cs double
  have literalLines := @readQuoted_literalLines cs tail
  simp only [Bool.and_eq_true,Bool.not_eq_true',decide_eq_true_eq,and_assoc]
  generalize (if cs.contains '\n' = true then ['\n'] else []) = start at basicLines literalLines ⊢
  split_ifs with plain literal several literals feed
  · simpa using basic
  · obtain ⟨noEscape,none,oneLine⟩ := literal
    have plain : ∀ c ∈ cs, isPlain c = true := by
      intro c member
      refine (fits_of_needsEscape noEscape c member).resolve_right ?_
      rintro rfl
      rw [List.contains_iff_mem.mpr member] at oneLine
      cases oneLine
    simpa using readQuoted_literal (not_mem_of_longestRun none) plain single
  · simpa using basicLines
  · simpa using literalLines literals.2 (fits_of_needsEscape literals.1) single
  · simpa using basicLines
  · simpa using basic

end Entitlement.Toml
