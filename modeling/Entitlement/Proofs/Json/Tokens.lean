import Entitlement.Proofs.Json.Spelling

-- The tokens that a value is written with, and that the scanner finds just these in the written text, be it compact or
-- laid out over lines.
namespace Entitlement.Json

-- A value is led back to the values inside it.
@[induction_eliminator]
theorem induction {holds : Json → Prop} (null : holds .null) (bool : ∀ b, holds (.bool b))
    (number : ∀ n, holds (.number n)) (string : ∀ s, holds (.string s))
    (array : ∀ items, (∀ item ∈ items, holds item) → holds (.array items))
    (object : ∀ members : List (String × Json), (∀ m ∈ members, holds m.2) → holds (.object members)) (v : Json) :
    holds v :=
  @Json.rec holds (fun items => ∀ item ∈ items, holds item) (fun members => ∀ m ∈ members, holds m.2) (fun m => holds m.2)
    null bool number string array object nofun (fun _ _ first more => List.forall_mem_cons.mpr ⟨first,more⟩)
    nofun (fun _ _ first more => List.forall_mem_cons.mpr ⟨first,more⟩) (fun _ _ value => value) v

-- A control character that has no letter of its own is written by its number.
def codeUnit (c : Char) : CodeUnit :=
  if c.toNat < 0x20 ∧ c ∉ ['\x08','\t','\n','\x0c','\r'] then .escape c.toNat else .char c

def codeUnits (s : String) : List CodeUnit := s.toList.map codeUnit

mutual

def tokens : Json → List Token
  | .null => [.null]
  | .bool b => [.bool b]
  | .number n => [.number n.spelling]
  | .string s => [.string (codeUnits s)]
  | .array items => .beginArray :: itemTokens items ++ [.endArray]
  | .object members => .beginObject :: memberTokens members ++ [.endObject]

def itemTokens : List Json → List Token
  | [] => []
  | [item] => tokens item
  | item :: next :: rest => tokens item ++ .comma :: itemTokens (next :: rest)

def memberTokens : List (String × Json) → List Token
  | [] => []
  | [(name,value)] => .string (codeUnits name) :: .colon :: tokens value
  | (name,value) :: next :: rest =>
    .string (codeUnits name) :: .colon :: tokens value ++ .comma :: memberTokens (next :: rest)

end

section Strings

variable {units : List CodeUnit} {rest : List (Option Char)}

theorem hexValue?_digitChar : ∀ d < 16, Text.hexValue? (Nat.digitChar d) = some d := by decide

-- A control character comes as four digits, of which the first two are zeros.
theorem tokensFrom_control {c : Char} (control : c.toNat < 0x20) :
    tokensFrom (.text units)
        (['\\','u','0','0',Nat.digitChar (c.toNat / 16),Nat.digitChar (c.toNat % 16)].map some ++ rest) =
      tokensFrom (.text (.escape c.toNat :: units)) rest := by
  have high := hexValue?_digitChar (c.toNat / 16) (by omega)
  have low := hexValue?_digitChar (c.toNat % 16) (by omega)
  have value : 16 * (c.toNat / 16) + c.toNat % 16 = c.toNat := Nat.div_add_mod c.toNat 16
  have backslash : advance (.text units) (some '\\') = some ([],.escape units) := rfl
  have mark : advance (.escape units) (some 'u') = some ([],.hex units 4 0) := rfl
  have first : advance (.hex units 4 0) (some '0') = some ([],.hex units 3 0) := rfl
  have second : advance (.hex units 3 0) (some '0') = some ([],.hex units 2 0) := rfl
  have third : advance (.hex units 2 0) (some (Nat.digitChar (c.toNat / 16))) =
      some ([],.hex units 1 (c.toNat / 16)) := by
    simp [advance,high]
  have fourth : advance (.hex units 1 (c.toNat / 16)) (some (Nat.digitChar (c.toNat % 16))) =
      some ([],.text (.escape c.toNat :: units)) := by
    simp [advance,low,value]
  simp only [List.map_cons,List.map_nil,List.cons_append,List.nil_append]
  rw [tokensFrom_silent backslash,tokensFrom_silent mark,tokensFrom_silent first,tokensFrom_silent second,
    tokensFrom_silent third,tokensFrom_silent fourth]

theorem tokensFrom_escape (c : Char) :
    tokensFrom (.text units) ((escape c).map some ++ rest) = tokensFrom (.text (codeUnit c :: units)) rest := by
  have lettered {letter : Char} (step : advance (.escape units) (some letter) = some ([],.text (codeUnit c :: units))) :
      tokensFrom (.text units) (some '\\' :: some letter :: rest) = tokensFrom (.text (codeUnit c :: units)) rest := by
    have backslash : advance (.text units) (some '\\') = some ([],.escape units) := rfl
    rw [tokensFrom_silent backslash,tokensFrom_silent step]
  by_cases short : c ∈ ['"','\\','\x08','\t','\n','\x0c','\r']
  · simp only [List.mem_cons,List.not_mem_nil,or_false] at short
    rcases short with rfl | rfl | rfl | rfl | rfl | rfl | rfl <;> exact lettered rfl
  simp only [List.mem_cons,List.not_mem_nil,or_false,not_or] at short
  obtain ⟨quote,backslash,backspace,tab,feed,page,back⟩ := short
  by_cases control : c.toNat < 0x20
  · have unit : codeUnit c = .escape c.toNat := by simp [codeUnit,control,backspace,tab,feed,page,back]
    simp only [escape,quote,backslash,backspace,tab,feed,page,back,control,if_false,if_true,unit]
    exact tokensFrom_control control
  · have unit : codeUnit c = .char c := by simp [codeUnit,control]
    have step : advance (.text units) (some c) = some ([],.text (.char c :: units)) := by
      simp [advance,quote,backslash,control]
    simp only [escape,quote,backslash,backspace,tab,feed,page,back,control,if_false,unit,List.map_cons,List.map_nil,
      List.cons_append,List.nil_append]
    exact tokensFrom_silent step

theorem tokensFrom_escapes (cs : List Char) :
    tokensFrom (.text units) ((cs.flatMap escape).map some ++ rest) =
      tokensFrom (.text ((cs.map codeUnit).reverse ++ units)) rest := by
  induction cs generalizing units with
  | nil => rfl
  | cons c more ih =>
    rw [List.flatMap_cons,List.map_append,List.append_assoc,tokensFrom_escape,ih]
    simp

theorem tokensFrom_writeString (s : String) :
    tokensFrom .between ((writeString s).map some ++ rest) =
      (tokensFrom .between rest).map (.string (codeUnits s) :: ·) := by
  have closing : advance (.text ((s.toList.map codeUnit).reverse ++ [])) (some '"') =
      some ([.string (codeUnits s)],.between) := by
    simp [advance,codeUnits]
  have opening : tokensFrom .between ((writeString s).map some ++ rest) =
      tokensFrom (.text []) ((s.toList.flatMap escape).map some ++ some '"' :: rest) := by
    simp only [writeString,List.map_cons,List.map_append,List.map_nil,List.cons_append,List.append_assoc,List.nil_append]
    exact tokensFrom_silent rfl
  rw [opening,tokensFrom_escapes,tokensFrom_step closing]
  rfl

theorem characters?_escape {n : Nat} (outside : n < 0xD800 ∨ 0xDFFF < n) :
    characters? (.escape n :: units) = (characters? units).map (Char.ofNat n :: ·) := by
  rw [characters?.eq_def]
  exact if_pos outside

-- What the scanner saw of a string is the string.
theorem characters?_codeUnits (cs : List Char) : characters? (cs.map codeUnit) = some cs := by
  induction cs with
  | nil => rfl
  | cons c more ih =>
    rw [List.map_cons]
    by_cases numbered : c.toNat < 0x20 ∧ c ∉ ['\x08','\t','\n','\x0c','\r']
    · have outside : c.toNat < 0xD800 ∨ 0xDFFF < c.toNat := .inl (by omega)
      rw [codeUnit,if_pos numbered,characters?_escape outside,ih,Option.map_some,Char.ofNat_toNat]
    · rw [codeUnit,if_neg numbered,characters?,ih,Option.map_some]

end Strings

section Numbers

theorem ofDigits_places (n : Nat) : Spelling.ofDigits (places n).reverse = n := by
  by_cases zero : n = 0
  · subst zero; rfl
  · rw [places,if_neg zero,Spelling.ofDigits,List.foldl_reverse]
    have value := Nat.ofDigits_digits 10 n
    rw [Nat.ofDigits_eq_foldr] at value
    simpa [Nat.add_comm] using value

theorem value?_spelling {n : Int} (low : -(limit63 : Int) ≤ n) (high : n < limit64) :
    (Number.spelling (.integer n)).value? = some (.integer n) := by
  simp only [Spelling.value?,Number.spelling,integerSpelling,ofDigits_places]
  by_cases below : n < 0
  · have fits : 0 < n.natAbs ∧ n.natAbs ≤ limit63 := by omega
    have value : -((n.natAbs : Nat) : Int) = n := by omega
    simp only [below,fits,value,decide_true,Option.isNone_none,Bool.and_self,Bool.not_true,Bool.and_false,Bool.false_and,
      Bool.false_eq_true,if_false,if_true]
  · have fits : n.natAbs < limit64 := by omega
    have value : ((n.natAbs : Nat) : Int) = n := by omega
    simp [below,fits,value]

end Numbers

-- A text in which the scanner finds these tokens, whatever follows that ends a value.
def Scans (text : List Char) (ts : List Token) : Prop :=
  ∀ rest : List (Option Char), Delimited rest →
    tokensFrom .between (text.map some ++ rest) = (tokensFrom .between rest).map (ts ++ ·)

-- What stands before the end of a container: nothing, or a new line.
def Gap (text : List Char) : Prop := text = [] ∨ ∃ level, text = newline level

section Layout

variable {text gap : List Char} {ts : List Token} {rest : List (Option Char)}

theorem tokensFrom_newline (level : Nat) :
    tokensFrom .between ((newline level).map some ++ rest) = tokensFrom .between rest := by
  have blanks (count : Nat) :
      tokensFrom .between ((List.replicate count ' ').map some ++ rest) = tokensFrom .between rest := by
    induction count with
    | zero => rfl
    | succ count ih => exact (tokensFrom_silent rfl).trans ih
  exact (tokensFrom_silent rfl).trans (blanks _)

theorem Gap.delimited {c : Char} (white : Gap gap) (delimiter : c ∈ [',',']','\x7d','\n']) :
    Delimited (gap.map some ++ some c :: rest) := by
  rcases white with rfl | ⟨level,rfl⟩
  · exact delimited_cons delimiter
  · exact delimited_cons (by decide)

theorem tokensFrom_gap (white : Gap gap) : tokensFrom .between (gap.map some ++ rest) = tokensFrom .between rest := by
  rcases white with rfl | ⟨level,rfl⟩
  · rfl
  · exact tokensFrom_newline level

theorem scans_nil : Scans [] [] := by
  intro rest _
  simp

theorem Scans.word {letter first : Char} {letters : List Char} {token : Token}
    (starts : startToken letter = some ([],.word (first :: letters) token)) :
    Scans (letter :: first :: letters) [token] := fun rest _ => by
  have started : advance .between (some letter) = some ([],.word (first :: letters) token) := starts
  exact (tokensFrom_silent started).trans tokensFrom_word

theorem Scans.blank (scans : Scans text ts) : Scans (' ' :: text) ts :=
  fun rest delimited => (tokensFrom_silent rfl).trans (scans rest delimited)

theorem Scans.line (scans : Scans text ts) (level : Nat) : Scans (newline level ++ text) ts := by
  intro rest delimited
  rw [List.map_append,List.append_assoc,tokensFrom_newline,scans _ delimited]

theorem Scans.named (scans : Scans text ts) (name : String) :
    Scans (writeString name ++ ':' :: text) (.string (codeUnits name) :: .colon :: ts) := by
  intro rest delimited
  have colon : advance .between (some ':') = some ([.colon],.between) := rfl
  rw [List.map_append,List.append_assoc,tokensFrom_writeString,List.map_cons,List.cons_append,tokensFrom_step colon,
    scans _ delimited,Option.map_map,Option.map_map]
  rfl

theorem Scans.enclosed {left right : Char} {opening closing : Token} (scans : Scans text ts) (white : Gap gap)
    (opens : startToken left = some ([opening],.between)) (closes : startToken right = some ([closing],.between))
    (delimiter : right ∈ [',',']','\x7d','\n']) :
    Scans (left :: text ++ gap ++ [right]) (opening :: ts ++ [closing]) := by
  intro rest _
  have first : advance .between (some left) = some ([opening],.between) := opens
  have last : advance .between (some right) = some ([closing],.between) := closes
  simp only [List.map_append,List.map_cons,List.map_nil,List.append_assoc,List.cons_append,List.nil_append]
  rw [tokensFrom_step first,scans _ (white.delimited delimiter),tokensFrom_gap white,tokensFrom_step last]
  simp [Function.comp_def]

theorem scans_intercalate {parts : List α} {write : α → List Char} {tokens : α → List Token}
    (each : ∀ part ∈ parts, Scans (write part) (tokens part)) :
    Scans ([','].intercalate (parts.map write)) ([.comma].intercalate (parts.map tokens)) := by
  induction parts with
  | nil => exact scans_nil
  | cons part others ih =>
    obtain ⟨this,later⟩ := List.forall_mem_cons.mp each
    cases others with
    | nil => simpa using this
    | cons next others =>
      intro rest delimited
      have comma : advance .between (some ',') = some ([.comma],.between) := rfl
      have pieces := ih later rest delimited
      simp only [List.map_cons] at pieces
      simp only [List.map_cons,List.intercalate_cons_cons,List.map_append,List.append_assoc,List.cons_append,List.nil_append]
      rw [this _ (delimited_cons (by decide)),tokensFrom_step comma,pieces,Option.map_map,Option.map_map]
      simp [Function.comp_def]

theorem eq_intercalate {joined : List α → List β} {piece : α → List β} {mark : β} (none : joined [] = [])
    (one : ∀ x, joined [x] = piece x)
    (more : ∀ x y others, joined (x :: y :: others) = piece x ++ mark :: joined (y :: others)) (parts : List α) :
    joined parts = [mark].intercalate (parts.map piece) := by
  induction parts with
  | nil => simpa using none
  | cons x others ih => cases others with
    | nil => simpa using one x
    | cons y others => simp [more,ih]

end Layout

theorem itemTokens_eq (items : List Json) : itemTokens items = [.comma].intercalate (items.map tokens) :=
  eq_intercalate rfl (fun _ => rfl) (fun _ _ _ => rfl) items

theorem memberTokens_eq (members : List (String × Json)) :
    memberTokens members =
      [.comma].intercalate (members.map fun m => .string (codeUnits m.1) :: .colon :: m.2.tokens) :=
  eq_intercalate rfl (fun _ => rfl) (fun _ _ _ => rfl) members

theorem scans_number (n : Number) : Scans n.write [.number n.spelling] := by
  intro rest delimited
  rw [← write_spelling]
  exact Spelling.tokensFrom_write (proper_spelling n) delimited

theorem scans_write (v : Json) : Scans v.write v.tokens := by
  induction v with
  | null => exact .word rfl
  | bool b => cases b <;> exact .word rfl
  | number n => exact scans_number n
  | string s => exact fun _ _ => tokensFrom_writeString s
  | array items each =>
    have row : writeItems items = [','].intercalate (items.map write) :=
      eq_intercalate rfl (fun _ => rfl) (fun _ _ _ => rfl) items
    have inside := scans_intercalate each
    rw [← row,← itemTokens_eq] at inside
    simpa [write,tokens] using inside.enclosed (.inl rfl) rfl rfl (by decide)
  | object members each =>
    have row : writeMembers members = [','].intercalate (members.map fun m => writeString m.1 ++ ':' :: m.2.write) :=
      eq_intercalate rfl (fun _ => rfl) (fun _ _ _ => by simp [writeMembers]) members
    have inside := scans_intercalate fun m member => (each m member).named m.1
    rw [← row,← memberTokens_eq] at inside
    simpa [write,tokens] using inside.enclosed (.inl rfl) rfl rfl (by decide)

theorem scans_writeLines (v : Json) (level : Nat) : Scans (v.writeLines level) v.tokens := by
  induction v generalizing level with
  | null => exact .word rfl
  | bool b => cases b <;> exact .word rfl
  | number n => exact scans_number n
  | string s => exact fun _ _ => tokensFrom_writeString s
  | array items each =>
    cases items with
    | nil => exact scans_nil.enclosed (.inl rfl) rfl rfl (by decide)
    | cons first items =>
      have row : writeItemLines (level + 1) (first :: items) =
          [','].intercalate ((first :: items).map fun item => newline (level + 1) ++ item.writeLines (level + 1)) :=
        eq_intercalate rfl (fun _ => rfl) (fun _ _ _ => rfl) _
      have inside := scans_intercalate fun item member => (each item member (level + 1)).line (level + 1)
      rw [← row,← itemTokens_eq] at inside
      exact inside.enclosed (.inr ⟨level,rfl⟩) rfl rfl (by decide)
  | object members each =>
    cases members with
    | nil => exact scans_nil.enclosed (.inl rfl) rfl rfl (by decide)
    | cons first members =>
      have row : writeMemberLines (level + 1) (first :: members) = [','].intercalate ((first :: members).map fun m =>
          newline (level + 1) ++ (writeString m.1 ++ ':' :: ' ' :: m.2.writeLines (level + 1))) :=
        eq_intercalate rfl (fun _ => by simp [writeMemberLines]) (fun _ _ _ => by simp [writeMemberLines]) _
      have inside := scans_intercalate fun m member =>
        ((each m member (level + 1)).blank.named m.1).line (level + 1)
      rw [← row,← memberTokens_eq] at inside
      exact inside.enclosed (.inr ⟨level,rfl⟩) rfl rfl (by decide)

theorem Scans.tokens? {text : List Char} {ts : List Token} (scans : Scans text ts) :
    tokens? (text.map some) = some ts := by
  have found := scans [] delimited_nil
  rw [List.append_nil] at found
  rw [Json.tokens?,found]
  simp [tokensFrom,finish]

end Entitlement.Json
