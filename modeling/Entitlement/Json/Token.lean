import Entitlement.Json.Number

-- The tokens of a JSON text.
-- The text is a list of characters, with `none` where its bytes are no UTF-8. A machine takes one character
-- at a time; what it has seen of an unfinished token is its stage. Strings are lists of code units,
-- since an escape may name half of a surrogate pair; `characters?` tells whether the units are a text.
namespace Entitlement.Json

-- What stands in a string: a character, the number of an escape, or bytes that are no character.
inductive CodeUnit where
  | char (c : Char)
  | escape (n : Nat)
  | damaged

-- The characters of a string. An escaped leading surrogate must be followed by an escaped trailing one,
-- and nothing may be damaged.
def characters? : List CodeUnit → Option (List Char)
  | [] => some []
  | .char c :: rest => (characters? rest).map (c :: ·)
  | .damaged :: _ => none
  | .escape n :: rest =>
    if n < 0xD800 ∨ 0xDFFF < n then (characters? rest).map (Char.ofNat n :: ·)
    else match rest with
      | .escape m :: rest =>
        if n < 0xDC00 ∧ 0xDC00 ≤ m ∧ m ≤ 0xDFFF then
          (characters? rest).map (Char.ofNat (0x10000 + (n - 0xD800) * 0x400 + (m - 0xDC00)) :: ·)
        else none
      | _ => none

inductive Token where
  | beginArray
  | endArray
  | beginObject
  | endObject
  | comma
  | colon
  | null
  | bool (b : Bool)
  | number (s : Spelling)
  | string (units : List CodeUnit)

inductive NumberPart where
  | sign
  | zero
  | whole
  | point
  | fraction
  | exponentMark
  | exponentSign
  | exponent

-- Digits, code units and letters collected in a stage stand in reverse order.
inductive Stage where
  | between
  | word (letters : List Char) (token : Token)
  | text (units : List CodeUnit)
  | escape (units : List CodeUnit)
  | hex (units : List CodeUnit) (missing value : Nat)
  | number (part : NumberPart) (spelling : Spelling)

-- What a character does between tokens: the token that it is, or the stage that it opens.
def startToken (c : Char) : Option (List Token × Stage) :=
  match c with
  | ' ' | '\t' | '\n' | '\r' => some ([], .between)
  | '[' => some ([.beginArray], .between)
  | ']' => some ([.endArray], .between)
  | '\x7b' => some ([.beginObject], .between)
  | '\x7d' => some ([.endObject], .between)
  | ',' => some ([.comma], .between)
  | ':' => some ([.colon], .between)
  | '"' => some ([], .text [])
  | 'n' => some ([], .word ['u', 'l', 'l'] .null)
  | 't' => some ([], .word ['r', 'u', 'e'] (.bool true))
  | 'f' => some ([], .word ['a', 'l', 's', 'e'] (.bool false))
  | '-' => some ([], .number .sign ⟨true, [], none, none⟩)
  | '0' => some ([], .number .zero ⟨false, [0], none, none⟩)
  | _ => match Text.digitValue? c with
    | some d => some ([], .number .whole ⟨false, [d], none, none⟩)
    | none => none

def Spelling.finished (s : Spelling) : Spelling :=
  ⟨s.negative, s.whole.reverse, s.fraction.map List.reverse, s.exponent.map fun e => (e.1, e.2.reverse)⟩

def NumberPart.complete : NumberPart → Bool
  | .zero | .whole | .fraction | .exponent => true
  | .sign | .point | .exponentMark | .exponentSign => false

-- The next part of a number that goes on with the character; `none` if the number ends before it.
def continueNumber (part : NumberPart) (s : Spelling) (c : Char) : Option (NumberPart × Spelling) :=
  match part, Text.digitValue? c with
  | .sign, some d => some (if d = 0 then .zero else .whole, { s with whole := [d] })
  | .whole, some d => some (.whole, { s with whole := d :: s.whole })
  | .point, some d => some (.fraction, { s with fraction := some [d] })
  | .fraction, some d => some (.fraction, { s with fraction := s.fraction.map (d :: ·) })
  | .exponentMark, some d => some (.exponent, { s with exponent := some (false, [d]) })
  | .exponentSign, some d | .exponent, some d =>
    some (.exponent, { s with exponent := s.exponent.map fun e => (e.1, d :: e.2) })
  | .zero, none | .whole, none =>
    if c = '.' then some (.point, s)
    else if c = 'e' ∨ c = 'E' then some (.exponentMark, s) else none
  | .fraction, none => if c = 'e' ∨ c = 'E' then some (.exponentMark, s) else none
  | .exponentMark, none =>
    if c = '+' then some (.exponentSign, { s with exponent := some (false, []) })
    else if c = '-' then some (.exponentSign, { s with exponent := some (true, []) }) else none
  | _, _ => none

def escaped? (c : Char) : Option Char :=
  match c with
  | '"' => some '"'
  | '\\' => some '\\'
  | '/' => some '/'
  | 'b' => some '\x08'
  | 'f' => some '\x0c'
  | 'n' => some '\n'
  | 'r' => some '\r'
  | 't' => some '\t'
  | _ => none

def advance : Stage → Option Char → Option (List Token × Stage)
  | .between, some c => startToken c
  | .word [] _, _ => none
  | .word (l :: letters) token, some c =>
    if c = l then
      match letters with
      | [] => some ([token], .between)
      | _ => some ([], .word letters token)
    else none
  | .text units, none => some ([], .text (.damaged :: units))
  | .text units, some c =>
    if c = '"' then some ([.string units.reverse], .between)
    else if c = '\\' then some ([], .escape units)
    else if c.toNat < 0x20 then none
    else some ([], .text (.char c :: units))
  | .escape units, some c =>
    if c = 'u' then some ([], .hex units 4 0)
    else (escaped? c).map fun e => ([], .text (.char e :: units))
  | .hex units missing value, some c => match Text.hexValue? c with
    | some d =>
      let value := 16 * value + d
      some ([], if missing ≤ 1 then .text (.escape value :: units) else .hex units (missing - 1) value)
    | none => none
  | .number part s, some c => match continueNumber part s c with
    | some (part, s) => some ([], .number part s)
    | none =>
      -- A digit after a leading zero is no new token, and neither is anything after an unfinished part.
      if part.complete ∧ Text.digitValue? c = none then
        (startToken c).map fun next => (.number s.finished :: next.1, next.2)
      else none
  | _, none => none

def finish : Stage → Option (List Token)
  | .between => some []
  | .number part s => if part.complete then some [.number s.finished] else none
  | _ => none

def tokensFrom : Stage → List (Option Char) → Option (List Token)
  | stage, [] => finish stage
  | stage, c :: rest => do
    let (tokens, next) ← advance stage c
    let more ← tokensFrom next rest
    some (tokens ++ more)

def tokens? (text : List (Option Char)) : Option (List Token) := tokensFrom .between text

end Entitlement.Json
