import Entitlement.Text.Numeral

-- Quoted texts of TOML.
-- There are four forms: with double quotes, where a backslash escapes, and with single quotes, where
-- nothing does; each on one line or over several. The readers start behind the opening quotes and return the text
-- and what follows the closing quotes.
namespace Entitlement.Toml

abbrev Found := List Char × List Char

def Found.cons (c : Char) (found : Found) : Found := (c :: found.1, found.2)

-- Whether a character may stand in a quoted text as it is. Line feeds are another matter.
def isPlain (c : Char) : Bool := c == '\t' || (0x20 ≤ c.toNat && c.toNat != 0x7F)

def scalarChar? (n : Nat) : Option Char :=
  if n < 0xD800 ∨ (0xDFFF < n ∧ n < 0x110000) then some (Char.ofNat n) else none

def hexDigits? : Nat → List Char → Option Nat
  | value, [] => some value
  | value, c :: rest => (Text.hexValue? c).bind fun d => hexDigits? (16 * value + d) rest

def shortEscape? (c : Char) : Option Char :=
  match c with
  | 'b' => some '\x08'
  | 't' => some '\t'
  | 'n' => some '\n'
  | 'f' => some '\x0c'
  | 'r' => some '\r'
  | 'e' => some '\x1b'
  | '"' => some '"'
  | '\\' => some '\\'
  | _ => none

def longEscape? (c : Char) : Option Nat :=
  match c with
  | 'x' => some 2
  | 'u' => some 4
  | 'U' => some 8
  | _ => none

-- Where a reader of texts in double quotes is: in the text, behind a backslash, within a long escape, or among the
-- blanks that a backslash at the end of a line removes.
inductive Spot where
  | text
  | escape
  | digits (missing value : Nat)
  | lineEnd (broken : Bool)

def readBasic : Spot → List Char → Option Found
  | _, [] => none
  | .text, c :: rest =>
    if c = '"' then some ([], rest)
    else if c = '\\' then readBasic .escape rest
    else if isPlain c then (readBasic .text rest).map (.cons c)
    else none
  | .escape, c :: rest => match shortEscape? c with
    | some e => (readBasic .text rest).map (.cons e)
    | none => match longEscape? c with
      | some width => readBasic (.digits width 0) rest
      | none => none
  | .digits missing value, c :: rest => match Text.hexValue? c with
    | some d =>
      let value := 16 * value + d
      if missing ≤ 1 then match scalarChar? value with
        | some e => (readBasic .text rest).map (.cons e)
        | none => none
      else readBasic (.digits (missing - 1) value) rest
    | none => none
  | .lineEnd _, _ => none

-- The end of a text over several lines: up to two quotes may stand before the three that close it.
def closing? (quote : Char) : List Char → Option Found
  | a :: b :: c :: rest =>
    if a = quote ∧ b = quote ∧ c = quote then
      match rest with
      | d :: e :: more =>
        if d = quote ∧ e = quote then some ([quote, quote], more)
        else if d = quote then some ([quote], e :: more)
        else some ([], rest)
      | [d] => if d = quote then some ([quote], []) else some ([], rest)
      | [] => some ([], [])
    else none
  | _ => none

def readBasicLines : Spot → List Char → Option Found
  | _, [] => none
  | .text, c :: rest => match closing? '"' (c :: rest) with
    | some found => some found
    | none =>
      if c = '\\' then readBasicLines .escape rest
      else if c = '\n' then (readBasicLines .text rest).map (.cons c)
      else if c = '\r' ∧ rest.head? = some '\n' then readBasicLines .text rest
      else if isPlain c then (readBasicLines .text rest).map (.cons c)
      else none
  | .escape, c :: rest =>
    if c = ' ' ∨ c = '\t' ∨ (c = '\r' ∧ rest.head? = some '\n') then readBasicLines (.lineEnd false) rest
    else if c = '\n' then readBasicLines (.lineEnd true) rest
    else match shortEscape? c with
      | some e => (readBasicLines .text rest).map (.cons e)
      | none => match longEscape? c with
        | some width => readBasicLines (.digits width 0) rest
        | none => none
  | .digits missing value, c :: rest => match Text.hexValue? c with
    | some d =>
      let value := 16 * value + d
      if missing ≤ 1 then match scalarChar? value with
        | some e => (readBasicLines .text rest).map (.cons e)
        | none => none
      else readBasicLines (.digits (missing - 1) value) rest
    | none => none
  | .lineEnd broken, c :: rest =>
    if c = ' ' ∨ c = '\t' ∨ (c = '\r' ∧ rest.head? = some '\n') then readBasicLines (.lineEnd broken) rest
    else if c = '\n' then readBasicLines (.lineEnd true) rest
    else if !broken then none
    else match closing? '"' (c :: rest) with
      | some found => some found
      | none =>
        if c = '\\' then readBasicLines .escape rest
        else if isPlain c then (readBasicLines .text rest).map (.cons c)
        else none

def readLiteral : List Char → Option Found
  | [] => none
  | c :: rest =>
    if c = '\'' then some ([], rest)
    else if isPlain c then (readLiteral rest).map (.cons c)
    else none

def readLiteralLines : List Char → Option Found
  | [] => none
  | c :: rest => match closing? '\'' (c :: rest) with
    | some found => some found
    | none =>
      if c = '\n' then (readLiteralLines rest).map (.cons c)
      else if c = '\r' ∧ rest.head? = some '\n' then readLiteralLines rest
      else if isPlain c then (readLiteralLines rest).map (.cons c)
      else none

def dropFirstLineFeed : List Char → List Char
  | '\n' :: rest => rest
  | '\r' :: '\n' :: rest => rest
  | cs => cs

def readQuoted : List Char → Option Found
  | '"' :: '"' :: '"' :: rest => readBasicLines .text (dropFirstLineFeed rest)
  | '"' :: rest => readBasic .text rest
  | '\'' :: '\'' :: '\'' :: rest => readLiteralLines (dropFirstLineFeed rest)
  | '\'' :: rest => readLiteral rest
  | _ => none

def readQuotedLine : List Char → Option Found
  | '"' :: rest => readBasic .text rest
  | '\'' :: rest => readLiteral rest
  | _ => none

def longestRun (c : Char) : Nat → Nat → List Char → Nat
  | longest, _, [] => longest
  | longest, run, d :: rest =>
    if d = c then longestRun c (max longest (run + 1)) (run + 1) rest else longestRun c longest 0 rest

-- Whether a text holds a character that only an escape can give: a control character that is neither a tab nor a
-- line feed.
def needsEscape (cs : List Char) : Bool := cs.any fun c => !isPlain c && c != '\n'

def escapeBasic (severalLines : Bool) (c : Char) : List Char :=
  if c = '\x08' then ['\\', 'b']
  else if c = '\t' then ['\\', 't']
  else if c = '\n' then (if severalLines then ['\n'] else ['\\', 'n'])
  else if c = '\x0c' then ['\\', 'f']
  else if c = '\r' then ['\\', 'r']
  else if c = '\\' then ['\\', '\\']
  else if isPlain c then [c]
  else '\\' :: 'u' :: '0' :: '0' ::
    [Nat.digitChar (c.toNat / 16), Nat.digitChar (c.toNat % 16)].map Char.toUpper

-- The inside of a text in double quotes: `allowed` quotes in a row may stand unescaped.
def writeBasic (severalLines : Bool) (allowed : Nat) : Nat → List Char → List Char
  | _, [] => []
  | run, c :: rest =>
    if c = '"' then
      if run < allowed then c :: writeBasic severalLines allowed (run + 1) rest
      else '\\' :: '"' :: writeBasic severalLines allowed 0 rest
    else escapeBasic severalLines c ++ writeBasic severalLines allowed 0 rest

-- Writes a text in the first of these forms that needs no escape: double quotes, single quotes, both over several
-- lines; in double quotes with escapes if there is none.
def writeQuoted (s : String) : List Char :=
  let cs := s.toList
  let lineFeed := cs.contains '\n'
  let backslash := cs.contains '\\'
  let quotes := longestRun '"' 0 0 cs
  let apostrophes := longestRun '\'' 0 0 cs
  let control := needsEscape cs
  let start := if lineFeed then ['\n'] else []
  let basic := '"' :: writeBasic false 0 0 cs ++ ['"']
  let basicLines := ['"', '"', '"'] ++ start ++ writeBasic true 2 0 cs ++ ['"', '"', '"']
  if !control && !backslash && quotes = 0 && !lineFeed then basic
  else if !control && apostrophes = 0 && !lineFeed then '\'' :: cs ++ ['\'']
  else if !control && !backslash && quotes ≤ 2 then basicLines
  else if !control && apostrophes ≤ 2 then ['\'', '\'', '\''] ++ start ++ cs ++ ['\'', '\'', '\'']
  else if lineFeed then basicLines
  else basic

end Entitlement.Toml
