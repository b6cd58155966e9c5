import Entitlement.Text.Split
import Entitlement.Xml.Fault

-- The tokens of an XML text: tags and runs of text. Comments, declarations and instructions are left out.
-- A machine takes one character at a time; what it has seen of an unfinished token, in reverse order, is its
-- stage. A token that cannot be finished comes out as `broken`, with the reason, so that what stands in front of it
-- can still be read.
namespace Entitlement.Xml

inductive Token where
  | opening (tag : List Char)
  | closing (name : List Char)
  | text (raw : List Char)
  | verbatim (text : List Char)
  | broken (fault : Fault)
deriving DecidableEq

inductive Stage where
  | text (seen : List Char)
  | bracket
  | opening (quote : Option Char) (seen : List Char)
  | closing (seen : List Char)
  | mark
  | comment (seen : List Char)
  | verbatim (seen : List Char)
  | doctype (depth : Nat) (seen : List Char)
  | instruction (seen : List Char)
  | broken

def isBlank (c : Char) : Bool := c = ' ' || c = '\t' || c = '\n' || c = '\r'

def dropBlanks (cs : List Char) : List Char := cs.dropWhile isBlank

def textToken (seen : List Char) : List Token := if seen.isEmpty then [] else [.text seen.reverse]

def broken (fault : Fault) : List Token × Stage := ([.broken fault], .broken)

def verbatimToken (seen : List Char) : List Token × Stage :=
  let content := seen.reverse
  if (content.take 7).map Char.toUpper = "[CDATA[".toList
    then ([.verbatim ((content.drop 7).dropLast.dropLast)], .text [])
    else broken .openVerbatim

-- The declaration that ends here must have the right keyword and a name.
def doctypeEnd (seen : List Char) : List Token × Stage :=
  let content := seen.reverse
  if (content.take 7).map Char.toUpper = "DOCTYPE".toList then
    if (dropBlanks (content.drop 7)).isEmpty then broken .noDoctypeName else ([], .text [])
  else broken .openDoctype

def openingWith (c : Char) : List Token × Stage :=
  if c = '>' then ([.opening []], .text [])
  else if c = '"' || c.toNat = 39 then ([], .opening (some c) [c])
  else ([], .opening none [c])

def advance : Stage → Char → List Token × Stage
  | .text seen, c => if c = '<' then (textToken seen, .bracket) else ([], .text (c :: seen))
  | .bracket, c =>
    if c = '!' then ([], .mark)
    else if c = '?' then ([], .instruction [])
    else if c = '/' then ([], .closing [])
    else openingWith c
  | .opening none seen, c =>
    if c = '>' then ([.opening seen.reverse], .text [])
    else if c = '"' || c.toNat = 39 then ([], .opening (some c) (c :: seen))
    else ([], .opening none (c :: seen))
  | .opening (some quote) seen, c => ([], .opening (if c = quote then none else some quote) (c :: seen))
  | .closing seen, c =>
    if c = '>' then ([.closing (dropBlanks seen).reverse], .text []) else ([], .closing (c :: seen))
  | .mark, c =>
    if c = '-' then ([], .comment [c])
    else if c = '[' then ([], .verbatim [c])
    else if c = 'D' || c = 'd' then ([], .doctype 0 [c])
    else broken .markup
  | .comment seen, c =>
    if seen.length = 1 && c ≠ '-' then broken .openComment
    else if c = '>' && seen.length ≥ 4 && seen.take 2 = ['-', '-'] then ([], .text [])
    else ([], .comment (c :: seen))
  | .verbatim seen, c =>
    if c = '>' && seen.take 2 = [']', ']'] then verbatimToken seen else ([], .verbatim (c :: seen))
  | .doctype depth seen, c =>
    if c = '<' then ([], .doctype (depth + 1) (c :: seen))
    else if c = '>' then
      if depth = 0 then doctypeEnd seen else ([], .doctype (depth - 1) (c :: seen))
    else ([], .doctype depth (c :: seen))
  | .instruction seen, c =>
    if c = '>' && seen.isEmpty then broken .openInstruction
    else if c = '>' && seen.head? = some '?' then ([], .text [])
    else ([], .instruction (c :: seen))
  | .broken, _ => ([], .broken)

def finish : Stage → List Token
  | .text seen => textToken seen
  | .broken => []
  | .bracket | .opening _ _ | .closing _ => [.broken .openTag]
  | .mark => [.broken .markup]
  | .comment _ => [.broken .openComment]
  | .verbatim _ => [.broken .openVerbatim]
  | .doctype _ _ => [.broken .openDoctype]
  | .instruction _ => [.broken .openInstruction]

def tokensFrom : Stage → List Char → List Token
  | stage, [] => finish stage
  | stage, c :: rest =>
    let (finished, next) := advance stage c
    finished ++ tokensFrom next rest

-- The tokens of a text. A byte order mark at its start says nothing.
def tokens (text : List Char) : List Token :=
  match text with
  | '\uFEFF' :: rest => tokensFrom (.text []) rest
  | _ => tokensFrom (.text []) text

end Entitlement.Xml
