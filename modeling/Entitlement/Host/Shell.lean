import Entitlement.Host.Inquiry
import Entitlement.Text.Numeral
import Entitlement.Text.Split

-- The plainest part of the standard shell: rows of commands that print, fail, exit or are killed.
-- Quotation marks group words, a dollar sign names a parameter, and `>&2` sends what is printed to the errors.
namespace Entitlement.Host.Shell

inductive Quote where
  | none
  | single
  | double
deriving DecidableEq

inductive Token where
  | word (text : List Char)
  | next
  | ifSuccess
  | ifFailure
deriving DecidableEq

def isNameChar (c : Char) : Bool := c.isAlphanum || c = '_'

def apostrophe : Char := Char.ofNat 39

def close (word : Option (List Char)) (rest : List Token) : List Token :=
  match word with
  | some cs => .word cs.reverse :: rest
  | none => rest

def push (c : Char) (word : Option (List Char)) : Option (List Char) := some (c :: word.getD [])

def tokens (value : List Char → List Char) (quote : Quote) (word : Option (List Char)) : List Char → List Token
  | [] => close word []
  | c :: rest =>
    if quote = .single then
      if c = apostrophe then tokens value .none word rest else tokens value .single (push c word) rest
    else if c = '"' then tokens value (if quote = .none then .double else .none) (some (word.getD [])) rest
    else if c = '$' then
      let open_ := rest.takeWhile (· = '\x7b')
      let name := (rest.drop open_.length).takeWhile isNameChar
      tokens value quote (some ((value name).reverse ++ word.getD []))
        (rest.drop (2 * open_.length + name.length))
    else if quote = .double then tokens value .double (push c word) rest
    else if c = apostrophe then tokens value .single (some (word.getD [])) rest
    else if c = ';' || c = '\n' then close word (.next :: tokens value .none none rest)
    else if c = ' ' || c = '\t' then close word (tokens value .none none rest)
    else if c = '\\' then tokens value .none (push (rest.headD c) word) rest.tail
    else if c = '&' && rest.head? = some '&' then
      close word (.ifSuccess :: tokens value .none none rest.tail)
    else if c = '|' && rest.head? = some '|' then
      close word (.ifFailure :: tokens value .none none rest.tail)
    else tokens value .none (push c word) rest
termination_by cs => cs.length
decreasing_by all_goals (simp only [List.length_cons, List.length_drop, List.length_tail]; omega)

def formatted : List Char → List String → Bytes
  | [], _ => []
  | '%' :: '%' :: rest, words => 37 :: formatted rest words
  | '%' :: c :: rest, words =>
    if c = 's' || c = 'd' then Text.encode (words.headD "") ++ formatted rest words.tail
    else 37 :: formatted (c :: rest) words
  | '\\' :: 'n' :: rest, words => 10 :: formatted rest words
  | '\\' :: 't' :: rest, words => 9 :: formatted rest words
  | '\\' :: '\\' :: rest, words => 92 :: formatted rest words
  | '\\' :: a :: b :: c :: rest, words =>
    match Text.hexValue? a, Text.hexValue? b, Text.hexValue? c with
    | some x, some y, some z => UInt8.ofNat (64 * x + 8 * y + z) :: formatted rest words
    | _, _, _ => 92 :: formatted (a :: b :: c :: rest) words
  | c :: rest, words => Text.encode (String.ofList [c]) ++ formatted rest words

structure Progress where
  status : Nat
  killed : Bool
  finished : Bool
  output : Bytes
  errors : Bytes

def Progress.print (p : Progress) (toErrors : Bool) (bytes : Bytes) : Progress :=
  if toErrors then { p with status := 0, errors := p.errors ++ bytes }
  else { p with status := 0, output := p.output ++ bytes }

def command (program : String) (words : List String) (p : Progress) : Progress :=
  let toErrors := words.contains ">&2" || words.contains "1>&2"
  match words.filter fun w => w != ">&2" && w != "1>&2" with
  | [] => p
  | ["exit"] => { p with finished := true }
  | "exit" :: code :: _ => { p with status := (code.toNat?.getD 2) % 256, finished := true }
  | "true" :: _ | ":" :: _ | "cat" :: _ => { p with status := 0 }
  | "false" :: _ => { p with status := 1 }
  | "kill" :: _ => { p with killed := true, finished := true }
  | "echo" :: "-n" :: rest => p.print toErrors (Text.encode (" ".intercalate rest))
  | "echo" :: rest => p.print toErrors (Text.encode (" ".intercalate rest ++ "\n"))
  | "printf" :: format :: rest => p.print toErrors (formatted format.toList rest)
  | name :: _ =>
    { p.print true (Text.encode (program ++ ": 1: " ++ name ++ ": not found\n")) with status := 127 }

-- Carries out commands up to the end, or to one that ends the run; `active` is whether the next one is
-- carried out, and `words` are its words, the last one first.
def carryOut (program : String) (active : Bool) (words : List String) (p : Progress) : List Token → Progress
  | [] => finish p
  | .word cs :: rest => carryOut program active (String.ofList cs :: words) p rest
  | .next :: rest => carryOut program true [] (finish p) rest
  | .ifSuccess :: rest => carryOut program ((finish p).status = 0) [] (finish p) rest
  | .ifFailure :: rest => carryOut program ((finish p).status ≠ 0) [] (finish p) rest
where
  finish (p : Progress) : Progress := if active && !p.finished then command program words.reverse p else p

-- The value of a parameter: by its number, or by its name in the environment, which sets a plain locale.
def parameter (program : String) (arguments : List String) (name : List Char) : List Char :=
  match Text.natural? limit32 name with
  | some number => ((if arguments.isEmpty then [program] else arguments)[number]?.getD "").toList
  | none => if name = "LC_ALL".toList then ['C'] else []

def program : String := "/bin/sh"

-- Runs a command that is a script of the shell; no other command can be started.
def run (c : Command) : Except Obstacle CommandOutput :=
  match c.arguments with
  | "-c" :: script :: arguments =>
    if c.program = program then
      let row := tokens (parameter program arguments) .none none script.toList
      let p := carryOut (arguments.headD program) true [] ⟨0, false, false, [], []⟩ row
      .ok ⟨(if p.killed then Ending.killed else .exited p.status).exitCode, p.output, p.errors⟩
    else .error .notFound
  | _ => if c.program = program then .ok ⟨0, [], []⟩ else .error .notFound

end Entitlement.Host.Shell
