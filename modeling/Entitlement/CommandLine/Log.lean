import Entitlement.CommandLine.Lines
import Entitlement.Level

-- Which events people see, and as what lines.
namespace Entitlement.CommandLine

inductive Threshold where
  | off
  | error
  | warn
  | info
  | debug
  | trace
deriving DecidableEq

namespace Threshold

def word : Threshold → String
  | off => "off"
  | error => "error"
  | warn => "warn"
  | info => "info"
  | debug => "debug"
  | trace => "trace"

def all : List Threshold := [off, error, warn, info, debug, trace]

-- The threshold that a word or a digit names. The empty word shows errors only.
def ofWord? (text : String) : Option Threshold :=
  let name := String.ofList (text.toList.map Char.toLower)
  if text.isEmpty then some error
  else (all.find? fun t => t.word = name) <|> (all.zipIdx.find? fun t => toString t.2 = text).map (·.1)

def ofOptions (wantsDebug quiet : Bool) : Threshold :=
  if wantsDebug then debug else if quiet then warn else info

def environmentName : String := "ENTITLE_LOG"

-- The threshold of a run: the environment comes before the options.
def choose (named : Option String) (wantsDebug quiet : Bool) : Threshold :=
  (named.bind ofWord?).getD (ofOptions wantsDebug quiet)

def admits (t : Threshold) : Level → Bool
  | .warn => t = warn || t = info || t = debug || t = trace
  | .info => t = info || t = debug || t = trace
  | .debug => t = debug || t = trace

end Threshold

def levelName : Level → String
  | .debug => "DEBUG"
  | .info => "INFO"
  | .warn => "WARN"

def eventLine (level : Level) (event : String) : String :=
  let name := levelName level
  String.ofList (List.replicate (5 - name.length) ' ') ++ name ++ " " ++ event

-- Sets every line of a text behind a margin; the first line may have one of its own.
def indented (first margin text : String) : String :=
  first ++ ("\n" ++ margin).intercalate (text.splitOn "\n")

def causeNumber (n : Nat) : String :=
  let digits := toString n
  String.ofList (List.replicate (5 - digits.length) ' ') ++ digits ++ ": "

def Failure.report (failure : Failure) : String :=
  match failure.chain with
  | [] => ""
  | [text] => text
  | [text, cause] => text ++ "\n\nCaused by:\n" ++ indented "    " "    " cause
  | text :: causes =>
    text ++ "\n\nCaused by:\n"
      ++ "\n".intercalate (causes.zipIdx.map fun (cause, n) => indented (causeNumber n) "       " cause)

end Entitlement.CommandLine
