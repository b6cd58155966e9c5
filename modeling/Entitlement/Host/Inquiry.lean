import Entitlement.Error
import Entitlement.Host.FileSystem
import Entitlement.Http.Message
import Entitlement.Level
import Entitlement.Program
import Entitlement.System.Info

-- What the program asks of the machine that it runs on: files, variables of the environment, commands, requests
-- over the network, its hardware, its input and its output.
-- An operation on the machine is a program that asks these questions; nothing else reaches the machine.
namespace Entitlement

namespace Host

structure Command where
  program : String
  arguments : List String
deriving DecidableEq

def Command.line (c : Command) : String := " ".intercalate (c.program :: c.arguments)

inductive Ending where
  | exited (code : Nat)
  | killed
deriving DecidableEq

-- The exit code of a command; one that was killed has none, which counts as -1.
def Ending.exitCode : Ending → Int
  | exited code => code
  | killed => -1

structure CommandOutput where
  exitCode : Int
  output : Bytes
  errors : Bytes
deriving DecidableEq

inductive FileCall where
  | look (path : String)
  | read (path : String)
  | write (path : String) (content : Bytes)
  | createDirectories (path : String)
  | setMode (path : String) (mode : Nat)
  | remove (path : String)

abbrev FileCall.Reply : FileCall → Type
  | look _ => Bool
  | read _ => Except Obstacle Bytes
  | write _ _ | createDirectories _ | setMode _ _ | remove _ => Except Obstacle Unit

inductive Question where
  | file (call : FileCall)
  | environment (name : String)
  | accountHome
  | run (command : Command)
  | exchange (exchange : Http.Exchange)
  | hardware
  | print (text : String)
  -- The next line of the input with its end; the empty text when there is no more.
  | readLine
  -- A number of lines that the input has no more of.
  | linesLeft
  | report (level : Level) (event : String)

abbrev Question.Answer : Question → Type
  | file call => call.Reply
  | environment _ | accountHome => Option String
  | run _ => Except Obstacle CommandOutput
  | exchange _ => Option Http.Response
  | hardware => Hardware
  | print _ | report _ _ => Unit
  | readLine => Except Obstacle String
  | linesLeft => Nat

abbrev inquiry : Inquiry := ⟨Question, Question.Answer⟩

abbrev Operation := Program inquiry

abbrev Action := ExceptT Error Operation

def ask (q : Question) : Operation q.Answer := (Program.ask q .done : Program inquiry q.Answer)

def fileExists (path : String) : Operation Bool := ask (.file (.look path))

def read (path : String) : Operation (Except Obstacle Bytes) := ask (.file (.read path))

-- Reads a file that must be text.
def readText (path : String) : Operation (Except Obstacle String) := do
  match ← read path with
  | .error obstacle => pure (.error obstacle)
  | .ok bytes => match Text.decode? bytes with
    | some text => pure (.ok text)
    | none => pure (.error .notText)

def environment (name : String) : Operation (Option String) := ask (.environment name)

def print (text : String) : Operation Unit := ask (.print text)

def printLine (text : String) : Operation Unit := print (text ++ "\n")

def debug (event : String) : Operation Unit := ask (.report .debug event)

def info (event : String) : Operation Unit := ask (.report .info event)

def warn (event : String) : Operation Unit := ask (.report .warn event)

-- The directory of the user: the variable `HOME` unless it is unset or empty.
def home : Operation (Option String) := do
  match ← environment "HOME" with
  | none | some "" => ask .accountHome
  | some path => pure (some path)

-- Goes on with what a question about a file yields, or fails with a text that says what was tried.
def orFail (context : String) (operation : Operation (Except Obstacle α)) : Action α := do
  match ← (operation : Operation (Except Obstacle α)) with
  | .ok a => pure a
  | .error obstacle => throw (.io context obstacle.message)

def run (command : Command) : Action CommandOutput :=
  orFail ("failed to start " ++ command.program) (ask (.run command))

-- Writes a file that only its owner may read, with the directories above it.
def writeSecret (path content : String) : Action Unit := do
  match Path.parent? path with
  | some parent =>
    orFail ("failed to create directory: " ++ parent) (ask (.file (.createDirectories parent)))
  | none => pure ()
  orFail ("failed to write file: " ++ path) (ask (.file (.write path (Text.encode content))))
  orFail ("failed to set permissions: " ++ path) (ask (.file (.setMode path 0o600)))

def removeIfPresent (path : String) : Action Unit := do
  if ← fileExists path then
    debug ("removing credentials path=" ++ path)
    orFail ("failed to remove file: " ++ path) (ask (.file (.remove path)))

end Host
end Entitlement
