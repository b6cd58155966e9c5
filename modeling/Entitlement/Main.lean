import Entitlement.CommandLine.Run
import Entitlement.System.Survey

-- The program on the machine that it is started on.
-- Files, variables of the environment, input and output are those of the machine. No other program is started and no
-- server is reached from here: both are reported as what cannot be found.
namespace Entitlement

open Host CommandLine

namespace Main

-- The obstacle behind a failed use of a file, by the number that the system gives for it.
def obstacle (number : UInt32) : Obstacle :=
  match number with
  | 13 => .denied
  | 17 => .alreadyThere
  | 20 => .notDirectory
  | 21 => .isDirectory
  | 36 => .nameTooLong
  | _ => .notFound

def errorNumber : IO.Error → UInt32
  | .alreadyExists _ number _ | .noFileOrDirectory _ number _ | .permissionDenied _ number _
  | .inappropriateType _ number _ | .invalidArgument _ number _ | .resourceExhausted _ number _
  | .otherError number _ => number
  | _ => 2

def attempt (act : IO α) : IO (Except Obstacle α) := do
  try
    return .ok (← act)
  catch e =>
    return .error (obstacle (errorNumber e))

def rights (bits : Nat) : IO.AccessRight := ⟨bits / 4 % 2 = 1, bits / 2 % 2 = 1, bits % 2 = 1⟩

def answerFile : (call : FileCall) → IO call.Reply
  | .look path => do
    match ← attempt (IO.FS.Handle.mk path .read) with
    | .ok _ | .error .denied => return true
    | .error _ => return false
  | .read path => attempt do return (← IO.FS.readBinFile path).toList
  | .write path content => attempt (IO.FS.writeBinFile path ⟨content.toArray⟩)
  | .createDirectories path => attempt (IO.FS.createDirAll path)
  | .setMode path mode => attempt (IO.setAccessRights path ⟨rights (mode / 64), rights (mode / 8), rights mode⟩)
  | .remove path => attempt (IO.FS.removeFile path)

-- A line of the input, which must be text.
def readLine : IO (Except Obstacle String) := do
  try
    return .ok (← (← IO.getStdin).getLine)
  catch _ =>
    return .error .notText

def answer (threshold : Threshold) (hardware : Hardware) : (q : inquiry.Question) → IO (inquiry.Answer q)
  | .file call => answerFile call
  | .environment name => IO.getEnv name
  | .accountHome => return none
  | .run _ => return .error .notFound
  | .exchange _ => return none
  | .hardware => return hardware
  | .print text => do
    IO.print text
    (← IO.getStdout).flush
  | .readLine => readLine
  | .linesLeft => return limit64
  | .report level event => do if threshold.admits level then IO.eprintln (eventLine level event)

def archPath : String := "/proc/sys/kernel/arch"

def survey : Operation Hardware := do Hardware.survey ((← Hardware.factIn archPath).getD "")

-- Output is rich on a terminal, unless colours are unwanted.
def style : IO Style := do
  if (← IO.getEnv "NO_COLOR").isSome then return .plain
  return Style.ofTerminal (← (← IO.getStdout).isTty)

def carryOut (options : Options) : IO UInt32 := do
  let threshold := Threshold.choose (← IO.getEnv Threshold.environmentName) options.debug options.quiet
  let hardware ← Program.run (answer threshold default) survey
  let style ← style
  match ← Program.run (answer threshold hardware) (conclude style options) with
  | .ok () => return 0
  | .error failure => do
    IO.eprintln (failure.line style)
    return failure.exitCode.toUInt32

end Main
end Entitlement

-- Runs the command in the arguments. Arguments that cannot be read end the program with a code alone.
def main (arguments : List String) : IO UInt32 :=
  match Entitlement.CommandLine.Options.ofArguments arguments with
  | .ok options => Entitlement.Main.carryOut options
  | .error refusal => return refusal.exitCode.toUInt32
