import Entitlement.Host.Inquiry

-- A machine as a value: its files, its environment, its input, and what was printed and reported.
-- What commands do and what servers answer is not part of the machine. It is a behaviour with a state of its own,
-- so that what is proved of a program on a machine holds with all commands and all servers.
namespace Entitlement.Host

structure Surroundings (σ : Type) where
  run : Command → StateM σ (Except Obstacle CommandOutput)
  exchange : Http.Exchange → StateM σ (Option Http.Response)

structure Machine (σ : Type) where
  files : FileSystem
  environment : List (String × String)
  accountHome : Option String
  hardware : Hardware
  input : Bytes
  printed : List String
  events : List (Level × String)
  surroundings : σ

namespace Machine

variable {σ : Type}

def lineFeed : UInt8 := 10

def splitLine : Bytes → Bytes × Bytes
  | [] => ([], [])
  | b :: rest =>
    if b = lineFeed then ([b], rest)
    else
      let (line, rest) := splitLine rest
      (b :: line, rest)

-- Lets a change of the files happen, unless there is an obstacle.
def change (edit : FileSystem → Except Obstacle FileSystem) : StateM (Machine σ) (Except Obstacle Unit) :=
  fun m => match edit m.files with
    | .ok files => (.ok (), { m with files := files })
    | .error obstacle => (.error obstacle, m)

def answerFile : (call : FileCall) → StateM (Machine σ) call.Reply
  | .look path => fun m => (m.files.pathExists path, m)
  | .read path => fun m => (m.files.readFile path, m)
  | .write path content => change fun files => files.writeFile path content
  | .createDirectories path => change fun files => files.createDirectories path
  | .setMode path mode => change fun files => files.setMode path mode
  | .remove path => change fun files => files.removeFile path

def outside (act : StateM σ α) : StateM (Machine σ) α := fun m =>
  let (result, surroundings) := act m.surroundings
  (result, { m with surroundings := surroundings })

def answer (s : Surroundings σ) : (q : inquiry.Question) → StateM (Machine σ) (inquiry.Answer q)
  | .file call => answerFile call
  | .environment name => fun m => ((m.environment.find? fun e => e.1 == name).map (·.2), m)
  | .accountHome => fun m => (m.accountHome, m)
  | .run command => outside (s.run command)
  | .exchange exchange => outside (s.exchange exchange)
  | .hardware => fun m => (m.hardware, m)
  | .print text => fun m => ((), { m with printed := text :: m.printed })
  | .readLine => fun m =>
    let (line, rest) := splitLine m.input
    (match Text.decode? line with
      | some text => .ok text
      | none => .error .notText, { m with input := rest })
  -- Every line has at least one byte.
  | .linesLeft => fun m => (m.input.length, m)
  | .report level event => fun m => ((), { m with events := (level, event) :: m.events })

def run (s : Surroundings σ) (operation : Operation α) : StateM (Machine σ) α := Program.run (answer s) operation

def attempt (s : Surroundings σ) (action : Action α) : StateM (Machine σ) (Result α) := run s action.run

def output (m : Machine σ) : String := String.join m.printed.reverse

end Machine
end Entitlement.Host
