import Entitlement.Triplet
import Entitlement.Text.Numeral

-- Reading the arguments of a command with options, operands and subcommands.
-- An option is given by its name behind two hyphens or by its letter behind one; its value follows an equals sign
-- or is the next argument. Each option may be given once. An argument `--` ends the options. A value is looked at
-- only when the next option or operand comes, or the end, so that of two faults the later one may win.
namespace Entitlement.CommandLine

inductive Shell where
  | bash
  | zsh
  | fish
  | powershell
deriving DecidableEq

def Shell.name : Shell → String
  | bash => "bash"
  | zsh => "zsh"
  | fish => "fish"
  | powershell => "powershell"

def Shell.all : List Shell := [.bash, .zsh, .fish, .powershell]

inductive Refusal where
  | help
  | noArguments
  | unknownArgument
  | unknownSubcommand
  | missingSubcommand
  | impossibleValue
  | unreadableValue
  | conflict
  | surplusValue
  | missingOperand
deriving DecidableEq

-- Asking for help is no failure; all other refusals are.
def Refusal.exitCode : Refusal → Nat
  | help => 0
  | _ => 2

inductive ValueKind where
  | text
  | path
  | triplet
  | number
  | shell
deriving DecidableEq

inductive Value where
  | on
  | text (s : String)
  | triplet (t : Triplet)
  | number (n : Nat)
  | shell (s : Shell)
deriving DecidableEq

def ValueKind.read (kind : ValueKind) (text : String) : Except Refusal Value :=
  match kind with
  | .text => .ok (.text text)
  | .path => if text.isEmpty then .error .impossibleValue else .ok (.text text)
  | .triplet => match Triplet.parse text with
    | .ok t => .ok (.triplet t)
    | .error _ => .error .unreadableValue
  | .number => match Text.natural? limit64 text.toList with
    | some n => .ok (.number n)
    | none => .error .unreadableValue
  | .shell => match Shell.all.find? fun s => s.name = text with
    | some s => .ok (.shell s)
    | none => .error .impossibleValue

-- An option; one without a kind of values is a switch.
structure OptionRule where
  name : String
  letter : Option Char
  value : Option ValueKind

structure Grammar where
  options : List OptionRule
  operands : List (String × ValueKind)
  subcommands : List String
  exclusions : List (String × String)

abbrev Matches := List (String × Value)

-- An option or operand whose value is not looked at yet; without a text the value is still to come.
structure Pending where
  name : String
  kind : ValueKind
  text : Option String

structure Scan where
  found : Matches
  pending : Option Pending
  operands : List (String × ValueKind)
  ended : Bool

namespace Scan

def isAwaiting (s : Scan) : Bool := match s.pending with
  | some p => p.text.isNone
  | none => false

def add (s : Scan) (name : String) (value : Except Refusal Value) : Except Refusal Scan := do
  if s.found.any fun m => m.1 == name then throw .conflict
  pure { s with found := s.found ++ [(name, ← value)] }

def settle (s : Scan) : Except Refusal Scan :=
  match s.pending with
  | none => .ok s
  | some ⟨_, _, none⟩ => .error .impossibleValue
  | some ⟨name, kind, some text⟩ => ({ s with pending := none }).add name (kind.read text)

def takeOption (s : Scan) (rule : OptionRule) (attached : Option String) : Except Refusal Scan :=
  match rule.value, attached with
  | none, some _ => .error .surplusValue
  | none, none => do
    let s ← s.settle
    if rule.name = "help" then throw .help
    s.add rule.name (.ok .on)
  | some kind, some text => do (← s.settle).add rule.name (kind.read text)
  | some kind, none => do pure { (← s.settle) with pending := some ⟨rule.name, kind, none⟩ }

def takeLong (s : Scan) (g : Grammar) (cs : List Char) : Except Refusal Scan :=
  let (name, attached) := match Text.splitFirst '=' cs with
    | some (name, value) => (name, some (String.ofList value))
    | none => (cs, none)
  match g.options.find? fun rule => rule.name.toList = name with
  | some rule => s.takeOption rule attached
  | none => .error .unknownArgument

-- Takes the letters behind a hyphen; what follows the letter of an option with a value is that value.
def takeLetters (s : Scan) (g : Grammar) : List Char → Except Refusal Scan
  | [] => .ok s
  | letter :: rest =>
    match g.options.find? fun rule => rule.letter = some letter with
    | none => .error .unknownArgument
    | some rule =>
      if rule.value.isNone then do takeLetters (← s.takeOption rule none) g rest
      else match rest with
        | [] => s.takeOption rule none
        | '=' :: value => s.takeOption rule (some (String.ofList value))
        | value => s.takeOption rule (some (String.ofList value))

def takeOperand (s : Scan) (g : Grammar) (argument : String) : Except Refusal Scan :=
  match s.operands with
  | (name, kind) :: rest => do
    pure { (← s.settle) with pending := some ⟨name, kind, some argument⟩, operands := rest }
  | [] =>
    if g.subcommands.isEmpty || (s.ended && g.subcommands.contains argument) then .error .unknownArgument
    else .error .unknownSubcommand

def take (s : Scan) (g : Grammar) (argument : String) : Except Refusal Scan :=
  if s.ended then s.takeOperand g argument
  else match argument.toList with
    | ['-', '-'] => .ok { s with ended := true }
    | '-' :: '-' :: name => s.takeLong g name
    | '-' :: letter :: letters => s.takeLetters g (letter :: letters)
    | _ => match s.pending with
      | some ⟨name, kind, none⟩ => .ok { s with pending := some ⟨name, kind, some argument⟩ }
      | _ => s.takeOperand g argument

end Scan

def helpOn (g : Grammar) : List String → Refusal
  | [] => .help
  | [name] => if name = "help" || g.subcommands.contains name then .help else .unknownSubcommand
  | _ => .unknownSubcommand

-- Reads arguments up to a subcommand, if there is one, and gives the arguments behind it.
def Grammar.scan (g : Grammar) (s : Scan) : List String → Except Refusal (Scan × Option (String × List String))
  | [] => .ok (s, none)
  | argument :: rest =>
    if !s.ended && !s.isAwaiting && g.subcommands.contains argument then .ok (s, some (argument, rest))
    else if !s.ended && !s.isAwaiting && argument = "help" && !g.subcommands.isEmpty then .error (helpOn g rest)
    else match s.take g argument with
      | .ok next => g.scan next rest
      | .error refusal => .error refusal

def Grammar.start (g : Grammar) : Scan := ⟨[], none, g.operands, false⟩

-- The options and operands that were found, when all values can be read and nothing is missing.
def Grammar.finish (g : Grammar) (s : Scan) (subcommand : Bool) : Except Refusal Matches := do
  let s ← s.settle
  let isGiven (name : String) : Bool := s.found.any fun m => m.1 == name
  if !subcommand && !g.subcommands.isEmpty then
    throw (if s.found.isEmpty then .noArguments else .missingSubcommand)
  if g.exclusions.any fun e => isGiven e.1 && isGiven e.2 then throw .conflict
  if g.operands.any fun o => !isGiven o.1 then throw .missingOperand
  pure s.found

namespace Matches

def value? (m : Matches) (name : String) : Option Value := (m.find? fun v => v.1 == name).map (·.2)

def isOn (m : Matches) (name : String) : Bool := (m.value? name).isSome

def text? (m : Matches) (name : String) : Option String := match m.value? name with
  | some (.text s) => some s
  | _ => none

def triplet? (m : Matches) (name : String) : Option Triplet := match m.value? name with
  | some (.triplet t) => some t
  | _ => none

def number? (m : Matches) (name : String) : Option Nat := match m.value? name with
  | some (.number n) => some n
  | _ => none

def shell? (m : Matches) (name : String) : Option Shell := match m.value? name with
  | some (.shell s) => some s
  | _ => none

end Matches

end Entitlement.CommandLine
