import Entitlement.CommandLine.Lines
import Entitlement.Host.Inquiry
import Entitlement.Text.Numeral

-- The choice of a migration by its number.
-- Available migrations have the numbers from 1 on. People who are asked for a number may also give up.
namespace Entitlement.CommandLine

open Host

def migrationIndex (number available : Nat) : Except Failure Nat :=
  if number = 0 || available < number then
    .error (.message ("invalid migration " ++ toString number ++ ", choose a number between 1 and "
      ++ toString available))
  else .ok (number - 1)

inductive Choice where
  | quit
  | selected (index : Nat)
  | invalid
deriving DecidableEq

-- What an answer chooses. Blanks around it do not count.
def Choice.ofAnswer (answer : String) (available : Nat) : Choice :=
  let word := Text.trimmed answer.toList
  if word.map Char.toLower = ['q'] then .quit
  else match Text.natural? limit64 word with
    | some number => match migrationIndex number available with
      | .ok index => .selected index
      | .error _ => .invalid
    | none => .invalid

abbrev Attempt := ExceptT Failure Operation

-- Asks until there is a choice, at most as often as `attempts` says. Giving up chooses nothing.
def askForMigration (available : Nat) : (attempts : Nat) → Attempt (Option Nat)
  | 0 => throw (.message "no migration selected")
  | attempts + 1 => do
    Host.print "[num/q]: "
    match ← (ask .readLine : Operation (Except Obstacle String)) with
    | .error obstacle => throw (.context "failed to read migration choice" (.io obstacle.message))
    | .ok answer =>
      if answer.isEmpty then throw (.message "no migration selected")
      else match Choice.ofAnswer answer available with
        | .quit => pure none
        | .selected index => pure (some index)
        | .invalid => do
          printLine ("Enter a number between 1 and " ++ toString available ++ ", or q to quit.")
          askForMigration available attempts

end Entitlement.CommandLine
