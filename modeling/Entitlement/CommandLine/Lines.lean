import Entitlement.Registration.Deregister
import Entitlement.Registration.Migration
import Entitlement.Registration.Register

-- What is shown to people: lines of text for each outcome.
namespace Entitlement.CommandLine

open Registration

inductive Style where
  | plain
  | rich
deriving DecidableEq

def Style.ofTerminal (terminal : Bool) : Style := if terminal then .rich else .plain

def badge (status : String) : String :=
  if status = "ok" then "[OK]"
  else if status = "warn" then "[WARN]"
  else if status = "error" then "[ERR]"
  else "[INFO]"

def statusLine (style : Style) (status message : String) : String :=
  match style with
  | .plain => message
  | .rich => badge status ++ " " ++ message

def sectionLine (style : Style) (title : String) : String :=
  match style with
  | .plain => title
  | .rich => "\x1b[1m\x1b[94m" ++ title ++ "\x1b[0m"

def registerLines (outcome : RegisterOutcome) (server : String) : List String :=
  (if outcome.announced then "Announced system to " ++ server
    else "Updated system information on " ++ server)
    :: outcome.products.map fun p => "Activated " ++ p.product.text

def deregisterLines (outcome : DeregisterOutcome) : List String :=
  outcome.products.map fun p => "Deactivated " ++ p.product.text

def detail (label value : String) : List String :=
  if value.isEmpty then [] else ["  " ++ label ++ ": " ++ value]

def statusLinesOf (s : ProductStatus) : List String :=
  let title := if s.summary.isEmpty then s.product.name else s.summary
  [title ++ " (" ++ s.product.version ++ " " ++ s.product.arch ++ ")", "  Status: " ++ s.status]
    ++ detail "Subscription" s.subscription ++ detail "Regcode" s.regcode ++ detail "Starts at" s.startsAt
    ++ detail "Expires at" s.expiresAt ++ detail "Subscription status" s.subscriptionStatus
    ++ detail "Type" s.kind

def statusLines (statuses : List ProductStatus) : List String := statuses.flatMap statusLinesOf

-- The three lines of an extension: its name, the command that changes its activation, and an empty line.
def extensionLinesOf (level : Nat) (e : ExtensionFacts) : List String :=
  let indent := String.ofList (List.replicate (4 * level) ' ')
  let triplet := e.product.text
  let name := if e.friendlyName.isEmpty then triplet else e.friendlyName
  let marker := if e.activated then " (Activated)" else if e.available then "" else " (Not available)"
  let command := if e.activated then "Deactivate with: entitle deactivate " else "Activate with: entitle activate "
  let regcode := if e.free || e.activated then "" else " -r ADDITIONAL REGCODE"
  [indent ++ name ++ marker, indent ++ command ++ triplet ++ regcode, ""]

mutual

def extensionLinesFrom (level : Nat) : Extension → List String
  | ⟨facts, extensions⟩ => extensionLinesOf level facts ++ extensionLinesOfAll (level + 1) extensions

def extensionLinesOfAll (level : Nat) : List Extension → List String
  | [] => []
  | e :: rest => extensionLinesFrom level e ++ extensionLinesOfAll level rest

end

def extensionLines (tree : Extension) : List String :=
  match tree.extensions with
  | [] => ["No extensions available for " ++ tree.product.text]
  | extensions => extensionLinesOfAll 0 extensions

def pathLines (plan : MigrationPlan) (number : Nat) (path : MigrationPath) : List String :=
  (toString number ++ " |") :: path.map fun p =>
    "  " ++ p.displayName ++ (if plan.isInstalled p then " (already installed)" else "")

def numberedLines (plan : MigrationPlan) : Nat → List MigrationPath → List String
  | _, [] => []
  | number, path :: rest => pathLines plan number path ++ numberedLines plan (number + 1) rest

def unavailableLine (path : MigrationPath) : String :=
  "  " ++ ", ".intercalate (path.map fun p =>
    if p.available then p.displayName else p.displayName ++ " (not available)")

def migrationLines (plan : MigrationPlan) : List String :=
  (if plan.available.isEmpty then ["No migration available."] else numberedLines plan 1 plan.available)
    ++ if plan.unavailable.isEmpty then []
      else "" :: "Unavailable migrations:" :: plan.unavailable.map unavailableLine

def reportLines (report : MigrationReport) : List String :=
  (report.disabled.map fun repository => "Disabled repository " ++ repository)
    ++ if report.baseVersion.isEmpty then [] else ["Release version set to " ++ report.baseVersion]

inductive Failure where
  | error (e : Error)
  | migration (failure : MigrationFailure)
  | message (text : String)
  | io (cause : String)
  | context (text : String) (inner : Failure)

namespace Failure

def chain : Failure → List String
  | error e => e.message :: e.causes
  | migration failure => [failure.message]
  | message text => [text]
  | io cause => [cause]
  | context text inner => text :: inner.chain

def line (style : Style) (failure : Failure) : String :=
  statusLine style "error" (": ".intercalate failure.chain)

-- The exit code of the command: 2 for a half-finished upgrade of the distribution, 1 for all else.
def exitCode : Failure → Nat
  | migration failure => if failure.inconsistent then 2 else 1
  | context _ inner => inner.exitCode
  | _ => 1

end Failure

end Entitlement.CommandLine
