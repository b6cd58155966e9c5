import Entitlement.CommandLine.Choice
import Entitlement.CommandLine.Completion
import Entitlement.CommandLine.Log
import Entitlement.Registration.Collaborators
import Entitlement.Settings.File
import Entitlement.System.Uptime

-- What each command does: it works on the system that the settings name, and shows the outcome as text, or as a
-- JSON document if that is wished.
namespace Entitlement.CommandLine

open Registration
open Host (ask environment orFail printLine)

def within (context : String) (action : Host.Action α) : Attempt α :=
  ExceptT.adapt (fun e => .context context (.error e)) action

def plainly (action : Host.Action α) : Attempt α := ExceptT.adapt Failure.error action

def printLines (lines : List String) : Attempt Unit := lines.forM fun line => printLine line

def printStatus (style : Style) (status message : String) : Attempt Unit :=
  printLine (statusLine style status message)

def printSection (style : Style) (title : String) : Attempt Unit := printLine (sectionLine style title)

def printJson (j : Json) : Attempt Unit := printLine j.pretty

def Command.namespaceName : Command → Option String
  | .register _ _ _ _ namespaceName => namespaceName
  | _ => none

def Options.override (o : Options) (s : Settings) : Settings := {
  s with
  url := o.url.getD s.url
  root := o.root.getD s.root
  insecure := o.insecure || s.insecure
  namespaceName := o.command.namespaceName <|> s.namespaceName }

-- The settings that hold for a command: those in the file, with what the options say instead.
def loadSettings (o : Options) : Attempt Settings := do
  return o.override (← within ("failed to load config: " ++ o.config) (Settings.load o.config))

-- Whether the settings of a registration stay for later commands: a server or a namespace was chosen.
def Options.areKept (o : Options) : Bool := o.url.isSome || o.command.namespaceName.isSome

structure Desk where
  options : Options
  settings : Settings
  collaborators : Collaborators
  -- How the calls of a registration are answered.
  session : (q : collaboration.Question) → Host.Operation (collaboration.Answer q)
  style : Style

namespace Desk

-- A desk whose collaborators answer for themselves.
def of (options : Options) (settings : Settings) (collaborators : Collaborators) (style : Style) : Desk :=
  ⟨options, settings, collaborators, collaborators.answer, style⟩

def perform (d : Desk) (action : Registration.Action α) : Attempt α := plainly (Program.attempt d.session action)

def present (d : Desk) (document : Json) (text : Attempt Unit) : Attempt Unit :=
  if d.options.json then printJson document else text

def readInstanceData (path : String) : Attempt String := do
  match ← (Host.readText path : Host.Operation (Except Obstacle String)) with
  | .ok text => pure text
  | .error obstacle => throw (.context ("failed to read instance data: " ++ path) (.io obstacle.message))

def onlineAt (d : Desk) : Attempt (Option (List String)) := do
  if d.settings.uptimeTracking then
    let times ← plainly (Uptime.load (d.settings.rootPath Uptime.logPath))
    pure (if times.isEmpty then none else some times)
  else pure none

def systemInfo (d : Desk) (instanceData : Option String) : Attempt SystemInfo := do
  let hardware ← (ask .hardware : Host.Operation Hardware)
  let target ← within "failed to detect the distribution target" d.collaborators.packages.distributionTarget
  let data ← instanceData.mapM readInstanceData
  pure ⟨hardware.hostname, target, hardware, data, d.settings.namespaceName, ← d.onlineAt⟩

def runRegister (d : Desk) (options : RegisterOptions) (instanceData : Option String) : Attempt Unit := do
  let info ← d.systemInfo instanceData
  let outcome ← d.perform (register d.settings options info)
  if d.options.areKept then
    within ("failed to save config: " ++ d.options.config) (d.settings.save d.options.config)
  d.present outcome.toJson do
    printLines (registerLines outcome d.settings.baseUrl)
    printStatus d.style "ok" "Successfully registered system"

def runDeregister (d : Desk) (product : Option Triplet) : Attempt Unit := do
  let outcome ← d.perform (deregister d.settings product)
  d.present outcome.toJson do
    printLines (deregisterLines outcome)
    printStatus d.style "ok" ("Successfully deregistered " ++ match product with
      | some product => product.text
      | none => "system")

def showMigrations (d : Desk) (plan : MigrationPlan) : Attempt Unit := do
  printSection d.style "Available migrations:"
  printLines (migrationLines plan)

-- The index of the migration to apply: the one that was named, the first if nobody can be asked.
def chooseMigration (d : Desk) (o : MigrateOptions) (plan : MigrationPlan) : Attempt (Option Nat) :=
  match o.migration with
  | some number => some <$> liftExcept (migrationIndex number plan.available.length)
  | none =>
    if o.nonInteractive then pure (some 0)
    else do
      d.showMigrations plan
      let lines ← (ask .linesLeft : Host.Operation Nat)
      askForMigration plan.available.length (lines + 1)

-- How a migration is applied. The package manager must never ask, for nobody sees its questions.
def migrationOptions (d : Desk) (o : MigrateOptions) : MigrationOptions := {
  disableObsolete := o.disableRepositories
  upgrade := {
    nonInteractive := true
    autoAgreeWithLicenses := o.autoAgreeWithLicenses || d.settings.autoAgreeWithLicenses
    allowVendorChange := o.allowVendorChange
    downloadOnly := o.downloadOnly
    noRecommends := o.noRecommends
    dryRun := o.dryRun } }

-- Shows how a migration ended; a failed one fails the command.
def finishMigration (d : Desk) : Except MigrationFailure MigrationReport → Attempt Unit
  | .ok report => do
    printLines (reportLines report)
    printStatus d.style "ok" "Migration finished"
  | .error failure => do
    match failure.rollback with
    | some (.ok ()) => printStatus d.style "info" "Rollback successful"
    | some (.error e) => printStatus d.style "warn" ("Rollback failed: " ++ e.message)
    | none => pure ()
    throw (.migration failure)

-- Applies the available path at an index, if one was chosen.
def applyAt (d : Desk) (o : MigrateOptions) (plan : MigrationPlan) (index : Option Nat) : Attempt Unit := do
  match index.bind fun index => plan.available[index]? with
  | none => pure ()
  | some path => d.finishMigration (← d.perform (applyMigration path (d.migrationOptions o)))

def migrateBy (d : Desk) (o : MigrateOptions) (plan : MigrationPlan) : Attempt Unit := do
  if plan.available.isEmpty then printLines (migrationLines plan)
  else d.applyAt o plan (← d.chooseMigration o plan)

def runMigrate (d : Desk) (o : MigrateOptions) : Attempt Unit := do
  d.migrateBy o (← d.perform (planMigrations o.product))

def run (d : Desk) : Attempt Unit :=
  match d.options.command with
  | .register regcode product email instanceData _ => d.runRegister ⟨regcode, product, email⟩ instanceData
  | .deregister product => d.runDeregister product
  | .activate product regcode => do
    let activated ← d.perform (activate d.settings product regcode none)
    d.present activated.toJson (printStatus d.style "ok" ("Activated " ++ activated.product.text))
  | .deactivate product => do
    let deactivated ← d.perform (deactivate d.settings product)
    d.present deactivated.toJson (printStatus d.style "ok" ("Deactivated " ++ deactivated.product.text))
  | .status => do
    let statuses ← d.perform statuses
    d.present (.array (statuses.map ProductStatus.toJson)) do
      printSection d.style "Installed Products:"
      printLines (statusLines statuses)
  | .listExtensions => do
    let tree ← d.perform extensionTree
    d.present tree.toJson do
      printSection d.style "AVAILABLE EXTENSIONS AND MODULES"
      printLines (extensionLines tree)
  | .keepalive => do
    d.perform (updateSystem (← d.systemInfo none))
    printStatus d.style "ok" "Successfully updated system information"
  | .cleanup => do
    d.perform (cleanup d.settings)
    printStatus d.style "ok" "Successfully removed system credentials and services"
  | .migrations product => do
    let plan ← d.perform (planMigrations product)
    d.present plan.toJson (d.showMigrations plan)
  | .migrate options => d.runMigrate options
  | .rollback => do
    d.perform rollback
    printStatus d.style "ok" "Rollback successful"
  | .completions shell => Host.print shell.script

end Desk

-- Carries out a command. Completion scripts need no settings.
def runCommand (style : Style) (o : Options) : Attempt Unit := do
  match o.command with
  | .completions shell => Host.print shell.script
  | _ =>
    let settings ← loadSettings o
    Host.debug ("effective configuration url=" ++ settings.baseUrl ++ " root=" ++ settings.root)
    let collaborators ← (Collaborators.ofSettings settings : Host.Operation Collaborators)
    Desk.run (Desk.of o settings collaborators style)

-- Carries out a command; a failure is reported before it is given back.
def conclude (style : Style) (o : Options) : Host.Operation (Except Failure Unit) := do
  match ← (runCommand style o).run with
  | .ok () => pure (.ok ())
  | .error failure => do
    Host.debug ("command failed: " ++ failure.report)
    pure (.error failure)

end Entitlement.CommandLine
