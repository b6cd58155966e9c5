import Entitlement.Proofs.CommandLine.ExitCode
import Entitlement.Proofs.Host.Discretion

-- How a command conducts itself. What it does besides its registration only looks and talks, and of the files that the
-- registration writes each is closed for its owner. Only the settings are written for everybody.
namespace Entitlement.CommandLine

open Host (Event Reads Discreet)

variable {d : Desk} {style : Style} {o : Options} {events : List Event}

theorem reads_printLine {line : String} : Asks Reads (ExceptT.lift (Host.printLine line) : Attempt Unit) :=
  asks_lift (Host.confined_ask trivial)

theorem reads_printLines {lines : List String} : Asks Reads (printLines lines) := asks_forM fun _ => reads_printLine

theorem reads_present {document : Json} {text : Attempt Unit} (reads : Asks Reads text) :
    Asks Reads (d.present document text) := by
  unfold Desk.present
  split
  · exact reads_printLine
  · exact reads

theorem reads_of_peeks {action : ExceptT ε Host.Operation α} (peeks : Asks Host.Peeks action) : Asks Reads action :=
  peeks.mono fun _ => Host.Peeks.reads

theorem reads_loadSettings : Asks Reads (loadSettings o) :=
  asks_bind (asks_adapt (reads_of_peeks Settings.peeks_load)) fun _ => asks_pure

theorem reads_onlineAt : Asks Reads d.onlineAt := by
  have loads {path : String} : Asks Reads (Uptime.load path) := by
    refine asks_bind (asks_lift (Host.confined_ask trivial)) fun there => ?_
    cases there with
    | false => exact asks_bind (asks_lift (Host.confined_ask trivial)) fun _ => asks_pure
    | true => exact asks_bind (Host.asks_orFail (Host.confined_readText trivial)) fun _ => asks_pure
  unfold Desk.onlineAt
  split
  · exact asks_bind (asks_adapt loads) fun _ => asks_pure
  · exact asks_pure

theorem reads_readInstanceData {path : String} : Asks Reads (Desk.readInstanceData path) := by
  refine asks_bind (asks_lift (Host.confined_readText trivial)) fun reply => ?_
  cases reply with
  | ok text => exact asks_pure
  | error obstacle => exact asks_throw

theorem reads_systemInfo {instanceData : Option String} : Asks Reads (d.systemInfo instanceData) := by
  have target : Asks Reads d.collaborators.packages.distributionTarget := by
    have running := @PackageManager.commands_run d.collaborators.packages (fun _ => True) ["targetos"] [PackageManager.success]
    exact asks_bind ((running trivial).mono fun _ => Host.Commands.reads) fun _ => asks_pure
  have data : Asks Reads (instanceData.mapM Desk.readInstanceData) := by
    cases instanceData with
    | none => exact asks_pure
    | some path => exact asks_bind reads_readInstanceData fun _ => asks_pure
  refine asks_bind (asks_lift (Host.confined_ask trivial)) fun hardware => ?_
  refine asks_bind (asks_adapt target) fun target => asks_bind data fun data => ?_
  exact asks_bind reads_onlineAt fun times => asks_pure

-- A row of which nothing more is known than that it only looks and talks.

theorem makes_reads {action : Attempt α} (reads : Asks Reads action) : Makes Discreet action :=
  fun events result ran => Host.discreet_of_reads (reads events result ran)

theorem Converses.reads {q : Host.Question} (converses : Converses q) : Reads q := by
  cases q <;> trivial

theorem discreet_of_talks (talks : Talks events) : Discreet events :=
  Host.discreet_of_reads fun event member => (talks event member).reads

theorem discreet_bind {action : Attempt α} {next : α → Attempt β} (before : Makes Discreet action)
    (after : ∀ value, Makes Discreet (next value)) : Makes Discreet (action >>= next) :=
  makes_bind Host.composes_discreet before after

section Sealed

variable (sealed : ∀ q, Rows Discreet (d.session q))
include sealed

theorem discreet_perform {action : Registration.Action α} : Makes Discreet (d.perform action) := by
  intro events result ran
  obtain ⟨calls,settled,_,enacts,_⟩ := ran_perform.mp ran
  exact rows_of_enacts Host.composes_discreet sealed enacts

theorem discreet_performed {action : Registration.Action α} {next : α → Attempt Unit}
    (reads : ∀ value, Asks Reads (next value)) : Makes Discreet (d.perform action >>= next) :=
  discreet_bind (discreet_perform sealed) fun value => makes_reads (reads value)

theorem discreet_runMigrate {options : MigrateOptions} : Makes Discreet (d.runMigrate options) := by
  refine discreet_bind (discreet_perform sealed) fun plan => ?_
  intro events result ran
  rcases ran_migrateBy ran with ⟨talks,_⟩ | ⟨before,path,row,ended,after,rfl,opening,closing,applied,_⟩
  · exact discreet_of_talks talks
  · have composes := Host.composes_discreet
    exact composes.append _ _ (discreet_of_talks opening)
      (composes.append _ _ (discreet_perform sealed _ _ applied) (discreet_of_talks closing))

-- Every command but a registration.
theorem discreet_run (other : d.options.command.name ≠ "register") : Makes Discreet d.run := by
  unfold Desk.run
  cases named : d.options.command with
  | register regcode product email instanceData namespaceName => simp [named,Command.name] at other
  | deregister product =>
    exact discreet_performed sealed fun _ =>
      reads_present (asks_bind reads_printLines fun _ => reads_printLine)
  | activate product regcode => exact discreet_performed sealed fun _ => reads_present reads_printLine
  | deactivate product => exact discreet_performed sealed fun _ => reads_present reads_printLine
  | status =>
    exact discreet_performed sealed fun _ => reads_present (asks_bind reads_printLine fun _ => reads_printLines)
  | listExtensions =>
    exact discreet_performed sealed fun _ => reads_present (asks_bind reads_printLine fun _ => reads_printLines)
  | keepalive =>
    exact discreet_bind (makes_reads reads_systemInfo) fun _ => discreet_performed sealed fun _ => reads_printLine
  | cleanup => exact discreet_performed sealed fun _ => reads_printLine
  | migrations product =>
    exact discreet_performed sealed fun _ => reads_present (asks_bind reads_printLine fun _ => reads_printLines)
  | migrate options => exact discreet_runMigrate sealed
  | rollback => exact discreet_performed sealed fun _ => reads_printLine
  | completions shell => exact makes_reads (asks_lift (Host.confined_ask trivial))

end Sealed

theorem sealed_of (options : Options) (settings : Settings) (c : Registration.Collaborators) (style : Style) :
    ∀ q, Rows Discreet ((Desk.of options settings c style).session q) := by
  intro q
  refine Registration.rows_answer Host.covers_discreet Host.discreet_exchange fun call _ => ?_
  intro events result ran
  exact Host.discreet_of_reads fun event member =>
    (PackageManager.commands_perform call events result ran event member).reads

end Entitlement.CommandLine
