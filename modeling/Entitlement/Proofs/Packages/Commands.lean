import Entitlement.Packages.Manager
import Entitlement.Proofs.Host.Reach
import Entitlement.Registration.Migration

-- Which commands the package manager runs. What a command does is named by its first argument that is neither an option
-- nor the value of one; only an upgrade of the distribution runs a command that is named for that.
namespace Entitlement

open Host

namespace Host.Command

-- The options before the name of what is done. Two of them have a value.
def subcommand : List String → Option String
  | [] => none
  | "--root" :: _ :: rest => subcommand rest
  | "--releasever" :: _ :: rest => subcommand rest
  | argument :: rest => if argument.toList.head? = some '-' then subcommand rest else some argument

-- An upgrade of the distribution.
def Upgrades (c : Command) : Prop :=
  c.program = PackageManager.program ∧ subcommand c.arguments = some "dist-upgrade"

end Host.Command

namespace PackageManager

open Command (subcommand)

variable {m : PackageManager}

def command (m : PackageManager) (arguments : List String) : Command := ⟨program,m.rootArguments ++ arguments⟩

theorem subcommand_command (arguments : List String) :
    subcommand (m.command arguments).arguments = subcommand arguments := by
  unfold command rootArguments
  split
  · rfl
  · rfl

-- A command that is named for something else.
theorem not_upgrades {arguments : List String} {name : String} (named : subcommand arguments = some name)
    (other : name ≠ "dist-upgrade") : ¬ (m.command arguments).Upgrades := by
  intro upgrades
  have same := upgrades.2
  rw [subcommand_command,named,Option.some.injEq] at same
  exact other same

variable {fits : Command → Prop} {arguments : List String} {accepted : List Int}

theorem commands_run (fit : fits (m.command arguments)) : Asks (Commands fits) (m.run arguments accepted) := by
  refine asks_bind (asks_lift (confined_ask trivial)) fun _ => ?_
  refine asks_bind (asks_orFail (confined_ask fit)) fun output => ?_
  split
  · exact asks_pure
  · exact asks_throw

theorem commands_execute (fit : fits (m.command arguments)) : Asks (Commands fits) (m.execute arguments accepted) :=
  asks_bind (commands_run fit) fun _ => asks_pure

-- Calls that leave the distribution as it is.

def Modest (c : Command) : Prop := ¬ c.Upgrades

theorem modest_run (name : String) (named : subcommand arguments = some name) (other : name ≠ "dist-upgrade") :
    Asks (Commands Modest) (m.run arguments accepted) := commands_run (not_upgrades named other)

theorem modest_execute (name : String) (named : subcommand arguments = some name) (other : name ≠ "dist-upgrade") :
    Asks (Commands Modest) (m.execute arguments accepted) := commands_execute (not_upgrades named other)

theorem peeks_vendorReleaseType {productLine : String} : Program.Confined Peeks (m.vendorReleaseType productLine) := by
  unfold vendorReleaseType
  split
  · exact Program.confined_done
  refine Program.confined_bind (confined_readText trivial) fun reply => ?_
  cases reply with
  | error obstacle => exact Program.confined_done
  | ok text =>
    dsimp only
    split
    · exact Program.confined_done
    · exact Program.confined_bind (confined_ask trivial) fun _ => Program.confined_done

theorem peeks_withVendorReleaseType {p : Product} : Program.Confined Peeks (m.withVendorReleaseType p) := by
  refine Program.confined_bind peeks_vendorReleaseType fun releaseType => ?_
  cases releaseType with
  | none => exact Program.confined_done
  | some releaseType => exact Program.confined_done

theorem modest_note {event : String} {level : Level} {next : Unit → Action α}
    (later : Asks (Commands Modest) (next ())) :
    Asks (Commands Modest) (ExceptT.lift (ask (.report level event)) >>= next) :=
  asks_bind (asks_lift (confined_ask trivial)) fun _ => later

theorem modest_installedProducts : Asks (Commands Modest) m.installedProducts := by
  refine asks_bind (modest_run "products" rfl (by decide)) fun output => ?_
  refine asks_bind asks_liftExcept fun products => asks_mapM fun p => ?_
  have peeks : Asks Peeks (ExceptT.lift (m.withVendorReleaseType p) : Action Product) :=
    asks_lift peeks_withVendorReleaseType
  exact peeks.mono fun _ => Peeks.commands

theorem modest_removeService {name : String} : Asks (Commands Modest) (m.removeService name) :=
  modest_note (modest_execute "removeservice" rfl (by decide))

theorem modest_addService {url name : String} {refresh : Bool} :
    Asks (Commands Modest) (m.addService url name refresh) := by
  refine asks_bind modest_removeService fun _ => modest_note ?_
  refine asks_bind (modest_execute "addservice" rfl (by decide)) fun _ => ?_
  refine asks_bind (modest_execute "modifyservice" rfl (by decide)) fun _ => ?_
  split
  · exact modest_execute "refs" rfl (by decide)
  · exact asks_pure

-- Whether a release package is there is asked of another program.
theorem modest_installReleasePackage {identifier : String} :
    Asks (Commands Modest) (m.installReleasePackage identifier) := by
  unfold installReleasePackage
  split
  · exact asks_pure
  have other : Modest ⟨packageQuery,m.rootArguments ++ ["-q",identifier ++ "-release"]⟩ := by
    intro upgrades
    have programs : packageQuery ≠ program := by decide
    exact programs upgrades.1
  have asks : Program.Confined (Commands Modest) (m.isReleasePackageInstalled identifier) := by
    refine Program.confined_bind (confined_ask other) fun reply => ?_
    cases reply with
    | ok output => exact Program.confined_done
    | error obstacle => exact Program.confined_done
  refine asks_bind (asks_lift asks) fun present => ?_
  split
  · exact asks_pure
  refine modest_note (modest_execute "install" ?_ (by decide))
  unfold keyArguments
  split <;> rfl

theorem modest_removeReleasePackage {identifier : String} :
    Asks (Commands Modest) (m.removeReleasePackage identifier) := by
  unfold removeReleasePackage
  split
  · exact asks_pure
  · exact modest_execute "remove" rfl (by decide)

theorem modest_refreshRepositories {version : Option String} {force : Bool} :
    Asks (Commands Modest) (m.refreshRepositories version force) := by
  refine modest_execute "ref" ?_ (by decide)
  unfold keyArguments
  cases version <;> split <;> rfl

-- Every call but one.
theorem modest_perform {call : Registration.PackageCall} (other : ∀ version options, call ≠ .distUpgrade version options) :
    Asks (Commands Modest) (m.perform call) := by
  cases call with
  | installedProducts => exact modest_installedProducts
  | installedServices => exact asks_bind (modest_run "services" rfl (by decide)) fun _ => asks_liftExcept
  | addService url name refresh => exact modest_addService
  | removeService name => exact modest_removeService
  | refreshAllServices => exact modest_execute "refs" rfl (by decide)
  | installReleasePackage identifier => exact modest_installReleasePackage
  | removeReleasePackage identifier => exact modest_removeReleasePackage
  | setReleaseVersion version => exact modest_execute "ref" rfl (by decide)
  | repositories => exact asks_bind (modest_run "repos" rfl (by decide)) fun _ => asks_liftExcept
  | findProductPackages identifier => exact asks_bind (modest_run "search" rfl (by decide)) fun _ => asks_liftExcept
  | disableRepository name => exact modest_execute "modifyrepo" rfl (by decide)
  | refreshRepositories version force => exact modest_refreshRepositories
  | distUpgrade version options => exact absurd rfl (other version options)

theorem commands_perform (call : Registration.PackageCall) : Asks (Commands fun _ => True) (m.perform call) := by
  by_cases upgrades : ∃ version options, call = .distUpgrade version options
  · obtain ⟨version,options,rfl⟩ := upgrades
    exact commands_execute trivial
  · refine (modest_perform fun version options same => upgrades ⟨version,options,same⟩).mono fun q commands => ?_
    cases q with
    | run command => trivial
    | _ => exact commands

-- The one call that runs an upgrade of the distribution. It is a single command, and the exit code of the call is that
-- of the command.

-- What a call yields by the reply to its command.
def settled (m : PackageManager) (arguments : List String) (accepted : List Int) :
    Except Obstacle CommandOutput → Result Bytes
  | .error obstacle => .error (.io ("failed to start " ++ program) obstacle.message)
  | .ok output =>
    if accepted.contains output.exitCode then .ok output.output
    else .error (.command (m.command arguments).line output.exitCode (complaint output))

def executing (m : PackageManager) (arguments : List String) : Event :=
  ⟨.report .debug ("executing command=" ++ (m.command arguments).line),()⟩

theorem ran_run {result : Result Bytes} (ran : Ran (m.run arguments accepted) events result) :
    ∃ reply, events = [m.executing arguments,⟨.run (m.command arguments),reply⟩] ∧
      result = m.settled arguments accepted reply := by
  obtain ⟨_,_,_,rfl,noted,later⟩ := ran_lift_bind.mp ran
  cases Program.runs_question.mp noted
  rcases ran_bind.mp later with ⟨error,failed,rfl⟩ | ⟨_,output,_,rfl,called,last⟩
  · obtain ⟨_,reply,_,rfl,asked,answered⟩ := ran_lift_bind.mp failed
    cases Program.runs_question.mp asked
    cases reply with
    | ok output => cases (ran_pure.mp answered).2
    | error obstacle =>
      obtain ⟨rfl,same⟩ := ran_throw.mp answered
      cases same
      exact ⟨_,rfl,rfl⟩
  · cases Program.runs_question.mp (ran_orFail_ok called)
    refine ⟨.ok output,?_⟩
    unfold settled
    split at last
    · rename_i fits
      obtain ⟨rfl,rfl⟩ := ran_pure.mp last
      exact ⟨rfl,(if_pos fits).symm⟩
    · rename_i refused
      obtain ⟨rfl,rfl⟩ := ran_throw.mp last
      exact ⟨rfl,(if_neg refused).symm⟩

theorem ran_execute {result : Result Unit} (ran : Ran (m.execute arguments accepted) events result) :
    ∃ reply, events = [m.executing arguments,⟨.run (m.command arguments),reply⟩] ∧
      result = (m.settled arguments accepted reply).map fun _ => () := by
  rcases ran_bind.mp ran with ⟨error,failed,rfl⟩ | ⟨_,_,_,rfl,first,last⟩
  · obtain ⟨reply,rfl,same⟩ := ran_run failed
    exact ⟨reply,rfl,by rw [← same]; rfl⟩
  · obtain ⟨reply,rfl,same⟩ := ran_run first
    obtain ⟨rfl,rfl⟩ := ran_pure.mp last
    exact ⟨reply,rfl,by rw [← same]; rfl⟩

theorem settled_exitCode {reply : Except Obstacle CommandOutput} {code : Int} (refused : code ∉ accepted) :
    (∃ error, m.settled arguments accepted reply = .error error ∧ error.exitCode = some code) ↔
      ∃ output, reply = .ok output ∧ output.exitCode = code := by
  cases reply with
  | error obstacle => simp [settled,Error.exitCode]
  | ok output =>
    by_cases fits : output.exitCode ∈ accepted
    · have other : output.exitCode ≠ code := fun same => refused (same ▸ fits)
      simp [settled,fits,other]
    · simp [settled,fits,Error.exitCode]

variable {version : Option String} {options : UpgradeOptions}

theorem ran_distUpgrade {result : Result Unit} (ran : Ran (m.distUpgrade version options) events result) :
    ∃ note command reply, events = [⟨.report .debug note,()⟩,⟨.run command,reply⟩] ∧ command.Upgrades ∧
      ((∃ error, result = .error error ∧ error.exitCode = some Registration.commitFailed) ↔
        ∃ output, reply = .ok output ∧ output.exitCode = 8) := by
  obtain ⟨reply,rfl,rfl⟩ := ran_execute ran
  refine ⟨_,_,reply,rfl,⟨rfl,?_⟩,?_⟩
  · rw [subcommand_command]
    cases version <;> cases options.nonInteractive <;> rfl
  · rw [← settled_exitCode (by decide : (8 : Int) ∉ [success,rebootNeeded,restartNeeded])]
    cases m.settled _ _ reply with
    | ok bytes => simp [Except.map]
    | error error => simp [Except.map,Registration.commitFailed]

end PackageManager
end Entitlement
