import Entitlement.Proofs.Loops
import Entitlement.Proofs.Packages.Commands

-- How the package manager deals with its commands. Each of them is told the root of the system; the first that fails is
-- the last thing that is done, and its failure is that of the operation. What commands do not fail can only fail by a
-- list that cannot be read, or by a base product that is not on it.
namespace Entitlement

open Host

namespace Host.Command

-- The exit codes that are accepted of the package manager's program, by what it is told to do. Only an installation
-- looks at what it is told to install.
def tolerated (subcommand : Option String) (subject : String) : List Int :=
  match subcommand with
  | some "services" | some "repos" => [0,6]
  | some "search" => [0,6,104]
  | some "remove" => [0,104]
  | some "install" => if PackageManager.maySkipRepositories subject then [0,106] else [0]
  | some "dist-upgrade" => [0,102,103]
  | _ => [0]

def accepted (c : Command) : List Int := tolerated (subcommand c.arguments) (c.arguments.getLast?.getD "")

-- How a command fails by what comes of it: it cannot be started, or it ends with a code that is not accepted.
def failure? (c : Command) : Except Obstacle CommandOutput → Option Error
  | .error obstacle => some (.io ("failed to start " ++ c.program) obstacle.message)
  | .ok output =>
    if output.exitCode ∈ c.accepted then none
    else
      let captured := if output.errors.all Text.isAsciiBlank then output.output else output.errors
      some (.command (" ".intercalate (c.program :: c.arguments)) output.exitCode
        (Text.trim (Text.decodeLenient captured)))

end Host.Command

namespace PackageManager

open Command (subcommand)

variable {m : PackageManager}

-- A command is told the root first of all, unless the root is that of the machine.
def Rooted (m : PackageManager) (c : Command) : Prop :=
  if m.root = "" ∨ Path.isRoot m.root = true then c.arguments.head? ≠ some "--root"
  else ["--root",m.root] <+: c.arguments

theorem rooted_of {c : Command} {arguments : List String} (whole : c.arguments = m.rootArguments ++ arguments)
    (plain : (arguments.head? == some "--root") = false) : m.Rooted c := by
  unfold Rooted
  rw [whole]
  unfold rootArguments
  by_cases own : m.root = "" ∨ Path.isRoot m.root = true
  · have empty : (m.root.isEmpty || Path.isRoot m.root) = true := by simpa [String.isEmpty_iff] using own
    rw [if_pos own,if_pos empty]
    exact beq_eq_false_iff_ne.mp plain
  · have other : ¬ (m.root.isEmpty || Path.isRoot m.root) = true := by simpa [String.isEmpty_iff] using own
    rw [if_neg own,if_neg other]
    exact List.prefix_append _ _

-- A run in which nothing follows a command that fails, with what else the operation may fail by.
structure Disciplined (m : PackageManager) (reports : Error → Prop) (events : List Event) (result : Result α) :
    Prop where
  rooted : ∀ command reply, ⟨.run command,reply⟩ ∈ events → m.Rooted command
  stops : ∀ before command reply after error, events = before ++ ⟨.run command,reply⟩ :: after →
    command.program = program → command.failure? reply = some error → after = [] ∧ result = .error error
  settles : (∀ command reply, ⟨.run command,reply⟩ ∈ events → command.program = program →
    command.failure? reply = none) → ∀ error, result = .error error → reports error

variable {reports : Error → Prop} {events first second : List Event}

-- No command of a step that went well has failed.
theorem Disciplined.passed {value : α} (done : Disciplined m reports events (.ok value)) (command : Command)
    (reply : Except Obstacle CommandOutput) (member : ⟨.run command,reply⟩ ∈ events)
    (own : command.program = program) : command.failure? reply = none := by
  obtain ⟨before,after,parts⟩ := List.append_of_mem member
  cases failed : command.failure? reply with
  | none => rfl
  | some error => cases (done.stops before command reply after error parts own failed).2

theorem Disciplined.error {error : Error} (failed : Disciplined m reports events (.error error : Result α)) :
    Disciplined m reports events (.error error : Result β) where
  rooted := failed.rooted
  stops before command reply after cause parts own fails := by
    obtain ⟨nothing,same⟩ := failed.stops before command reply after cause parts own fails
    cases same
    exact ⟨nothing,rfl⟩
  settles passes cause same := by
    cases same
    exact failed.settles passes error rfl

theorem Disciplined.append {value : α} {result : Result β} (early : Disciplined m reports first (.ok value))
    (late : Disciplined m reports second result) : Disciplined m reports (first ++ second) result where
  rooted command reply member := by
    rcases List.mem_append.mp member with before | after
    · exact early.rooted command reply before
    · exact late.rooted command reply after
  stops before command reply after error parts own fails := by
    rcases append_eq_split.mp parts with ⟨between,rfl,_⟩ | ⟨between,rfl,_⟩
    · have passes := early.passed command reply (by simp) own
      rw [fails] at passes
      cases passes
    · exact late.stops between command reply after error rfl own fails
  settles passes :=
    late.settles fun command reply member => passes command reply (List.mem_append_right first member)

theorem Disciplined.mono {wider : Error → Prop} {result : Result α} (disciplined : Disciplined m reports events result)
    (implies : ∀ error, reports error → wider error) : Disciplined m wider events result where
  rooted := disciplined.rooted
  stops := disciplined.stops
  settles passes error same := implies error (disciplined.settles passes error same)

-- Questions that run nothing of the package manager's program.
def Aside (m : PackageManager) : Question → Prop
  | .run command => m.Rooted command ∧ command.program ≠ program
  | _ => True

theorem disciplined_aside {result : Result α} (aside : ∀ event ∈ events, m.Aside event.question)
    (settled : ∀ error, result = .error error → reports error) : Disciplined m reports events result where
  rooted command reply member := (aside _ member).1
  stops before command reply after error parts own fails := by
    have member : (⟨.run command,reply⟩ : Event) ∈ events := by simp [parts]
    exact absurd own (aside _ member).2
  settles _ := settled

-- What is disciplined in all its runs.
def Minds (m : PackageManager) (reports : Error → Prop) (action : Action α) : Prop :=
  ∀ events result, Ran action events result → Disciplined m reports events result

theorem minds_bind {action : Action α} {next : α → Action β} (before : Minds m reports action)
    (after : ∀ value, Minds m reports (next value)) : Minds m reports (action >>= next) := by
  intro events result ran
  rcases ran_bind.mp ran with ⟨error,failed,rfl⟩ | ⟨first,value,second,rfl,early,late⟩
  · exact (before _ _ failed).error
  · exact (before _ _ early).append (after value _ _ late)

theorem minds_settled {settled : Result α} (fits : ∀ error, settled = .error error → reports error) :
    Minds m reports (ExceptT.mk (pure settled)) := by
  intro events result ran
  obtain ⟨rfl,rfl⟩ := ran_settled.mp ran
  exact disciplined_aside (fun _ member => nomatch member) fits

theorem minds_pure {value : α} : Minds m reports (pure value : Action α) :=
  minds_settled fun _ same => nomatch same

theorem minds_throw {error : Error} (fits : reports error) : Minds m reports (throw error : Action α) :=
  minds_settled fun other same => by cases same; exact fits

theorem minds_liftExcept {settled : Result α} (fits : ∀ error, settled = .error error → reports error) :
    Minds m reports (liftExcept settled : Action α) := by
  cases settled with
  | ok value => exact minds_pure
  | error error => exact minds_throw (fits error rfl)

theorem minds_lift {p : Operation α} (aside : Program.Confined m.Aside p) :
    Minds m reports (ExceptT.lift p : Action α) := by
  intro events result ran
  have fits := asks_lift aside events result ran
  obtain ⟨first,value,second,rfl,_,settled⟩ := Program.runs_bind.mp ran
  obtain ⟨rfl,rfl⟩ := Program.runs_done.mp settled
  exact disciplined_aside fits fun _ same => nomatch same

theorem Peeks.aside {q : Question} (peeks : Peeks q) : m.Aside q := by
  cases q <;> trivial

theorem minds_peeks {p : Operation α} (peeks : Program.Confined Peeks p) : Minds m reports (ExceptT.lift p : Action α) :=
  minds_lift (peeks.mono fun _ => Peeks.aside)

theorem minds_note {event : String} {level : Level} {next : Unit → Action α} (later : Minds m reports (next ())) :
    Minds m reports (ExceptT.lift (ask (.report level event)) >>= next) :=
  minds_bind (minds_lift (confined_ask trivial)) fun _ => later

theorem minds_mapM {step : α → Action β} {list : List α} (each : ∀ item, Minds m reports (step item)) :
    Minds m reports (list.mapM step) := by
  induction list with
  | nil => exact minds_pure
  | cons head rest ih =>
    rw [List.mapM_cons]
    exact minds_bind (each head) fun _ => minds_bind ih fun _ => minds_pure

-- A single command. What is accepted of it is what is tolerated of the thing that it does.

theorem accepted_command {arguments : List String} (filled : arguments ≠ []) :
    (m.command arguments).accepted = Command.tolerated (subcommand arguments) (arguments.getLast?.getD "") := by
  have last : (m.command arguments).arguments.getLast? = arguments.getLast? :=
    List.getLast?_append_of_ne_nil _ filled
  rw [Command.accepted,subcommand_command,last]

theorem failure?_command {arguments : List String} {accepted : List Int}
    (same : (m.command arguments).accepted = accepted) (reply : Except Obstacle CommandOutput) :
    (m.command arguments).failure? reply =
      match m.settled arguments accepted reply with
      | .ok _ => none
      | .error error => some error := by
  cases reply with
  | error obstacle => rfl
  | ok output =>
    rw [Command.failure?,settled,same]
    by_cases fits : output.exitCode ∈ accepted
    · rw [if_pos fits,if_pos (List.contains_iff_mem.mpr fits)]
    · rw [if_neg fits,if_neg fun listed => fits (List.contains_iff_mem.mp listed)]
      rfl

theorem last_of_pair {first last item : α} {before after : List α} (parts : [first,last] = before ++ item :: after)
    (other : item ≠ first) : after = [] := by
  cases before with
  | nil => exact absurd (List.cons.inj parts).1.symm other
  | cons head before =>
    cases before with
    | nil => exact (List.cons.inj (List.cons.inj parts).2).2.symm
    | cons next before => simp at parts

theorem minds_run {arguments : List String} {accepted : List Int} (plain : (arguments.head? == some "--root") = false)
    (same : (m.command arguments).accepted = accepted) : Minds m reports (m.run arguments accepted) := by
  intro events result ran
  obtain ⟨reply,rfl,rfl⟩ := ran_run ran
  have only {command : Command} {answer : Except Obstacle CommandOutput}
      (member : ⟨.run command,answer⟩ ∈ [m.executing arguments,⟨.run (m.command arguments),reply⟩]) :
      command = m.command arguments ∧ answer = reply := by
    rcases List.mem_cons.mp member with note | member
    · cases note
    · cases List.mem_singleton.mp member
      exact ⟨rfl,rfl⟩
  refine ⟨fun command answer member => ?_,fun before command answer after error parts _ fails => ?_,
    fun passes error failed => ?_⟩
  · obtain ⟨rfl,_⟩ := only member
    exact rooted_of rfl plain
  · have member : (⟨.run command,answer⟩ : Event) ∈ before ++ ⟨.run command,answer⟩ :: after := by simp
    rw [← parts] at member
    obtain ⟨rfl,rfl⟩ := only member
    refine ⟨last_of_pair parts nofun,?_⟩
    rw [failure?_command same] at fails
    cases settled : m.settled arguments accepted answer with
    | ok bytes => rw [settled] at fails; cases fails
    | error cause => rw [settled] at fails; cases fails; rfl
  · have passed := passes (m.command arguments) reply (by simp) rfl
    rw [failure?_command same,failed] at passed
    cases passed

theorem minds_execute {arguments : List String} {accepted : List Int} (plain : (arguments.head? == some "--root") = false)
    (same : (m.command arguments).accepted = accepted) : Minds m reports (m.execute arguments accepted) :=
  minds_bind (minds_run plain same) fun _ => minds_pure

-- A command by the name of what it does.
theorem minds_named {arguments : List String} {accepted : List Int} (name : String)
    (named : subcommand arguments = some name) (plain : (arguments.head? == some "--root") = false)
    (same : Command.tolerated (some name) (arguments.getLast?.getD "") = accepted) :
    Minds m reports (m.execute arguments accepted) := by
  refine minds_execute plain ?_
  rw [accepted_command (by rintro rfl; cases named),named,same]

-- What an operation may report although no command fails.

def Unreadable (error : Error) : Prop := ∃ text, error = .xml text

theorem unreadable_of_read {layout : Listing.Layout} {ofRecord : Xml.Record → Option α} {bytes : Bytes} {error : Error}
    (failed : layout.read ofRecord bytes = .error error) : Unreadable error := by
  unfold Listing.Layout.read at failed
  dsimp only at failed
  split at failed
  · cases failed
  split at failed
  · cases failed
  split at failed <;> cases failed <;> exact ⟨_,rfl⟩

theorem minds_listing {layout : Listing.Layout} {ofRecord : Xml.Record → Option α} {arguments : List String}
    {accepted : List Int} (name : String) (named : subcommand arguments = some name)
    (plain : (arguments.head? == some "--root") = false)
    (same : Command.tolerated (some name) (arguments.getLast?.getD "") = accepted) :
    Minds m Unreadable (do liftExcept (layout.read ofRecord (← m.run arguments accepted))) := by
  refine minds_bind (minds_run plain ?_) fun _ => minds_liftExcept fun _ => unreadable_of_read
  rw [accepted_command (by rintro rfl; cases named),named,same]

theorem minds_installedProducts : Minds m Unreadable m.installedProducts := by
  have commanded : (m.command
      ["--disable-repositories","--xmlout","--non-interactive","products","-i"]).accepted = [success] :=
    accepted_command (List.cons_ne_nil _ _)
  refine minds_bind (minds_run rfl commanded) fun output => ?_
  refine minds_bind (minds_liftExcept fun _ => unreadable_of_read) fun products => ?_
  exact minds_mapM fun product => minds_peeks peeks_withVendorReleaseType

theorem minds_baseProduct :
    Minds m (fun error => Unreadable error ∨ error = .cannotDetectBaseProduct) m.baseProduct := by
  refine minds_bind (fun events result ran => (minds_installedProducts _ _ ran).mono fun _ => .inl) fun products => ?_
  cases findBase products with
  | none => exact minds_throw (.inr rfl)
  | some base => exact minds_pure

theorem minds_removeService {name : String} : Minds m reports (m.removeService name) :=
  minds_note (minds_named "removeservice" rfl rfl rfl)

theorem minds_refreshService {name : String} : Minds m reports (m.refreshService name) :=
  minds_named "refs" rfl rfl rfl

theorem minds_addService {url name : String} {refresh : Bool} : Minds m reports (m.addService url name refresh) := by
  refine minds_bind minds_removeService fun _ => minds_note ?_
  refine minds_bind (minds_named "addservice" rfl rfl rfl) fun _ => ?_
  refine minds_bind (minds_named "modifyservice" rfl rfl rfl) fun _ => ?_
  split
  · exact minds_refreshService
  · exact minds_pure

-- Whether a release package is there is asked of another program, whatever comes of that.
theorem minds_isReleasePackageInstalled {identifier : String} :
    Program.Confined m.Aside (m.isReleasePackageInstalled identifier) := by
  have rooted : m.Rooted ⟨packageQuery,m.rootArguments ++ ["-q",identifier ++ "-release"]⟩ := rooted_of rfl rfl
  have other : packageQuery ≠ program := by decide
  refine Program.confined_bind (confined_ask ⟨rooted,other⟩) fun reply => ?_
  cases reply with
  | ok output => exact Program.confined_done
  | error obstacle => exact Program.confined_done

theorem minds_installReleasePackage {identifier : String} :
    Minds m reports (m.installReleasePackage identifier) := by
  unfold installReleasePackage
  split
  · exact minds_pure
  refine minds_bind (minds_lift minds_isReleasePackageInstalled) fun present => ?_
  split
  · exact minds_pure
  refine minds_note (minds_named "install" ?_ ?_ ?_)
  · unfold keyArguments
    split <;> rfl
  · unfold keyArguments
    split <;> rfl
  · rw [List.getLast?_append_of_ne_nil _ (List.cons_ne_nil _ _)]
    change (if maySkipRepositories identifier then [0,106] else [0]) = _
    split <;> rfl

theorem minds_removeReleasePackage {identifier : String} :
    Minds m reports (m.removeReleasePackage identifier) := by
  unfold removeReleasePackage
  split
  · exact minds_pure
  · exact minds_named "remove" rfl rfl rfl

theorem minds_refreshRepositories {version : Option String} {force : Bool} :
    Minds m reports (m.refreshRepositories version force) := by
  refine minds_named "ref" ?_ ?_ rfl
  · unfold keyArguments
    cases version <;> split <;> rfl
  · rfl

theorem minds_distUpgrade {version : Option String} {options : UpgradeOptions} :
    Minds m reports (m.distUpgrade version options) := by
  refine minds_named "dist-upgrade" ?_ ?_ rfl
  · cases version <;> cases options.nonInteractive <;> rfl
  · cases version <;> cases options.nonInteractive <;> rfl

-- What is asked of the package manager: a call of a registration, or one of the questions beside them.
inductive Duty where
  | registration (call : Registration.PackageCall)
  | baseProduct
  | isServicePlugin (name : String)
  | distributionTarget

namespace Duty

abbrev Reply : Duty → Type
  | .registration call => call.Reply
  | .baseProduct => Product
  | .isServicePlugin _ => Bool
  | .distributionTarget => String

-- The operations that read a list may find that it cannot be read; the others do not fail by themselves.
def Reports : Duty → Error → Prop
  | .registration .installedProducts | .registration .installedServices | .registration .repositories
  | .registration (.findProductPackages _) => Unreadable
  | .baseProduct => fun error => Unreadable error ∨ error = .cannotDetectBaseProduct
  | _ => fun _ => False

end Duty

def fulfil (m : PackageManager) : (duty : Duty) → Action duty.Reply
  | .registration call => m.perform call
  | .baseProduct => m.baseProduct
  | .isServicePlugin name => ExceptT.lift (m.isServicePlugin name)
  | .distributionTarget => m.distributionTarget

theorem minds_fulfil (duty : Duty) : Minds m duty.Reports (m.fulfil duty) := by
  cases duty with
  | baseProduct => exact minds_baseProduct
  | isServicePlugin name => exact minds_peeks (confined_ask trivial)
  | distributionTarget =>
    have commanded : (m.command ["targetos"]).accepted = [success] := accepted_command (List.cons_ne_nil _ _)
    exact minds_bind (minds_run rfl commanded) fun _ => minds_pure
  | registration call =>
    cases call with
    | installedProducts => exact minds_installedProducts
    | installedServices => exact minds_listing "services" rfl rfl rfl
    | addService url name refresh => exact minds_addService
    | removeService name => exact minds_removeService
    | refreshAllServices => exact minds_named "refs" rfl rfl rfl
    | installReleasePackage identifier => exact minds_installReleasePackage
    | removeReleasePackage identifier => exact minds_removeReleasePackage
    | setReleaseVersion version => exact minds_named "ref" rfl rfl rfl
    | repositories => exact minds_listing "repos" rfl rfl rfl
    | findProductPackages identifier => exact minds_listing "search" rfl rfl rfl
    | disableRepository name => exact minds_named "modifyrepo" rfl rfl rfl
    | refreshRepositories version force => exact minds_refreshRepositories
    | distUpgrade version options => exact minds_distUpgrade

-- Whatever is asked of the package manager, and whatever its commands come to.
theorem fulfil_disciplined (m : PackageManager) (duty : Duty) (world : Program.Behaviour inquiry) :
    Disciplined m duty.Reports (Program.play world [] (m.fulfil duty).run).1
      (Program.play world [] (m.fulfil duty).run).2 :=
  minds_fulfil duty _ _ (Program.runs_play world [] (m.fulfil duty).run)

end PackageManager
end Entitlement
