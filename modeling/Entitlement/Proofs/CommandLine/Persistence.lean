import Entitlement.Proofs.CommandLine.Conduct
import Entitlement.Proofs.Settings.Rendering

-- What becomes of the settings file. A run leaves it alone unless it is a registration that succeeds with a server or a
-- namespace of its own. What is then written has the next command work with the same settings.
namespace Entitlement

open Host FileSystem

variable {fs after : FileSystem} {path : String} {events : List Host.Event}

-- A file that cannot be written, or whose directory cannot be made.
def Hinders (path : String) : Host.Event → Prop
  | ⟨.file (.write other _),.error _⟩ => other = path
  | ⟨.file (.createDirectories directory),.error _⟩ => Path.parent? path = some directory
  | _ => False

namespace Settings

variable {s : Settings}

-- What saving comes to. A file that is not written is as it was, though there may be directories for it.
inductive Saves (s : Settings) (path : String) (fs after : FileSystem) (events : List Host.Event) : Result Unit → Prop where
  | saved : after.readFile path = .ok (Text.encode s.render) → Saves s path fs after events (.ok ())
  | failed : event ∈ events → Hinders path event → (∀ place, Bypasses place fs after) →
      Saves s path fs after events (.error error)

theorem saves_of_ran {result : Result Unit} (ran : Ran (s.save path) events result) (follows : Follows fs events after) :
    Saves s path fs after events result := by
  have ends {between : FileSystem} {events : List Host.Event} (follows : Follows between events after)
      (ran : Ran (orFail ("failed to write config: " ++ path) (ask (.file (.write path (Text.encode s.render)))))
        events result) (made : ∀ place, Bypasses place fs between) : Saves s path fs after events result := by
    obtain ⟨reply,asked,rfl⟩ := ran_orFail ran
    rcases changed_eq (fileReply_of_runs asked follows) with ⟨rfl,wrote⟩ | ⟨obstacle,rfl,_,rfl⟩
    · obtain ⟨place,mode,located,free,rfl⟩ := writeFile_eq_ok wrote
      exact .saved (readFile_eq_ok.mpr ⟨place,mode,holds_put located free⟩)
    · cases Program.runs_question.mp asked
      exact .failed (List.mem_singleton_self _) rfl made
  unfold save at ran
  cases parent : Path.parent? path with
  | none =>
    rw [parent] at ran
    exact ends follows ran fun _ => bypasses_refl
  | some directory =>
    rw [parent] at ran
    rcases ran_bind.mp ran with ⟨error,failed,rfl⟩ | ⟨first,_,second,rfl,making,writing⟩
    · obtain ⟨reply,asked,same⟩ := ran_orFail failed
      rcases changed_eq (fileReply_of_runs asked follows) with ⟨rfl,_⟩ | ⟨obstacle,rfl,_,rfl⟩
      · cases same
      · cases Program.runs_question.mp asked
        exact .failed (List.mem_singleton_self _) parent fun _ => bypasses_refl
    · obtain ⟨between,followsMaking,followsWriting⟩ := follows_append.mp follows
      have made := changed_eq_ok (fileReply_of_runs (ran_orFail_ok making) followsMaking)
      cases ends followsWriting writing fun _ => bypasses_createDirectories made with
      | saved found => exact .saved found
      | failed member hinders bypasses => exact .failed (List.mem_append_right _ member) hinders bypasses

theorem yields_load (found : fs.readFile path = .ok (Text.encode s.render)) :
    Yields (load path).run fs (.ok { s with root := defaults.root }) fs := by
  obtain ⟨place,mode,holds⟩ := readFile_eq_ok.mp found
  refine yields_then (yields_lift (yields_fileExists holds.exists)) ?_
  refine yields_then (yields_orFail (CredentialStore.yields_readText found (Text.decode?_encode _))) ?_
  rw [parse?_render]
  exact yields_pure

end Settings

namespace CommandLine

variable {style : Style} {o : Options} {d : Desk} {result : Except Failure Unit}

-- What a command does before it comes to its own work.
def starting (style : Style) (o : Options) : Attempt Desk := do
  let settings ← loadSettings o
  Host.debug ("effective configuration url=" ++ settings.baseUrl ++ " root=" ++ settings.root)
  let collaborators ← (Registration.Collaborators.ofSettings settings : Host.Operation Registration.Collaborators)
  pure (Desk.of o settings collaborators style)

theorem runCommand_eq (other : ∀ shell, o.command ≠ .completions shell) :
    runCommand style o = starting style o >>= Desk.run := by
  unfold runCommand starting
  cases named : o.command with
  | completions shell => exact absurd named (other shell)
  | _ => simp only [bind_assoc,pure_bind]

-- What is done when a registration has succeeded.
def Desk.finish (d : Desk) (outcome : Registration.RegisterOutcome) : Attempt Unit := do
  if d.options.areKept then
    within ("failed to save config: " ++ d.options.config) (d.settings.save d.options.config)
  d.present outcome.toJson do
    printLines (registerLines outcome d.settings.baseUrl)
    printStatus d.style "ok" "Successfully registered system"

theorem run_of_register {regcode : String} {product : Option Triplet} {email instanceData place : Option String}
    (named : d.options.command = .register regcode product email instanceData place) :
    d.run = d.systemInfo instanceData >>= fun system =>
      d.perform (Registration.register d.settings ⟨regcode,product,email⟩ system) >>= d.finish := by
  unfold Desk.run
  rw [named]
  rfl

-- Runs that begin with a registration that succeeds, at a desk.
inductive Registers (style : Style) (o : Options) (d : Desk) : List Host.Event → Prop where
  | intro {system : SystemInfo} {registered : Registration.RegisterOutcome} :
      o.command = .register regcode product email instanceData place → Ran (starting style o) first (.ok d) →
      Ran (d.systemInfo instanceData) second (.ok system) →
      Ran (d.perform (Registration.register d.settings ⟨regcode,product,email⟩ system)) third (.ok registered) →
      Registers style o d (first ++ (second ++ (third ++ rest)))

def reported : Except Failure Unit → List Host.Event
  | .ok () => []
  | .error failure => [⟨.report .debug ("command failed: " ++ failure.report),()⟩]

theorem runs_conclude (runs : Program.Runs (conclude style o) events result) :
    ∃ working, events = working ++ reported result ∧ Ran (runCommand style o) working result := by
  obtain ⟨working,settled,_,rfl,ran,last⟩ := Program.runs_bind.mp runs
  cases settled with
  | ok value =>
    obtain ⟨rfl,rfl⟩ := Program.runs_done.mp last
    exact ⟨working,rfl,ran⟩
  | error failure =>
    obtain ⟨_,_,_,rfl,noted,ends⟩ := Program.runs_bind.mp last
    cases Program.runs_question.mp noted
    obtain ⟨rfl,rfl⟩ := Program.runs_done.mp ends
    exact ⟨working,rfl,ran⟩

theorem reads_starting : Asks Reads (starting style o) := by
  refine asks_bind reads_loadSettings fun settings => asks_bind (asks_lift (Host.confined_ask trivial)) fun _ => ?_
  have peeks := (@Registration.peeks_ofSettings settings).mono fun _ => Host.Peeks.reads
  exact asks_bind (asks_lift peeks) fun _ => asks_pure

theorem desk_of_starting (ran : Ran (starting style o) events (.ok d)) :
    ∃ settings c, d = Desk.of o settings c style := by
  obtain ⟨_,settings,_,_,_,noting⟩ := ran_bind_ok.mp ran
  obtain ⟨_,_,_,_,_,making⟩ := ran_lift_bind.mp noting
  obtain ⟨_,c,_,_,_,last⟩ := ran_lift_bind.mp making
  exact ⟨settings,c,Except.ok.inj (ran_pure.mp last).2⟩

-- What is shown at the end is shown with success.
theorem ran_present {document : Json} {lines : List String} {status message : String}
    (ran : Ran (d.present document do printLines lines; printStatus d.style status message) events result) : result = .ok () := by
  unfold Desk.present at ran
  split at ran
  · exact (ran_printLine.mp ran).2
  rcases ran_bind.mp ran with ⟨_,failed,_⟩ | ⟨_,_,_,_,_,last⟩
  · cases (ran_printLines.mp failed).2
  · exact (ran_printLine.mp last).2

variable {registered : Registration.RegisterOutcome}

theorem reads_closing : Asks Reads (d.present registered.toJson do
    printLines (registerLines registered d.settings.baseUrl)
    printStatus d.style "ok" "Successfully registered system") :=
  reads_present (asks_bind reads_printLines fun _ => reads_printLine)

-- How a registration that succeeded ends where its settings are kept.
inductive Finishes (d : Desk) (fs after : FileSystem) (events : List Host.Event) : Except Failure Unit → Prop where
  | saved : after.readFile d.options.config = .ok (Text.encode d.settings.render) → Finishes d fs after events (.ok ())
  | failed : event ∈ events → Hinders d.options.config event → (∀ place, Bypasses place fs after) →
      Finishes d fs after events (.error (.context ("failed to save config: " ++ d.options.config) (.error error)))

theorem finishes_of_ran (kept : d.options.areKept = true) (ran : Ran (d.finish registered) events result)
    (follows : Follows fs events after) : Finishes d fs after events result := by
  unfold Desk.finish at ran
  rw [if_pos kept] at ran
  rcases ran_bind.mp ran with ⟨failure,failed,rfl⟩ | ⟨first,_,second,rfl,saving,closing⟩
  · obtain ⟨settled,saves,same⟩ := ran_adapt.mp failed
    cases Settings.saves_of_ran saves follows with
    | saved found => cases same
    | failed member hinders bypasses =>
      cases same
      exact .failed member hinders bypasses
  · obtain ⟨between,followsSaving,followsClosing⟩ := follows_append.mp follows
    obtain ⟨settled,saves,same⟩ := ran_adapt.mp saving
    rw [ran_present closing,unchanged_of_reads (reads_closing _ _ closing) followsClosing]
    cases Settings.saves_of_ran saves followsSaving with
    | saved found => exact .saved found
    | failed member hinders bypasses => cases same

theorem discreet_finish (unkept : d.options.areKept = false) : Makes Discreet (d.finish registered) := by
  unfold Desk.finish
  rw [unkept]
  exact makes_reads reads_closing

-- What a registration that succeeds has done, and what is left to do.
theorem Registers.rest {tail : List Host.Event} (registers : Registers style o d (events ++ tail))
    (ran : Ran (runCommand style o) events result) :
    d.options = o ∧ ∃ before rest registered, events = before ++ rest ∧ Discreet before ∧
      Ran (d.finish registered) rest result := by
  generalize whole : events ++ tail = all at registers
  obtain ⟨named,started,informed,performed⟩ := registers
  rename_i first second third rest system registered
  obtain ⟨settings,c,rfl⟩ := desk_of_starting started
  rw [runCommand_eq (by simp [named])] at ran
  obtain ⟨_,rfl,ahead,running⟩ := ran_resume started ran whole.symm
  rw [run_of_register named] at running
  obtain ⟨_,rfl,further,performing⟩ := ran_resume informed running ahead
  obtain ⟨last,rfl,_,finishing⟩ := ran_resume performed performing further
  have composes := Host.composes_discreet
  have begun := makes_reads reads_starting _ _ started
  have known := makes_reads reads_systemInfo _ _ informed
  have done := discreet_perform (sealed_of o settings c style) _ _ performed
  exact ⟨rfl,first ++ (second ++ third),last,registered,by simp,composes.append _ _ begun (composes.append _ _ known done),
    finishing⟩

-- A registration that ends well has succeeded.
theorem registers_of_ok {regcode : String} {product : Option Triplet} {email instanceData place : Option String}
    (named : o.command = .register regcode product email instanceData place)
    (ran : Ran (runCommand style o) events (.ok ())) : ∃ d, Registers style o d events := by
  rw [runCommand_eq (by simp [named])] at ran
  obtain ⟨first,d,_,rfl,started,running⟩ := ran_bind_ok.mp ran
  obtain ⟨settings,c,rfl⟩ := desk_of_starting started
  rw [run_of_register named] at running
  obtain ⟨second,system,_,rfl,informed,performing⟩ := ran_bind_ok.mp running
  obtain ⟨third,registered,rest,rfl,performed,_⟩ := ran_bind_ok.mp performing
  exact ⟨_,.intro named started informed performed⟩

-- Every other run writes nothing but secrets.
theorem discreet_runCommand (unkept : ¬ (o.areKept = true ∧ ∃ d, Registers style o d events))
    (ran : Ran (runCommand style o) events result) : Discreet events := by
  have composes := Host.composes_discreet
  by_cases completes : ∃ shell, o.command = .completions shell
  · obtain ⟨shell,named⟩ := completes
    simp only [runCommand,named] at ran
    have prints : Asks Reads (ExceptT.lift (Host.print shell.script) : Attempt Unit) := asks_lift (Host.confined_ask trivial)
    exact makes_reads prints _ _ ran
  rw [runCommand_eq fun shell named => completes ⟨shell,named⟩] at ran
  rcases ran_bind.mp ran with ⟨_,failed,_⟩ | ⟨first,d,rest,rfl,started,running⟩
  · exact makes_reads reads_starting _ _ failed
  have begun := makes_reads reads_starting _ _ started
  refine composes.append _ _ begun ?_
  obtain ⟨settings,c,rfl⟩ := desk_of_starting started
  have sealed := sealed_of o settings c style
  by_cases registering : ∃ regcode product email instanceData place,
      o.command = .register regcode product email instanceData place
  · obtain ⟨regcode,product,email,instanceData,place,named⟩ := registering
    rw [run_of_register named] at running
    rcases ran_bind.mp running with ⟨_,failed,_⟩ | ⟨second,system,_,rfl,informed,performing⟩
    · exact makes_reads reads_systemInfo _ _ failed
    refine composes.append _ _ (makes_reads reads_systemInfo _ _ informed) ?_
    rcases ran_bind.mp performing with ⟨_,failed,_⟩ | ⟨third,registered,last,rfl,performed,finishing⟩
    · exact discreet_perform sealed _ _ failed
    refine composes.append _ _ (discreet_perform sealed _ _ performed) ?_
    have registers := @Registers.intro style o _ _ _ _ _ _ _ _ _ last system registered named started informed performed
    exact discreet_finish (Bool.eq_false_iff.mpr fun kept => unkept ⟨kept,_,registers⟩) _ _ finishing
  · refine discreet_run sealed ?_ _ _ running
    intro same
    apply registering
    have named : o.command.name = "register" := same
    cases command : o.command with
    | register regcode product email instanceData place => exact ⟨_,_,_,_,_,rfl⟩
    | _ => simp [command,Command.name] at named

-- Commands whose options say nothing about the settings.
structure Follower (config : String) (o : Options) : Prop where
  same : o.config = config
  url : o.url = none
  root : o.root = none
  insecure : o.insecure = false
  namespaceName : o.command.namespaceName = none
  works : ∀ shell, o.command ≠ .completions shell

-- Such a command works with given settings, at the default root.
def Resumes (config : String) (kept : Settings) (fs : FileSystem) : Prop :=
  ∀ style o events result after, Follower config o → Program.Runs (conclude style o) events result →
    Follows fs events after → ∃ first rest c, events = first ++ (rest ++ reported result) ∧
      Ran (starting style o) first (.ok (Desk.of o { kept with root := Settings.defaults.root } c style)) ∧
      Ran (Desk.of o { kept with root := Settings.defaults.root } c style).run rest result

theorem override_of_follower {config : String} (follower : Follower config o) (kept : Settings) : o.override kept = kept := by
  simp [Options.override,follower.url,follower.root,follower.insecure,follower.namespaceName]

theorem ran_loadSettings {config : String} {kept : Settings} {settled : Except Failure Settings}
    (follower : Follower config o) (found : fs.readFile config = .ok (Text.encode kept.render))
    (ran : Ran (loadSettings o) events settled) (follows : Follows fs events after) :
    settled = .ok { kept with root := Settings.defaults.root } := by
  have yields := Settings.yields_load found
  rw [← follower.same] at yields
  rcases ran_bind.mp ran with ⟨failure,failed,rfl⟩ | ⟨first,settings,last,rfl,loaded,ends⟩
  · obtain ⟨_,loading,same⟩ := ran_adapt.mp failed
    obtain ⟨rfl,_⟩ := yields _ _ _ loading follows
    cases same
  · obtain ⟨_,loading,same⟩ := ran_adapt.mp loaded
    obtain ⟨_,followsLoading,_⟩ := follows_append.mp follows
    obtain ⟨rfl,_⟩ := yields _ _ _ loading followsLoading
    cases same
    rw [(ran_pure.mp ends).2,override_of_follower follower]

theorem ran_starting {config : String} {kept : Settings} {settled : Except Failure Desk}
    (follower : Follower config o) (found : fs.readFile config = .ok (Text.encode kept.render))
    (ran : Ran (starting style o) events settled) (follows : Follows fs events after) :
    ∃ c, settled = .ok (Desk.of o { kept with root := Settings.defaults.root } c style) := by
  rcases ran_bind.mp ran with ⟨_,failed,_⟩ | ⟨_,settings,_,rfl,loaded,noting⟩
  · cases ran_loadSettings follower found failed follows
  obtain ⟨_,followsLoading,_⟩ := follows_append.mp follows
  cases ran_loadSettings follower found loaded followsLoading
  obtain ⟨_,_,_,_,_,making⟩ := ran_lift_bind.mp noting
  obtain ⟨_,c,_,_,_,last⟩ := ran_lift_bind.mp making
  exact ⟨c,(ran_pure.mp last).2⟩

theorem resumes_of_readFile {config : String} {kept : Settings}
    (found : fs.readFile config = .ok (Text.encode kept.render)) : Resumes config kept fs := by
  intro style o events result after follower runs follows
  obtain ⟨working,rfl,ran⟩ := runs_conclude runs
  obtain ⟨_,followsWorking,_⟩ := follows_append.mp follows
  rw [runCommand_eq follower.works] at ran
  rcases ran_bind.mp ran with ⟨_,failed,_⟩ | ⟨first,_,rest,rfl,started,running⟩
  · obtain ⟨_,impossible⟩ := ran_starting follower found failed followsWorking
    cases impossible
  · obtain ⟨_,followsStarting,_⟩ := follows_append.mp followsWorking
    obtain ⟨c,same⟩ := ran_starting follower found started followsStarting
    cases same
    exact ⟨first,rest,c,List.append_assoc _ _ _,started,running⟩

-- What becomes of the file by a run.
structure Persists (style : Style) (o : Options) (fs : FileSystem) (events : List Host.Event)
    (result : Except Failure Unit) (after : FileSystem) : Prop where
  unchanged : ¬ (o.areKept = true ∧ ∃ d, Registers style o d events) →
    after.fileAt (fs.destination o.config) = fs.fileAt (fs.destination o.config)
  written : o.areKept = true → ∀ d, Registers style o d events → (¬ ∃ event ∈ events, Hinders o.config event) →
    result = .ok ()
  unwritten : o.areKept = true → ∀ d, Registers style o d events → result ≠ .ok () →
    after.fileAt (fs.destination o.config) = fs.fileAt (fs.destination o.config)
  kept : o.areKept = true → ∀ d, Registers style o d events → result = .ok () →
    after.readFile o.config = .ok (Text.encode d.settings.render) ∧
    ∀ later, later.readFile o.config = after.readFile o.config → Resumes o.config d.settings later

theorem unchanged_of_reported (follows : Follows fs (reported result) after) : after = fs :=
  unchanged_of_reads (by cases result <;> simp [reported,Reads]) follows

theorem Registers.append (registers : Registers style o d events) (tail : List Host.Event) :
    Registers style o d (events ++ tail) := by
  obtain ⟨named,started,informed,performed⟩ := registers
  simp only [List.append_assoc]
  exact .intro named started informed performed

-- The file is none that the run closes for its owner or takes away.
theorem settings_persist (runs : Program.Runs (conclude style o) events result) (follows : Follows fs events after)
    (apart : ∀ path ∈ guarded events, fs.destination path ≠ fs.destination o.config) :
    Persists style o fs events result after := by
  obtain ⟨working,rfl,ran⟩ := runs_conclude runs
  obtain ⟨between,followsWorking,followsReport⟩ := follows_append.mp follows
  cases unchanged_of_reported followsReport
  rw [guarded_append,List.forall_mem_append] at apart
  have closes (kept : o.areKept = true) {d : Desk} (registers : Registers style o d (working ++ reported result)) :
      ∃ middle rest, rest ⊆ working ∧ Bypasses (fs.destination o.config) fs middle ∧ d.options = o ∧
        Finishes d middle after rest result := by
    obtain ⟨rfl,before,rest,_,rfl,discreet,finishing⟩ := registers.rest ran
    obtain ⟨middle,followsBefore,followsRest⟩ := follows_append.mp followsWorking
    rw [guarded_append,List.forall_mem_append] at apart
    have bypasses := discreet.bypasses followsBefore apart.1.1
    exact ⟨middle,rest,List.subset_append_right before rest,bypasses,rfl,finishes_of_ran kept finishing followsRest⟩
  refine ⟨?_,?_,?_,?_⟩
  · intro unkept
    refine ((discreet_runCommand ?_ ran).bypasses followsWorking apart.1).file
    rintro ⟨kept,d,registers⟩
    exact unkept ⟨kept,d,registers.append _⟩
  · intro kept d registers free
    obtain ⟨_,rest,within,_,rfl,finishes⟩ := closes kept registers
    cases finishes with
    | saved found => rfl
    | failed member hinders _ => exact absurd ⟨_,List.mem_append_left _ (within member),hinders⟩ free
  · intro kept d registers failed
    obtain ⟨_,rest,_,before,_,finishes⟩ := closes kept registers
    cases finishes with
    | saved found => exact absurd rfl failed
    | failed _ _ bypasses => exact (before.trans (bypasses _)).file
  · intro kept d registers succeeded
    obtain ⟨_,rest,_,_,rfl,finishes⟩ := closes kept registers
    cases finishes with
    | saved found => exact ⟨found,fun later same => resumes_of_readFile (same.trans found)⟩
    | failed _ _ _ => cases succeeded

-- A registration with a server of its own, where all commands succeed and the server answers everything with one body.

def answering : Surroundings Unit where
  run _ := pure (.ok ⟨0,[],[]⟩)
  exchange _ := pure (some ⟨200,[],Text.encode "\x7b\"login\":\"SCC_1\",\"password\":\"secret\",\"name\":\"base\"\x7d",true⟩)

def untouched : Machine Unit where
  files := ⟨[],[]⟩
  environment := []
  accountHome := none
  hardware := default
  input := []
  printed := []
  events := []
  surroundings := ()

def chosen : Options :=
  ⟨"/etc/entitle.toml",none,some "http://scc.local",false,false,false,false,
    .register "" (some ⟨"SLES","15","x86_64"⟩) none none none⟩

theorem chosen_persists : ∃ events after d, Program.Runs (conclude .plain chosen) events (.ok ()) ∧
    Follows untouched.files events after ∧ Registers .plain chosen d events ∧
    Persists .plain chosen untouched.files events (.ok ()) after ∧
    after.readFile chosen.config = .ok (Text.encode d.settings.render) ∧ Resumes chosen.config d.settings after := by
  obtain ⟨runs,follows⟩ := run_transcript answering (conclude .plain chosen) untouched
  have succeeds : (Machine.run answering (conclude .plain chosen) untouched).1.toBool = true := by decide +kernel
  have apart : ∀ path ∈ guarded (transcript answering (conclude .plain chosen) untouched),
      untouched.files.destination path ≠ untouched.files.destination chosen.config := by decide +kernel
  generalize transcript answering (conclude .plain chosen) untouched = events at runs follows apart
  generalize Machine.run answering (conclude .plain chosen) untouched = left at runs follows succeeds
  obtain ⟨result,after⟩ := left
  cases result with
  | error failure => cases succeeds
  | ok value =>
    have persists := settings_persist runs follows apart
    obtain ⟨working,rfl,ran⟩ := runs_conclude runs
    obtain ⟨d,registers⟩ := registers_of_ok rfl ran
    obtain ⟨found,resumes⟩ := persists.kept rfl d (registers.append _) rfl
    exact ⟨_,after.files,d,runs,follows,registers.append _,persists,found,resumes _ rfl⟩

end CommandLine
end Entitlement
