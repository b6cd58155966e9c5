import Entitlement.Proofs.CommandLine.Desk
import Entitlement.Proofs.Registration.Planning
import Entitlement.Proofs.Registration.Reach

-- The exit code of a failed migration. It says whether the upgrade of the distribution stopped half-way, and that is
-- the same as saying how the command for it ended: no other command and no answer of the server comes to that code.
namespace Entitlement.CommandLine

open Host (Event Deaf Travels Stays Works)
open PackageManager (Modest)
open Registration (planMigrations applyMigration upgradeReplies upgradeReply commitFailed MigrationPlan)

-- Calls that are answered by a package manager. The server may answer anything, and only it sends requests.
structure Over (d : Desk) (m : PackageManager) : Prop where
  packages : ∀ call, d.session (.packages call) = (m.perform call).run
  server : ∀ call, Program.Confined Travels (d.session (.server call))
  others : ∀ q, (∀ call, q ≠ .packages call) → (∀ call, q ≠ .server call) → Program.Confined Stays (d.session q)

theorem over_of (options : Options) (settings : Settings) (c : Registration.Collaborators) (style : Style) :
    Over (Desk.of options settings c style) c.packages where
  packages _ := rfl
  server := Server.makes_perform (Host.covers_allowed fun _ => Stays.travels) fun _ => Host.confined_ask trivial
  others q unpackaged unserved := by
    cases q with
    | server call => exact absurd rfl (unserved call)
    | packages call => exact absurd rfl (unpackaged call)
    | store call => exact CredentialStore.makes_perform (Host.covers_allowed fun _ => id) call
    | hasSystemCredentials => exact CredentialStore.peeks_hasSystem.mono fun _ => Host.Peeks.stays
    | isServicePlugin name => exact Host.confined_ask trivial
    | fileExists path => exact Host.confined_ask trivial
    | report level event => exact Host.confined_ask trivial

-- A command for the upgrade of the distribution, and one that stopped half-way.

def RunsUpgrade : Event → Prop
  | ⟨.run command,_⟩ => command.Upgrades
  | _ => False

def Halfway (events : List Event) : Prop :=
  ∃ command output, ⟨.run command,.ok output⟩ ∈ events ∧ command.Upgrades ∧ output.exitCode = 8

theorem halfway_append {first second : List Event} : Halfway (first ++ second) ↔ Halfway first ∨ Halfway second := by
  simp only [Halfway,List.mem_append,or_and_right,exists_or]

def Calm (events : List Event) : Prop := ∀ event ∈ events, ¬ RunsUpgrade event

theorem calm_append {first second : List Event} : Calm (first ++ second) ↔ Calm first ∧ Calm second :=
  List.forall_mem_append

theorem not_halfway_of_calm {events : List Event} (calm : Calm events) : ¬ Halfway events := by
  intro halfway
  obtain ⟨_,_,member,upgrades,_⟩ := halfway
  exact calm _ member upgrades

theorem calm_of_works {events : List Event} (works : ∀ event ∈ events, Works Modest event.question) : Calm events := by
  intro event member
  have fits := works event member
  obtain ⟨q,answer⟩ := event
  cases q with
  | run command => exact fits
  | _ => exact id

-- Nothing is run or sent.
def Idle (events : List Event) : Prop := ∀ event ∈ events,
  (∀ command, event.question ≠ .run command) ∧ ∀ exchange, event.question ≠ .exchange exchange

theorem idle_append {first second : List Event} : Idle (first ++ second) ↔ Idle first ∧ Idle second :=
  List.forall_mem_append

theorem idle_of_talks {events : List Event} (talks : Talks events) : Idle events := by
  intro event member
  have converses := talks event member
  constructor
  · intro command same
    rw [same] at converses
    cases converses
  · intro exchange same
    rw [same] at converses
    cases converses

theorem idle_of_stays {events : List Event} (stays : ∀ event ∈ events, Stays event.question) : Idle events := by
  intro event member
  have fits := stays event member
  constructor
  · intro command same
    rw [same] at fits
    cases fits
  · intro exchange same
    rw [same] at fits
    cases fits

theorem calm_of_idle {events : List Event} (idle : Idle events) : Calm events := by
  intro event member
  have still := (idle event member).1
  obtain ⟨q,answer⟩ := event
  cases q with
  | run command => exact absurd rfl (still command)
  | _ => exact id

theorem calm_of_talks {events : List Event} (talks : Talks events) : Calm events := calm_of_idle (idle_of_talks talks)

variable {d : Desk} {m : PackageManager}

-- Every question of a registration but the upgrade of the distribution.
def Spares (q : Registration.Question) : Prop := ∀ version options, q ≠ .packages (.distUpgrade version options)

theorem spares_of {allowed : Registration.Question → Prop}
    (never : ∀ version options, ¬ allowed (.packages (.distUpgrade version options))) (q : Registration.Question)
    (fits : allowed q) : Spares q := by
  intro version options same
  rw [same] at fits
  exact never version options fits

theorem Over.works (above : Over d m) {q : Registration.Question} (spares : Spares q) :
    Program.Confined (Works Modest) (d.session q) := by
  by_cases packaged : ∃ call, q = .packages call
  · obtain ⟨call,rfl⟩ := packaged
    rw [above.packages]
    have apart : ∀ version options, call ≠ .distUpgrade version options :=
      fun version options same => spares version options (congrArg _ same)
    exact (PackageManager.modest_perform apart).mono fun _ => Host.Commands.works
  by_cases served : ∃ call, q = .server call
  · obtain ⟨call,rfl⟩ := served
    exact (above.server call).mono fun _ => Travels.works
  · have stays := above.others q (fun call same => packaged ⟨call,same⟩) fun call same => served ⟨call,same⟩
    exact stays.mono fun _ => Stays.works

theorem Over.calm (above : Over d m) (spares : ∀ call ∈ calls, Spares call.question)
    (enacts : Program.Enacts d.session calls events) : Calm events :=
  calm_of_works (Program.enacts_confined (fun call member => above.works (spares call member)) enacts)

theorem halfway_upgrade {note : String} {command : Host.Command}
    {reply : Except Obstacle Host.CommandOutput} (named : command.Upgrades) :
    Halfway [⟨.report .debug note,()⟩,⟨.run command,reply⟩] ↔ ∃ output, reply = .ok output ∧ output.exitCode = 8 := by
  constructor
  · intro halfway
    obtain ⟨_,output,member,_,code⟩ := halfway
    rcases List.mem_cons.mp member with same | member
    · cases same
    · cases List.mem_singleton.mp member
      exact ⟨output,rfl,code⟩
  · intro stopped
    obtain ⟨output,rfl,code⟩ := stopped
    exact ⟨command,output,by simp,named,code⟩

theorem upgradeReply_spares {call : Registration.Event} (spares : Spares call.question) : upgradeReply call = none := by
  obtain ⟨q,reply⟩ := call
  cases q with
  | packages call => cases call <;> first | rfl | exact absurd rfl (spares _ _)
  | _ => rfl

-- Whether the upgrade stopped half-way can be told from the calls.
theorem Over.halfway_iff (above : Over d m) (enacts : Program.Enacts d.session calls events) :
    Halfway events ↔ ∃ error, .error error ∈ upgradeReplies calls ∧ error.exitCode = some commitFailed := by
  induction enacts with
  | nil => simp [Halfway,upgradeReplies]
  | @cons q row reply calls rest called _ ih =>
    rw [halfway_append,ih]
    by_cases upgrades : ∃ version options, q = .packages (.distUpgrade version options)
    · obtain ⟨version,options,rfl⟩ := upgrades
      rw [above.packages] at called
      obtain ⟨note,command,answer,rfl,named,codes⟩ := PackageManager.ran_distUpgrade called
      have replies : upgradeReplies (⟨.packages (.distUpgrade version options),reply⟩ :: calls) =
        reply :: upgradeReplies calls := rfl
      rw [halfway_upgrade named,← codes,replies]
      simp only [List.mem_cons,or_and_right,exists_or,eq_comm]
    · have spares : Spares q := fun version options same => upgrades ⟨version,options,same⟩
      have calm := not_halfway_of_calm (calm_of_works (above.works spares _ _ called))
      have replies : upgradeReplies (⟨q,reply⟩ :: calls) = upgradeReplies calls :=
        List.filterMap_cons_none (upgradeReply_spares spares)
      rw [replies]
      simp only [calm,false_or]

-- Failures that have nothing to do with a migration.
def Ordinary (result : Except Failure α) : Prop := ∀ failure, result = .error failure → failure.exitCode = 1

theorem ordinary_ok {value : α} : Ordinary (.ok value) := nofun

theorem ordinary_error {failure : Failure} (code : failure.exitCode = 1) : Ordinary (.error failure : Except Failure α) := by
  intro other same
  cases same
  exact code

-- People may be told and may say anything while they choose.
theorem ran_askForMigration {available attempts : Nat} {result : Except Failure (Option Nat)}
    (ran : Ran (askForMigration available attempts) events result) : Talks events ∧ Ordinary result := by
  induction attempts generalizing events with
  | zero =>
    obtain ⟨rfl,rfl⟩ := ran_throw.mp ran
    exact ⟨talks_printed [],ordinary_error rfl⟩
  | succ attempts ih =>
    obtain ⟨_,rfl,reading⟩ := ran_print_bind.mp ran
    obtain ⟨answer,_,rfl,answered⟩ := ran_ask_bind.mp reading
    have opens {later : List Event} (talks : Talks later) :
        Talks (⟨.print "[num/q]: ",()⟩ :: ⟨.readLine,answer⟩ :: later) :=
      List.forall_mem_cons.mpr ⟨trivial,List.forall_mem_cons.mpr ⟨trivial,talks⟩⟩
    cases answer with
    | error obstacle =>
      obtain ⟨rfl,rfl⟩ := ran_throw.mp answered
      exact ⟨opens (talks_printed []),ordinary_error rfl⟩
    | ok line =>
      dsimp only at answered
      split at answered
      · obtain ⟨rfl,rfl⟩ := ran_throw.mp answered
        exact ⟨opens (talks_printed []),ordinary_error rfl⟩
      split at answered
      · obtain ⟨rfl,rfl⟩ := ran_pure.mp answered
        exact ⟨opens (talks_printed []),ordinary_ok⟩
      · obtain ⟨rfl,rfl⟩ := ran_pure.mp answered
        exact ⟨opens (talks_printed []),ordinary_ok⟩
      · obtain ⟨_,rfl,others⟩ := ran_print_bind.mp answered
        obtain ⟨talks,ordinary⟩ := ih others
        exact ⟨opens (List.forall_mem_cons.mpr ⟨trivial,talks⟩),ordinary⟩

variable {o : MigrateOptions} {plan : MigrationPlan}

theorem talks_chooseMigration {result : Except Failure (Option Nat)} (ran : Ran (d.chooseMigration o plan) events result) :
    Talks events ∧ Ordinary result := by
  cases named : o.migration with
  | some number =>
    simp only [Desk.chooseMigration,named] at ran
    by_cases inside : 1 ≤ number ∧ number ≤ plan.available.length
    · rw [migrationIndex_inside inside] at ran
      obtain ⟨rfl,rfl⟩ := ran_pure.mp ran
      exact ⟨talks_printed [],ordinary_ok⟩
    · obtain ⟨_,refused⟩ := migrationIndex_outside inside
      rw [refused] at ran
      obtain ⟨rfl,rfl⟩ := ran_throw.mp ran
      exact ⟨talks_printed [],ordinary_error rfl⟩
  | none =>
    cases interactive : o.nonInteractive with
    | true =>
      simp only [Desk.chooseMigration,named,interactive,if_true] at ran
      obtain ⟨rfl,rfl⟩ := ran_pure.mp ran
      exact ⟨talks_printed [],ordinary_ok⟩
    | false =>
      obtain ⟨count,asking,rfl,asked⟩ := ran_chooseMigration named interactive ran
      obtain ⟨talks,ordinary⟩ := ran_askForMigration asked
      exact ⟨talks_asked talks,ordinary⟩

-- What is done with a plan: talk, or the migration of one path between talk.
theorem ran_migrateBy {result : Except Failure Unit} (ran : Ran (d.migrateBy o plan) events result) :
    Talks events ∧ Ordinary result ∨
    ∃ before path row ended after, events = before ++ (row ++ after) ∧ Talks before ∧ Talks after ∧
      Ran (d.perform (applyMigration path (d.migrationOptions o))) row (.ok ended) ∧ result = conclusion ended := by
  unfold Desk.migrateBy at ran
  split at ran
  · obtain ⟨rfl,rfl⟩ := ran_printLines.mp ran
    exact .inl ⟨talks_printed _,ordinary_ok⟩
  rcases ran_bind.mp ran with ⟨failure,failed,rfl⟩ | ⟨before,index,_,rfl,chosen,later⟩
  · obtain ⟨talks,ordinary⟩ := talks_chooseMigration failed
    exact .inl ⟨talks,ordinary_error (ordinary failure rfl)⟩
  have talks := (talks_chooseMigration chosen).1
  rcases ran_applyAt later with ⟨_,rfl,rfl⟩ | ⟨path,row,ended,after,_,rfl,applied,closing,rfl⟩
  · exact .inl ⟨talks_append.mpr ⟨talks,talks_printed []⟩,ordinary_ok⟩
  · exact .inr ⟨before,path,row,ended,after,rfl,talks,closing,applied,rfl⟩

-- A run that ends with an upgrade that stopped half-way.
def Ends (events : List Event) : Prop :=
  ∃ front command output back, events = front ++ ⟨.run command,.ok output⟩ :: back ∧ command.Upgrades ∧
    output.exitCode = 8 ∧ Calm front ∧ Idle back

theorem Ends.halfway (ends : Ends events) : Halfway events := by
  obtain ⟨_,command,output,_,rfl,upgrades,code,_,_⟩ := ends
  exact ⟨command,output,by simp,upgrades,code⟩

theorem Ends.between {before after : List Event} (ends : Ends events) (calm : Calm before) (idle : Idle after) :
    Ends (before ++ (events ++ after)) := by
  obtain ⟨front,command,output,back,rfl,upgrades,code,calm',idle'⟩ := ends
  exact ⟨before ++ front,command,output,back ++ after,by simp,upgrades,code,calm_append.mpr ⟨calm,calm'⟩,
    idle_append.mpr ⟨idle',idle⟩⟩

-- The calls of a migration whose upgrade stopped half-way end with that upgrade and a note.
theorem Over.ends (above : Over d m) {path : MigrationPath} {options : Registration.MigrationOptions} {error : Error}
    (course : Registration.Course path options calls (.error ⟨error,true,none⟩))
    (enacts : Program.Enacts d.session calls row) : Ends row := by
  cases course with
  | halfway preparation stopped =>
    obtain ⟨preparing,_,rfl,first,second⟩ := Program.enacts_append.mp enacts
    obtain ⟨_,_,rfl,called,third⟩ := Program.enacts_cons.mp second
    obtain ⟨noting,_,rfl,noted,last⟩ := Program.enacts_cons.mp third
    cases last
    rw [above.packages] at called
    obtain ⟨note,command,reply,rfl,named,codes⟩ := PackageManager.ran_distUpgrade called
    obtain ⟨output,rfl,code⟩ := codes.mp ⟨error,rfl,stopped⟩
    have prepares := Registration.asks_prepareMigration _ _ preparation
    have calm := above.calm (fun call member => spares_of (fun _ _ => id) _ (prepares call member)) first
    have quiet : Calm [⟨.report .debug note,()⟩] := by simp [Calm,RunsUpgrade]
    have idle := idle_of_stays (above.others (.report _ _) nofun nofun _ _ noted)
    refine ⟨preparing ++ [⟨.report .debug note,()⟩],command,output,noting ++ [],by simp,named,code,?_,?_⟩
    · exact calm_append.mpr ⟨calm,quiet⟩
    · simpa using idle

-- The row of a migration, by how the migration ended.
theorem Over.migrated (above : Over d m) {path : MigrationPath} {options : Registration.MigrationOptions}
    {ended : Except Registration.MigrationFailure Registration.MigrationReport}
    (ran : Ran (d.perform (applyMigration path options)) row (.ok ended)) :
    (Ends row ∧ ∃ error, ended = .error ⟨error,true,none⟩) ∨ ¬ Halfway row ∧ Ordinary (conclusion ended) := by
  obtain ⟨calls,settled,applied,enacts,same⟩ := ran_perform.mp ran
  obtain ⟨other,rfl,course⟩ := Registration.course_of_ran applied
  cases same
  rw [above.halfway_iff enacts]
  rcases course.replies with ⟨replies,⟨_,rfl⟩ | ⟨_,rfl⟩⟩ | ⟨error,replies,⟨_,rfl⟩ | ⟨different,_,rfl⟩⟩ |
    ⟨replies,_,_,_,_,_,_,rfl⟩
  · exact .inr ⟨by simp [replies],ordinary_ok⟩
  · exact .inr ⟨by simp [replies],ordinary_error rfl⟩
  · exact .inl ⟨above.ends course enacts,error,rfl⟩
  · exact .inr ⟨by simpa [replies] using different,ordinary_error rfl⟩
  · exact .inr ⟨by simp [replies],ordinary_error rfl⟩

-- How a run ends, and what of it can be told from the exit code.
structure Reports (events : List Event) (result : Except Failure Unit) : Prop where
  halfway : (∃ failure, result = .error failure ∧ failure.exitCode = 2) ↔ Halfway events
  otherwise : ¬ Halfway events → Ordinary result
  last : Halfway events → Ends events
  wrapped : ∀ failure, result = .error failure →
    ∀ texts : List String, (texts.foldr Failure.context failure).exitCode = failure.exitCode

theorem exitCode_wrapped (failure : Failure) (texts : List String) :
    (texts.foldr Failure.context failure).exitCode = failure.exitCode := by
  induction texts with
  | nil => rfl
  | cons text rest ih => exact ih

theorem reports_of_ordinary {result : Except Failure Unit} (spared : ¬ Halfway events) (ordinary : Ordinary result) :
    Reports events result where
  halfway := by
    constructor
    · intro half
      obtain ⟨failure,rfl,code⟩ := half
      rw [ordinary failure rfl] at code
      cases code
    · intro halfway
      exact absurd halfway spared
  otherwise _ := ordinary
  last halfway := absurd halfway spared
  wrapped failure _ texts := exitCode_wrapped failure texts

theorem spares_planMigrations {target : Option Triplet} : Asks Spares (planMigrations target) := by
  have examines : ∀ q, Registration.Examines q → Spares q :=
    spares_of fun _ _ examines => examines.elim id id
  refine asks_bind (Registration.asks_requireRegistration nofun) fun _ => ?_
  refine asks_bind (Registration.asks_packages nofun) fun _ => ?_
  refine asks_bind (Registration.asks_checkSystemProducts.mono examines) fun products => ?_
  have asked : Asks Spares (Registration.productMigrations products (Registration.goal target)) :=
    asks_bind (Registration.asks_requireRegistration nofun) fun _ => Registration.asks_server nofun
  exact asks_bind asked fun paths => asks_bind (Registration.asks_ask nofun) fun _ => asks_pure

theorem Over.planned (above : Over d m) {target : Option Triplet} {result : Except Failure MigrationPlan}
    (ran : Ran (d.perform (planMigrations target)) events result) : Calm events ∧ Ordinary result := by
  obtain ⟨calls,settled,planned,enacts,rfl⟩ := ran_perform.mp ran
  refine ⟨above.calm (spares_planMigrations _ _ planned) enacts,?_⟩
  cases settled with
  | ok plan => exact ordinary_ok
  | error error => exact ordinary_error rfl

theorem Over.reports (above : Over d m) {result : Except Failure Unit} (ran : Ran (d.runMigrate o) events result) :
    Reports events result := by
  rcases ran_bind.mp ran with ⟨failure,failed,rfl⟩ | ⟨planning,plan,_,rfl,planned,carried⟩
  · obtain ⟨calm,ordinary⟩ := above.planned failed
    exact reports_of_ordinary (not_halfway_of_calm calm) (ordinary_error (ordinary failure rfl))
  have calm := (above.planned planned).1
  rcases ran_migrateBy carried with ⟨talks,ordinary⟩ | ⟨before,path,row,ended,after,rfl,opening,closing,applied,rfl⟩
  · exact reports_of_ordinary (not_halfway_of_calm (calm_append.mpr ⟨calm,calm_of_talks talks⟩)) ordinary
  have front : Calm (planning ++ before) := calm_append.mpr ⟨calm,calm_of_talks opening⟩
  rw [← List.append_assoc]
  rcases above.migrated applied with ⟨ends,error,rfl⟩ | ⟨spared,ordinary⟩
  · have whole := ends.between front (idle_of_talks closing)
    refine ⟨⟨fun _ => whole.halfway,fun _ => ⟨_,rfl,rfl⟩⟩,fun spared => absurd whole.halfway spared,fun _ => whole,?_⟩
    exact fun failure _ texts => exitCode_wrapped failure texts
  · have closed : Calm after := calm_of_talks closing
    refine reports_of_ordinary ?_ ordinary
    intro halfway
    rcases halfway_append.mp halfway with early | late
    · exact not_halfway_of_calm front early
    rcases halfway_append.mp late with migrating | after
    · exact spared migrating
    · exact not_halfway_of_calm closed after

theorem Reports.after {before : List Event} {result : Except Failure Unit} (reports : Reports events result)
    (calm : Calm before) : Reports (before ++ events) result := by
  have same : Halfway (before ++ events) ↔ Halfway events := by
    rw [halfway_append]
    simp only [not_halfway_of_calm calm,false_or]
  refine ⟨reports.halfway.trans same.symm,fun spared => reports.otherwise (mt same.mpr spared),?_,reports.wrapped⟩
  intro halfway
  have ends := (reports.last (same.mp halfway)).between calm (idle_of_talks (talks_printed []))
  rwa [List.map_nil,List.append_nil] at ends

theorem calm_of_peeks {events : List Event} (peeks : ∀ event ∈ events, Host.Peeks event.question) : Calm events :=
  calm_of_works fun event member => (peeks event member).stays.works

-- What a command does before it comes to its own work.
theorem reports_of_runCommand {style : Style} {options : Options} {result : Except Failure Unit}
    (ran : Ran (runCommand style { options with command := .migrate o }) events result) : Reports events result := by
  have loads {events : List Event} {result : Except Failure Settings}
      (ran : Ran (loadSettings { options with command := .migrate o }) events result) :
      Calm events ∧ Ordinary result := by
    rcases ran_bind.mp ran with ⟨failure,failed,rfl⟩ | ⟨_,settings,_,rfl,loaded,last⟩
    · obtain ⟨settled,reading,same⟩ := ran_adapt.mp failed
      refine ⟨calm_of_peeks (Settings.peeks_load _ _ reading),?_⟩
      cases settled with
      | ok settings => cases same
      | error error =>
        cases same
        exact ordinary_error rfl
    · obtain ⟨settled,reading,_⟩ := ran_adapt.mp loaded
      obtain ⟨rfl,rfl⟩ := ran_pure.mp last
      rw [List.append_nil]
      exact ⟨calm_of_peeks (Settings.peeks_load _ _ reading),ordinary_ok⟩
  rcases ran_bind.mp ran with ⟨failure,failed,rfl⟩ | ⟨loading,settings,_,rfl,loaded,noting⟩
  · obtain ⟨calm,ordinary⟩ := loads failed
    exact reports_of_ordinary (not_halfway_of_calm calm) (ordinary_error (ordinary failure rfl))
  obtain ⟨_,_,_,rfl,noted,making⟩ := ran_lift_bind.mp noting
  obtain ⟨_,c,_,rfl,made,migrating⟩ := ran_lift_bind.mp making
  have reports := (over_of _ settings c style).reports migrating
  have calm := calm_of_peeks (Registration.peeks_ofSettings _ _ made)
  have quiet := calm_of_peeks (Host.confined_ask trivial _ _ noted)
  exact ((reports.after calm).after quiet).after (loads loaded).1

-- The command with any server, and the command as it is started.
theorem migrate_reports {o : MigrateOptions} {events : List Event} {result : Except Failure Unit} :
    (∀ (d : Desk) (m : PackageManager), Over d m → Ran (d.runMigrate o) events result → Reports events result) ∧
    ∀ (style : Style) (options : Options),
      Ran (runCommand style { options with command := .migrate o }) events result → Reports events result :=
  ⟨fun _ _ above ran => above.reports ran,fun _ _ ran => reports_of_runCommand ran⟩

-- A server that offers a migration of no products, and commands that succeed up to the upgrade of the distribution.

def offering : (call : Registration.ServerCall) → Result call.Reply
  | .migrations _ _ => .ok [[]]
  | .synchronize products => .ok products
  | .activations => .ok []
  | _ => .error (.transport "")

def manager : PackageManager := ⟨"/",false,false⟩

def counter : Desk where
  options := ⟨"",none,none,false,false,false,false,.status⟩
  settings := Settings.defaults
  collaborators := ⟨⟨"",none,⟨"",[]⟩,.direct⟩,manager,⟨"",[]⟩⟩
  session
    | .server call => pure (offering call)
    | .packages call => (manager.perform call).run
    | .store _ => pure (.error .noProxyCredentials)
    | .hasSystemCredentials => pure true
    | .isServicePlugin _ | .fileExists _ => pure false
    | .report level event => Host.ask (.report level event)
  style := .plain

theorem over_counter : Over counter manager where
  packages _ := rfl
  server _ := Program.confined_done
  others q unpackaged unserved := by
    cases q with
    | server call => exact absurd rfl (unserved call)
    | packages call => exact absurd rfl (unpackaged call)
    | report level event => exact Host.confined_ask trivial
    | _ => exact Program.confined_done

def breaking : Program.Behaviour Host.inquiry
  | _, .run command => .ok ⟨if command.arguments.contains "dist-upgrade" then 8 else 0,[],[]⟩
  | _, .file (.look _) => false
  | _, .file (.read _) | _, .file (.write _ _) | _, .file (.createDirectories _) | _, .file (.setMode _ _)
  | _, .file (.remove _) => .error .notFound
  | _, .environment _ | _, .accountHome => none
  | _, .exchange _ => none
  | _, .hardware => default
  | _, .print _ | _, .report _ _ => ()
  | _, .readLine => .ok ""
  | _, .linesLeft => 0

theorem halfway_reported :
    let ran := Program.play breaking [] (counter.runMigrate ⟨none,true,none,false,false,false,false,false,false⟩).run
    (∃ failure, ran.2 = .error failure ∧ failure.exitCode = 2) ∧ Reports ran.1 ran.2 := by
  intro ran
  exact ⟨⟨_,by with_unfolding_all rfl,rfl⟩,migrate_reports.1 counter manager over_counter (Program.runs_play breaking [] _)⟩

end Entitlement.CommandLine
