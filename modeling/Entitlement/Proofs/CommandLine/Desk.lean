import Entitlement.CommandLine.Run
import Entitlement.Proofs.CommandLine.Choice
import Entitlement.Proofs.Registration.MigrationCourse

-- The runs of a command: what is printed, and the calls of the registration that it performs.
namespace Entitlement.CommandLine

open Host (Event)
open Registration (applyMigration)

def printed (line : String) : Event := ⟨.print (line ++ "\n"),()⟩

theorem ran_printLine {line : String} {result : Except Failure Unit} :
    Ran (ExceptT.lift (Host.printLine line) : Attempt Unit) events result ↔ events = [printed line] ∧ result = .ok () := by
  constructor
  · intro ran
    obtain ⟨_,_,_,rfl,asked,later⟩ := Program.runs_bind.mp ran
    cases Program.runs_question.mp asked
    obtain ⟨rfl,rfl⟩ := Program.runs_done.mp later
    exact ⟨rfl,rfl⟩
  · intro same
    obtain ⟨rfl,rfl⟩ := same
    exact Program.runs_bind.mpr ⟨_,(),[],rfl,Program.runs_question.mpr rfl,.done⟩

theorem ran_printLines {lines : List String} {result : Except Failure Unit} :
    Ran (printLines lines) events result ↔ events = lines.map printed ∧ result = .ok () := by
  induction lines generalizing events with
  | nil => exact ran_pure
  | cons line rest ih =>
    refine ran_bind.trans ⟨?_,?_⟩
    · intro ran
      rcases ran with ⟨_,failed,_⟩ | ⟨_,_,_,rfl,first,later⟩
      · cases (ran_printLine.mp failed).2
      obtain ⟨rfl,_⟩ := ran_printLine.mp first
      obtain ⟨rfl,rfl⟩ := ih.mp later
      exact ⟨rfl,rfl⟩
    · intro same
      obtain ⟨rfl,rfl⟩ := same
      exact .inr ⟨[_],(),_,rfl,ran_printLine.mpr ⟨rfl,rfl⟩,ih.mpr ⟨rfl,rfl⟩⟩

-- What is said to people and heard from them.
def Converses : Host.Question → Prop
  | .print _ | .readLine | .linesLeft => True
  | _ => False

def Talks (events : List Event) : Prop := ∀ event ∈ events, Converses event.question

theorem talks_append {first second : List Event} : Talks (first ++ second) ↔ Talks first ∧ Talks second :=
  List.forall_mem_append

theorem talks_printed (lines : List String) : Talks (lines.map printed) := by
  intro event member
  obtain ⟨line,_,rfl⟩ := List.mem_map.mp member
  trivial

theorem Asked.talks {available : Nat} {lines : List (List Char)} {result : Except Failure (Option Nat)}
    (asked : Asked available lines events result) : Talks events := by
  induction asked with
  | ended => simp [Talks,Converses,promptEvent,lineEvent]
  | settled _ => simp [Talks,Converses,promptEvent,lineEvent]
  | again _ _ ih => simpa [Talks,Converses,promptEvent,lineEvent,hintEvent] using ih

variable {d : Desk}

-- The calls that are performed for a command, and how the failure of the last one reads.
theorem ran_perform {action : Registration.Action α} {result : Except Failure α} :
    Ran (d.perform action) events result ↔
      ∃ calls settled, Ran action calls settled ∧ Program.Enacts d.session calls events ∧
        result = settled.mapError Failure.error := by
  refine ran_adapt.trans ⟨?_,?_⟩
  · intro ran
    obtain ⟨settled,performed,rfl⟩ := ran
    obtain ⟨calls,ran,enacts⟩ := Program.runs_run.mp performed
    exact ⟨calls,settled,ran,enacts,rfl⟩
  · intro parts
    obtain ⟨calls,settled,ran,enacts,rfl⟩ := parts
    exact ⟨settled,Program.runs_run.mpr ⟨calls,ran,enacts⟩,rfl⟩

-- How the command ends after a migration.
def conclusion : Except Registration.MigrationFailure Registration.MigrationReport → Except Failure Unit
  | .ok _ => .ok ()
  | .error failure => .error (.migration failure)

theorem ran_finishMigration {ended : Except Registration.MigrationFailure Registration.MigrationReport}
    {result : Except Failure Unit} (ran : Ran (d.finishMigration ended) events result) :
    Talks events ∧ result = conclusion ended := by
  cases ended with
  | ok report =>
    rcases ran_bind.mp ran with ⟨_,failed,_⟩ | ⟨_,_,_,rfl,first,last⟩
    · cases (ran_printLines.mp failed).2
    obtain ⟨rfl,_⟩ := ran_printLines.mp first
    obtain ⟨rfl,rfl⟩ := ran_printLine.mp last
    exact ⟨talks_append.mpr ⟨talks_printed _,talks_printed [_]⟩,rfl⟩
  | error failure =>
    have noted {status text : String} {error : Failure}
        (ran : Ran (do printStatus d.style status text; throw error) events result) :
        Talks events ∧ result = .error error := by
      rcases ran_bind.mp ran with ⟨_,failed,_⟩ | ⟨_,_,_,rfl,first,last⟩
      · cases (ran_printLine.mp failed).2
      obtain ⟨rfl,_⟩ := ran_printLine.mp first
      obtain ⟨rfl,rfl⟩ := ran_throw.mp last
      exact ⟨talks_printed [_],rfl⟩
    rcases failure with ⟨_,_,_ | ⟨_ | _⟩⟩
    · obtain ⟨rfl,rfl⟩ := ran_throw.mp ran
      exact ⟨talks_printed [],rfl⟩
    · exact noted ran
    · exact noted ran

-- The migration of a path is performed to its end, whatever that is.
theorem ran_perform_migration {path : MigrationPath} {options : Registration.MigrationOptions}
    {result : Except Failure (Except Registration.MigrationFailure Registration.MigrationReport)}
    (ran : Ran (d.perform (applyMigration path options)) events result) : ∃ ended, result = .ok ended := by
  obtain ⟨_,_,applied,_,rfl⟩ := ran_perform.mp ran
  obtain ⟨ended,rfl,_⟩ := Registration.course_of_ran applied
  exact ⟨ended,rfl⟩

variable {o : MigrateOptions} {plan : Registration.MigrationPlan}

theorem ran_applyAt {index : Option Nat} {result : Except Failure Unit} (ran : Ran (d.applyAt o plan index) events result) :
    (index.bind fun index => plan.available[index]?) = none ∧ events = [] ∧ result = .ok () ∨
    ∃ path row ended after, (index.bind fun index => plan.available[index]?) = some path ∧ events = row ++ after ∧
      Ran (d.perform (applyMigration path (d.migrationOptions o))) row (.ok ended) ∧ Talks after ∧
      result = conclusion ended := by
  unfold Desk.applyAt at ran
  cases found : index.bind fun index => plan.available[index]? with
  | none =>
    rw [found] at ran
    exact .inl ⟨rfl,ran_pure.mp ran⟩
  | some path =>
    simp only [found] at ran
    rcases ran_bind.mp ran with ⟨_,failed,_⟩ | ⟨row,ended,after,rfl,applied,finished⟩
    · obtain ⟨_,impossible⟩ := ran_perform_migration failed
      cases impossible
    · obtain ⟨talks,rfl⟩ := ran_finishMigration finished
      exact .inr ⟨path,row,ended,after,rfl,rfl,applied,talks,rfl⟩

-- What is shown before people are asked.
def listing (d : Desk) (plan : Registration.MigrationPlan) : List Event :=
  printed (sectionLine d.style "Available migrations:") :: (migrationLines plan).map printed

theorem talks_listing : Talks (listing d plan) := talks_printed (_ :: migrationLines plan)

theorem ran_showMigrations {result : Except Failure Unit} (ran : Ran (d.showMigrations plan) events result) :
    events = listing d plan ∧ result = .ok () := by
  rcases ran_bind.mp ran with ⟨_,failed,_⟩ | ⟨_,_,_,rfl,first,later⟩
  · cases (ran_printLine.mp failed).2
  · obtain ⟨rfl,_⟩ := ran_printLine.mp first
    obtain ⟨rfl,rfl⟩ := ran_printLines.mp later
    exact ⟨rfl,rfl⟩

-- People are asked when they named no number and can be asked at all.
theorem ran_chooseMigration {result : Except Failure (Option Nat)} (unnamed : o.migration = none)
    (interactive : o.nonInteractive = false) (ran : Ran (d.chooseMigration o plan) events result) :
    ∃ count asking, events = listing d plan ++ ⟨.linesLeft,count⟩ :: asking ∧
      Ran (askForMigration plan.available.length (count + 1)) asking result := by
  simp only [Desk.chooseMigration,unnamed,interactive,Bool.false_eq_true,if_false] at ran
  rcases ran_bind.mp ran with ⟨_,failed,_⟩ | ⟨_,_,_,rfl,shown,counting⟩
  · cases (ran_showMigrations failed).2
  obtain ⟨rfl,_⟩ := ran_showMigrations shown
  obtain ⟨count,asking,rfl,asked⟩ := ran_ask_bind.mp counting
  exact ⟨count,asking,rfl,asked⟩

theorem talks_asked {count : Nat} {asking : List Event} (talks : Talks asking) :
    Talks (listing d plan ++ ⟨.linesLeft,count⟩ :: asking) :=
  talks_append.mpr ⟨talks_listing,List.forall_mem_cons.mpr ⟨trivial,talks⟩⟩

end Entitlement.CommandLine
