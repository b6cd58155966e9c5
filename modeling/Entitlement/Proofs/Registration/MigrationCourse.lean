import Entitlement.Proofs.Registration.Migration

-- The courses that applying a migration can take. What a failure says of itself is read off from the row of
-- calls: whether the upgrade of the distribution was called, and how that call ended.
namespace Entitlement.Registration

def upgraded (report : MigrationReport) (options : MigrationOptions) (reply : Result Unit) : Event :=
  ⟨.packages (.distUpgrade (releaseVersion report.baseVersion) options.upgrade),reply⟩

def finishedNote (path : MigrationPath) : Event :=
  ⟨.report .info ("Migration to " ++ pathSummary path ++ " finished"),()⟩

def inconsistentNote : Event :=
  ⟨.report .warn "The migration has failed and the system is most likely in an inconsistent state",()⟩

inductive Course (path : MigrationPath) (options : MigrationOptions) :
    List Event → Except MigrationFailure MigrationReport → Prop where
  | finished : Ran (prepareMigration path options) preparing (.ok report) → Ran systemProducts reading (.ok products) →
      Ran (installReleasePackages products) installing (.ok complete) →
      Course path options
        (preparing ++ upgraded report options (.ok ()) :: (reading ++ installing ++ [finishedNote path])) (.ok report)
  | unread : Ran (prepareMigration path options) preparing (.ok report) → Ran systemProducts reading (.error error) →
      Course path options (preparing ++ upgraded report options (.ok ()) :: reading) (.error ⟨error,false,none⟩)
  | halfway : Ran (prepareMigration path options) preparing (.ok report) → error.exitCode = some commitFailed →
      Course path options (preparing ++ [upgraded report options (.error error),inconsistentNote])
        (.error ⟨error,true,none⟩)
  | refused : Ran (prepareMigration path options) preparing (.ok report) → error.exitCode ≠ some commitFailed →
      Ran rollback back reply →
      Course path options
        (preparing ++ upgraded report options (.error error) :: (rollbackNotes error ++ back ++ [rollbackNote reply]))
        (.error ⟨error,false,some reply⟩)
  | unprepared : Ran (prepareMigration path options) preparing (.error error) → Ran rollback back reply →
      Course path options (preparing ++ (rollbackNotes error ++ back ++ [rollbackNote reply]))
        (.error ⟨error,false,some reply⟩)

variable {path : MigrationPath} {options : MigrationOptions}

theorem course_of_ran (ran : Ran (applyMigration path options) events result) :
    ∃ ended, result = .ok ended ∧ Course path options events ended := by
  obtain ⟨preparing,prepared,_,rfl,preparation,later⟩ := ran_outcome_bind.mp ran
  cases prepared with
  | error error =>
    rcases ran_bind.mp later with ⟨_,failed,_⟩ | ⟨_,failure,_,rfl,returned,last⟩
    · obtain ⟨_,_,_,_,impossible⟩ := ran_rollBackAfter.mp failed; cases impossible
    · obtain ⟨back,reply,rfl,rolled,same⟩ := ran_rollBackAfter.mp returned
      obtain ⟨rfl,rfl⟩ := ran_pure.mp last
      cases same
      exact ⟨_,rfl,by simpa [rollbackNotes] using Course.unprepared preparation rolled⟩
  | ok report =>
    obtain ⟨_,reply,_,rfl,called,after⟩ := ran_outcome_bind.mp later
    cases ran_packages.mp called
    cases reply with
    | error error =>
      by_cases halfway : error.exitCode = some commitFailed
      · simp only [halfway,if_true] at after
        obtain ⟨_,rfl,last⟩ := ran_warn_bind.mp after
        obtain ⟨rfl,rfl⟩ := ran_pure.mp last
        exact ⟨_,rfl,.halfway preparation halfway⟩
      · simp only [halfway,if_false] at after
        rcases ran_bind.mp after with ⟨_,failed,_⟩ | ⟨_,failure,_,rfl,returned,last⟩
        · obtain ⟨_,_,_,_,impossible⟩ := ran_rollBackAfter.mp failed; cases impossible
        · obtain ⟨back,reply,rfl,rolled,same⟩ := ran_rollBackAfter.mp returned
          obtain ⟨rfl,rfl⟩ := ran_pure.mp last
          cases same
          exact ⟨_,rfl,by simpa [upgraded,rollbackNotes] using Course.refused preparation halfway rolled⟩
    | ok value =>
      obtain ⟨_,checked,_,rfl,checking,concluding⟩ := ran_outcome_bind.mp after
      rcases ran_checkSystemProducts_false.mp checking with ⟨error,read,rfl⟩ |
        ⟨reading,installing,products,complete,rfl,read,installed,rfl⟩
      · obtain ⟨rfl,rfl⟩ := ran_pure.mp concluding
        exact ⟨_,rfl,by simpa [upgraded] using Course.unread preparation read⟩
      · obtain ⟨_,rfl,last⟩ := ran_info_bind.mp concluding
        obtain ⟨rfl,rfl⟩ := ran_pure.mp last
        exact ⟨_,rfl,by simpa [upgraded,finishedNote] using Course.finished preparation read installed⟩

theorem ran_of_course {ended : Except MigrationFailure MigrationReport} (course : Course path options events ended) :
    Ran (applyMigration path options) events (.ok ended) := by
  cases course with
  | finished preparation read installed =>
    refine ran_outcome_bind.mpr ⟨_,_,_,rfl,preparation,ran_outcome_bind.mpr ⟨[_],_,_,rfl,ran_packages.mpr rfl,?_⟩⟩
    refine ran_outcome_bind.mpr ⟨_,_,_,rfl,ran_checkSystemProducts_false.mpr (.inr ⟨_,_,_,_,rfl,read,installed,rfl⟩),?_⟩
    exact ran_info_bind.mpr ⟨[],rfl,ran_pure.mpr ⟨rfl,rfl⟩⟩
  | @unread _ _ reading _ preparation read =>
    refine ran_outcome_bind.mpr ⟨_,_,_,rfl,preparation,ran_outcome_bind.mpr ⟨[_],_,_,rfl,ran_packages.mpr rfl,?_⟩⟩
    refine ran_outcome_bind.mpr ⟨reading,_,[],by simp,ran_checkSystemProducts_false.mpr (.inl ⟨_,read,rfl⟩),?_⟩
    exact ran_pure.mpr ⟨rfl,rfl⟩
  | halfway preparation stopped =>
    refine ran_outcome_bind.mpr ⟨_,_,_,rfl,preparation,ran_outcome_bind.mpr ⟨[_],_,_,rfl,ran_packages.mpr rfl,?_⟩⟩
    simp only [stopped,if_true]
    exact ran_warn_bind.mpr ⟨[],rfl,ran_pure.mpr ⟨rfl,rfl⟩⟩
  | refused preparation other rolled =>
    refine ran_outcome_bind.mpr ⟨_,_,_,rfl,preparation,ran_outcome_bind.mpr ⟨[_],_,_,rfl,ran_packages.mpr rfl,?_⟩⟩
    simp only [other,if_false]
    refine ran_bind.mpr (.inr ⟨_,_,[],(List.append_nil _).symm,ran_rollBackAfter.mpr ⟨_,_,rfl,rolled,rfl⟩,?_⟩)
    exact ran_pure.mpr ⟨rfl,rfl⟩
  | unprepared preparation rolled =>
    refine ran_outcome_bind.mpr ⟨_,_,_,rfl,preparation,?_⟩
    refine ran_bind.mpr (.inr ⟨_,_,[],(List.append_nil _).symm,ran_rollBackAfter.mpr ⟨_,_,rfl,rolled,rfl⟩,?_⟩)
    exact ran_pure.mpr ⟨rfl,rfl⟩

-- The replies to every call for an upgrade of the distribution.
def upgradeReply : Event → Option (Result Unit)
  | ⟨.packages (.distUpgrade _ _),reply⟩ => some reply
  | _ => none

def upgradeReplies (events : List Event) : List (Result Unit) := events.filterMap upgradeReply

theorem upgradeReplies_of_asks {action : Action α} {allowed : Question → Prop} (asks : Asks allowed action)
    (never : ∀ version options, ¬ allowed (.packages (.distUpgrade version options)))
    (ran : Ran action events result) : upgradeReplies events = [] := by
  refine asks.filterMap_eq_nil (fun event fits => ?_) ran
  obtain ⟨q,answer⟩ := event
  cases q with
  | packages call => cases call <;> first | rfl | exact absurd fits (never _ _)
  | _ => rfl

theorem upgradeReplies_append (first second : List Event) :
    upgradeReplies (first ++ second) = upgradeReplies first ++ upgradeReplies second := List.filterMap_append

theorem upgradeReplies_prepareMigration (ran : Ran (prepareMigration path options) events result) :
    upgradeReplies events = [] :=
  upgradeReplies_of_asks asks_prepareMigration (fun _ _ => id) ran

theorem upgradeReplies_rollback (ran : Ran rollback events result) : upgradeReplies events = [] :=
  upgradeReplies_of_asks asks_rollback (fun _ _ => id) ran

theorem upgradeReplies_systemProducts (ran : Ran systemProducts events result) : upgradeReplies events = [] :=
  upgradeReplies_of_asks asks_systemProducts (fun _ _ => id) ran

theorem upgradeReplies_installReleasePackages {products : List Product}
    (ran : Ran (installReleasePackages products) events result) : upgradeReplies events = [] :=
  upgradeReplies_of_asks asks_installReleasePackages (fun _ _ => id) ran

theorem upgradeReplies_rolledBack {error : Error} {reply : Result Unit} (ran : Ran rollback back reply) :
    upgradeReplies (rollbackNotes error ++ back ++ [rollbackNote reply]) = [] := by
  rw [upgradeReplies_append,upgradeReplies_append,upgradeReplies_rollback ran]
  cases reply with
  | ok value => rfl
  | error e => rfl

theorem upgradeReplies_upgraded {report : MigrationReport} {reply : Result Unit} :
    upgradeReplies (upgraded report options reply :: events) = reply :: upgradeReplies events := rfl

-- The ways in which a migration ends, told from the calls and their answers alone.

def Completes (path : MigrationPath) (options : MigrationOptions) (events : List Event) (report : MigrationReport) : Prop :=
  ∃ migrating disabling reading installing products complete,
    Ran (migrateSystem path) migrating (.ok report.baseVersion) ∧
    Ran (disableIfAsked path options) disabling (.ok report.disabled) ∧
    Ran systemProducts reading (.ok products) ∧ Ran (installReleasePackages products) installing (.ok complete) ∧
    events = migrating ++ disabling ++
      ⟨.packages (.refreshRepositories (releaseVersion report.baseVersion) true),.ok ()⟩ ::
      upgraded report options (.ok ()) :: (reading ++ installing ++ [finishedNote path])

def StopsHalfway (events : List Event) (error : Error) : Prop :=
  upgradeReplies events = [.error error] ∧ error.exitCode = some commitFailed

def StopsBefore (path : MigrationPath) (options : MigrationOptions) (events : List Event) (error : Error) : Prop :=
  (∃ failing rest, events = failing ++ rest ∧ Ran (prepareMigration path options) failing (.error error)) ∨
  upgradeReplies events = [.error error] ∧ error.exitCode ≠ some commitFailed

def StopsAfter (path : MigrationPath) (options : MigrationOptions) (events : List Event) (error : Error) : Prop :=
  ∃ preparing report reading, Ran (prepareMigration path options) preparing (.ok report) ∧
    Ran systemProducts reading (.error error) ∧ events = preparing ++ upgraded report options (.ok ()) :: reading

-- The calls up to the one that fails.
def FailsWith (path : MigrationPath) (options : MigrationOptions) (events : List Event) (error : Error) : Prop :=
  Ran (prepareMigration path options) events (.error error) ∨
  ∃ preparing report, Ran (prepareMigration path options) preparing (.ok report) ∧
    events = preparing ++ [upgraded report options (.error error)]

structure Classified (path : MigrationPath) (options : MigrationOptions) (events : List Event)
    (ended : Except MigrationFailure MigrationReport) : Prop where
  one : (∃ report, ended = .ok report) ∨ (∃ error, ended = .error ⟨error,true,none⟩) ∨
    (∃ error reply, ended = .error ⟨error,false,some reply⟩) ∨ ∃ error, ended = .error ⟨error,false,none⟩
  finished : ∀ report, ended = .ok report ↔ Completes path options events report
  halfway : ∀ error, ended = .error ⟨error,true,none⟩ ↔ StopsHalfway events error
  last : ∀ error, ended = .error ⟨error,true,none⟩ → ∃ before version,
    events = before ++ [⟨.packages (.distUpgrade version options.upgrade),.error error⟩,inconsistentNote]
  rolledBack : ∀ error, (∃ reply, ended = .error ⟨error,false,some reply⟩) ↔ StopsBefore path options events error
  once : ∀ error reply, ended = .error ⟨error,false,some reply⟩ → ∃ failing back,
    events = failing ++ (rollbackNotes error ++ back ++ [rollbackNote reply]) ∧ Ran rollback back reply ∧
    FailsWith path options failing error ∧ ∀ product answer, ⟨.server (.downgrade product),answer⟩ ∉ failing
  unread : ∀ error, ended = .error ⟨error,false,none⟩ ↔ StopsAfter path options events error

theorem prepareMigration_ok {report : MigrationReport} :
    Ran (prepareMigration path options) events (.ok report) ↔
      ∃ migrating disabling, Ran (migrateSystem path) migrating (.ok report.baseVersion) ∧
        Ran (disableIfAsked path options) disabling (.ok report.disabled) ∧
        events = migrating ++ disabling ++
          [⟨.packages (.refreshRepositories (releaseVersion report.baseVersion) true),.ok ()⟩] := by
  rw [prepareMigration_eq]
  constructor
  · intro ran
    obtain ⟨migrating,version,_,rfl,migrated,later⟩ := ran_bind_ok.mp ran
    obtain ⟨disabling,disabled,_,rfl,settled,refreshing⟩ := ran_bind_ok.mp later
    rcases ran_packages_bind.mp refreshing with ⟨_,_,impossible⟩ | ⟨⟨⟩,_,rfl,last⟩
    · cases impossible
    obtain ⟨rfl,same⟩ := ran_pure.mp last
    cases same
    exact ⟨migrating,disabling,migrated,settled,by simp⟩
  · rintro ⟨migrating,disabling,migrated,settled,rfl⟩
    rw [List.append_assoc]
    refine ran_bind_ok.mpr ⟨_,_,_,rfl,migrated,ran_bind_ok.mpr ⟨_,_,_,rfl,settled,?_⟩⟩
    exact ran_packages_bind.mpr (.inr ⟨(),[],rfl,ran_pure.mpr ⟨rfl,rfl⟩⟩)

theorem completes_iff {report : MigrationReport} :
    Completes path options events report ↔ Course path options events (.ok report) := by
  constructor
  · rintro ⟨migrating,disabling,reading,installing,products,complete,migrated,settled,read,installed,rfl⟩
    have prepared := prepareMigration_ok.mpr ⟨migrating,disabling,migrated,settled,rfl⟩
    simpa using Course.finished prepared read installed
  · intro course
    cases course with
    | finished preparation read installed =>
      obtain ⟨migrating,disabling,migrated,settled,rfl⟩ := prepareMigration_ok.mp preparation
      exact ⟨migrating,disabling,_,_,_,_,migrated,settled,read,installed,by simp⟩

theorem Course.unique {one other : Except MigrationFailure MigrationReport} (first : Course path options events one)
    (second : Course path options events other) : one = other := by
  have same := (ran_of_course first).result_unique (ran_of_course second)
  exact Except.ok.inj same

-- Two rows of calls that start alike prepare alike.
theorem preparation_unique (one : Ran (prepareMigration path options) first a)
    (other : Ran (prepareMigration path options) second b) (same : first ++ rest = second ++ tail) : a = b :=
  (Program.Runs.unique one other same).2

theorem Course.replies {ended : Except MigrationFailure MigrationReport} (course : Course path options events ended) :
    (upgradeReplies events = [.ok ()] ∧
      ((∃ report, ended = .ok report) ∨ ∃ error, ended = .error ⟨error,false,none⟩)) ∨
    (∃ error, upgradeReplies events = [.error error] ∧
      ((error.exitCode = some commitFailed ∧ ended = .error ⟨error,true,none⟩) ∨
        error.exitCode ≠ some commitFailed ∧ ∃ reply, ended = .error ⟨error,false,some reply⟩)) ∨
    (upgradeReplies events = [] ∧ ∃ failing rest error reply, events = failing ++ rest ∧
      Ran (prepareMigration path options) failing (.error error) ∧ ended = .error ⟨error,false,some reply⟩) := by
  cases course with
  | finished preparation read installed =>
    have replies := upgradeReplies_installReleasePackages installed
    refine .inl ⟨?_,.inl ⟨_,rfl⟩⟩
    rw [upgradeReplies_append,upgradeReplies_upgraded,upgradeReplies_prepareMigration preparation,
      upgradeReplies_append,upgradeReplies_append,upgradeReplies_systemProducts read,replies]
    rfl
  | unread preparation read =>
    refine .inl ⟨?_,.inr ⟨_,rfl⟩⟩
    rw [upgradeReplies_append,upgradeReplies_upgraded,upgradeReplies_prepareMigration preparation,
      upgradeReplies_systemProducts read]
    rfl
  | halfway preparation stopped =>
    refine .inr (.inl ⟨_,?_,.inl ⟨stopped,rfl⟩⟩)
    rw [upgradeReplies_append,upgradeReplies_upgraded,upgradeReplies_prepareMigration preparation]
    rfl
  | refused preparation other rolled =>
    refine .inr (.inl ⟨_,?_,.inr ⟨other,_,rfl⟩⟩)
    rw [upgradeReplies_append,upgradeReplies_upgraded,upgradeReplies_prepareMigration preparation,
      upgradeReplies_rolledBack rolled]
    rfl
  | unprepared preparation rolled =>
    refine .inr (.inr ⟨?_,_,_,_,_,rfl,preparation,rfl⟩)
    rw [upgradeReplies_append,upgradeReplies_prepareMigration preparation,upgradeReplies_rolledBack rolled]
    rfl

theorem Course.rolledBack_iff {ended : Except MigrationFailure MigrationReport} {error : Error}
    (course : Course path options events ended) :
    (∃ reply, ended = .error ⟨error,false,some reply⟩) ↔ StopsBefore path options events error := by
  constructor
  · rintro ⟨reply,rfl⟩
    rcases course.replies with ⟨_,⟨_,same⟩ | ⟨_,same⟩⟩ | ⟨_,replies,⟨_,same⟩ | ⟨other,_,same⟩⟩ |
      ⟨_,failing,rest,_,_,start,failed,same⟩
    · cases same
    · cases same
    · cases same
    · cases same; exact .inr ⟨replies,other⟩
    · cases same; exact .inl ⟨failing,rest,start,failed⟩
  · rintro (⟨failing,rest,start,failed⟩ | ⟨replies,other⟩)
    · cases course with
      | finished preparation _ _ => cases preparation_unique failed preparation start.symm
      | unread preparation _ => cases preparation_unique failed preparation start.symm
      | halfway preparation _ => cases preparation_unique failed preparation start.symm
      | refused preparation _ _ => cases preparation_unique failed preparation start.symm
      | unprepared preparation _ => cases preparation_unique failed preparation start.symm; exact ⟨_,rfl⟩
    · rcases course.replies with ⟨also,_⟩ | ⟨_,also,⟨halfway,_⟩ | ⟨_,rolled⟩⟩ | ⟨also,_⟩
      · rw [replies] at also; cases also
      · rw [replies] at also; cases also; exact absurd halfway other
      · rw [replies] at also; cases also; exact rolled
      · rw [replies] at also; cases also

theorem Course.halfway_iff {ended : Except MigrationFailure MigrationReport} {error : Error}
    (course : Course path options events ended) :
    ended = .error ⟨error,true,none⟩ ↔ StopsHalfway events error := by
  rcases course.replies with ⟨replies,ends⟩ | ⟨_,replies,⟨halfway,ends⟩ | ⟨other,_,ends⟩⟩ | ⟨replies,_,_,_,_,_,_,ends⟩
  · rcases ends with ⟨_,rfl⟩ | ⟨_,rfl⟩ <;> simp [StopsHalfway,replies]
  · simp only [ends,StopsHalfway,replies,Except.error.injEq,MigrationFailure.mk.injEq,and_true,List.cons.injEq]
    exact ⟨fun same => ⟨same,same ▸ halfway⟩,And.left⟩
  · simp only [ends,StopsHalfway,replies,Except.error.injEq,MigrationFailure.mk.injEq,List.cons.injEq,and_true,
      Bool.false_eq_true,false_and,and_false,false_iff,not_and]
    rintro rfl; exact other
  · simp [ends,StopsHalfway,replies]

theorem Course.stopsAfter_iff {ended : Except MigrationFailure MigrationReport} {error : Error}
    (course : Course path options events ended) :
    ended = .error ⟨error,false,none⟩ ↔ StopsAfter path options events error := by
  constructor
  · rintro rfl
    cases course with
    | unread preparation read => exact ⟨_,_,_,preparation,read,rfl⟩
  · rintro ⟨_,_,_,preparation,read,rfl⟩
    exact course.unique (.unread preparation read)

theorem Course.once {error : Error} {reply : Result Unit}
    (course : Course path options events (.error ⟨error,false,some reply⟩)) :
    ∃ failing back, events = failing ++ (rollbackNotes error ++ back ++ [rollbackNote reply]) ∧ Ran rollback back reply ∧
      FailsWith path options failing error ∧ ∀ product answer, ⟨.server (.downgrade product),answer⟩ ∉ failing := by
  cases course with
  | unprepared preparation rolled =>
    refine ⟨_,_,rfl,rolled,.inl preparation,fun product answer member => ?_⟩
    exact asks_prepareMigration _ _ preparation _ member
  | @refused preparing report _ _ _ preparation _ rolled =>
    refine ⟨preparing ++ [upgraded report options (.error error)],_,by simp,rolled,.inr ⟨_,_,preparation,rfl⟩,?_⟩
    intro product answer member
    rcases List.mem_append.mp member with early | late
    · exact asks_prepareMigration _ _ preparation _ early
    · cases List.mem_singleton.mp late

theorem Course.classified {ended : Except MigrationFailure MigrationReport}
    (course : Course path options events ended) : Classified path options events ended where
  one := by
    cases course with
    | finished _ _ _ => exact .inl ⟨_,rfl⟩
    | unread _ _ => exact .inr (.inr (.inr ⟨_,rfl⟩))
    | halfway _ _ => exact .inr (.inl ⟨_,rfl⟩)
    | refused _ _ _ => exact .inr (.inr (.inl ⟨_,_,rfl⟩))
    | unprepared _ _ => exact .inr (.inr (.inl ⟨_,_,rfl⟩))
  finished := fun report =>
    ⟨fun same => completes_iff.mpr (same ▸ course),fun completes => course.unique (completes_iff.mp completes)⟩
  halfway := fun _ => course.halfway_iff
  last := by
    rintro error rfl
    cases course with
    | halfway _ _ => exact ⟨_,_,rfl⟩
  rolledBack := fun _ => course.rolledBack_iff
  once := by
    rintro error reply rfl
    exact course.once
  unread := fun _ => course.stopsAfter_iff

-- Whatever the collaborators do, a migration ends in one of four ways, and what it says of its end is true.
theorem applyMigration_classified (behaviour : Program.Behaviour collaboration) (path : MigrationPath)
    (options : MigrationOptions) :
    ∃ events ended, Program.play behaviour [] (applyMigration path options).run = (events,.ok ended) ∧
      Classified path options events ended := by
  have ran := Program.runs_play behaviour [] (applyMigration path options).run
  obtain ⟨ended,same,course⟩ := course_of_ran ran
  exact ⟨_,ended,Prod.ext rfl same,course.classified⟩

end Entitlement.Registration
