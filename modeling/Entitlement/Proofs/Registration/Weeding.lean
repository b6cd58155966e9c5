import Entitlement.Proofs.Registration.Guards
import Entitlement.Proofs.Registration.Obsolescence

-- What a whole migration disables. Its repositories are sorted out in one row of calls, after the products are upgraded
-- on the server and before anything is installed, and nothing else in a migration lists, searches or disables them.
namespace Entitlement.Registration

-- The calls by which repositories are sorted out.
def Sifts : Question → Prop
  | .packages .repositories | .packages (.findProductPackages _) | .packages (.disableRepository _) => True
  | _ => False

def Apart (events : List Event) : Prop := ∀ event ∈ events, ¬ Sifts event.question

theorem RollsBack.apart (q : Question) (rolls : RollsBack q) : ¬ Sifts q := by
  cases q with
  | packages call => cases call <;> first | exact id | cases rolls
  | _ => exact id

theorem ReadsProducts.apart (q : Question) (reads : ReadsProducts q) : ¬ Sifts q := by
  cases q with
  | packages call => cases call <;> first | exact id | cases reads
  | _ => exact id

theorem apart_upgradeProduct {product : Product} : Asks (¬ Sifts ·) (upgradeProduct product) := by
  have reconciles {service : Service} : Asks (¬ Sifts ·) (reconcileService service) :=
    asks_reconcileService.mono fun q maintains => RollsBack.apart q maintains.rollsBack
  exact asks_bind (asks_ask id) fun _ => asks_bind (asks_adapt (asks_server id)) fun _ => asks_adapt reconciles

theorem apart_migrateSystem {path : MigrationPath} : Asks (¬ Sifts ·) (migrateSystem path) := by
  have upgrades : Asks (¬ Sifts ·) (upgradeProducts "" path) := by
    rw [upgradeProducts_eq]
    exact asks_bind (asks_forM fun _ => apart_upgradeProduct) fun _ => asks_pure
  refine asks_bind (asks_requireRegistration id) fun _ => asks_bind (asks_packages id) fun _ =>
    asks_bind upgrades fun version => asks_bind (asks_server id) fun _ => ?_
  split
  · exact asks_bind (asks_packages id) fun _ => asks_pure
  · exact asks_pure

theorem Apart.append {first second : List Event} (one : Apart first) (other : Apart second) : Apart (first ++ second) :=
  List.forall_mem_append.mpr ⟨one,other⟩

theorem Apart.cons {event : Event} (one : ¬ Sifts event.question) (others : Apart events) : Apart (event :: events) :=
  List.forall_mem_cons.mpr ⟨one,others⟩

theorem apart_nil : Apart [] := fun _ member => nomatch member

theorem apart_rolledBack {error : Error} {reply : Result Unit} (rolled : Ran rollback back reply) :
    Apart (rollbackNotes error ++ back ++ [rollbackNote reply]) := by
  have noted : Apart [rollbackNote reply] := by
    cases reply with
    | ok value => exact .cons id apart_nil
    | error e => exact .cons id apart_nil
  have returned : Apart back := asks_rollback.mono RollsBack.apart _ _ rolled
  exact .append (.append (.cons id (.cons id apart_nil)) returned) noted

-- What a row disables, by what was listed and found in it.
structure DisablesExactly (path : List Product) (events : List Event) : Prop where
  listed : requests searchOf events = [] ∨ ∃ repositories, listingsIn events = [repositories]
  inOrder : requests searchOf events <+: path.map (·.name)
  whole : (∀ label error, ⟨.packages (.disableRepository label),.error error⟩ ∉ events) →
    requests disableOf events = obsolete (listedIn events) (findsIn path events)
  refused : ∀ label error, ⟨.packages (.disableRepository label),.error error⟩ ∈ events → ∃ done rest,
    obsolete (listedIn events) (findsIn path events) = done ++ label :: rest ∧ requests disableOf events = done ++ [label]

section Row

variable {path : MigrationPath} {opening row closing : List Event}

theorem DisablesExactly.begins (exactly : DisablesExactly path events) :
    requests disableOf events <+: obsolete (listedIn events) (findsIn path events) := by
  by_cases refused : ∃ label error, ⟨.packages (.disableRepository label),.error error⟩ ∈ events
  · obtain ⟨label,error,member⟩ := refused
    obtain ⟨done,rest,all,disabled⟩ := exactly.refused label error member
    rw [all,disabled]
    exact ⟨rest,by simp⟩
  · exact (exactly.whole fun label error member => refused ⟨label,error,member⟩) ▸ List.prefix_rfl

theorem filterMap_amid {f : Event → Option β} (opens : Apart opening) (closes : Apart closing)
    (sifts : ∀ event, ¬ Sifts event.question → f event = none) :
    (opening ++ (row ++ closing)).filterMap f = row.filterMap f := by
  have silent {events : List Event} (apart : Apart events) : events.filterMap f = [] :=
    List.filterMap_eq_nil_iff.mpr fun event member => sifts event (apart event member)
  rw [List.filterMap_append,List.filterMap_append,silent opens,silent closes,List.nil_append,List.append_nil]

theorem mem_amid {event : Event} (row : List Event) (opens : Apart opening) (closes : Apart closing)
    (sifts : Sifts event.question) : event ∈ opening ++ (row ++ closing) ↔ event ∈ row := by
  rw [List.mem_append,List.mem_append]
  constructor
  · rintro (early | within | late)
    · exact absurd sifts (opens event early)
    · exact within
    · exact absurd sifts (closes event late)
  · exact fun within => .inr (.inl within)

-- Calls apart from a row add nothing to what is asked and told of repositories in it.
theorem sorted_amid (row : List Event) (opens : Apart opening) (closes : Apart closing) :
    requests searchOf (opening ++ (row ++ closing)) = requests searchOf row ∧
    requests disableOf (opening ++ (row ++ closing)) = requests disableOf row ∧
    listingsIn (opening ++ (row ++ closing)) = listingsIn row ∧
    answersIn (opening ++ (row ++ closing)) = answersIn row := by
  refine ⟨filterMap_amid opens closes ?_,filterMap_amid opens closes ?_,filterMap_amid opens closes ?_,
    filterMap_amid opens closes ?_⟩
  all_goals
    rintro ⟨q,answer⟩ apart
    cases q with
    | packages call => cases call <;> first | rfl | exact absurd trivial apart
    | _ => rfl

theorem DisablesExactly.amid (exactly : DisablesExactly path row) (opens : Apart opening) (closes : Apart closing) :
    DisablesExactly path (opening ++ (row ++ closing)) := by
  obtain ⟨searches,disables,listings,answers⟩ := sorted_amid row opens closes
  have lists : listedIn (opening ++ (row ++ closing)) = listedIn row := congrArg List.flatten listings
  have within {label : String} {error : Error} :
      ⟨.packages (.disableRepository label),.error error⟩ ∈ opening ++ (row ++ closing) ↔
        ⟨.packages (.disableRepository label),.error error⟩ ∈ row := mem_amid row opens closes trivial
  have finds : findsIn path (opening ++ (row ++ closing)) = findsIn path row := by rw [findsIn,answers,findsIn]
  refine ⟨?_,?_,?_,?_⟩
  · rw [searches,listings]
    exact exactly.listed
  · rw [searches]
    exact exactly.inOrder
  · intro unrefused
    rw [disables,lists,finds]
    exact exactly.whole fun label error member => unrefused label error (within.mpr member)
  · intro label error member
    rw [disables,lists,finds]
    exact exactly.refused label error (within.mp member)

end Row

-- The row of calls by which repositories are sorted out.

theorem failsFast_disableForAll {repositories : List Repository} {disabled : List String} {path : List Product} :
    FailsFast (disableForAll (enabledLabels repositories) disabled path) := by
  induction path generalizing disabled with
  | nil => exact failsFast_pure
  | cons product rest ih =>
    refine failsFast_bind failsFast_packages fun found => failsFast_bind ?_ fun _ => ih
    rw [disableFor_eq,forM_eq_mapM,bind_assoc]
    exact failsFast_bind (failsFast_mapM fun _ => failsFast_bind failsFast_report fun _ => failsFast_packages) fun _ =>
      failsFast_bind failsFast_pure fun _ => failsFast_pure

theorem failsFast_disableObsoleteRepositories {path : MigrationPath} : FailsFast (disableObsoleteRepositories path) :=
  failsFast_bind failsFast_packages fun _ => failsFast_disableForAll

-- Repositories are listed once, at the beginning.

def Weighs : Question → Prop
  | .packages (.findProductPackages _) | .packages (.disableRepository _) | .report _ _ => True
  | _ => False

theorem asks_weighing {repositories : List Repository} {disabled : List String} {path : List Product} :
    Asks Weighs (disableForAll (enabledLabels repositories) disabled path) := by
  induction path generalizing disabled with
  | nil => exact asks_pure
  | cons product rest ih =>
    refine asks_bind (asks_packages trivial) fun found => asks_bind ?_ fun _ => ih
    rw [disableFor_eq]
    exact asks_bind (asks_forM fun _ => asks_bind (asks_ask trivial) fun _ => asks_packages trivial) fun _ => asks_pure

theorem listings_sorting {repositories : List Repository} {path : List Product}
    (ran : Ran (disableForAll (enabledLabels repositories) disabled path) row result) :
    listingsIn (⟨.packages .repositories,.ok repositories⟩ :: row) = [repositories] := by
  refine congrArg (repositories :: ·) (asks_weighing.filterMap_eq_nil (fun event weighs => ?_) ran)
  obtain ⟨q,answer⟩ := event
  cases q with
  | packages call => cases call <;> first | rfl | cases weighs
  | _ => rfl

theorem listedIn_sorting {repositories : List Repository} {path : List Product}
    (ran : Ran (disableForAll (enabledLabels repositories) disabled path) row result) :
    listedIn (⟨.packages .repositories,.ok repositories⟩ :: row) = repositories := by
  rw [listedIn,listings_sorting ran]
  exact List.append_nil repositories

theorem disablesExactly_of_ran {path : MigrationPath} {result : Result (List String)}
    (ran : Ran (disableObsoleteRepositories path) events result) : DisablesExactly path events := by
  rcases ran_packages_bind.mp ran with ⟨error,rfl,rfl⟩ | ⟨repositories,row,rfl,sorted⟩
  · exact ⟨.inl rfl,List.nil_prefix,fun _ => by cases path <;> rfl,fun label error member => by simp at member⟩
  have disabling := disabling_of_ran sorted
  have halting := failsFast_disableForAll row result sorted
  have short {events : List Event} {final : Event} (untold : answerOf final = none) :
      findsIn path (events ++ [final]) = findsIn path events := by
    have silent : answersIn [final] = [] := List.filterMap_eq_nil_iff.mpr (by simpa using untold)
    rw [findsIn,answers_append,silent,List.append_nil,findsIn]
  refine ⟨.inr ⟨repositories,listings_sorting sorted⟩,?_,?_,?_⟩
  · change requests searchOf row <+: _
    cases disabling with
    | through searched _ _ => exact searched ▸ List.prefix_rfl
    | unsearched begun _ => exact requests_append ▸ begun
    | refused begun _ => exact requests_append ▸ (List.append_nil _).symm ▸ begun
  · intro unrefused
    rw [listedIn_sorting sorted]
    change requests disableOf row = obsolete repositories (findsIn path row)
    rw [← obsoleteBut_nil]
    cases disabling with
    | through _ _ disabled => exact disabled
    | unsearched _ disabled => rw [short rfl,requests_append,disabled]; exact List.append_nil _
    | @refused _ label _ error _ _ => exact absurd (by simp) (unrefused label error)
  · intro label error member
    rw [listedIn_sorting sorted]
    have within := (List.mem_cons.mp member).resolve_left fun same => by cases same
    change ∃ done rest, obsolete repositories (findsIn path row) = done ++ label :: rest ∧ requests disableOf row = _
    cases disabling with
    | through _ _ _ => cases halting _ within
    | unsearched _ _ => cases Halts.last halting within rfl
    | @refused events _ rest _ _ refused =>
      cases Halts.last halting within rfl
      refine ⟨requests disableOf events,rest,?_,requests_append⟩
      rw [short rfl,← obsoleteBut_nil,refused]

-- What is told of the repositories that are disabled, when nothing fails.
structure Discloses (path : List Product) (events : List Event) (disabled : List String) : Prop where
  listed : ∃ repositories, listingsIn events = [repositories]
  searched : requests searchOf events = path.map (·.name)
  answered : (answersIn events).length = path.length
  disables : requests disableOf events = disabled
  same : disabled = obsolete (listedIn events) (findsIn path events)

theorem discloses_of_ran {path : MigrationPath} (ran : Ran (disableObsoleteRepositories path) events (.ok disabled)) :
    Discloses path events disabled := by
  rcases ran_packages_bind.mp ran with ⟨_,_,impossible⟩ | ⟨repositories,row,rfl,sorted⟩
  · cases impossible
  cases disabling_of_ran sorted with
  | through searched answered disables =>
    refine ⟨⟨repositories,listings_sorting sorted⟩,searched,answered,disables,?_⟩
    rw [listedIn_sorting sorted,← obsoleteBut_nil]
    rfl

theorem Discloses.amid {path : MigrationPath} {opening row closing : List Event} (discloses : Discloses path row disabled)
    (opens : Apart opening) (closes : Apart closing) : Discloses path (opening ++ (row ++ closing)) disabled := by
  obtain ⟨searches,disables,listings,answers⟩ := sorted_amid row opens closes
  refine ⟨?_,?_,?_,?_,?_⟩
  · rw [listings]
    exact discloses.listed
  · rw [searches,discloses.searched]
  · rw [answers,discloses.answered]
  · rw [disables,discloses.disables]
  · rw [findsIn,answers,listedIn,listings]
    exact discloses.same

-- Where the row stands in a migration that sorts out its repositories, and what becomes of one that fails in it.
inductive Weeds (path : MigrationPath) : List Event → Except MigrationFailure MigrationReport → Prop where
  | untouched : Apart events → (∀ report, ended ≠ .ok report) → Weeds path events ended
  | weeded : Apart opening → Ran (disableObsoleteRepositories path) sorting (.ok disabled) → Apart closing →
      (∀ report, ended = .ok report → report.disabled = disabled) → Weeds path (opening ++ (sorting ++ closing)) ended
  | halted : Apart opening → upgradeReplies opening = [] → Ran (disableObsoleteRepositories path) sorting (.error error) →
      Ran rollback back reply →
      Weeds path (opening ++ (sorting ++ (rollbackNotes error ++ back ++ [rollbackNote reply])))
        (.error ⟨error,false,some reply⟩)

section Migration

variable {path : MigrationPath} {upgrade : UpgradeOptions} {ended : Except MigrationFailure MigrationReport}

theorem Weeds.of_prepared {report : MigrationReport} {preparing closing : List Event}
    (preparation : Ran (prepareMigration path ⟨true,upgrade⟩) preparing (.ok report)) (closes : Apart closing)
    (reports : ∀ other, ended = .ok other → other = report) : Weeds path (preparing ++ closing) ended := by
  obtain ⟨migrating,sorting,migrated,sorted,rfl⟩ := prepareMigration_ok.mp preparation
  rw [List.append_assoc,List.append_assoc]
  refine .weeded (apart_migrateSystem _ _ migrated) sorted (.append (.cons id apart_nil) closes) ?_
  rintro other same
  rw [reports other same]

theorem Weeds.of_unprepared (preparation : Ran (prepareMigration path ⟨true,upgrade⟩) preparing (.error error))
    (rolled : Ran rollback back reply) :
    Weeds path (preparing ++ (rollbackNotes error ++ back ++ [rollbackNote reply])) (.error ⟨error,false,some reply⟩) := by
  rw [prepareMigration_eq] at preparation
  rcases ran_bind.mp preparation with ⟨_,failed,same⟩ | ⟨migrating,version,_,rfl,migrated,later⟩
  · cases same
    exact .untouched (.append (apart_migrateSystem _ _ failed) (apart_rolledBack rolled)) nofun
  have opens := apart_migrateSystem _ _ migrated
  rcases ran_bind.mp later with ⟨_,failed,same⟩ | ⟨sorting,disabled,_,rfl,sorted,refreshing⟩
  · cases same
    rw [List.append_assoc]
    refine .halted opens (upgradeReplies_of_asks asks_migrateSystem (fun _ _ => id) migrated) failed rolled
  rcases ran_packages_bind.mp refreshing with ⟨_,rfl,same⟩ | ⟨_,_,_,last⟩
  · rw [List.append_assoc,List.append_assoc]
    exact .weeded opens sorted (.append (.cons id apart_nil) (apart_rolledBack rolled)) nofun
  · cases (ran_pure.mp last).2

theorem Course.weeds (course : Course path ⟨true,upgrade⟩ events ended) : Weeds path events ended := by
  cases course with
  | finished preparation read installed =>
    have reads := asks_systemProducts.mono ReadsProducts.apart _ _ read
    have installs := asks_installReleasePackages.mono ReadsProducts.apart _ _ installed
    refine .of_prepared preparation (.cons id (.append (.append reads installs) (.cons id apart_nil))) ?_
    rintro other ⟨⟩
    rfl
  | unread preparation read =>
    exact .of_prepared preparation (.cons id (asks_systemProducts.mono ReadsProducts.apart _ _ read)) nofun
  | halfway preparation _ => exact .of_prepared preparation (.cons id (.cons id apart_nil)) nofun
  | refused preparation _ rolled => exact .of_prepared preparation (.cons id (apart_rolledBack rolled)) nofun
  | unprepared preparation rolled => exact .of_unprepared preparation rolled

theorem Weeds.exactly (weeds : Weeds path events ended) : DisablesExactly path events := by
  cases weeds with
  | untouched apart _ =>
    have nothing : DisablesExactly path [] :=
      ⟨.inl rfl,List.nil_prefix,fun _ => by cases path <;> rfl,fun label error member => nomatch member⟩
    have around := nothing.amid apart apart_nil
    rwa [List.append_nil,List.append_nil] at around
  | weeded opens sorted closes _ => exact (disablesExactly_of_ran sorted).amid opens closes
  | halted opens _ sorted rolled => exact (disablesExactly_of_ran sorted).amid opens (apart_rolledBack rolled)

theorem Weeds.reports (weeds : Weeds path events ended) (report : MigrationReport) (same : ended = .ok report) :
    Discloses path events report.disabled := by
  cases weeds with
  | untouched _ unreported => exact absurd same (unreported report)
  | weeded opens sorted closes reports => exact reports report same ▸ (discloses_of_ran sorted).amid opens closes
  | halted _ _ _ _ => cases same

-- How a migration ends in which repositories cannot be listed, searched or disabled.
structure StopsSorting (events : List Event) (ended : Except MigrationFailure MigrationReport) (event : Event)
    (error : Error) : Prop where
  rolledBack : ∃ before back reply, events = before ++ event :: (rollbackNotes error ++ back ++ [rollbackNote reply]) ∧
    Ran rollback back reply ∧ ended = .error ⟨error,false,some reply⟩
  unupgraded : upgradeReplies events = []

theorem Weeds.stops {event : Event} (weeds : Weeds path events ended) (member : event ∈ events)
    (sifts : Sifts event.question) (failed : errorOf event = some error) : StopsSorting events ended event error := by
  cases weeds with
  | untouched apart _ => exact absurd sifts (apart event member)
  | weeded opens sorted closes _ =>
    have passed := failsFast_disableObsoleteRepositories.succeeds sorted event ((mem_amid _ opens closes sifts).mp member)
    rw [failed] at passed
    cases passed
  | @halted opening sorting cause back reply opens before sorted rolled =>
    have within := (mem_amid _ opens (apart_rolledBack rolled) sifts).mp member
    have halts := failsFast_disableObsoleteRepositories.halts sorted
    have disables : Asks Disables (disableObsoleteRepositories path) :=
      asks_bind (asks_packages trivial) fun _ => asks_disableForAll
    have unsorted := upgradeReplies_of_asks disables (fun _ _ => id) sorted
    have quiet : upgradeReplies (opening ++ (sorting ++ (rollbackNotes cause ++ back ++ [rollbackNote reply]))) = [] := by
      rw [upgradeReplies_append,before,upgradeReplies_append,unsorted,upgradeReplies_rolledBack rolled]
      rfl
    obtain ⟨earlier,later,rfl⟩ := List.append_of_mem within
    obtain ⟨rfl,rfl⟩ := halts.at_end failed
    exact ⟨⟨opening ++ earlier,back,reply,by simp,rolled,rfl⟩,quiet⟩

theorem failsFast_systemProducts : FailsFast systemProducts := by
  refine failsFast_bind failsFast_packages fun installed => failsFast_bind ?_ fun registered => ?_
  · intro events result ran
    obtain ⟨answer,rfl,rfl⟩ := ran_ask.mp ran
    exact succeeds_cons.mpr ⟨rfl,succeeds_nil⟩
  split
  · exact failsFast_bind failsFast_server fun _ => failsFast_pure
  · exact failsFast_pure

theorem prepareMigration_complete {preparing : List Event} {result : Result MigrationReport}
    (preparation : Ran (prepareMigration path ⟨true,upgrade⟩) preparing result) (succeeds : Succeeds preparing)
    (registered : ⟨.hasSystemCredentials,true⟩ ∈ preparing) : ∃ report, result = .ok report := by
  rw [prepareMigration_eq] at preparation
  rcases ran_bind.mp preparation with ⟨_,failed,_⟩ | ⟨migrating,version,_,rfl,_,later⟩
  · obtain ⟨_,impossible⟩ := (migrates_of_ran failed).complete succeeds registered
    cases impossible
  have passed := (succeeds_append.mp succeeds).2
  rcases ran_bind.mp later with ⟨_,failed,_⟩ | ⟨sorting,disabled,_,rfl,_,refreshing⟩
  · exact absurd passed (failsFast_disableObsoleteRepositories.halts failed).not_succeeds
  rcases ran_packages_bind.mp refreshing with ⟨error,rfl,_⟩ | ⟨_,_,rfl,last⟩
  · cases (succeeds_append.mp passed).2 _ (List.mem_singleton_self _)
  · exact ⟨_,(ran_pure.mp last).2⟩

theorem Course.complete (course : Course path ⟨true,upgrade⟩ events ended)
    (registered : events = ⟨.hasSystemCredentials,true⟩ :: rest) (succeeds : Succeeds events) :
    ∃ report, ended = .ok report := by
  cases course with
  | finished _ _ _ => exact ⟨_,rfl⟩
  | unread _ read =>
    have passed := (succeeds_cons.mp (succeeds_append.mp succeeds).2).2
    exact absurd passed (failsFast_systemProducts.halts read).not_succeeds
  | halfway _ _ => cases (succeeds_cons.mp (succeeds_append.mp succeeds).2).1
  | refused _ _ _ => cases (succeeds_cons.mp (succeeds_append.mp succeeds).2).1
  | unprepared preparation _ =>
    rcases prepareMigration_registered preparation with ⟨rfl,_⟩ | ⟨later,rfl⟩
    · cases registered
    · obtain ⟨_,impossible⟩ := prepareMigration_complete preparation (succeeds_append.mp succeeds).1 (by simp)
      cases impossible

end Migration

-- What a migration disables, what it tells of it, and how it ends where it could not go on.
structure DisablesObsolete (path : MigrationPath) (events : List Event)
    (ended : Except MigrationFailure MigrationReport) : Prop extends DisablesExactly path events where
  member_iff : ∀ label, label ∈ obsolete (listedIn events) (findsIn path events) ↔
    Enabled (listedIn events) label ∧ ∃ find ∈ findsIn path events, find.label = label ∧ find.Outdated
  distinct : (obsolete (listedIn events) (findsIn path events)).Nodup
  ordered : (obsolete (listedIn events) (findsIn path events)).Pairwise fun one other =>
    comesUp (listedIn events) (findsIn path events) one < comesUp (listedIn events) (findsIn path events) other
  complete : ∀ rest, events = ⟨.hasSystemCredentials,true⟩ :: rest → Succeeds events → ∃ report, ended = .ok report
  reported : ∀ report, ended = .ok report → Discloses path events report.disabled
  stopped : ∀ event error, event ∈ events → Sifts event.question → errorOf event = some error →
    StopsSorting events ended event error

theorem applyMigration_disablesObsolete (behaviour : Program.Behaviour collaboration) (path : MigrationPath)
    (upgrade : UpgradeOptions) :
    ∃ events ended, Program.play behaviour [] (applyMigration path ⟨true,upgrade⟩).run = (events,.ok ended) ∧
      DisablesObsolete path events ended := by
  have ran := Program.runs_play behaviour [] (applyMigration path ⟨true,upgrade⟩).run
  obtain ⟨ended,same,course⟩ := course_of_ran ran
  have weeds := course.weeds
  refine ⟨_,ended,Prod.ext rfl same,weeds.exactly,?_,?_,?_,?_,weeds.reports,?_⟩
  · exact fun label => mem_obsolete
  · exact obsolete_ordered.imp fun less same => by simp [same] at less
  · exact obsolete_ordered
  · exact fun rest registered succeeds => course.complete registered succeeds
  · exact fun event error member sifts failed => weeds.stops member sifts failed

end Entitlement.Registration
