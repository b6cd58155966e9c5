import Entitlement.Proofs.Registration.Upgrades

-- The release that a migrated system is set to. Every base product of a path sets it anew, so that it is that of the last
-- one. A migration is named after the first one, and the two differ where a path has base products of several versions.
namespace Entitlement.Registration

def lastBase (path : MigrationPath) : Option Product := (path.filter (·.isBase)).getLast?

def versionOf (base : Option Product) : String := (base.map (·.version)).getD ""

section Version

variable {path : MigrationPath} {base : Product}

theorem lastBase_cons (product : Product) (rest : MigrationPath) :
    lastBase (product :: rest) = if product.isBase then some ((lastBase rest).getD product) else lastBase rest := by
  unfold lastBase
  rw [List.filter_cons]
  split
  · exact List.getLast?_cons
  · rfl

theorem pinnedVersion_eq (version : String) (path : MigrationPath) :
    pinnedVersion version path = ((lastBase path).map (·.version)).getD version := by
  induction path generalizing version with
  | nil => rfl
  | cons product rest ih =>
    have step : pinnedVersion version (product :: rest) =
        pinnedVersion (if product.isBase then product.version else version) rest := rfl
    rw [step,ih,lastBase_cons]
    by_cases isBase : product.isBase
    · rw [if_pos isBase,if_pos isBase]
      cases lastBase rest <;> rfl
    · rw [if_neg isBase,if_neg isBase]

theorem findBase_eq_head? (path : MigrationPath) : findBase path = (path.filter (·.isBase)).head? :=
  List.head?_filter.symm

-- There is a first base product where there is a last one.
theorem findBase_of_lastBase (last : lastBase path = some base) : ∃ first, findBase path = some first := by
  rw [findBase_eq_head?]
  unfold lastBase at last
  cases bases : path.filter (·.isBase) with
  | nil => rw [bases] at last; cases last
  | cons first rest => exact ⟨first,rfl⟩

theorem versionOf_eq_empty_iff {base : Option Product} : versionOf base = "" ↔ ∀ b, base = some b → b.version = "" := by
  cases base with
  | none => simp [versionOf]
  | some b => simp [versionOf]

-- The two agree on every path but those whose first and last base product have different versions.
theorem versionOf_lastBase_eq_iff : versionOf (lastBase path) = versionOf (findBase path) ↔
    ∀ first last, findBase path = some first → lastBase path = some last → first.version = last.version := by
  cases last : lastBase path with
  | none =>
    have none : findBase path = none := by
      rw [findBase_eq_head?]
      rw [lastBase,List.getLast?_eq_none_iff] at last
      rw [last]
      rfl
    simp [none]
  | some base =>
    obtain ⟨first,found⟩ := findBase_of_lastBase last
    simp [found,versionOf,eq_comm]

end Version

-- The calls that are given a release.
def steeringOf : Question → Option PackageCall
  | .packages (.refreshRepositories version force) => some (.refreshRepositories version force)
  | .packages (.distUpgrade version options) => some (.distUpgrade version options)
  | _ => none

def steering (options : MigrationOptions) (version : String) : List PackageCall :=
  [.refreshRepositories (releaseVersion version) true,.distUpgrade (releaseVersion version) options.upgrade]

-- What a system is set to once its products are upgraded.
structure PinsLast (path : MigrationPath) (events : List Event) (version : String) : Prop where
  last : version = versionOf (lastBase path)
  pinned : requests pinOf events = (releaseVersion version).toList
  unpinned_iff : version = "" ∧ requests pinOf events = [] ↔ ∀ base, lastBase path = some base → base.version = ""
  first_iff : version = versionOf (findBase path) ↔
    ∀ first last, findBase path = some first → lastBase path = some last → first.version = last.version

-- What is done with that release afterwards. A migration that is finished leaves it as it was set.
structure Steers (path : MigrationPath) (options : MigrationOptions) (version : String) (later : List Event)
    (ended : Except MigrationFailure MigrationReport) : Prop where
  steered : requests steeringOf later <+: steering options version
  reported : ∀ report, ended = .ok report → report.baseVersion = version ∧
    requests steeringOf later = steering options version ∧ requests pinOf later = [] ∧ finishedNote path ∈ later

section Steering

variable {path : MigrationPath} {options : MigrationOptions} {version : String}

theorem releaseVersion_toList (version : String) :
    (releaseVersion version).toList = if version.isEmpty then [] else [version] := by
  unfold releaseVersion
  split
  · rfl
  · rfl

theorem requests_pinOf_pinning (version : String) : requests pinOf (pinning version) = (releaseVersion version).toList := by
  rw [releaseVersion_toList]
  unfold pinning
  split
  · rfl
  · rfl

theorem Finishes.pinsLast (finishes : Finishes path events version) : PinsLast path events version := by
  have last : version = versionOf (lastBase path) := finishes.version_eq.trans (pinnedVersion_eq "" path)
  have pinned : requests pinOf events = (releaseVersion version).toList := by
    obtain ⟨installed,upgrading,accepted,rfl,_,silent,_⟩ := finishes.parts
    rw [requests_append,requests_append,silent]
    exact requests_pinOf_pinning version
  refine ⟨last,pinned,?_,?_⟩
  · rw [← versionOf_eq_empty_iff,← last,pinned]
    refine and_iff_left_of_imp fun empty => ?_
    rw [empty]
    rfl
  · rw [last]
    exact versionOf_lastBase_eq_iff

-- Calls that set no release and are given none.
def Unsteered (q : Question) : Prop := steeringOf q = none ∧ pinOf q = none

theorem Disables.unsteered (q : Question) (disables : Disables q) : Unsteered q := by
  cases q with
  | packages call => cases call <;> first | exact ⟨rfl,rfl⟩ | cases disables
  | _ => exact ⟨rfl,rfl⟩

theorem ReadsProducts.unsteered (q : Question) (reads : ReadsProducts q) : Unsteered q := by
  cases q with
  | packages call => cases call <;> first | exact ⟨rfl,rfl⟩ | cases reads
  | _ => exact ⟨rfl,rfl⟩

-- A rollback sets the release, but it does nothing with it.
theorem RollsBack.unsteered (q : Question) (rolls : RollsBack q) : steeringOf q = none := by
  cases q with
  | packages call => cases call <;> first | rfl | cases rolls
  | _ => rfl

theorem unsteered_of_ran {action : Action α} {result : Result α} (asks : Asks Unsteered action)
    (ran : Ran action events result) : requests steeringOf events = [] ∧ requests pinOf events = [] :=
  ⟨asks.requests_eq_nil (fun _ unsteered => unsteered.1) ran,asks.requests_eq_nil (fun _ unsteered => unsteered.2) ran⟩

theorem steering_rolledBack {error : Error} {reply : Result Unit} (rolled : Ran rollback back reply) :
    requests steeringOf (rollbackNotes error ++ back ++ [rollbackNote reply]) = [] := by
  have noted : requests steeringOf [rollbackNote reply] = [] := by cases reply <;> rfl
  rw [requests_append,requests_append,asks_rollback.requests_eq_nil RollsBack.unsteered rolled,noted]
  rfl

-- What is left of a preparation when the products are upgraded.
def refreshing (path : MigrationPath) (options : MigrationOptions) (version : String) : Action MigrationReport := do
  let disabled ← disableIfAsked path options
  packages (.refreshRepositories (releaseVersion version) true)
  return ⟨version,disabled⟩

theorem steering_refreshing {result : Result MigrationReport} (ran : Ran (refreshing path options version) events result) :
    requests steeringOf events <+: [.refreshRepositories (releaseVersion version) true] ∧
      ∀ report, result = .ok report → report.baseVersion = version ∧
        requests steeringOf events = [.refreshRepositories (releaseVersion version) true] ∧ requests pinOf events = [] := by
  have disables : Asks Unsteered (disableIfAsked path options) := asks_disableIfAsked.mono Disables.unsteered
  rcases ran_bind.mp ran with ⟨error,failed,rfl⟩ | ⟨disabling,disabled,_,rfl,settled,later⟩
  · rw [(unsteered_of_ran disables failed).1]
    exact ⟨List.nil_prefix,fun _ impossible => nomatch impossible⟩
  obtain ⟨unsteered,unpinned⟩ := unsteered_of_ran disables settled
  rcases ran_packages_bind.mp later with ⟨error,rfl,rfl⟩ | ⟨_,_,rfl,last⟩
  · rw [requests_append,unsteered]
    exact ⟨List.prefix_rfl,fun _ impossible => nomatch impossible⟩
  · obtain ⟨rfl,rfl⟩ := ran_pure.mp last
    rw [requests_append,requests_append,unsteered,unpinned]
    refine ⟨List.prefix_rfl,?_⟩
    intro report same
    cases same
    exact ⟨rfl,rfl,rfl⟩

theorem steering_upgraded {report : MigrationReport} {reply : Result Unit} {rest tail : List Event}
    (refreshed : requests steeringOf rest = [.refreshRepositories (releaseVersion version) true])
    (reported : report.baseVersion = version) (silent : requests steeringOf tail = []) :
    requests steeringOf (rest ++ upgraded report options reply :: tail) = steering options version := by
  rw [requests_append,refreshed,← reported]
  exact congrArg (fun calls => PackageCall.refreshRepositories _ true :: .distUpgrade _ options.upgrade :: calls) silent

theorem Course.steers {ended : Except MigrationFailure MigrationReport} {migrating later : List Event}
    (course : Course path options events ended) (migrated : Ran (migrateSystem path) migrating (.ok version))
    (parts : migrating ++ later = events) : Steers path options version later ended := by
  -- A preparation goes on where the products are upgraded.
  have resumes {preparing tail : List Event} {result : Result MigrationReport}
      (preparation : Ran (prepareMigration path options) preparing result) (same : migrating ++ later = preparing ++ tail) :
      ∃ rest, later = rest ++ tail ∧ Ran (refreshing path options version) rest result := by
    rw [prepareMigration_eq] at preparation
    obtain ⟨rest,_,ends,resumed⟩ := ran_resume migrated preparation same
    exact ⟨rest,ends,resumed⟩
  have fails {failure : MigrationFailure} (steered : requests steeringOf later <+: steering options version) :
      Steers path options version later (.error failure) := ⟨steered,fun _ impossible => nomatch impossible⟩
  have stops {failure : MigrationFailure} (steered : requests steeringOf later = steering options version) :
      Steers path options version later (.error failure) := fails ⟨[],(List.append_nil _).trans steered⟩
  cases course with
  | @finished _ report reading products installing complete preparation read installed =>
    obtain ⟨rest,rfl,resumed⟩ := resumes preparation parts
    obtain ⟨reported,refreshed,unpinned⟩ := (steering_refreshing resumed).2 report rfl
    obtain ⟨readUnsteered,readUnpinned⟩ := unsteered_of_ran (asks_systemProducts.mono ReadsProducts.unsteered) read
    obtain ⟨installUnsteered,installUnpinned⟩ :=
      unsteered_of_ran (asks_installReleasePackages.mono ReadsProducts.unsteered) installed
    have tailUnsteered : requests steeringOf (reading ++ installing ++ [finishedNote path]) = [] := by
      rw [requests_append,requests_append,readUnsteered,installUnsteered]
      rfl
    have tailUnpinned : requests pinOf (reading ++ installing ++ [finishedNote path]) = [] := by
      rw [requests_append,requests_append,readUnpinned,installUnpinned]
      rfl
    have steered := @steering_upgraded options version report (.ok ()) _ _ refreshed reported tailUnsteered
    refine ⟨⟨[],(List.append_nil _).trans steered⟩,?_⟩
    intro other same
    cases same
    refine ⟨reported,steered,?_,by simp⟩
    rw [requests_append,unpinned]
    exact tailUnpinned
  | unread preparation read =>
    obtain ⟨rest,rfl,resumed⟩ := resumes preparation parts
    obtain ⟨reported,refreshed,_⟩ := (steering_refreshing resumed).2 _ rfl
    obtain ⟨unsteered,_⟩ := unsteered_of_ran (asks_systemProducts.mono ReadsProducts.unsteered) read
    apply stops
    exact steering_upgraded refreshed reported unsteered
  | halfway preparation stopped =>
    obtain ⟨rest,rfl,resumed⟩ := resumes preparation parts
    obtain ⟨reported,refreshed,_⟩ := (steering_refreshing resumed).2 _ rfl
    apply stops
    exact steering_upgraded refreshed reported rfl
  | refused preparation other rolled =>
    obtain ⟨rest,rfl,resumed⟩ := resumes preparation parts
    obtain ⟨reported,refreshed,_⟩ := (steering_refreshing resumed).2 _ rfl
    apply stops
    exact steering_upgraded refreshed reported (steering_rolledBack rolled)
  | unprepared preparation rolled =>
    obtain ⟨rest,rfl,resumed⟩ := resumes preparation parts
    apply fails
    rw [requests_append,steering_rolledBack rolled,List.append_nil]
    exact (steering_refreshing resumed).1.trans ⟨_,rfl⟩

end Steering

theorem migrateSystem_pinsLast {path : MigrationPath} {migrating : List Event} {version : String}
    (migrated : Ran (migrateSystem path) migrating (.ok version)) :
    PinsLast path migrating version ∧ ∀ options later ended,
      Ran (applyMigration path options) (migrating ++ later) (.ok ended) → Steers path options version later ended := by
  refine ⟨(migrates_of_ran migrated).finishes.pinsLast,?_⟩
  intro options later ended ran
  obtain ⟨_,same,course⟩ := course_of_ran ran
  cases same
  exact course.steers migrated rfl

-- A path with two base products, as the server offers it where a system changes to another one.

def baseSystem1 : Product := { Product.ofTriplet ⟨"base-system","1","x86_64"⟩ with isBase := true }

theorem last_base_pins :
    let ran := Program.play (obliging true [baseSystem1,server154] baseSystem1) [] (migrateSystem [baseSystem1,server155]).run
    ran.2 = .ok "15.5" ∧ requests pinOf ran.1 = ["15.5"] ∧ PinsLast [baseSystem1,server155] ran.1 "15.5" := by
  intro ran
  have migrated := Program.runs_play (obliging true [baseSystem1,server154] baseSystem1) []
    (migrateSystem [baseSystem1,server155]).run
  exact ⟨rfl,rfl,(migrateSystem_pinsLast migrated).1⟩

theorem first_base_not_pinned : ¬ ∀ behaviour path options report,
    (Program.play behaviour [] (applyMigration path options).run).2 = .ok (.ok report) →
      report.baseVersion = versionOf (findBase path) := by
  intro pinned
  have other := pinned (obliging true [baseSystem1,server154] baseSystem1) [baseSystem1,server155] {} ⟨"15.5",[]⟩ rfl
  exact absurd other (by decide)

end Entitlement.Registration
