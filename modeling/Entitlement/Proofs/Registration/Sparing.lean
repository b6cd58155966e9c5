import Entitlement.Proofs.Registration.Weeding

-- What a migration leaves alone. A repository is judged by one package at a time, and the first one that is older than its
-- product decides: a repository that carries the current package too is disabled all the same.
namespace Entitlement.Registration

def OnlyOlder (finds : List Find) (r : Repository) : Prop := ∀ find ∈ finds, GoesBy r find.label → find.Outdated

-- A repository with an older package and one that is not.
def Mixed (finds : List Find) (r : Repository) : Prop :=
  (∃ find ∈ finds, GoesBy r find.label ∧ find.Outdated) ∧ ∃ find ∈ finds, GoesBy r find.label ∧ ¬ find.Outdated

def Drops (events : List Event) (r : Repository) : Prop := ∃ label ∈ requests disableOf events, GoesBy r label

-- Only what is enabled and has an older package is disabled, and a repository that is not mixed has no other packages then.
structure SparesUnmixed (path : MigrationPath) (events : List Event)
    (ended : Except MigrationFailure MigrationReport) : Prop where
  older : ∀ label ∈ requests disableOf events, ∃ r ∈ listedIn events, r.enabled = true ∧ GoesBy r label ∧
    ∃ find ∈ findsIn path events, find.label = label ∧ find.Outdated
  spares : ∀ r, ¬ Mixed (findsIn path events) r → Drops events r → OnlyOlder (findsIn path events) r
  mixed_iff : ∀ report, ended = .ok report → ∀ r ∈ listedIn events, r.enabled = true →
    (Mixed (findsIn path events) r ↔ Drops events r ∧ ¬ OnlyOlder (findsIn path events) r)

section Migration

variable {path : MigrationPath} {ended : Except MigrationFailure MigrationReport} {r : Repository} {label : String}

theorem DisablesExactly.qualifies (exactly : DisablesExactly path events) (member : label ∈ requests disableOf events) :
    Enabled (listedIn events) label ∧ ∃ find ∈ findsIn path events, find.label = label ∧ find.Outdated :=
  mem_obsolete.mp (exactly.begins.subset member)

theorem DisablesExactly.spares (exactly : DisablesExactly path events) (unmixed : ¬ Mixed (findsIn path events) r)
    (drops : Drops events r) : OnlyOlder (findsIn path events) r := by
  obtain ⟨label,member,named⟩ := drops
  obtain ⟨_,older,found,rfl,outdated⟩ := exactly.qualifies member
  intro find also goes
  refine Decidable.byContradiction fun current => ?_
  exact unmixed ⟨⟨older,found,named,outdated⟩,find,also,goes,current⟩

-- An older package of an enabled repository is enough.
theorem Discloses.drops {disabled : List String} (discloses : Discloses path events disabled) (listed : r ∈ listedIn events)
    (enabled : r.enabled = true) (older : ∃ find ∈ findsIn path events, GoesBy r find.label ∧ find.Outdated) :
    Drops events r := by
  obtain ⟨find,found,named,outdated⟩ := older
  refine ⟨find.label,?_,named⟩
  rw [discloses.disables,discloses.same]
  exact mem_obsolete.mpr ⟨⟨r,listed,enabled,named⟩,find,found,rfl,outdated⟩

theorem Weeds.mixed_iff {report : MigrationReport} (weeds : Weeds path events (.ok report)) (listed : r ∈ listedIn events)
    (enabled : r.enabled = true) :
    Mixed (findsIn path events) r ↔ Drops events r ∧ ¬ OnlyOlder (findsIn path events) r := by
  constructor
  · rintro ⟨older,find,found,named,current⟩
    exact ⟨(weeds.reports report rfl).drops listed enabled older,fun only => current (only find found named)⟩
  · rintro ⟨drops,others⟩
    exact Classical.byContradiction fun unmixed => others (weeds.exactly.spares unmixed drops)

end Migration

theorem applyMigration_spares (behaviour : Program.Behaviour collaboration) (path : MigrationPath)
    (upgrade : UpgradeOptions) :
    ∃ events ended, Program.play behaviour [] (applyMigration path ⟨true,upgrade⟩).run = (events,.ok ended) ∧
      SparesUnmixed path events ended := by
  have ran := Program.runs_play behaviour [] (applyMigration path ⟨true,upgrade⟩).run
  obtain ⟨ended,same,course⟩ := course_of_ran ran
  have weeds := course.weeds
  refine ⟨_,ended,Prod.ext rfl same,?_,fun r => weeds.exactly.spares,?_⟩
  · intro label member
    obtain ⟨⟨r,listed,enabled,named⟩,find⟩ := weeds.exactly.qualifies member
    exact ⟨r,listed,enabled,named,find⟩
  · rintro report rfl r listed enabled
    exact weeds.mixed_iff listed enabled

-- A repository that carries the release package of a product and still that of the version before.

def pool : Repository := ⟨"SLES-Pool","SLES-Pool","",true,99⟩

def pooled154 : List ProductPackage := [⟨"SLES","15.3-0","x86_64","SLES-Pool"⟩,⟨"SLES","15.4-0","x86_64","SLES-Pool"⟩]

def carrying (packages : List ProductPackage) : Program.Behaviour collaboration
  | _, .packages .repositories => .ok [pool]
  | _, .packages (.findProductPackages _) => .ok packages
  | past, q => obliging true [{ server154 with version := "15.3" }] server154 past q

theorem pool_disabled :
    let ran := Program.play (carrying pooled154) [] (applyMigration [server154] ⟨true,{}⟩).run
    ran.2 = .ok (.ok ⟨"15.4",["SLES-Pool"]⟩) ∧
      ¬ ∀ r ∈ listedIn ran.1, Drops ran.1 r → OnlyOlder (findsIn [server154] ran.1) r := by
  intro ran
  have listed : listedIn ran.1 = [pool] := by with_unfolding_all rfl
  have disabled : requests disableOf ran.1 = ["SLES-Pool"] := by with_unfolding_all rfl
  have found : findsIn [server154] ran.1 = pooled154.map (Find.mk server154) := by with_unfolding_all rfl
  have current : Edition.compare "15.4-0" "15.4" = .eq := by with_unfolding_all rfl
  refine ⟨by with_unfolding_all rfl,fun only => ?_⟩
  have drops : Drops ran.1 pool := ⟨"SLES-Pool",by rw [disabled]; exact List.mem_singleton_self _,by decide⟩
  have older := only pool (by rw [listed]; exact List.mem_singleton_self _) drops
    ⟨server154,⟨"SLES","15.4-0","x86_64","SLES-Pool"⟩⟩ (by rw [found]; simp [pooled154]) (by decide)
  have less : Edition.compare "15.4-0" "15.4" = .lt := older
  rw [current] at less
  cases less

end Entitlement.Registration
