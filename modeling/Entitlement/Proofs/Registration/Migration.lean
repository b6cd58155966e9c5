import Entitlement.Proofs.Registration.Rollback
import Entitlement.Registration.Migration

-- Where a migration stops, and what is done about it there.
namespace Entitlement.Registration

def Prepares : Question → Prop
  | .hasSystemCredentials | .packages .installedProducts | .server (.upgrade _) | .server (.synchronize _)
  | .packages (.setReleaseVersion _) | .packages .repositories | .packages (.findProductPackages _)
  | .packages (.disableRepository _) | .packages (.refreshRepositories _ _) => True
  | q => MaintainsServices q

theorem MaintainsServices.prepares {q : Question} (maintains : MaintainsServices q) : Prepares q := by
  cases q with
  | server call => cases maintains
  | packages call => cases call <;> trivial
  | hasSystemCredentials => trivial
  | store call => exact maintains
  | isServicePlugin name => trivial
  | fileExists path => cases maintains
  | report level event => trivial

theorem asks_upgradeProducts {version : String} {path : List Product} :
    Asks Prepares (upgradeProducts version path) := by
  induction path generalizing version with
  | nil => exact asks_pure
  | cons product rest ih =>
    exact asks_bind (asks_ask trivial) fun _ => asks_bind (asks_adapt (asks_server trivial)) fun _ =>
      asks_bind (asks_adapt (asks_reconcileService.mono fun _ => MaintainsServices.prepares)) fun _ => ih

theorem asks_migrateSystem {path : MigrationPath} : Asks Prepares (migrateSystem path) := by
  refine asks_bind (asks_requireRegistration trivial) fun _ => asks_bind (asks_packages trivial) fun _ =>
    asks_bind asks_upgradeProducts fun version => asks_bind (asks_server trivial) fun _ => ?_
  split
  · exact asks_bind (asks_packages trivial) fun _ => asks_pure
  · exact asks_pure

def Disables : Question → Prop
  | .packages .repositories | .packages (.findProductPackages _) | .packages (.disableRepository _) | .report _ _ => True
  | _ => False

theorem Disables.prepares {q : Question} (disables : Disables q) : Prepares q := by
  cases q with
  | packages call => cases call <;> trivial
  | report level event => trivial
  | _ => cases disables

theorem asks_disableFor {enabled disabled : List String} {product : Product} {found : List ProductPackage} :
    Asks Disables (disableFor enabled product disabled found) := by
  induction found generalizing disabled with
  | nil => exact asks_pure
  | cons package rest ih =>
    unfold disableFor
    split
    · exact asks_bind (asks_ask trivial) fun _ => asks_bind (asks_packages trivial) fun _ => ih
    · exact ih

theorem asks_disableForAll {enabled disabled : List String} {path : List Product} :
    Asks Disables (disableForAll enabled disabled path) := by
  induction path generalizing disabled with
  | nil => exact asks_pure
  | cons product rest ih =>
    exact asks_bind (asks_packages trivial) fun _ => asks_bind asks_disableFor fun _ => ih

-- Disabling is optional.
def disableIfAsked (path : MigrationPath) (options : MigrationOptions) : Action (List String) :=
  if options.disableObsolete then disableObsoleteRepositories path else pure []

theorem asks_disableIfAsked {path : MigrationPath} {options : MigrationOptions} :
    Asks Disables (disableIfAsked path options) := by
  unfold disableIfAsked
  split
  · exact asks_bind (asks_packages trivial) fun _ => asks_disableForAll
  · exact asks_pure

theorem prepareMigration_eq (path : MigrationPath) (options : MigrationOptions) :
    prepareMigration path options = (do
      let version ← migrateSystem path
      let disabled ← disableIfAsked path options
      packages (.refreshRepositories (releaseVersion version) true)
      return ⟨version,disabled⟩) := by
  unfold prepareMigration disableIfAsked
  congr 1
  funext version
  split
  · rfl
  · rfl

theorem asks_prepareMigration {path : MigrationPath} {options : MigrationOptions} :
    Asks Prepares (prepareMigration path options) := by
  rw [prepareMigration_eq]
  exact asks_bind asks_migrateSystem fun _ => asks_bind (asks_disableIfAsked.mono fun _ => Disables.prepares) fun _ =>
    asks_bind (asks_packages trivial) fun _ => asks_pure

def ReadsProducts : Question → Prop
  | .hasSystemCredentials | .packages .installedProducts | .server .activations
  | .packages (.installReleasePackage _) | .report _ _ => True
  | _ => False

theorem asks_systemProducts : Asks ReadsProducts systemProducts := by
  refine asks_bind (asks_packages trivial) fun installed => asks_bind (asks_ask trivial) fun registered => ?_
  split
  · exact asks_bind (asks_server trivial) fun _ => asks_pure
  · exact asks_pure

theorem asks_installReleasePackages {products : List Product} :
    Asks ReadsProducts (installReleasePackages products) := by
  induction products with
  | nil => exact asks_pure
  | cons product rest ih =>
    refine asks_bind (asks_outcome (asks_packages trivial)) fun reply => ?_
    split
    · exact ih
    · exact asks_bind (asks_ask trivial) fun _ => asks_bind ih fun _ => asks_pure

-- A release package that cannot be installed stops nothing.
theorem installReleasePackages_completes {products : List Product}
    (ran : Ran (installReleasePackages products) events result) : ∃ complete, result = .ok complete := by
  induction products generalizing events result with
  | nil => exact ⟨true,(ran_pure.mp ran).2⟩
  | cons product rest ih =>
    obtain ⟨_,reply,_,rfl,_,later⟩ := ran_outcome_bind.mp ran
    cases reply with
    | ok value => exact ih later
    | error error =>
      obtain ⟨_,rfl,warned⟩ := ran_warn_bind.mp later
      rcases ran_bind.mp warned with ⟨_,failed,_⟩ | ⟨_,_,_,rfl,_,last⟩
      · obtain ⟨_,impossible⟩ := ih failed; cases impossible
      · exact ⟨false,(ran_pure.mp last).2⟩

theorem ran_checkSystemProducts_false :
    Ran (checkSystemProducts false) events result ↔
      (∃ error, Ran systemProducts events (.error error) ∧ result = .error error) ∨
      ∃ reading installing products complete, events = reading ++ installing ∧ Ran systemProducts reading (.ok products) ∧
        Ran (installReleasePackages products) installing (.ok complete) ∧ result = .ok products := by
  simp only [checkSystemProducts,Bool.and_false,Bool.false_eq_true,if_false]
  rw [ran_bind]
  refine or_congr Iff.rfl ⟨?_,?_⟩
  · rintro ⟨reading,products,_,rfl,read,later⟩
    rcases ran_bind.mp later with ⟨_,failed,_⟩ | ⟨installing,complete,_,rfl,installed,last⟩
    · obtain ⟨_,impossible⟩ := installReleasePackages_completes failed; cases impossible
    · obtain ⟨rfl,rfl⟩ := ran_pure.mp last
      exact ⟨reading,installing,products,complete,by simp,read,installed,rfl⟩
  · rintro ⟨reading,installing,products,complete,rfl,read,installed,rfl⟩
    refine ⟨reading,products,installing,rfl,read,ran_bind.mpr (.inr ?_)⟩
    exact ⟨installing,complete,[],by simp,installed,ran_pure.mpr ⟨rfl,rfl⟩⟩

-- What is reported of a rollback.
def rollbackNote : Result Unit → Event
  | .ok () => ⟨.report .info "Rollback successful",()⟩
  | .error e => ⟨.report .warn ("Rollback failed: " ++ e.message),()⟩

def rollbackNotes (error : Error) : List Event :=
  [⟨.report .warn ("Migration failed: " ++ error.message),()⟩,⟨.report .info "Performing repository rollback ...",()⟩]

theorem ran_rollBackAfter {error : Error} {result : Result MigrationFailure} :
    Ran (rollBackAfter error) events result ↔
      ∃ back reply, events = rollbackNotes error ++ back ++ [rollbackNote reply] ∧ Ran rollback back reply ∧
        result = .ok ⟨error,false,some reply⟩ := by
  constructor
  · intro ran
    obtain ⟨_,rfl,warned⟩ := ran_warn_bind.mp ran
    obtain ⟨_,rfl,started⟩ := ran_info_bind.mp warned
    obtain ⟨back,reply,_,rfl,rolled,later⟩ := ran_outcome_bind.mp started
    cases reply with
    | ok value =>
      obtain ⟨_,rfl,last⟩ := ran_info_bind.mp later
      obtain ⟨rfl,rfl⟩ := ran_pure.mp last
      exact ⟨back,_,by simp [rollbackNotes,rollbackNote],rolled,rfl⟩
    | error e =>
      obtain ⟨_,rfl,last⟩ := ran_warn_bind.mp later
      obtain ⟨rfl,rfl⟩ := ran_pure.mp last
      exact ⟨back,_,by simp [rollbackNotes,rollbackNote],rolled,rfl⟩
  · rintro ⟨back,reply,rfl,rolled,rfl⟩
    refine ran_warn_bind.mpr ⟨_,rfl,ran_info_bind.mpr ⟨_,rfl,ran_outcome_bind.mpr ?_⟩⟩
    refine ⟨back,reply,[rollbackNote reply],rfl,rolled,?_⟩
    cases reply with
    | ok value => exact ran_info_bind.mpr ⟨[],rfl,ran_pure.mpr ⟨rfl,rfl⟩⟩
    | error e => exact ran_warn_bind.mpr ⟨[],rfl,ran_pure.mpr ⟨rfl,rfl⟩⟩

end Entitlement.Registration
