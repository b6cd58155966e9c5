import Entitlement.Proofs.Product.Sorting
import Entitlement.Proofs.Registration.Activation
import Entitlement.Proofs.Registration.Restoration
import Entitlement.Proofs.Registration.SystemProducts

-- Planning a migration. The release package of every product is attempted, whatever became of the others. If one is
-- missing, the server is rolled back and the products are read again, and it is always the last list read that the
-- server is asked for and that the paths are sorted by.
namespace Entitlement.Registration

open MigrationPath (Arranged arranged_sort)

-- The product that a user wants to migrate to.
def goal (target : Option Triplet) : Option Product := target.map fun t => { Product.ofTriplet t with isBase := true }

def migrationsOf : Question → Option (List Product × Option Product)
  | .server (.migrations installed target) => some (installed,target)
  | _ => none

-- The release packages.

def attempt (product : Product) (reply : Result Unit) : Event := ⟨.packages (.installReleasePackage product.name),reply⟩

def missingNote (product : Product) (error : Error) : Event :=
  ⟨.report .warn ("Can't install release package for registered product " ++ product.name ++ ": " ++ error.message),()⟩

inductive Attempts : List Product → List Event → Bool → Prop where
  | nil : Attempts [] [] true
  | installed : Attempts rest events complete → Attempts (product :: rest) (attempt product (.ok ()) :: events) complete
  | missing : Attempts rest events complete →
      Attempts (product :: rest) (attempt product (.error error) :: missingNote product error :: events) false

theorem ran_installReleasePackages {products : List Product} {result : Result Bool} :
    Ran (installReleasePackages products) events result ↔
      ∃ complete, Attempts products events complete ∧ result = .ok complete := by
  induction products generalizing events result with
  | nil =>
    refine ran_pure.trans ⟨?_,?_⟩
    · intro same
      obtain ⟨rfl,rfl⟩ := same
      exact ⟨true,.nil,rfl⟩
    · intro attempts
      obtain ⟨_,attempts,rfl⟩ := attempts
      cases attempts
      exact ⟨rfl,rfl⟩
  | cons product rest ih =>
    rw [installReleasePackages,ran_outcome_bind]
    constructor
    · intro ran
      obtain ⟨_,reply,_,rfl,called,later⟩ := ran
      cases ran_packages.mp called
      cases reply with
      | ok value =>
        obtain ⟨complete,attempts,rfl⟩ := ih.mp later
        exact ⟨complete,.installed attempts,rfl⟩
      | error error =>
        obtain ⟨_,rfl,warned⟩ := ran_warn_bind.mp later
        rcases ran_bind.mp warned with ⟨_,failed,_⟩ | ⟨_,_,_,rfl,others,last⟩
        · obtain ⟨_,_,impossible⟩ := ih.mp failed
          cases impossible
        · obtain ⟨_,attempts,_⟩ := ih.mp others
          obtain ⟨rfl,rfl⟩ := ran_pure.mp last
          rw [List.append_nil]
          exact ⟨false,.missing attempts,rfl⟩
    · intro attempts
      obtain ⟨_,attempts,rfl⟩ := attempts
      cases attempts with
      | installed others => exact ⟨[_],.ok (),_,rfl,ran_packages.mpr rfl,ih.mpr ⟨_,others,rfl⟩⟩
      | @missing _ row _ _ error others =>
        refine ⟨[_],.error error,_,rfl,ran_packages.mpr rfl,ran_warn_bind.mpr ⟨_,rfl,?_⟩⟩
        exact ran_bind.mpr (.inr ⟨row,_,[],by simp,ih.mpr ⟨_,others,rfl⟩,ran_pure.mpr ⟨rfl,rfl⟩⟩)

theorem Attempts.requests_eq {products : List Product} (attempts : Attempts products events complete) :
    requests releaseOf events = products.map (·.name) := by
  induction attempts with
  | nil => rfl
  | installed _ ih => exact congrArg (_ :: ·) ih
  | missing _ ih => exact congrArg (_ :: ·) ih

-- A release package that could not be installed.
def Misses (events : List Event) : Prop := ∃ name error, ⟨.packages (.installReleasePackage name),.error error⟩ ∈ events

theorem Attempts.misses_iff {products : List Product} (attempts : Attempts products events complete) :
    Misses events ↔ complete = false := by
  induction attempts with
  | nil => simp [Misses]
  | installed _ ih =>
    rw [← ih]
    simp [Misses,attempt]
  | missing _ _ =>
    refine ⟨fun _ => rfl,fun _ => ⟨_,_,List.mem_cons_self ..⟩⟩

theorem misses_append {first second : List Event} : Misses (first ++ second) ↔ Misses first ∨ Misses second := by
  simp only [Misses,List.mem_append,exists_or]

-- The products of the system, once their release packages have been attempted.

def retreatNote : Event :=
  ⟨.report .info "Calling rollback to make sure the server is synchronized with the system state.",()⟩

inductive Checks : List Event → Result (List Product) → Prop where
  | unread : ListsProducts reading (.error error) → Checks reading (.error error)
  | complete : ListsProducts reading (.ok products) → Attempts products installing true →
      Checks (reading ++ installing) (.ok products)
  | unrestored : ListsProducts reading (.ok products) → Attempts products installing false →
      Ran rollback back (.error error) → Checks (reading ++ installing ++ retreatNote :: back) (.error error)
  | restored : ListsProducts reading (.ok products) → Attempts products installing false →
      Retreats reported installed base tree back → ListsProducts again result →
      Checks (reading ++ installing ++ retreatNote :: (back ++ again)) result

theorem ran_checkSystemProducts_true {result : Result (List Product)} :
    Ran (checkSystemProducts true) events result ↔ Checks events result := by
  unfold checkSystemProducts
  rw [ran_bind]
  constructor
  · intro ran
    rcases ran with ⟨error,failed,rfl⟩ | ⟨reading,products,_,rfl,read,later⟩
    · exact .unread (ran_systemProducts.mp failed)
    have lists := ran_systemProducts.mp read
    rcases ran_bind.mp later with ⟨_,failed,_⟩ | ⟨installing,complete,_,rfl,installed,last⟩
    · obtain ⟨_,_,impossible⟩ := ran_installReleasePackages.mp failed
      cases impossible
    obtain ⟨_,attempts,same⟩ := ran_installReleasePackages.mp installed
    cases same
    cases complete with
    | true =>
      obtain ⟨rfl,rfl⟩ := ran_pure.mp last
      rw [List.append_nil]
      exact .complete lists attempts
    | false =>
      obtain ⟨_,rfl,retreating⟩ := ran_info_bind.mp last
      rw [← List.append_assoc]
      rcases ran_bind.mp retreating with ⟨error,failed,rfl⟩ | ⟨back,_,again,rfl,rolled,read'⟩
      · exact .unrestored lists attempts failed
      · obtain ⟨_,_,_,_,retreats⟩ := ran_rollback_ok.mp rolled
        exact .restored lists attempts retreats (ran_systemProducts.mp read')
  · intro checks
    cases checks with
    | unread failed => exact .inl ⟨_,ran_systemProducts.mpr failed,rfl⟩
    | complete read attempts =>
      have installed := ran_installReleasePackages.mpr ⟨_,attempts,rfl⟩
      refine .inr ⟨_,_,_,rfl,ran_systemProducts.mpr read,ran_bind.mpr (.inr ⟨_,true,[],?_,installed,?_⟩)⟩
      · exact (List.append_nil _).symm
      · exact ran_pure.mpr ⟨rfl,rfl⟩
    | unrestored read attempts failed =>
      rw [List.append_assoc]
      have installed := ran_installReleasePackages.mpr ⟨_,attempts,rfl⟩
      refine .inr ⟨_,_,_,rfl,ran_systemProducts.mpr read,ran_bind.mpr (.inr ⟨_,false,_,rfl,installed,?_⟩)⟩
      exact ran_info_bind.mpr ⟨_,rfl,ran_bind.mpr (.inl ⟨_,failed,rfl⟩)⟩
    | restored read attempts retreats again =>
      rw [List.append_assoc]
      have installed := ran_installReleasePackages.mpr ⟨_,attempts,rfl⟩
      have rolled := ran_rollback_ok.mpr ⟨_,_,_,_,retreats⟩
      refine .inr ⟨_,_,_,rfl,ran_systemProducts.mpr read,ran_bind.mpr (.inr ⟨_,false,_,rfl,installed,?_⟩)⟩
      exact ran_info_bind.mpr ⟨_,rfl,ran_bind.mpr (.inr ⟨_,(),_,rfl,rolled,ran_systemProducts.mpr again⟩)⟩

theorem Checks.unique {one other : Result (List Product)} (checks : Checks first one) (also : Checks second other)
    (same : first ++ rest = second ++ tail) : first = second ∧ one = other :=
  Program.Runs.unique (ran_checkSystemProducts_true.mpr checks) (ran_checkSystemProducts_true.mpr also) same

-- What the reading of the products, and the check as a whole, may ask.

def Examines (q : Question) : Prop := ReadsProducts q ∨ RollsBack q

theorem asks_checkSystemProducts {rollBack : Bool} : Asks Examines (checkSystemProducts rollBack) := by
  have read : Asks Examines systemProducts := asks_systemProducts.mono fun _ => .inl
  refine asks_bind read fun products => asks_bind (asks_installReleasePackages.mono fun _ => .inl) fun complete => ?_
  split
  · exact asks_bind (asks_ask (.inl trivial)) fun _ => asks_bind (asks_rollback.mono fun _ => .inr) fun _ => read
  · exact asks_pure

theorem migrationsOf_of_examines (q : Question) (examines : Examines q) : migrationsOf q = none := by
  cases q with
  | server call => cases call <;> first | rfl | rcases examines with impossible | impossible <;> cases impossible
  | _ => rfl

theorem releaseOf_of_rollsBack (q : Question) (rollsBack : RollsBack q) : releaseOf q = none := by
  cases q with
  | packages call => cases call <;> first | rfl | cases rollsBack
  | _ => rfl

theorem downgradeOf_of_readsProducts (q : Question) (reads : ReadsProducts q) : downgradeOf q = none := by
  cases q with
  | server call => cases call <;> first | rfl | cases reads
  | _ => rfl

theorem Checks.unasked {result : Result (List Product)} (checks : Checks events result) :
    requests migrationsOf events = [] :=
  asks_checkSystemProducts.requests_eq_nil migrationsOf_of_examines (ran_checkSystemProducts_true.mpr checks)

-- A reading asks for the products alone.

theorem ListsProducts.quiet {pick : Question → Option β} {result : Result (List Product)}
    (lists : ListsProducts events result) (unlisted : pick (.packages .installedProducts) = none)
    (unregistered : pick .hasSystemCredentials = none) (unactivated : pick (.server .activations) = none) :
    requests pick events = [] := by
  cases lists <;> simp [requests,unlisted,unregistered,unactivated]

theorem ListsProducts.unique {one other : Result (List Product)} (lists : ListsProducts first one)
    (also : ListsProducts second other) (same : first ++ rest = second ++ tail) : first = second ∧ one = other :=
  Program.Runs.unique (ran_systemProducts.mpr lists) (ran_systemProducts.mpr also) same

theorem Retreats.quiet {pick : Question → Option β} {reported installed : List Product} {base tree : Product}
    (retreats : Retreats reported installed base tree back) (silent : ∀ q, RollsBack q → pick q = none) :
    requests pick back = [] :=
  asks_rollback.requests_eq_nil silent (ran_rollback_ok.mpr ⟨_,_,_,_,retreats⟩)

-- Once the products are read, what is attempted is settled, whatever comes later.
theorem Checks.requests_releaseOf {first : List Product} {result : Result (List Product)} (checks : Checks row result)
    (read : ListsProducts reading (.ok first)) (same : row ++ rest = reading ++ tail) :
    requests releaseOf row = first.map (·.name) := by
  have listed {events : List Event} {result : Result (List Product)} (read : ListsProducts events result) :
      requests releaseOf events = [] := read.quiet rfl rfl rfl
  have noted (events : List Event) : requests releaseOf (retreatNote :: events) = requests releaseOf events := rfl
  cases checks with
  | unread failed => cases (failed.unique read same).2
  | complete also attempts =>
    rw [List.append_assoc] at same
    obtain ⟨rfl,products⟩ := also.unique read same
    cases products
    rw [requests_append,listed also,attempts.requests_eq]
    rfl
  | unrestored also attempts failed =>
    simp only [List.append_assoc] at same
    obtain ⟨rfl,products⟩ := also.unique read same
    cases products
    have rolled := asks_rollback.requests_eq_nil releaseOf_of_rollsBack failed
    rw [requests_append,requests_append,noted,listed also,attempts.requests_eq,rolled]
    simp
  | restored also attempts retreats again =>
    simp only [List.append_assoc] at same
    obtain ⟨rfl,products⟩ := also.unique read same
    cases products
    have rolled := retreats.quiet releaseOf_of_rollsBack
    rw [requests_append,requests_append,noted,requests_append,listed also,attempts.requests_eq,rolled,listed again]
    simp

-- The courses that planning can take.

def planOpens : List Event := [⟨.hasSystemCredentials,true⟩,⟨.packages (.refreshRepositories none false),.ok ()⟩]

def planFor (products : List Product) (paths : List MigrationPath) : MigrationPlan :=
  let installed := TextSet.ofList (tripletTexts products)
  ⟨products,installed,(paths.filter MigrationPath.isAvailable).map (MigrationPath.sort installed),
    (paths.filter (!MigrationPath.isAvailable ·)).map (MigrationPath.sort installed)⟩

def offered (products : List Product) (target : Option Triplet) (reply : Result (List MigrationPath)) : Event :=
  ⟨.server (.migrations products (goal target)),reply⟩

def planNote (plan : MigrationPlan) : Event :=
  ⟨.report .debug ("migration paths available=" ++ toString plan.available.length
    ++ " unavailable=" ++ toString plan.unavailable.length),()⟩

inductive Plans (target : Option Triplet) : List Event → Result MigrationPlan → Prop where
  | unregistered : Plans target [⟨.hasSystemCredentials,false⟩] (.error .systemNotRegistered)
  | unrefreshed : Plans target [⟨.hasSystemCredentials,true⟩,⟨.packages (.refreshRepositories none false),.error error⟩]
      (.error error)
  | unchecked : Checks row (.error error) → Plans target (planOpens ++ row) (.error error)
  | forgotten : Checks row (.ok products) →
      Plans target (planOpens ++ (row ++ [⟨.hasSystemCredentials,false⟩])) (.error .systemNotRegistered)
  | refused : Checks row (.ok products) →
      Plans target (planOpens ++ (row ++ [⟨.hasSystemCredentials,true⟩,offered products target (.error error)]))
        (.error error)
  | planned : Checks row (.ok products) →
      Plans target (planOpens ++ (row ++ [⟨.hasSystemCredentials,true⟩,offered products target (.ok paths),
        planNote (planFor products paths)])) (.ok (planFor products paths))

theorem ran_productMigrations {installed : List Product} {target : Option Product}
    {result : Result (List MigrationPath)} :
    Ran (productMigrations installed target) events result ↔
      events = [⟨.hasSystemCredentials,false⟩] ∧ result = .error .systemNotRegistered ∨
      events = [⟨.hasSystemCredentials,true⟩,⟨.server (.migrations installed target),result⟩] := by
  refine ran_requireRegistration_bind.trans (or_congr Iff.rfl ⟨?_,?_⟩)
  · intro ran
    obtain ⟨_,rfl,called⟩ := ran
    rw [ran_server.mp called]
  · intro called
    exact ⟨_,called,ran_server.mpr rfl⟩

theorem plans_of_ran {target : Option Triplet} {result : Result MigrationPlan}
    (ran : Ran (planMigrations target) events result) : Plans target events result := by
  rcases ran_requireRegistration_bind.mp ran with ⟨rfl,rfl⟩ | ⟨_,rfl,refreshing⟩
  · exact .unregistered
  rcases ran_packages_bind.mp refreshing with ⟨_,rfl,rfl⟩ | ⟨⟨⟩,_,rfl,checking⟩
  · exact .unrefreshed
  rcases ran_bind.mp checking with ⟨_,failed,rfl⟩ | ⟨row,products,_,rfl,checked,asking⟩
  · exact .unchecked (ran_checkSystemProducts_true.mp failed)
  have checks := ran_checkSystemProducts_true.mp checked
  rcases ran_bind.mp asking with ⟨_,failed,rfl⟩ | ⟨_,paths,_,rfl,answered,noting⟩
  · rcases ran_productMigrations.mp failed with ⟨rfl,same⟩ | rfl
    · cases same
      exact .forgotten checks
    · exact .refused checks
  · rcases ran_productMigrations.mp answered with ⟨_,impossible⟩ | rfl
    · cases impossible
    obtain ⟨_,rfl,last⟩ := ran_report_bind.mp noting
    obtain ⟨rfl,rfl⟩ := ran_pure.mp last
    exact .planned checks

-- A plan by the paths of the server. Each list is the server's, in its order, without the paths of the other.
structure Sorts (paths : List MigrationPath) (plan : MigrationPlan) : Prop where
  available : List.Forall₂ (Arranged plan.systemProducts) (paths.filter fun path => ∀ p ∈ path, p.available)
    plan.available
  unavailable : List.Forall₂ (Arranged plan.systemProducts) (paths.filter fun path => ∃ p ∈ path, p.available = false)
    plan.unavailable
  installed : ∀ text, plan.installed.contains text = true ↔ text ∈ tripletTexts plan.systemProducts

theorem forall₂_arranged {products : List Product} {paths : List MigrationPath} :
    List.Forall₂ (Arranged products) paths (paths.map (MigrationPath.sort (TextSet.ofList (tripletTexts products)))) :=
  List.forall₂_map_right_iff.mpr (List.forall₂_same.mpr fun _ _ => arranged_sort)

theorem sorts_planFor {products : List Product} {paths : List MigrationPath} : Sorts paths (planFor products paths) where
  available := by
    have whole (path : MigrationPath) : decide (∀ p ∈ path, p.available) = path.isAvailable := by
      rw [Bool.eq_iff_iff]
      simp [MigrationPath.isAvailable]
    simp only [whole]
    exact forall₂_arranged
  unavailable := by
    have broken (path : MigrationPath) : decide (∃ p ∈ path, p.available = false) = !path.isAvailable := by
      rw [Bool.eq_iff_iff]
      simp [MigrationPath.isAvailable]
    simp only [broken]
    exact forall₂_arranged
  installed _ := TextSet.contains_ofList

-- What the products of a plan are founded on. They are read, and their release packages attempted. If one is missing,
-- the server is rolled back and they are read again; nothing else comes before the paths are asked for.
structure Founded (products first : List Product) (reading installing restoring : List Event) : Prop where
  read : ListsProducts reading (.ok first)
  attempted : ∃ complete, Attempts first installing complete
  kept : ¬ Misses installing → restoring = [] ∧ products = first
  restored : Misses installing → ∃ reported installed base tree back again,
    restoring = retreatNote :: (back ++ again) ∧ Retreats reported installed base tree back ∧
      ListsProducts again (.ok products)

theorem Checks.founded {products : List Product} (checks : Checks row (.ok products)) :
    ∃ first reading installing restoring, row = reading ++ installing ++ restoring ∧
      Founded products first reading installing restoring := by
  cases checks with
  | complete read attempts =>
    have present : ¬ Misses _ := fun misses => Bool.noConfusion (attempts.misses_iff.mp misses)
    exact ⟨_,_,_,[],(List.append_nil _).symm,read,⟨_,attempts⟩,fun _ => ⟨rfl,rfl⟩,fun misses => absurd misses present⟩
  | restored read attempts retreats again =>
    have missing : Misses _ := attempts.misses_iff.mpr rfl
    exact ⟨_,_,_,_,rfl,read,⟨_,attempts⟩,fun present => absurd missing present,
      fun _ => ⟨_,_,_,_,_,_,rfl,retreats,again⟩⟩

theorem ListsProducts.not_misses {result : Result (List Product)} (lists : ListsProducts events result) :
    ¬ Misses events := by
  cases lists <;> simp [Misses]

-- The base product is downgraded by every rollback that succeeds, and by nothing else that a plan asks.
theorem Retreats.downgrades {reported installed : List Product} {base tree : Product}
    (retreats : Retreats reported installed base tree back) : requests downgradeOf back ≠ [] := by
  rw [retreats.requests_downgradeOf]
  exact List.cons_ne_nil _ _

theorem Checks.downgrades_iff {products : List Product} (checks : Checks row (.ok products)) :
    requests downgradeOf row ≠ [] ↔ Misses row := by
  have installs {events : List Event} {complete : Bool} {products : List Product}
      (attempts : Attempts products events complete) : requests downgradeOf events = [] :=
    asks_installReleasePackages.requests_eq_nil downgradeOf_of_readsProducts
      (ran_installReleasePackages.mpr ⟨_,attempts,rfl⟩)
  have noted (events : List Event) : requests downgradeOf (retreatNote :: events) = requests downgradeOf events := rfl
  cases checks with
  | complete read attempts =>
    have quiet : requests downgradeOf _ = [] := read.quiet rfl rfl rfl
    simp [requests_append,misses_append,quiet,installs attempts,read.not_misses,attempts.misses_iff]
  | restored read attempts retreats again =>
    have missing : Misses _ := attempts.misses_iff.mpr rfl
    simp [requests_append,misses_append,noted,retreats.downgrades,missing]

-- A check that comes to its end passes over missing release packages, and over no other failure.

def Heeds (events : List Event) : Prop :=
  ∀ event ∈ events, errorOf event ≠ none → releaseOf event.question ≠ none ∨ migrationsOf event.question ≠ none

theorem heeds_append {first second : List Event} : Heeds (first ++ second) ↔ Heeds first ∧ Heeds second :=
  List.forall_mem_append

theorem Succeeds.heeds (succeeds : Succeeds events) : Heeds events :=
  fun event member failed => absurd (succeeds event member) failed

theorem Attempts.heeds {products : List Product} (attempts : Attempts products events complete) : Heeds events := by
  intro event member failed
  induction attempts with
  | nil => cases member
  | installed _ ih =>
    rcases List.mem_cons.mp member with rfl | later
    · exact .inl (Option.some_ne_none _)
    · exact ih later
  | missing _ ih =>
    rcases List.mem_cons.mp member with rfl | noted
    · exact .inl (Option.some_ne_none _)
    rcases List.mem_cons.mp noted with rfl | later
    · exact absurd rfl failed
    · exact ih later

theorem ListsProducts.succeeds {products : List Product} (lists : ListsProducts events (.ok products)) :
    Succeeds events := by
  cases lists <;> simp [Succeeds,errorOf]

theorem TakesBack.succeeds {products : List Product} (taken : TakesBack products events) : Succeeds events := by
  induction taken with
  | nil => exact succeeds_nil
  | cons replaced _ ih =>
    have passed := failsFast_reconcileService.succeeds (ran_reconcileService_ok.mpr replaced)
    exact succeeds_cons.mpr ⟨rfl,succeeds_cons.mpr ⟨rfl,succeeds_append.mpr ⟨passed,ih⟩⟩⟩

theorem Retreats.succeeds {reported installed : List Product} {base tree : Product}
    (retreats : Retreats reported installed base tree back) : Succeeds back := by
  obtain ⟨_,_,first,later,accepted,taken,others,rfl⟩ := retreats
  have opens : Succeeds (rollbackOpens reported) := by simp [Succeeds,rollbackOpens,errorOf]
  have looks : Succeeds (rollbackLooks installed base tree) := by simp [Succeeds,rollbackLooks,errorOf]
  have closes : Succeeds (rollbackCloses installed accepted base) := by simp [Succeeds,rollbackCloses,errorOf]
  simp only [succeeds_append]
  exact ⟨opens,taken.succeeds,looks,others.succeeds,closes⟩

theorem Checks.heeds {products : List Product} (checks : Checks row (.ok products)) : Heeds row := by
  cases checks with
  | complete read attempts => exact heeds_append.mpr ⟨read.succeeds.heeds,attempts.heeds⟩
  | restored read attempts retreats again =>
    have later : Succeeds (retreatNote :: (_ ++ _)) :=
      succeeds_cons.mpr ⟨rfl,succeeds_append.mpr ⟨retreats.succeeds,again.succeeds⟩⟩
    exact heeds_append.mpr ⟨heeds_append.mpr ⟨read.succeeds.heeds,attempts.heeds⟩,later.heeds⟩

structure Planned (target : Option Triplet) (events : List Event) (result : Result MigrationPlan) : Prop where
  made : ∀ plan, result = .ok plan → ∃ first paths reading installing restoring,
    events = planOpens ++ (reading ++ installing ++ restoring ++
      [⟨.hasSystemCredentials,true⟩,offered plan.systemProducts target (.ok paths),planNote plan]) ∧
    Founded plan.systemProducts first reading installing restoring ∧ Sorts paths plan
  attempted : ∀ reading first rest, events = planOpens ++ (reading ++ rest) → ListsProducts reading (.ok first) →
    requests releaseOf events = first.map (·.name)
  rolledBack : ∀ plan, result = .ok plan → (requests downgradeOf events ≠ [] ↔ Misses events)
  requested : ∀ plan, result = .ok plan → requests migrationsOf events = [(plan.systemProducts,goal target)]
  asked : ∀ request ∈ requests migrationsOf events, ∃ products first reading installing restoring rest,
    events = planOpens ++ (reading ++ installing ++ restoring ++ rest) ∧
    Founded products first reading installing restoring ∧ request = (products,goal target)
  heeded : requests migrationsOf events ≠ [] → Heeds events
  withheld : ∀ row rest error, events = planOpens ++ (row ++ rest) → Checks row (.error error) →
    rest = [] ∧ result = .error error ∧ requests migrationsOf events = []

-- What the calls after the check ask for.

theorem requests_opened {pick : Question → Option β} (opens : requests pick planOpens = []) (row closing : List Event) :
    requests pick (planOpens ++ (row ++ closing)) = requests pick row ++ requests pick closing := by
  rw [requests_append,requests_append,opens,List.nil_append]

theorem Checks.attempted {first : List Product} {result : Result (List Product)} (checks : Checks row result)
    (quiet : requests releaseOf closing = []) (same : planOpens ++ (row ++ closing) = planOpens ++ (reading ++ rest))
    (read : ListsProducts reading (.ok first)) :
    requests releaseOf (planOpens ++ (row ++ closing)) = first.map (·.name) := by
  have tails := List.append_cancel_left same
  rw [requests_opened rfl,quiet,checks.requests_releaseOf read tails,List.append_nil]

variable {target : Option Triplet} {result : Result MigrationPlan}

theorem Plans.attempted (plans : Plans target events result) {first : List Product}
    (same : events = planOpens ++ (reading ++ rest)) (read : ListsProducts reading (.ok first)) :
    requests releaseOf events = first.map (·.name) := by
  cases plans with
  | unregistered => cases same
  | unrefreshed => cases same
  | @unchecked row _ checks =>
    have ends : planOpens ++ (row ++ []) = planOpens ++ (reading ++ rest) := by rw [List.append_nil,same]
    have attempted := checks.attempted rfl ends read
    rwa [List.append_nil] at attempted
  | forgotten checks => exact checks.attempted rfl same read
  | refused checks => exact checks.attempted rfl same read
  | planned checks => exact checks.attempted rfl same read

-- The paths are asked for once the check has come to its end.
theorem Plans.asked (plans : Plans target events result) {request : List Product × Option Product}
    (member : request ∈ requests migrationsOf events) : ∃ row products reply closing,
      events = planOpens ++ (row ++ ⟨.hasSystemCredentials,true⟩ :: offered products target reply :: closing) ∧
      Checks row (.ok products) ∧ Succeeds closing ∧ request = (products,goal target) := by
  cases plans with
  | unregistered => cases member
  | unrefreshed => cases member
  | unchecked checks =>
    rw [requests_append,checks.unasked] at member
    cases member
  | forgotten checks =>
    rw [requests_opened rfl,checks.unasked] at member
    cases member
  | refused checks =>
    rw [requests_opened rfl,checks.unasked] at member
    exact ⟨_,_,_,_,rfl,checks,succeeds_nil,List.mem_singleton.mp member⟩
  | planned checks =>
    rw [requests_opened rfl,checks.unasked] at member
    exact ⟨_,_,_,_,rfl,checks,succeeds_cons.mpr ⟨rfl,succeeds_nil⟩,List.mem_singleton.mp member⟩

theorem Plans.heeded (plans : Plans target events result) (requested : requests migrationsOf events ≠ []) :
    Heeds events := by
  obtain ⟨request,member⟩ := List.exists_mem_of_ne_nil _ requested
  obtain ⟨row,products,reply,closing,rfl,checks,ended,_⟩ := plans.asked member
  have opens : Succeeds planOpens := by simp [Succeeds,planOpens,errorOf]
  refine heeds_append.mpr ⟨opens.heeds,heeds_append.mpr ⟨checks.heeds,?_⟩⟩
  intro event within failed
  rcases List.mem_cons.mp within with rfl | later
  · exact absurd rfl failed
  rcases List.mem_cons.mp later with rfl | last
  · exact .inr (by simp [offered,migrationsOf])
  · exact absurd (ended event last) failed

theorem Checks.unmatched {products : List Product} (checks : Checks row (.ok products))
    (failed : Checks other (.error error)) : planOpens ++ (row ++ closing) ≠ planOpens ++ (other ++ rest) := by
  intro same
  cases (checks.unique failed (List.append_cancel_left same)).2

theorem Plans.withheld (plans : Plans target events result) (same : events = planOpens ++ (row ++ rest))
    (failed : Checks row (.error error)) : rest = [] ∧ result = .error error ∧ requests migrationsOf events = [] := by
  cases plans with
  | unregistered => cases same
  | unrefreshed => cases same
  | @unchecked whole _ checks =>
    have tails : whole ++ [] = row ++ rest := by rw [List.append_nil,List.append_cancel_left same]
    obtain ⟨rfl,ended⟩ := checks.unique failed tails
    cases ended
    refine ⟨(List.append_cancel_left tails).symm,rfl,?_⟩
    rw [requests_append,checks.unasked]
    rfl
  | forgotten checks => exact absurd same (checks.unmatched failed)
  | refused checks => exact absurd same (checks.unmatched failed)
  | planned checks => exact absurd same (checks.unmatched failed)

theorem Plans.made {plan : MigrationPlan} (plans : Plans target events (.ok plan)) :
    ∃ row products paths, Checks row (.ok products) ∧ plan = planFor products paths ∧
      events = planOpens ++ (row ++ [⟨.hasSystemCredentials,true⟩,offered products target (.ok paths),planNote plan]) := by
  cases plans with
  | planned checks => exact ⟨_,_,_,checks,rfl,rfl⟩

theorem misses_opened (quiet : ¬ Misses closing) : Misses (planOpens ++ (row ++ closing)) ↔ Misses row := by
  have opens : ¬ Misses planOpens := by simp [Misses,planOpens]
  simp [misses_append,opens,quiet]

theorem planned_of_plans (plans : Plans target events result) : Planned target events result where
  made plan ended := by
    subst ended
    obtain ⟨row,products,paths,checks,rfl,rfl⟩ := plans.made
    obtain ⟨first,reading,installing,restoring,rfl,founded⟩ := checks.founded
    exact ⟨first,paths,reading,installing,restoring,rfl,founded,sorts_planFor⟩
  attempted _ _ _ := plans.attempted
  rolledBack plan ended := by
    subst ended
    obtain ⟨row,products,paths,checks,rfl,rfl⟩ := plans.made
    rw [requests_opened rfl,misses_opened (by simp [Misses,offered,planNote]),← checks.downgrades_iff]
    simp [requests,downgradeOf,offered,planNote]
  requested plan ended := by
    subst ended
    obtain ⟨row,products,paths,checks,rfl,rfl⟩ := plans.made
    rw [requests_opened rfl,checks.unasked]
    rfl
  asked request member := by
    obtain ⟨row,products,reply,closing,parts,checks,_,same⟩ := plans.asked member
    obtain ⟨first,reading,installing,restoring,rfl,founded⟩ := checks.founded
    exact ⟨products,first,reading,installing,restoring,_,parts,founded,same⟩
  heeded := plans.heeded
  withheld _ _ _ := plans.withheld

theorem planMigrations_planned (behaviour : Program.Behaviour collaboration) (target : Option Triplet) :
    let ran := Program.play behaviour [] (planMigrations target).run
    Planned target ran.1 ran.2 := by
  intro ran
  exact planned_of_plans (plans_of_ran (Program.runs_play behaviour [] _))

-- A package manager that lacks one release package. It is that of a product which is activated and not installed.
def lacking (paths : List MigrationPath) : Program.Behaviour collaboration
  | _, .server .activations =>
    .ok [{ name := "Python", status := "ACTIVE", regcode := "", kind := "full", startsAt := none, expiresAt := none
           service := serviceOf python154 }]
  | _, .server (.migrations _ _) => .ok paths
  | _, .packages (.refreshRepositories _ _) => .ok ()
  | _, .packages (.installReleasePackage name) => if name = python154.name then .error (.command "zypper" 104 "") else .ok ()
  | past, q => unyielding [server154,desktop154] { server154 with extensions := [desktop154] } past q

theorem python_replanned :
    let next (product : Product) : Product := { product with version := "15.5" }
    let withheld : Product := { next desktop154 with available := false }
    let world := lacking [[next python154,next server154],[withheld]]
    let ran := Program.play world [] (planMigrations none).run
    Planned none ran.1 ran.2 ∧
      requests releaseOf ran.1 = [server154.name,desktop154.name,python154.name] ∧
      requests downgradeOf ran.1 = [server154,desktop154] ∧
      requests migrationsOf ran.1 = [([server154,desktop154,python154],none)] ∧
      ∃ plan, ran.2 = .ok plan ∧ plan.available = [[next server154,next python154]] ∧ plan.unavailable = [[withheld]] := by
  intro next withheld world ran
  have sorting : MigrationPath.sort = fun present path => MigrationPath.rows (MigrationPath.members present · path) :=
    funext fun present => funext (MigrationPath.sort_eq present)
  refine ⟨planMigrations_planned world none,by decide +kernel,rfl,rfl,_,rfl,?_,?_⟩
  · rw [sorting]
    rfl
  · rw [sorting]
    rfl

end Entitlement.Registration
