import Entitlement.Proofs.Product.Tree
import Entitlement.Proofs.Registration.Services
import Entitlement.Registration.Rollback

-- What a rollback that comes to its end has done: it has downgraded the base product and every installed
-- extension of its tree, and told the server and the package manager what is installed.
namespace Entitlement.Registration

def RollsBack : Question → Prop
  | .hasSystemCredentials | .packages .installedProducts | .server (.downgrade _) | .server (.productTree _)
  | .server (.synchronize _) | .packages (.setReleaseVersion _) => True
  | q => MaintainsServices q

theorem MaintainsServices.rollsBack {q : Question} (maintains : MaintainsServices q) : RollsBack q := by
  cases q with
  | server call => cases maintains
  | packages call => cases call <;> trivial
  | hasSystemCredentials => trivial
  | store call => exact maintains
  | isServicePlugin name => trivial
  | fileExists path => cases maintains
  | report level event => trivial

theorem asks_downgradeProduct {product : Product} : Asks RollsBack (downgradeProduct product) :=
  asks_bind (asks_ask trivial) fun _ => asks_bind (asks_server trivial) fun _ =>
    asks_reconcileService.mono fun _ => MaintainsServices.rollsBack

theorem asks_rollback : Asks RollsBack rollback :=
  asks_bind (asks_requireRegistration trivial) fun _ => asks_bind (asks_ask trivial) fun _ =>
  asks_bind (asks_baseProduct trivial) fun _ => asks_bind asks_downgradeProduct fun _ =>
  asks_bind (asks_packages trivial) fun _ => asks_bind (asks_server trivial) fun _ =>
  asks_bind asks_settled fun _ => asks_bind (asks_forM fun _ => asks_downgradeProduct) fun _ =>
  asks_bind (asks_server trivial) fun _ => asks_packages trivial

-- Products taken back one after the other, each service put in its place before the next.

def downgradeNote (product : Product) : Event := ⟨.report .info ("Downgrading " ++ product.tripletText ++ " ..."),()⟩

inductive TakesBack : List Product → List Event → Prop where
  | nil : TakesBack [] []
  | cons : Replaced service replacing → TakesBack rest later →
      TakesBack (product :: rest)
        (downgradeNote product :: ⟨.server (.downgrade product),.ok service⟩ :: (replacing ++ later))

theorem takesBack_one {product : Product} :
    TakesBack [product] events ↔
      ∃ service replacing, events = downgradeNote product :: ⟨.server (.downgrade product),.ok service⟩ :: replacing ∧
        Replaced service replacing := by
  constructor
  · intro taken
    cases taken with
    | cons replaced done =>
      cases done
      rw [List.append_nil]
      exact ⟨_,_,rfl,replaced⟩
  · rintro ⟨service,replacing,rfl,replaced⟩
    have taken : TakesBack [product] (_ :: _ :: (replacing ++ [])) := .cons replaced .nil
    rwa [List.append_nil] at taken

theorem ran_downgradeProduct_ok {product : Product} :
    Ran (downgradeProduct product) events (.ok ()) ↔ TakesBack [product] events := by
  simp only [downgradeProduct,ran_info_bind,ran_server_bind,ran_reconcileService_ok,takesBack_one]
  constructor
  · rintro ⟨_,rfl,⟨_,_,impossible⟩ | ⟨service,rest,rfl,replaced⟩⟩
    · cases impossible
    · exact ⟨service,rest,rfl,replaced⟩
  · rintro ⟨service,rest,rfl,replaced⟩
    exact ⟨_,rfl,.inr ⟨service,rest,rfl,replaced⟩⟩

theorem rounds_downgradeProduct {products : List Product} :
    Rounds downgradeProduct products events ↔ TakesBack products events := by
  constructor
  · intro rounds
    induction rounds with
    | nil => exact .nil
    | cons ran _ ih =>
      obtain ⟨service,replacing,rfl,replaced⟩ := takesBack_one.mp (ran_downgradeProduct_ok.mp ran)
      exact .cons replaced ih
  · intro taken
    induction taken with
    | nil => exact .nil
    | cons replaced _ ih =>
      exact .cons (ran_downgradeProduct_ok.mpr (takesBack_one.mpr ⟨_,_,rfl,replaced⟩)) ih

def isListed (installed : List Product) (product : Product) : Bool :=
  (tripletTexts installed).contains product.tripletText

theorem installedExtensions_eq (tree : Product) (installed : List Product) :
    installedExtensions tree installed =
      if tree.height ≤ depthLimit then .ok (tree.descendants.filter (isListed installed))
      else .error (.treeTooDeep tree.tripletText depthLimit) := by
  unfold installedExtensions
  rw [Product.flatten_eq]
  split
  · rfl
  · rfl

theorem installedExtensions_ok {tree : Product} {installed extensions : List Product} :
    installedExtensions tree installed = .ok extensions ↔
      tree.height ≤ depthLimit ∧ extensions = tree.descendants.filter (isListed installed) := by
  rw [installedExtensions_eq]
  split
  · rename_i low
    simp [low,eq_comm]
  · rename_i high
    simp [high]

-- What a rollback asks besides its downgrades: first, before the extensions and at its end.

def rollbackOpens (installed : List Product) : List Event :=
  [⟨.hasSystemCredentials,true⟩,
    ⟨.report .info "Starting to sync system product activations to the server. This can take some time...",()⟩,
    ⟨.packages .installedProducts,.ok installed⟩]

def rollbackLooks (installed : List Product) (base tree : Product) : List Event :=
  [⟨.packages .installedProducts,.ok installed⟩,⟨.server (.productTree base),.ok tree⟩]

def rollbackCloses (installed accepted : List Product) (base : Product) : List Event :=
  [⟨.server (.synchronize installed),.ok accepted⟩,⟨.packages (.setReleaseVersion base.version),.ok ()⟩]

-- The calls of a rollback that comes to its end. The installed products are read twice in it.
structure Retreats (reported installed : List Product) (base tree : Product) (events : List Event) : Prop where
  detected : findBase reported = some base
  low : tree.height ≤ depthLimit
  calls : ∃ first later accepted, TakesBack [base] first ∧
    TakesBack (tree.descendants.filter (isListed installed)) later ∧
    events = rollbackOpens reported ++ (first ++
      (rollbackLooks installed base tree ++ (later ++ rollbackCloses installed accepted base)))

theorem ran_rollback_ok :
    Ran rollback events (.ok ()) ↔ ∃ reported installed base tree, Retreats reported installed base tree events := by
  constructor
  · intro ran
    rcases ran_requireRegistration_bind.mp ran with ⟨_,impossible⟩ | ⟨_,rfl,guarded⟩
    · cases impossible
    obtain ⟨_,rfl,started⟩ := ran_info_bind.mp guarded
    obtain ⟨_,base,_,rfl,found,detected⟩ := ran_bind_ok.mp started
    obtain ⟨reported,rfl,detection⟩ := ran_baseProduct_ok.mp found
    obtain ⟨first,_,_,rfl,downgraded,returned⟩ := ran_bind_ok.mp detected
    rcases ran_packages_bind.mp returned with ⟨_,_,impossible⟩ | ⟨installed,_,rfl,listed⟩
    · cases impossible
    rcases ran_server_bind.mp listed with ⟨_,_,impossible⟩ | ⟨tree,_,rfl,fetched⟩
    · cases impossible
    obtain ⟨_,extensions,_,rfl,settled,chosen⟩ := ran_bind_ok.mp fetched
    obtain ⟨rfl,selected⟩ := ran_settled.mp settled
    obtain ⟨low,rfl⟩ := installedExtensions_ok.mp selected.symm
    obtain ⟨later,_,_,rfl,rounds,finished⟩ := ran_bind_ok.mp chosen
    rcases ran_server_bind.mp finished with ⟨_,_,impossible⟩ | ⟨accepted,_,rfl,synchronized⟩
    · cases impossible
    cases ran_packages.mp synchronized
    exact ⟨reported,installed,base,tree,detection,low,_,later,accepted,ran_downgradeProduct_ok.mp downgraded,
      rounds_downgradeProduct.mp (ran_forM_ok.mp rounds),rfl⟩
  · rintro ⟨reported,installed,base,tree,detection,low,first,later,accepted,taken,others,rfl⟩
    refine ran_requireRegistration_bind.mpr (.inr ⟨_,rfl,ran_info_bind.mpr ⟨_,rfl,?_⟩⟩)
    refine ran_bind_ok.mpr ⟨[_],base,_,rfl,ran_baseProduct_ok.mpr ⟨reported,rfl,detection⟩,?_⟩
    refine ran_bind_ok.mpr ⟨first,(),_,rfl,ran_downgradeProduct_ok.mpr taken,?_⟩
    refine ran_packages_bind.mpr (.inr ⟨installed,_,rfl,ran_server_bind.mpr (.inr ⟨tree,_,rfl,?_⟩)⟩)
    have selected : installedExtensions tree installed = .ok _ := installedExtensions_ok.mpr ⟨low,rfl⟩
    refine ran_bind_ok.mpr ⟨[],_,_,rfl,ran_settled.mpr ⟨rfl,selected.symm⟩,?_⟩
    refine ran_bind_ok.mpr ⟨later,(),_,rfl,ran_forM_ok.mpr (rounds_downgradeProduct.mpr others),?_⟩
    exact ran_server_bind.mpr (.inr ⟨accepted,_,rfl,ran_packages.mpr rfl⟩)

end Entitlement.Registration
