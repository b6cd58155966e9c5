import Entitlement.Proofs.Registration.RegisterOrder
import Entitlement.Proofs.Registration.Upgrades

-- The operations on a registration. They are put together from a few steps that change the services of a system or its
-- login, and from calls aside; what holds of the rows of those holds of every row of an operation.
namespace Entitlement.Registration

inductive Operation where
  | register (options : RegisterOptions) (system : SystemInfo)
  | activate (product : Triplet) (regcode : String) (email : Option String)
  | updateSystem (system : SystemInfo)
  | deactivate (product : Triplet)
  | deregister (product : Option Triplet)
  | cleanup
  | extensionTree
  | productMigrations (installed : List Product) (target : Option Product)
  | planMigrations (target : Option Triplet)
  | migrateSystem (path : MigrationPath)
  | applyMigration (path : MigrationPath) (options : MigrationOptions)
  | rollback

namespace Operation

abbrev Outcome : Operation → Type
  | register _ _ => RegisterOutcome
  | activate _ _ _ | deactivate _ => ProductService
  | deregister _ => DeregisterOutcome
  | updateSystem _ | cleanup | rollback => Unit
  | extensionTree => Extension
  | productMigrations _ _ => List MigrationPath
  | planMigrations _ => MigrationPlan
  | migrateSystem _ => String
  | applyMigration _ _ => Except MigrationFailure MigrationReport

def action (settings : Settings) : (o : Operation) → Action o.Outcome
  | register options system => Registration.register settings options system
  | activate product regcode email => Registration.activate settings product regcode email
  | updateSystem system => Registration.updateSystem system
  | deactivate product => Registration.deactivate settings product
  | deregister product => Registration.deregister settings product
  | cleanup => Registration.cleanup settings
  | extensionTree => Registration.extensionTree
  | productMigrations installed target => Registration.productMigrations installed target
  | planMigrations target => Registration.planMigrations target
  | migrateSystem path => Registration.migrateSystem path
  | applyMigration path options => Registration.applyMigration path options
  | rollback => Registration.rollback

-- What an operation fails with. The error of a migration is part of its answer.
def failure? (o : Operation) (result : Result o.Outcome) : Option Error :=
  match o,result with
  | applyMigration _ _,.ok (.error failure) => some failure.error
  | _,.error error => some error
  | _,.ok _ => none

def Registers : Operation → Prop
  | register _ _ => True
  | _ => False

def CleansUp : Operation → Prop
  | deregister none | cleanup => True
  | _ => False

def Migrates : Operation → Prop
  | planMigrations _ | migrateSystem _ | applyMigration _ _ | rollback => True
  | _ => False

end Operation

-- Calls that change neither the services nor the login of the system, nor the products of a migration.
def Aside : Question → Prop
  | .packages (.addService _ _ _) | .packages (.removeService _) | .store (.writeService _) | .store (.removeService _)
  | .store (.writeSystem _) | .store .removeSystem | .server (.upgrade _) | .server (.downgrade _) => False
  | _ => True

theorem Looks.aside (q : Question) (looks : Looks q) : Aside q := by
  cases q with
  | packages call => cases call <;> trivial
  | report level text => trivial
  | _ => cases looks

theorem Links.aside (q : Question) (links : Links q) : Aside q := by
  cases q with
  | store call => cases call <;> trivial
  | report level text => trivial
  | _ => cases links

theorem ReadsProducts.aside (q : Question) (reads : ReadsProducts q) : Aside q := by
  cases q with
  | server call => cases call <;> trivial
  | packages call => cases call <;> trivial
  | hasSystemCredentials => trivial
  | report level text => trivial
  | _ => cases reads

theorem Disables.aside (q : Question) (disables : Disables q) : Aside q := by
  cases q with
  | packages call => cases call <;> trivial
  | report level text => trivial
  | _ => cases disables

-- What holds of a row whatever calls aside it is put together with.
structure Steady (holds : List Event → Prop) : Prop extends Composes holds where
  aside : ∀ events, (∀ event ∈ events, Aside event.question) → holds events

namespace Steady

variable {holds : List Event → Prop} {settings : Settings}

theorem pure {value : α} (steady : Steady holds) : Makes holds (Pure.pure value : Action α) :=
  makes_pure steady.toComposes

theorem throw {error : Error} (steady : Steady holds) : Makes holds (MonadExcept.throw error : Action α) :=
  makes_throw steady.toComposes

theorem settled {result : Result α} (steady : Steady holds) : Makes holds (ExceptT.mk (Pure.pure result) : Action α) :=
  makes_settled steady.toComposes

theorem bind {action : Action α} {next : α → Action β} (steady : Steady holds) (before : Makes holds action)
    (after : ∀ value, Makes holds (next value)) : Makes holds (action >>= next) :=
  makes_bind steady.toComposes before after

theorem asks {action : Action α} (steady : Steady holds) (asks : Asks Aside action) : Makes holds action :=
  fun events result ran => steady.aside events (asks events result ran)

theorem report {level : Level} {text : String} (steady : Steady holds) : Makes holds (ask (.report level text)) :=
  steady.asks (asks_ask trivial)

theorem requireRegistration (steady : Steady holds) : Makes holds requireRegistration :=
  steady.asks (asks_requireRegistration trivial)

theorem baseProduct (steady : Steady holds) : Makes holds baseProduct := steady.asks (asks_baseProduct trivial)

-- A warning takes the place of an error.
theorem warned {action : Action Unit} {text : Error → String} (steady : Steady holds) (makes : Makes holds action) :
    Makes holds (do
      match ← outcome action with
      | .ok () => Pure.pure ()
      | .error e => warn (text e)) := by
  refine steady.bind (makes_outcome makes) fun reply => ?_
  split
  · exact steady.pure
  · exact steady.report

-- Products that come.

theorem activateProduct {product : Product} {regcode : String} {email : Option String} {release : Bool}
    (steady : Steady holds) (adds : ∀ service, Makes holds (addService settings service)) :
    Makes holds (activateProduct settings product regcode email release) := by
  refine steady.bind steady.report fun _ => steady.bind (steady.asks (asks_server trivial)) fun service => ?_
  split
  · exact steady.pure
  refine steady.bind (adds service) fun _ => steady.asks ?_
  split
  · exact asks_bind (asks_ask trivial) fun _ => asks_bind (asks_packages trivial) fun _ => asks_pure
  · exact asks_pure

theorem activateAll {options : RegisterOptions} {release : Bool} {product : Product}
    (steady : Steady holds) (adds : ∀ service, Makes holds (addService settings service)) :
    Makes holds (activateAll settings options release product) := by
  have enrolls {release : Bool} {product : Product} : Makes holds (enroll settings options release product) :=
    steady.bind (steady.activateProduct adds) fun _ => steady.pure
  refine steady.bind enrolls fun first => ?_
  split
  · rw [activateExtensions_eq]
    refine steady.bind (steady.asks (asks_server trivial)) fun tree =>
      steady.bind (makes_mapM steady.toComposes fun _ => enrolls) fun more => ?_
    split
    · exact steady.pure
    · exact steady.throw
  · exact steady.pure

theorem register {options : RegisterOptions} {system : SystemInfo} (steady : Steady holds)
    (adds : ∀ service, Makes holds (addService settings service))
    (writes : ∀ login, Makes holds (store (.writeSystem login))) : Makes holds (register settings options system) := by
  have introduces : Makes holds (announceOrUpdate options.regcode system) := by
    refine steady.bind (steady.asks (asks_ask trivial)) fun known => ?_
    split
    · exact steady.asks (asks_bind (asks_ask trivial) fun _ => asks_bind (asks_server trivial) fun _ => asks_pure)
    · exact steady.bind (steady.asks (asks_server trivial)) fun login =>
        steady.bind (writes login.credentials) fun _ => steady.pure
  rw [register_eq]
  exact steady.bind (steady.asks (asks_requestedProduct.mono Looks.aside)) fun _ =>
    steady.bind steady.report fun _ => steady.bind introduces fun _ =>
    steady.bind (steady.asks (asks_addRegistryLogin.mono Links.aside)) fun _ =>
    steady.bind (steady.activateAll adds) fun _ => steady.bind steady.report fun _ => steady.pure

-- Products that go.

theorem deactivateProduct {product : Product} (steady : Steady holds)
    (dismisses : ∀ name, Makes holds (removeOrRefreshService name)) :
    Makes holds (deactivateProduct settings product) := by
  refine steady.bind steady.report fun _ => steady.bind (steady.asks (asks_server trivial)) fun service => ?_
  split
  · exact steady.pure
  · exact steady.bind (dismisses service.name) fun _ => steady.asks
      (asks_bind (asks_ask trivial) fun _ => asks_bind (asks_packages trivial) fun _ => asks_pure)

theorem deactivate {triplet : Triplet} (steady : Steady holds)
    (dismisses : ∀ name, Makes holds (removeOrRefreshService name)) : Makes holds (deactivate settings triplet) := by
  refine steady.bind steady.requireRegistration fun _ => steady.bind steady.baseProduct fun base => ?_
  have deactivates : Makes holds (do
      let service ← Registration.deactivateProduct settings (Product.ofTriplet triplet)
      return ProductService.of (Product.ofTriplet triplet) service) :=
    steady.bind (steady.deactivateProduct dismisses) fun _ => steady.pure
  split
  · exact steady.throw
  · exact deactivates

theorem deregisterSystem (steady : Steady holds) (dismisses : ∀ name, Makes holds (removeOrRefreshService name)) :
    Makes holds (deregisterSystem settings) := by
  refine steady.bind steady.baseProduct fun base => steady.bind (steady.asks (asks_packages trivial)) fun _ =>
    steady.bind (steady.asks (asks_server trivial)) fun _ => steady.bind steady.settled fun _ =>
    steady.bind (makes_mapM steady.toComposes fun _ => steady.bind (steady.deactivateProduct dismisses) fun _ =>
      steady.pure) fun dependents =>
    steady.bind steady.report fun _ => steady.bind (steady.asks (asks_server trivial)) fun service => ?_
  have leaves : Makes holds (do
      server .deregister
      info "Successfully deregistered system"
      return dependents ++ [ProductService.of base service]) :=
    steady.asks (asks_bind (asks_server trivial) fun _ => asks_bind (asks_ask trivial) fun _ => asks_pure)
  split
  · exact steady.bind (dismisses service.name) fun _ => leaves
  · exact leaves

theorem cleanup (steady : Steady holds) (removes : ∀ name, Makes holds (removeService name))
    (forgets : Makes holds (store .removeSystem)) : Makes holds (cleanup settings) :=
  steady.bind steady.report fun _ => steady.bind (steady.asks (asks_packages trivial)) fun _ =>
    steady.bind (makes_forM steady.toComposes fun service => steady.bind steady.report fun _ => removes service.name)
      fun _ => forgets

theorem deregister (steady : Steady holds) (dismisses : ∀ name, Makes holds (removeOrRefreshService name))
    (removes : ∀ name, Makes holds (removeService name)) (forgets : Makes holds (store .removeSystem)) :
    Makes holds (deregister settings none) := by
  have cleans : Makes holds (do
      match ← outcome (Registration.cleanup settings) with
      | .ok () => Pure.pure ()
      | .error e => warn ("cleanup after deregistration failed: " ++ e.message)) :=
    steady.warned (steady.cleanup removes forgets)
  have cleansUp {login : Option Credentials} : Makes holds (cleanUpRegistration settings login) := by
    cases login with
    | none => exact cleans
    | some login =>
      refine steady.bind (makes_outcome (steady.asks (asks_store trivial))) fun reply => ?_
      split
      · exact cleans
      · exact steady.bind steady.report fun _ => cleans
  refine steady.bind (steady.asks (asks_ask trivial)) fun guest => ?_
  split
  · exact steady.throw
  exact steady.bind steady.requireRegistration fun _ => steady.bind steady.report fun _ =>
    steady.bind (makes_outcome (steady.asks (asks_store trivial))) fun _ =>
    steady.bind (makes_outcome (steady.deregisterSystem dismisses)) fun _ => steady.bind cleansUp fun _ =>
    steady.bind steady.settled fun _ => steady.pure

-- Products that are upgraded, and those that are taken back.

theorem rollback (steady : Steady holds) (downgrades : ∀ product, Makes holds (downgradeProduct product)) :
    Makes holds rollback :=
  steady.bind steady.requireRegistration fun _ => steady.bind steady.report fun _ =>
    steady.bind steady.baseProduct fun base => steady.bind (downgrades base) fun _ =>
    steady.bind (steady.asks (asks_packages trivial)) fun _ => steady.bind (steady.asks (asks_server trivial)) fun _ =>
    steady.bind steady.settled fun _ => steady.bind (makes_forM steady.toComposes downgrades) fun _ =>
    steady.asks (asks_bind (asks_server trivial) fun _ => asks_packages trivial)

theorem systemProducts (steady : Steady holds) : Makes holds systemProducts :=
  steady.asks (asks_systemProducts.mono ReadsProducts.aside)

theorem checkSystemProducts {rollBack : Bool} (steady : Steady holds)
    (downgrades : ∀ product, Makes holds (downgradeProduct product)) : Makes holds (checkSystemProducts rollBack) := by
  refine steady.bind steady.systemProducts fun products =>
    steady.bind (steady.asks (asks_installReleasePackages.mono ReadsProducts.aside)) fun complete => ?_
  split
  · exact steady.bind steady.report fun _ => steady.bind (steady.rollback downgrades) fun _ => steady.systemProducts
  · exact steady.pure

theorem productMigrations {installed : List Product} {target : Option Product} (steady : Steady holds) :
    Makes holds (productMigrations installed target) :=
  steady.bind steady.requireRegistration fun _ => steady.asks (asks_server trivial)

theorem planMigrations {target : Option Triplet} (steady : Steady holds)
    (downgrades : ∀ product, Makes holds (downgradeProduct product)) : Makes holds (planMigrations target) :=
  steady.bind steady.requireRegistration fun _ => steady.bind (steady.asks (asks_packages trivial)) fun _ =>
    steady.bind (steady.checkSystemProducts downgrades) fun _ => steady.bind steady.productMigrations fun _ =>
    steady.bind steady.report fun _ => steady.pure

theorem migrateSystem {path : MigrationPath} (steady : Steady holds)
    (upgrades : ∀ product, Makes holds (upgradeProduct product)) : Makes holds (migrateSystem path) := by
  have upgradesAll : Makes holds (upgradeProducts "" path) := by
    rw [upgradeProducts_eq]
    exact steady.bind (makes_forM steady.toComposes upgrades) fun _ => steady.pure
  refine steady.bind steady.requireRegistration fun _ => steady.bind (steady.asks (asks_packages trivial)) fun _ =>
    steady.bind upgradesAll fun version => steady.asks (asks_bind (asks_server trivial) fun _ => ?_)
  split
  · exact asks_bind (asks_packages trivial) fun _ => asks_pure
  · exact asks_pure

theorem prepareMigration {path : MigrationPath} {options : MigrationOptions} (steady : Steady holds)
    (upgrades : ∀ product, Makes holds (upgradeProduct product)) : Makes holds (prepareMigration path options) := by
  rw [prepareMigration_eq]
  exact steady.bind (steady.migrateSystem upgrades) fun _ =>
    steady.bind (steady.asks (asks_disableIfAsked.mono Disables.aside)) fun _ =>
    steady.asks (asks_bind (asks_packages trivial) fun _ => asks_pure)

theorem applyMigration {path : MigrationPath} {options : MigrationOptions} (steady : Steady holds)
    (upgrades : ∀ product, Makes holds (upgradeProduct product))
    (downgrades : ∀ product, Makes holds (downgradeProduct product)) : Makes holds (applyMigration path options) := by
  have rollsBack {error : Error} : Makes holds (rollBackAfter error) := by
    refine steady.bind steady.report fun _ => steady.bind steady.report fun _ =>
      steady.bind (makes_outcome (steady.rollback downgrades)) fun result => ?_
    split
    · exact steady.bind steady.report fun _ => steady.pure
    · exact steady.bind steady.report fun _ => steady.pure
  refine steady.bind (makes_outcome (steady.prepareMigration upgrades)) fun prepared => ?_
  split
  · exact steady.bind rollsBack fun _ => steady.pure
  refine steady.bind (makes_outcome (steady.asks (asks_packages trivial))) fun upgraded => ?_
  split
  · split
    · exact steady.bind steady.report fun _ => steady.pure
    · exact steady.bind rollsBack fun _ => steady.pure
  · refine steady.bind (makes_outcome (steady.checkSystemProducts downgrades)) fun checked => ?_
    split
    · exact steady.pure
    · exact steady.bind steady.report fun _ => steady.pure

end Steady

-- What holds of the rows of the steps that an operation is put together from.
structure Upheld (settings : Settings) (operation : Operation) (holds : List Event → Prop) : Prop
    extends Steady holds where
  adds : ∀ service, Makes holds (addService settings service)
  dismisses : ∀ name, Makes holds (removeOrRefreshService name)
  writes : operation.Registers → ∀ login, Makes holds (store (.writeSystem login))
  removes : operation.CleansUp → ∀ name, Makes holds (removeService name)
  forgets : operation.CleansUp → Makes holds (store .removeSystem)
  upgrades : operation.Migrates → ∀ product, Makes holds (upgradeProduct product)
  downgrades : operation.Migrates → ∀ product, Makes holds (downgradeProduct product)

variable {settings : Settings} {operation : Operation} {holds : List Event → Prop}

theorem Upheld.makes (upheld : Upheld settings operation holds) : Makes holds (operation.action settings) := by
  have steady := upheld.toSteady
  cases operation with
  | register options system => exact steady.register upheld.adds (upheld.writes trivial)
  | activate product regcode email =>
    exact steady.bind steady.requireRegistration fun _ =>
      steady.bind (steady.activateProduct upheld.adds) fun _ => steady.pure
  | updateSystem system =>
    exact steady.bind steady.requireRegistration fun _ =>
      steady.bind steady.report fun _ => steady.asks (asks_server trivial)
  | deactivate product => exact steady.deactivate upheld.dismisses
  | deregister product =>
    cases product with
    | none => exact steady.deregister upheld.dismisses (upheld.removes trivial) (upheld.forgets trivial)
    | some triplet =>
      exact steady.bind steady.requireRegistration fun _ =>
        steady.bind (steady.deactivate upheld.dismisses) fun _ => steady.pure
  | cleanup => exact steady.cleanup (upheld.removes trivial) (upheld.forgets trivial)
  | extensionTree =>
    exact steady.bind steady.requireRegistration fun _ => steady.bind steady.baseProduct fun _ =>
      steady.bind (steady.asks (asks_server trivial)) fun _ =>
      steady.bind (steady.asks (asks_server trivial)) fun _ => steady.settled
  | productMigrations installed target => exact steady.productMigrations
  | planMigrations target => exact steady.planMigrations (upheld.downgrades trivial)
  | migrateSystem path => exact steady.migrateSystem (upheld.upgrades trivial)
  | applyMigration path options => exact steady.applyMigration (upheld.upgrades trivial) (upheld.downgrades trivial)
  | rollback => exact steady.rollback (upheld.downgrades trivial)

end Entitlement.Registration
