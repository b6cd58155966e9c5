import Entitlement.Proofs.Registration.Causes
import Entitlement.Proofs.Registration.Deactivation
import Entitlement.Proofs.Registration.MigrationCourse

-- The guards of the operations. An operation that they refuse has asked nothing of the server and changed nothing, even
-- where it runs another one afterwards; and the installed base product is never deactivated alone.
namespace Entitlement.Registration

-- The errors of the guards.
def Refuses : Error → Prop
  | .systemNotRegistered | .baseProductDeactivation | .unsupportedOperation _ => True
  | _ => False

-- Calls that ask nothing of the server and change nothing.
def Observes : Question → Prop
  | .packages .installedProducts | .packages .installedServices | .packages .repositories
  | .packages (.findProductPackages _) | .store .systemCredentials | .hasSystemCredentials | .isServicePlugin _
  | .fileExists _ | .report _ _ => True
  | _ => False

-- Calls that leave the login of the system alone.
def KeepsLogin : Question → Prop
  | .store (.writeSystem _) | .store .removeSystem => False
  | _ => True

-- No call fails with the error of a guard, and a system is registered until the store is told otherwise.
structure Faithful (events : List Event) : Prop where
  plain : ∀ event ∈ events, ∀ error, errorOf event = some error → ¬ Refuses error ∧ error ≠ .cannotDetectBaseProduct
  steady : ∀ before first between second after,
    events = before ++ ⟨.hasSystemCredentials,first⟩ :: (between ++ ⟨.hasSystemCredentials,second⟩ :: after) →
    (∀ event ∈ between, KeepsLogin event.question) → second = first

-- A guard refuses a system because it is not registered; other errors are those of calls.
def cause? : Event → Option Error
  | ⟨.hasSystemCredentials,false⟩ => some .systemNotRegistered
  | event => errorOf event

def refusals : Blame where
  kind := Refuses
  cause := cause?
  ofCall {event error} failed := by
    obtain ⟨q,answer⟩ := event
    cases q with
    | hasSystemCredentials => cases failed
    | _ => exact failed
  deep := id
  wrapped := id

def refusalsOfCalls : Blame where
  kind := Refuses
  cause := errorOf
  ofCall := id
  deep := id
  wrapped := id

def detections : Blame where
  kind error := error = .cannotDetectBaseProduct
  cause := errorOf
  ofCall := id
  deep impossible := nomatch impossible
  wrapped impossible := nomatch impossible

theorem cause?_errorOf {event : Event} (caused : cause? event = some error) :
    event = ⟨.hasSystemCredentials,false⟩ ∨ errorOf event = some error := by
  obtain ⟨q,answer⟩ := event
  cases q with
  | hasSystemCredentials =>
    cases answer with
    | false => exact .inl rfl
    | true => cases caused
  | _ => exact .inr caused

theorem Faithful.unrefused {action : Action α} (faithful : Faithful events) (part : row ⊆ events)
    (ran : Ran action row (.error error)) (caused : Caused refusalsOfCalls action) : ¬ Refuses error := by
  intro refuses
  obtain ⟨event,member,failed⟩ := caused _ _ ran refuses
  exact (faithful.plain event (part member) error failed).1 refuses

theorem Faithful.detected {action : Action α} (faithful : Faithful events) (part : row ⊆ events)
    (ran : Ran action row (.error error)) (caused : Caused detections action) : error ≠ .cannotDetectBaseProduct := by
  intro undetected
  obtain ⟨event,member,failed⟩ := caused _ _ ran undetected
  exact (faithful.plain event (part member) error failed).2 undetected

-- A registered system stays so for the whole of a row that leaves the login alone.
theorem Faithful.registered (before : List Event) {rest : List Event}
    (faithful : Faithful (before ++ ⟨.hasSystemCredentials,first⟩ :: rest))
    (keeps : ∀ event ∈ rest, KeepsLogin event.question) (member : ⟨.hasSystemCredentials,second⟩ ∈ rest) :
    second = first := by
  obtain ⟨between,after,rfl⟩ := List.append_of_mem member
  exact faithful.steady before first between second after rfl fun event early =>
    keeps event (List.mem_append_left _ early)

variable {settings : Settings} {operation : Operation}

theorem Aside.keepsLogin (q : Question) (aside : Aside q) : KeepsLogin q := by
  cases q with
  | store call => cases call <;> trivial
  | _ => trivial

theorem MaintainsServices.keepsLogin (q : Question) (maintains : MaintainsServices q) : KeepsLogin q := by
  cases q with
  | store call => cases call <;> trivial
  | _ => trivial

-- Only a registration and a cleanup change the login.
theorem upheld_keepsLogin (known : ¬ operation.Registers) (tidy : ¬ operation.CleansUp) :
    Upheld settings operation fun events => ∀ event ∈ events, KeepsLogin event.question where
  toComposes := composes_allowed
  aside _ aside event member := Aside.keepsLogin _ (aside event member)
  adds _ := asks_bind (asks_ask trivial) fun _ => asks_bind (asks_store trivial) fun _ => asks_packages trivial
  dismisses _ := by
    unfold removeOrRefreshService
    split
    · exact asks_bind (asks_ask trivial) fun _ => asks_packages trivial
    · exact asks_bind (asks_ask trivial) fun _ => asks_bind (asks_packages trivial) fun _ => asks_store trivial
  writes registers := absurd registers known
  removes cleansUp := absurd cleansUp tidy
  forgets cleansUp := absurd cleansUp tidy
  upgrades _ _ := asks_bind (asks_ask trivial) fun _ => asks_bind (asks_adapt (asks_server trivial)) fun _ =>
    asks_adapt (asks_reconcileService.mono MaintainsServices.keepsLogin)
  downgrades _ _ := asks_bind (asks_ask trivial) fun _ => asks_bind (asks_server trivial) fun _ =>
    asks_reconcileService.mono MaintainsServices.keepsLogin

-- Past their guards, steps fail with the errors of calls only.

theorem caused_registered : Caused refusals requireRegistration := caused_requireRegistration rfl

theorem caused_base : Caused refusals baseProduct := caused_baseProduct id

theorem caused_rollback : Caused refusals rollback :=
  caused_bind caused_registered fun _ => caused_bind caused_ask fun _ => caused_bind caused_base caused_retreat

theorem caused_systemProducts : Caused refusals systemProducts := by
  refine caused_bind caused_packages fun _ => caused_bind caused_ask fun known => ?_
  split
  · exact caused_bind caused_server fun _ => caused_pure
  · exact caused_pure

theorem caused_checkSystemProducts {rollBack : Bool} : Caused refusals (checkSystemProducts rollBack) := by
  have installs {products : List Product} : Caused refusals (installReleasePackages products) := by
    intro events error ran
    obtain ⟨_,impossible⟩ := installReleasePackages_completes ran
    cases impossible
  refine caused_bind caused_systemProducts fun _ => caused_bind installs fun complete => ?_
  split
  · exact caused_bind caused_ask fun _ => caused_bind caused_rollback fun _ => caused_systemProducts
  · exact caused_pure

theorem caused_productMigrations {installed : List Product} {target : Option Product} :
    Caused refusals (productMigrations installed target) := caused_bind caused_registered fun _ => caused_server

theorem caused_migrateSystem {path : MigrationPath} : Caused refusals (migrateSystem path) := by
  have upgrades {product : Product} : Caused refusals (upgradeProduct product) :=
    caused_bind caused_ask fun _ => caused_bind caused_stepFor fun _ => caused_stepFor
  refine caused_bind caused_registered fun _ => caused_bind caused_packages fun _ => ?_
  rw [upgradeProducts_eq]
  refine caused_bind (caused_bind (caused_forM fun _ => upgrades) fun _ => caused_pure) fun version =>
    caused_bind caused_server fun _ => ?_
  split
  · exact caused_bind caused_packages fun _ => caused_pure
  · exact caused_pure

theorem caused_prepareMigration {path : MigrationPath} {options : MigrationOptions} :
    Caused refusals (prepareMigration path options) := by
  have disablesFor {enabled disabled : List String} {product : Product} {found : List ProductPackage} :
      Caused refusals (disableFor enabled product disabled found) := by
    induction found generalizing disabled with
    | nil => exact caused_pure
    | cons package rest ih =>
      unfold disableFor
      split
      · exact caused_bind caused_ask fun _ => caused_bind caused_packages fun _ => ih
      · exact ih
  have disables {enabled disabled : List String} : Caused refusals (disableForAll enabled disabled path) := by
    induction path generalizing disabled with
    | nil => exact caused_pure
    | cons product rest ih => exact caused_bind caused_packages fun _ => caused_bind disablesFor fun _ => ih
  have disablesIfAsked : Caused refusals (disableIfAsked path options) := by
    unfold disableIfAsked
    split
    · exact caused_bind caused_packages fun _ => disables
    · exact caused_pure
  rw [prepareMigration_eq]
  exact caused_bind caused_migrateSystem fun _ => caused_bind disablesIfAsked fun _ =>
    caused_bind caused_packages fun _ => caused_pure

theorem caused_cleanup : Caused refusalsOfCalls (cleanup settings) :=
  caused_bind caused_ask fun _ => caused_bind caused_packages fun _ =>
    caused_bind (caused_forM fun _ => caused_bind caused_ask fun _ => failsFast_removeService.caused) fun _ =>
    caused_store

theorem caused_requestedProduct {request : Option Triplet} : Caused refusalsOfCalls (requestedProduct request) := by
  unfold requestedProduct
  split
  · exact caused_bind (caused_baseProduct id) fun _ => caused_pure
  · refine caused_bind caused_outcome fun reply => ?_
    split
    · split
      · exact caused_pure
      · exact caused_pure
    · exact caused_bind caused_ask fun _ => caused_pure

theorem caused_register {options : RegisterOptions} {system : SystemInfo} :
    Caused refusalsOfCalls (register settings options system) := by
  rw [register_eq]
  exact caused_bind caused_requestedProduct fun _ => caused_registration

theorem caused_deregisterSystem : Caused refusalsOfCalls (deregisterSystem settings) := by
  simp only [deregisterSystem_eq,survey,bind_assoc,pure_bind]
  exact caused_bind (caused_baseProduct id) caused_departure

-- Where a guard refuses, nothing has happened yet.

theorem Faithful.uncaused (faithful : Faithful (⟨.hasSystemCredentials,true⟩ :: rest))
    (keeps : ∀ event ∈ rest, KeepsLogin event.question) {event : Event}
    (member : event ∈ (⟨.hasSystemCredentials,true⟩ :: rest : List Event)) (caused : cause? event = some error) :
    ¬ Refuses error := by
  rcases cause?_errorOf caused with rfl | failed
  · rcases List.mem_cons.mp member with impossible | later
    · cases impossible
    · cases Faithful.registered [] faithful keeps later
  · exact (faithful.plain event member error failed).1

theorem Faithful.observes {next : Unit → Action β} (faithful : Faithful events)
    (keeps : ∀ event ∈ events, KeepsLogin event.question) (caused : Caused refusals (requireRegistration >>= next))
    (ran : Ran (requireRegistration >>= next) events (.error error)) (refuses : Refuses error) :
    ∀ event ∈ events, Observes event.question := by
  obtain ⟨event,member,blamed⟩ := caused _ _ ran refuses
  rcases ran_requireRegistration_bind.mp ran with ⟨rfl,_⟩ | ⟨rest,rfl,_⟩
  · simp [Observes]
  · exact absurd refuses (faithful.uncaused (List.forall_mem_cons.mp keeps).2 member blamed)

theorem prepareMigration_registered {path : MigrationPath} {options : MigrationOptions}
    {result : Result MigrationReport} (ran : Ran (prepareMigration path options) events result) :
    (events = [⟨.hasSystemCredentials,false⟩] ∧ result = .error .systemNotRegistered) ∨
      ∃ rest, events = ⟨.hasSystemCredentials,true⟩ :: rest := by
  unfold prepareMigration migrateSystem at ran
  rw [bind_assoc] at ran
  rcases ran_requireRegistration_bind.mp ran with refused | ⟨rest,rfl,_⟩
  · exact .inl refused
  · exact .inr ⟨rest,rfl⟩

theorem Course.observes {path : MigrationPath} {options : MigrationOptions} {failure : MigrationFailure}
    (faithful : Faithful events) (keeps : ∀ event ∈ events, KeepsLogin event.question)
    (course : Course path options events (.error failure)) (refuses : Refuses failure.error) :
    ∀ event ∈ events, Observes event.question := by
  cases course with
  | unread preparation read =>
    obtain ⟨event,member,blamed⟩ := caused_systemProducts _ _ read refuses
    rcases prepareMigration_registered preparation with ⟨_,impossible⟩ | ⟨rest,rfl⟩
    · cases impossible
    · have kept := (List.forall_mem_cons.mp keeps).2
      refine absurd refuses (faithful.uncaused kept ?_ blamed)
      exact List.mem_append_right (⟨.hasSystemCredentials,true⟩ :: rest) (List.mem_cons_of_mem _ member)
  | halfway _ _ => exact absurd refuses (faithful.plain _ (List.mem_append_right _ (List.mem_cons_self ..)) _ rfl).1
  | refused _ _ _ => exact absurd refuses (faithful.plain _ (List.mem_append_right _ (List.mem_cons_self ..)) _ rfl).1
  | @unprepared preparing error back reply preparation rolled =>
    obtain ⟨event,member,blamed⟩ := caused_prepareMigration _ _ preparation refuses
    rcases prepareMigration_registered preparation with ⟨rfl,same⟩ | ⟨rest,rfl⟩
    · cases same
      have kept := (List.forall_mem_cons.mp keeps).2
      -- The rollback is refused as well.
      rcases ran_requireRegistration_bind.mp rolled with ⟨rfl,rfl⟩ | ⟨rest,rfl,_⟩
      · simp [rollbackNotes,rollbackNote,Observes]
      · have asked : ⟨.hasSystemCredentials,true⟩ ∈ rollbackNotes .systemNotRegistered ++
            ⟨.hasSystemCredentials,true⟩ :: rest ++ [rollbackNote reply] := by simp
        cases Faithful.registered [] faithful kept asked
    · have kept := (List.forall_mem_cons.mp keeps).2
      exact absurd refuses (faithful.uncaused kept (List.mem_append_left _ member) blamed)

theorem Withdraws.observes {triplet : Triplet} {answer : Result ProductService} (faithful : Faithful events)
    (part : row ⊆ events) (withdraws : Withdraws settings triplet row answer) (failed : errorIn answer = some error)
    (refuses : Refuses error) : ∀ event ∈ row, Observes event.question := by
  cases withdraws with
  | unregistered | refused _ _ => simp [migrationOpens,Observes]
  | unlisted =>
    cases failed
    exact absurd refuses (faithful.plain _ (part (List.mem_cons_of_mem _ (List.mem_cons_self ..))) _ rfl).1
  | undetected _ =>
    cases failed
    cases refuses
  | @asked installed base deactivating answer _ _ ran =>
    cases answer with
    | ok service => cases failed
    | error cause =>
      cases failed
      have within : deactivating ⊆ events := List.Subset.trans (List.subset_append_right _ _) part
      exact absurd refuses (faithful.unrefused within ran failsFast_deactivateProduct.caused)

theorem Faithful.keptSystem {result : Result DeregisterOutcome} (faithful : Faithful events)
    (ran : Ran (deregister settings none) events result) (failed : errorIn result = some error)
    (refuses : Refuses error) : ∀ event ∈ events, Observes event.question := by
  rcases ran_deregister ran with kept | ⟨login,row,left,cleaning,rfl,departed,_,rfl⟩
  · cases kept with
    | guest | unregistered => simp [Observes]
  · cases left with
    | ok products => cases failed
    | error cause =>
      cases failed
      have within : row ⊆ admission settings login ++ (row ++ cleaning) :=
        List.Subset.trans (List.subset_append_left _ _) (List.subset_append_right _ _)
      exact absurd refuses (faithful.unrefused within departed caused_deregisterSystem)

theorem refused_observes {result : Result operation.Outcome} (faithful : Faithful events)
    (ran : Ran (operation.action settings) events result) (failed : operation.failure? result = some error)
    (refuses : Refuses error) : ∀ event ∈ events, Observes event.question := by
  have keeps (known : ¬ operation.Registers) (tidy : ¬ operation.CleansUp) :
      ∀ event ∈ events, KeepsLogin event.question := (upheld_keepsLogin known tidy).makes events result ran
  have single (withdraws : operation.Withdraws) : ∀ event ∈ events, Observes event.question := by
    obtain ⟨opening,triplet,rest,answer,rfl,opens,deactivating,same⟩ := withdraws_of_operation withdraws ran
    refine List.forall_mem_append.mpr ⟨?_,deactivating.observes faithful (List.subset_append_right ..) ?_ refuses⟩
    · rcases opens with rfl | rfl
      · simp
      · simp [Observes]
    · rw [← same]
      exact failed
  cases result with
  | ok value =>
    cases operation with
    | applyMigration path options =>
      obtain ⟨_,same,course⟩ := course_of_ran ran
      cases same
      cases value with
      | ok report => cases failed
      | error failure =>
        cases failed
        exact course.observes faithful (keeps id id) refuses
    | _ => cases failed
  | error cause =>
    have same : cause = error := by cases operation <;> exact Option.some.inj failed
    subst same
    cases operation with
    | register options system => exact absurd refuses (faithful.unrefused (fun _ => id) ran caused_register)
    | activate product regcode email =>
      exact faithful.observes (keeps id id) (caused_bind caused_registered fun _ =>
        caused_bind failsFast_activateProduct.caused fun _ => caused_pure) ran refuses
    | updateSystem system =>
      exact faithful.observes (keeps id id) (caused_bind caused_registered fun _ => caused_bind caused_ask fun _ =>
        caused_server) ran refuses
    | deactivate product => exact single trivial
    | deregister product =>
      cases product with
      | none => exact faithful.keptSystem ran rfl refuses
      | some triplet => exact single trivial
    | cleanup => exact absurd refuses (faithful.unrefused (fun _ => id) ran caused_cleanup)
    | extensionTree =>
      exact faithful.observes (keeps id id) (caused_bind caused_registered fun _ =>
        caused_bind caused_base caused_listing) ran refuses
    | productMigrations installed target => exact faithful.observes (keeps id id) caused_productMigrations ran refuses
    | planMigrations target =>
      exact faithful.observes (keeps id id) (caused_bind caused_registered fun _ => caused_bind caused_packages fun _ =>
        caused_bind caused_checkSystemProducts fun _ => caused_bind caused_productMigrations fun _ =>
        caused_bind caused_ask fun _ => caused_pure) ran refuses
    | migrateSystem path => exact faithful.observes (keeps id id) caused_migrateSystem ran refuses
    | applyMigration path options =>
      obtain ⟨_,impossible,_⟩ := course_of_ran ran
      cases impossible
    | rollback => exact faithful.observes (keeps id id) caused_rollback ran refuses

-- Where no base product is detected, the server is not asked.

def Operation.Detects : Operation → Prop
  | register _ _ | deactivate _ | deregister _ | extensionTree | rollback => True
  | _ => False

theorem Faithful.undetected_silent {first : Action α} {next : α → Action β} (faithful : Faithful events)
    (part : row ⊆ events) (silent : Asks Local first) (caused : ∀ value, Caused detections (next value))
    (ran : Ran (first >>= next) row (.error .cannotDetectBaseProduct)) : requests serverOf row = [] := by
  rcases ran_bind.mp ran with ⟨_,failed,_⟩ | ⟨looking,value,rest,rfl,_,later⟩
  · exact silent.requests_eq_nil (fun _ => id) failed
  · have within : rest ⊆ events := List.Subset.trans (List.subset_append_right _ _) part
    exact absurd rfl (faithful.detected within later (caused value))

theorem Withdraws.undetected_silent {triplet : Triplet} (faithful : Faithful events) (part : row ⊆ events)
    (withdraws : Withdraws settings triplet row (.error .cannotDetectBaseProduct)) : requests serverOf row = [] := by
  generalize ended : (.error .cannotDetectBaseProduct : Result ProductService) = answer at withdraws
  cases withdraws with
  | @asked installed base deactivating answer _ _ ran =>
    cases answer with
    | ok service => cases ended
    | error cause =>
      cases ended
      have within : deactivating ⊆ events := List.Subset.trans (List.subset_append_right _ _) part
      exact absurd rfl (faithful.detected within ran failsFast_deactivateProduct.caused)
  | _ => rfl

theorem Operation.failed_of_detects (operation : Operation) {result : Result operation.Outcome}
    (detects : operation.Detects) (failed : operation.failure? result = some error) : result = .error error := by
  cases result with
  | ok value => cases operation <;> first | cases failed | cases detects
  | error cause => cases operation <;> cases failed <;> rfl

theorem undetected_silent {result : Result operation.Outcome} (faithful : Faithful events)
    (detects : operation.Detects) (ran : Ran (operation.action settings) events result)
    (failed : operation.failure? result = some .cannotDetectBaseProduct) : requests serverOf events = [] := by
  have looks : Asks Local baseProduct := asks_baseProduct rfl
  have single (withdraws : operation.Withdraws) : requests serverOf events = [] := by
    obtain ⟨opening,triplet,rest,answer,rfl,opens,deactivating,same⟩ := withdraws_of_operation withdraws ran
    rw [failed] at same
    cases answer with
    | ok service => cases same
    | error cause =>
      cases same
      have silent := deactivating.undetected_silent faithful (List.subset_append_right ..)
      rw [requests_append,silent]
      rcases opens with rfl | rfl
      · rfl
      · rfl
  cases operation.failed_of_detects detects failed
  cases operation with
  | register options system =>
    have chosen : Ran (register settings options system) events _ := ran
    rw [register_eq] at chosen
    exact faithful.undetected_silent (fun _ => id) (asks_requestedProduct.mono @Looks.isLocal)
      (fun _ => caused_registration) chosen
  | deactivate product => exact single trivial
  | deregister product =>
    cases product with
    | none =>
      rcases ran_deregister ran with kept | ⟨login,row,left,cleaning,rfl,departed,cleaned,same⟩
      · cases kept
      cases left with
      | ok products => cases same
      | error cause =>
        cases same
        simp only [deregisterSystem_eq,survey,bind_assoc,pure_bind] at departed
        have within : row ⊆ admission settings login ++ (row ++ cleaning) :=
          List.Subset.trans (List.subset_append_left _ _) (List.subset_append_right _ _)
        have silent := faithful.undetected_silent within looks caused_departure departed
        rw [requests_append,requests_append,silent,(cleanUpRegistration_listsOnce cleaned).1]
        rfl
    | some triplet => exact single trivial
  | extensionTree =>
    rcases ran_requireRegistration_bind.mp ran with ⟨_,impossible⟩ | ⟨rest,rfl,registered⟩
    · cases impossible
    · have silent : requests serverOf rest = [] :=
        faithful.undetected_silent (List.subset_cons_self _ _) looks caused_listing registered
      exact silent
  | rollback =>
    rcases ran_requireRegistration_bind.mp ran with ⟨_,impossible⟩ | ⟨_,rfl,registered⟩
    · cases impossible
    obtain ⟨rest,rfl,started⟩ := ran_info_bind.mp registered
    have silent : requests serverOf rest = [] := by
      refine faithful.undetected_silent ?_ looks caused_retreat started
      exact fun event member => List.mem_cons_of_mem _ (List.mem_cons_of_mem _ member)
    exact silent
  | _ => cases detects

-- The product of a single deactivation is not the base product that was listed before it.

def SparesBase (events : List Event) : Prop :=
  ∀ before product answer after, events = before ++ ⟨.server (.deactivate product),answer⟩ :: after →
    (∃ installed base, ⟨.packages .installedProducts,.ok installed⟩ ∈ before ∧ findBase installed = some base) ∧
    ∀ installed base, ⟨.packages .installedProducts,.ok installed⟩ ∈ before → findBase installed = some base →
      product.triplet ≠ base.triplet

theorem sparesBase_of_silent (silent : requests serverOf events = []) : SparesBase events := by
  intro before product answer after parts
  rw [parts] at silent
  cases unasked silent

theorem Withdraws.sparesBase {triplet : Triplet} {answer : Result ProductService}
    (opens : opening = [] ∨ opening = [⟨.hasSystemCredentials,true⟩])
    (withdraws : Withdraws settings triplet row answer) : SparesBase (opening ++ row) := by
  have silent : requests serverOf opening = [] := by
    rcases opens with rfl | rfl
    · rfl
    · rfl
  cases withdraws with
  | @asked installed base deactivating answer found distinct ran =>
    intro before product reply after parts
    rcases append_eq_split.mp parts with ⟨_,early,_⟩ | ⟨looking,late,rfl⟩
    · rw [early] at silent
      cases unasked silent
    rcases append_eq_split.mp late with ⟨_,early,_⟩ | ⟨noting,own,rfl⟩
    · have none : requests serverOf (migrationOpens installed) = [] := rfl
      rw [early] at none
      cases unasked none
    rw [own] at ran
    obtain ⟨rfl,same⟩ := turn_deactivateProduct.position ran
    cases same
    refine ⟨⟨installed,base,by simp [migrationOpens],found⟩,fun other otherBase listed detected => ?_⟩
    have only : other = installed := by
      rcases opens with rfl | rfl
      · simpa [migrationOpens,deactivationNote] using listed
      · simpa [migrationOpens,deactivationNote] using listed
    rw [only,found] at detected
    cases detected
    exact distinct
  | _ =>
    refine sparesBase_of_silent ?_
    rw [requests_append,silent]
    rfl

-- What the guards of an operation keep it from.
structure GuardedFirst (operation : Operation) (events : List Event) (result : Result operation.Outcome) : Prop where
  refused : ∀ error, operation.failure? result = some error → Refuses error → ∀ event ∈ events, Observes event.question
  undetected : operation.Detects → operation.failure? result = some .cannotDetectBaseProduct →
    requests serverOf events = []
  sparesBase : operation.Withdraws → SparesBase events

theorem operation_guardedFirst {result : Result operation.Outcome} (faithful : Faithful events)
    (ran : Ran (operation.action settings) events result) : GuardedFirst operation events result where
  refused _ failed refuses := refused_observes faithful ran failed refuses
  undetected detects failed := undetected_silent faithful detects ran failed
  sparesBase withdraws := by
    obtain ⟨opening,_,_,_,rfl,opens,deactivating,_⟩ := withdraws_of_operation withdraws ran
    exact deactivating.sparesBase opens

theorem faithful_obliging {registered : Bool} {installed : List Product} {tree : Product}
    (p : Program collaboration α) : Faithful (Program.play (obliging registered installed tree) [] p).1 where
  plain event member error failed := by
    obtain ⟨_,answered⟩ := Program.play_answered _ [] p event member
    obtain ⟨q,answer⟩ := event
    cases q with
    | server call => cases call <;> cases answered <;> cases failed
    | packages call => cases call <;> cases answered <;> cases failed
    | store call => cases call <;> cases answered <;> cases failed
    | _ => cases failed
  steady before first between second after parts _ := by
    have answers (answer : Bool) (member : ⟨.hasSystemCredentials,answer⟩ ∈
        (Program.play (obliging registered installed tree) [] p).1) : answer = registered := by
      obtain ⟨_,answered⟩ := Program.play_answered _ [] p _ member
      exact answered
    rw [parts] at answers
    exact (answers second (by simp)).trans (answers first (by simp)).symm

-- The migration of a system that is not registered runs a rollback, which is refused like itself.
theorem guest_not_migrated :
    let ran := Program.play (obliging false [server154] server154) []
      ((Operation.applyMigration [server155] {}).action {}).run
    GuardedFirst (.applyMigration [server155] {}) ran.1 ran.2 ∧
      (Operation.applyMigration [server155] {}).failure? ran.2 = some .systemNotRegistered ∧
      ran.1.map (·.question) = [.hasSystemCredentials,
        .report .warn "Migration failed: system is not registered, use the register command first",
        .report .info "Performing repository rollback ...",.hasSystemCredentials,
        .report .warn "Rollback failed: system is not registered, use the register command first"] := by
  intro ran
  refine ⟨operation_guardedFirst (faithful_obliging _) (Program.runs_play _ [] _),rfl,?_⟩
  rfl

end Entitlement.Registration
