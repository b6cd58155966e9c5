import Entitlement.Proofs.Registration.DepartureOrder
import Entitlement.Proofs.Registration.Operations

-- Where an error comes from. A step hands on the errors of its calls, and those of its guards; of some kinds it has
-- none of its own. Such an error can be traced back to the event that caused it.
namespace Entitlement.Registration

-- Errors of a kind, and what counts as the cause of one. They are neither those of the walks over a tree nor wrapped.
structure Blame where
  kind : Error → Prop
  cause : Event → Option Error
  ofCall : ∀ {event error}, errorOf event = some error → cause event = some error
  deep : ∀ {root limit}, ¬ kind (.treeTooDeep root limit)
  wrapped : ∀ {action product source}, ¬ kind (.productStep action product source)

variable {blame : Blame}

def Caused (blame : Blame) (action : Action α) : Prop :=
  ∀ events error, Ran action events (.error error) → blame.kind error → ∃ event ∈ events, blame.cause event = some error

theorem caused_settled {result : Result α} (spares : ∀ error, result = .error error → ¬ blame.kind error) :
    Caused blame (ExceptT.mk (pure result)) := by
  intro events error ran kind
  obtain ⟨_,same⟩ := ran_settled.mp ran
  exact absurd kind (spares error same.symm)

theorem caused_pure {value : α} : Caused blame (pure value) := caused_settled fun _ impossible => nomatch impossible

theorem caused_throw {error : Error} (other : ¬ blame.kind error) : Caused blame (throw error : Action α) := by
  refine caused_settled fun thrown same => ?_
  cases same
  exact other

theorem caused_bind {action : Action α} {next : α → Action β} (before : Caused blame action)
    (after : ∀ value, Caused blame (next value)) : Caused blame (action >>= next) := by
  intro events error ran kind
  rcases ran_bind.mp ran with ⟨_,failed,same⟩ | ⟨first,value,second,rfl,_,later⟩
  · cases same
    exact before _ _ failed kind
  · obtain ⟨event,member,found⟩ := after value _ _ later kind
    exact ⟨event,List.mem_append_right first member,found⟩

theorem caused_ask {q : Question} : Caused blame (ask q) := by
  intro events error ran
  obtain ⟨_,_,impossible⟩ := ran_ask.mp ran
  cases impossible

theorem caused_outcome {action : Action α} : Caused blame (outcome action) := by
  intro events error ran
  obtain ⟨_,_,impossible⟩ := ran_outcome.mp ran
  cases impossible

theorem caused_stepFor {action product : String} {body : Action α} : Caused blame (stepFor action product body) := by
  intro events error ran kind
  obtain ⟨before,_,same⟩ := ran_adapt.mp ran
  cases before with
  | ok value => cases same
  | error source =>
    cases same
    exact absurd kind blame.wrapped

theorem FailsFast.caused {action : Action α} (fails : FailsFast action) : Caused blame action := by
  intro events error ran _
  obtain ⟨before,last,rfl,_,failed⟩ := fails.halts ran
  exact ⟨last,by simp,blame.ofCall failed⟩

theorem caused_server {call : ServerCall} : Caused blame (server call) := failsFast_server.caused

theorem caused_packages {call : PackageCall} : Caused blame (packages call) := failsFast_packages.caused

theorem caused_store {call : StoreCall} : Caused blame (store call) := failsFast_store.caused

theorem caused_mapM {step : α → Action β} {list : List α} (each : ∀ item, Caused blame (step item)) :
    Caused blame (list.mapM step) := by
  induction list with
  | nil => exact caused_pure
  | cons head rest ih =>
    rw [List.mapM_cons]
    exact caused_bind (each head) fun _ => caused_bind ih fun _ => caused_pure

theorem caused_forM {step : α → Action Unit} {list : List α} (each : ∀ item, Caused blame (step item)) :
    Caused blame (list.forM step) := by
  induction list with
  | nil => exact caused_pure
  | cons head rest ih => exact caused_bind (each head) fun _ => ih

-- The guards.

theorem caused_requireRegistration (guards : blame.cause ⟨.hasSystemCredentials,false⟩ = some .systemNotRegistered) :
    Caused blame requireRegistration := by
  intro events error ran _
  obtain ⟨registered,_,rfl,later⟩ := ran_ask_bind.mp ran
  cases registered with
  | true => cases (ran_pure.mp later).2
  | false =>
    cases (ran_throw.mp later).2
    exact ⟨_,by simp,guards⟩

theorem caused_baseProduct (detects : ¬ blame.kind .cannotDetectBaseProduct) : Caused blame baseProduct := by
  refine caused_bind caused_packages fun installed => ?_
  split
  · exact caused_pure
  · exact caused_throw detects

-- The walks over a tree.

theorem caused_installedExtensions {tree : Product} {installed : List Product} :
    Caused blame (ExceptT.mk (pure (installedExtensions tree installed))) := by
  refine caused_settled fun error found => ?_
  rw [installedExtensions_eq] at found
  split at found
  · cases found
  · cases found
    exact blame.deep

mutual

theorem extension_tooDeep {activated : TextSet} {root : String} {levels : Nat} {product : Product} {error : Error}
    (refused : Extension.list activated root levels product = .error error) : error = .treeTooDeep root depthLimit := by
  obtain ⟨facts,extensions⟩ := product
  unfold Extension.list at refused
  cases listed : Extension.listAll activated root levels extensions with
  | ok value => rw [listed] at refused; cases refused
  | error cause => rw [listed] at refused; cases refused; exact extensions_tooDeep listed

theorem extensions_tooDeep {activated : TextSet} {root : String} {levels : Nat} {list : List Product} {error : Error}
    (refused : Extension.listAll activated root levels list = .error error) : error = .treeTooDeep root depthLimit := by
  match list,levels with
  | [],_ => cases refused
  | _ :: _,0 => cases refused; rfl
  | product :: rest,below + 1 =>
    simp only [Extension.listAll] at refused
    cases first : Extension.list activated root below product with
    | error cause => rw [first] at refused; cases refused; exact extension_tooDeep first
    | ok extension =>
      cases others : Extension.listAll activated root (below + 1) rest with
      | ok value => rw [first,others] at refused; cases refused
      | error cause => rw [first,others] at refused; cases refused; exact extensions_tooDeep others

end

theorem caused_extensionList {activated : TextSet} {root : String} {tree : Product} :
    Caused blame (ExceptT.mk (pure (Extension.list activated root depthLimit tree))) := by
  refine caused_settled fun error refused => ?_
  rw [extension_tooDeep refused]
  exact blame.deep

-- The larger steps.

variable {settings : Settings} {options : RegisterOptions}

theorem caused_activateAll {release : Bool} {product : Product} :
    Caused blame (activateAll settings options release product) := by
  refine caused_bind failsFast_enroll.caused fun first => ?_
  split
  · rw [activateExtensions_eq]
    refine caused_bind caused_server fun tree => ?_
    refine caused_bind (caused_mapM fun _ => failsFast_enroll.caused) fun more => ?_
    split
    · exact caused_pure
    · exact caused_throw blame.deep
  · exact caused_pure

-- What follows the choice of the product in a registration.
theorem caused_registration {system : SystemInfo} {release : Bool} {product : Product} : Caused blame (do
    info ("Registering system to " ++ settings.baseUrl)
    let announced ← announceOrUpdate options.regcode system
    addRegistryLogin
    let products ← activateAll settings options release product
    info "Successfully registered system"
    return (⟨announced,products⟩ : RegisterOutcome)) := by
  have introduces : Caused blame (announceOrUpdate options.regcode system) := by
    refine caused_bind caused_ask fun known => ?_
    split
    · exact caused_bind caused_ask fun _ => caused_bind caused_server fun _ => caused_pure
    · exact caused_bind caused_server fun _ => caused_bind caused_store fun _ => caused_pure
  have links : Caused blame addRegistryLogin := by
    intro events error ran
    cases ran_addRegistryLogin ran
  exact caused_bind caused_ask fun _ => caused_bind introduces fun _ => caused_bind links fun _ =>
    caused_bind caused_activateAll fun _ => caused_bind caused_ask fun _ => caused_pure

theorem failsFast_deactivateProduct {product : Product} : FailsFast (deactivateProduct settings product) := by
  refine failsFast_bind failsFast_report fun _ => failsFast_bind failsFast_server fun service => ?_
  split
  · exact failsFast_pure
  · exact failsFast_bind failsFast_removeOrRefreshService fun _ => failsFast_bind failsFast_report fun _ =>
      failsFast_bind failsFast_packages fun _ => failsFast_pure

theorem failsFast_downgradeProduct {product : Product} : FailsFast (downgradeProduct product) :=
  failsFast_bind failsFast_report fun _ => failsFast_bind failsFast_server fun _ => failsFast_reconcileService

-- What follows the detection of the base product.

theorem caused_departure (base : Product) : Caused blame (do
    let installed ← packages .installedProducts
    let tree ← server (.productTree base)
    let extensions ← ExceptT.mk (pure (installedExtensions tree installed))
    let products ← (leavers base extensions).mapM (leave settings)
    server .deregister
    info "Successfully deregistered system"
    return products) :=
  caused_bind caused_packages fun _ => caused_bind caused_server fun _ =>
    caused_bind caused_installedExtensions fun _ => caused_bind (caused_mapM fun _ => failsFast_leave.caused) fun _ =>
    caused_bind caused_server fun _ => caused_bind caused_ask fun _ => caused_pure

theorem caused_retreat (base : Product) : Caused blame (do
    downgradeProduct base
    let installed ← packages .installedProducts
    let tree ← server (.productTree base)
    let extensions ← ExceptT.mk (pure (installedExtensions tree installed))
    extensions.forM downgradeProduct
    let _ ← server (.synchronize installed)
    packages (.setReleaseVersion base.version)) :=
  caused_bind failsFast_downgradeProduct.caused fun _ => caused_bind caused_packages fun _ =>
    caused_bind caused_server fun _ => caused_bind caused_installedExtensions fun _ =>
    caused_bind (caused_forM fun _ => failsFast_downgradeProduct.caused) fun _ =>
    caused_bind caused_server fun _ => caused_packages

theorem caused_listing (base : Product) : Caused blame (do
    let activations ← server .activations
    let activated := TextSet.ofList (activations.map Activation.tripletText)
    let tree ← server (.productTree base)
    ExceptT.mk (pure (Extension.list activated tree.tripletText depthLimit tree))) :=
  caused_bind caused_server fun _ => caused_bind caused_server fun _ => caused_extensionList

end Entitlement.Registration
