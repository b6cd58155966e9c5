import Entitlement.Proofs.Registration.Deactivation
import Entitlement.Proofs.Registration.Operations

-- The dummy service, which stands behind every product. Where products are deactivated it is refreshed. Where they are
-- upgraded or downgraded nothing protects it: it is removed like any other service when the server names it.
namespace Entitlement.Registration

def removesDummy : Question → Bool
  | .packages (.removeService name) => name = Service.dummyName
  | _ => false

def RemovesDummy (events : List Event) : Prop := ∃ event ∈ events, removesDummy event.question = true

instance (events : List Event) : Decidable (RemovesDummy events) :=
  inferInstanceAs (Decidable (∃ event ∈ events, removesDummy event.question = true))

theorem removesDummy_append {first second : List Event} :
    RemovesDummy (first ++ second) ↔ RemovesDummy first ∨ RemovesDummy second := by
  simp [RemovesDummy,or_and_right,exists_or]

theorem removesDummy_cons {event : Event} {rest : List Event} :
    RemovesDummy (event :: rest) ↔ removesDummy event.question = true ∨ RemovesDummy rest := by
  simp [RemovesDummy]

-- The service that an upgrade or a downgrade is answered with.
def successor? : Event → Option Service
  | ⟨.server (.upgrade _),.ok service⟩ | ⟨.server (.downgrade _),.ok service⟩ => some service
  | _ => none

-- What follows such an answer comes to the removal of the dummy service: it is the former service or the obsolete one,
-- and no plugin's.
def Reaches (service : Service) (after : List Event) : Prop :=
  (service.name = Service.dummyName ∧ ∃ rest, after = ⟨.isServicePlugin Service.dummyName,false⟩ :: rest) ∨
  (service.obsoletedName = Service.dummyName ∧ ∃ plugin rest, after = removalUnless plugin service.name ++
    ⟨.report .info ("Removing service " ++ Service.dummyName),()⟩ ::
      ⟨.isServicePlugin Service.dummyName,false⟩ :: rest)

def Exposes (events : List Event) : Prop :=
  ∃ before event after service, events = before ++ event :: after ∧ successor? event = some service ∧
    Reaches service after

theorem exposes_cons {event : Event} {rest : List Event} :
    Exposes (event :: rest) ↔ (∃ service, successor? event = some service ∧ Reaches service rest) ∨ Exposes rest := by
  constructor
  · intro exposes
    obtain ⟨before,other,after,service,parts,answered,reaches⟩ := exposes
    cases before with
    | nil => cases parts; exact .inl ⟨service,answered,reaches⟩
    | cons head before =>
      obtain ⟨rfl,rfl⟩ := List.cons.inj parts
      exact .inr ⟨before,other,after,service,rfl,answered,reaches⟩
  · intro exposes
    rcases exposes with ⟨service,answered,reaches⟩ | ⟨before,other,after,service,rfl,answered,reaches⟩
    · exact ⟨[],event,rest,service,rfl,answered,reaches⟩
    · exact ⟨event :: before,other,after,service,rfl,answered,reaches⟩

theorem exposes_append {row rest : List Event} (none : ∀ event ∈ row, successor? event = none) :
    Exposes (row ++ rest) ↔ Exposes rest := by
  induction row with
  | nil => exact Iff.rfl
  | cons event row ih =>
    obtain ⟨first,later⟩ := List.forall_mem_cons.mp none
    rw [List.cons_append,exposes_cons,first,ih later]
    simp

-- A service is replaced.

theorem ran_removeUnlessPlugin {name : String} {result : Result Unit}
    (ran : Ran (removeUnlessPlugin name) events result) :
    events = removalUnless true name ∨ ∃ rest, events = ⟨.isServicePlugin name,false⟩ :: rest ∧
      Ran (removeService name) rest result := by
  obtain ⟨plugin,rest,rfl,later⟩ := ran_ask_bind.mp ran
  cases plugin with
  | true =>
    obtain ⟨rfl,_⟩ := ran_report.mp later
    exact .inl rfl
  | false => exact .inr ⟨rest,rfl,later⟩

theorem removesDummy_removeUnlessPlugin {name : String} {result : Result Unit}
    (ran : Ran (removeUnlessPlugin name) events result) (rest : List Event) :
    RemovesDummy events ↔ name = Service.dummyName ∧
      ∃ tail, events ++ rest = ⟨.isServicePlugin Service.dummyName,false⟩ :: tail := by
  rcases ran_removeUnlessPlugin ran with rfl | ⟨removing,rfl,removes⟩
  · simp [RemovesDummy,removalUnless,removesDummy]
  have same : RemovesDummy removing ↔ name = Service.dummyName := by
    rcases ran_packages_bind.mp removes with ⟨error,rfl,_⟩ | ⟨_,_,rfl,stored⟩
    · simp [RemovesDummy,removesDummy]
    · cases ran_store.mp stored
      simp [RemovesDummy,removesDummy]
  rw [removesDummy_cons,same]
  constructor
  · intro dummy
    obtain impossible | rfl := dummy
    · cases impossible
    · exact ⟨rfl,_,rfl⟩
  · exact fun found => .inr found.1

theorem spares_addUnlessPlugin {service : Service} {result : Result Unit}
    (ran : Ran (addUnlessPlugin service) events result) : ¬ RemovesDummy events := by
  have asks : Asks (removesDummy · = false) (addUnlessPlugin service) := by
    refine asks_bind (asks_ask rfl) fun plugin => ?_
    split
    · exact asks_ask rfl
    · exact asks_bind (asks_ask rfl) fun _ => asks_bind (asks_store rfl) fun _ => asks_packages rfl
  intro removes
  obtain ⟨event,member,removed⟩ := removes
  rw [asks _ _ ran event member] at removed
  cases removed

-- The removal of what a service makes obsolete, and what comes after it.
theorem removesDummy_obsolete {service : Service} {result : Result Unit} (rest : List Event)
    (ran : Ran (removeObsolete service >>= fun _ => addUnlessPlugin service) events result) :
    RemovesDummy events ↔ service.obsoletedName = Service.dummyName ∧ ∃ tail, events ++ rest =
      ⟨.report .info ("Removing service " ++ Service.dummyName),()⟩ ::
        ⟨.isServicePlugin Service.dummyName,false⟩ :: tail := by
  unfold removeObsolete at ran
  cases empty : service.obsoletedName.isEmpty with
  | true =>
    simp only [empty,if_true,pure_bind] at ran
    refine iff_of_false (spares_addUnlessPlugin ran) fun found => ?_
    rw [found.1] at empty
    cases empty
  | false =>
    simp only [empty,Bool.false_eq_true,if_false,bind_assoc] at ran
    obtain ⟨_,rfl,removing⟩ := ran_info_bind.mp ran
    rw [removesDummy_cons,List.cons_append]
    rcases ran_bind.mp removing with ⟨error,failed,_⟩ | ⟨first,_,second,rfl,removed,added⟩
    · rw [removesDummy_removeUnlessPlugin failed rest]
      simp +contextual [removesDummy]
    · rw [removesDummy_append,removesDummy_removeUnlessPlugin removed (second ++ rest)]
      simp +contextual [removesDummy,spares_addUnlessPlugin added]

theorem removesDummy_reconcileService {service : Service} {result : Result Unit}
    (ran : Ran (reconcileService service) events result) (rest : List Event) :
    RemovesDummy events ↔ Reaches service (events ++ rest) := by
  rw [reconcileService_eq] at ran
  rcases ran_bind.mp ran with ⟨error,failed,_⟩ | ⟨first,_,second,rfl,removed,later⟩
  · rw [removesDummy_removeUnlessPlugin failed rest]
    refine ⟨.inl,fun reaches => reaches.elim id fun found => ?_⟩
    -- A removal that fails is no part of one that succeeds.
    obtain ⟨_,plugin,tail,parts⟩ := found
    cases (Program.Runs.unique failed (ran_removeUnlessPlugin_ok.mpr ⟨plugin,rfl⟩) parts).2
  · rw [removesDummy_append,removesDummy_removeUnlessPlugin removed (second ++ rest),removesDummy_obsolete rest later,
      List.append_assoc]
    refine or_congr_right (and_congr_right fun _ => ?_)
    constructor
    · intro found
      obtain ⟨tail,parts⟩ := found
      obtain ⟨plugin,rfl⟩ := ran_removeUnlessPlugin_ok.mp removed
      exact ⟨plugin,tail,congrArg (removalUnless plugin service.name ++ ·) parts⟩
    · intro found
      obtain ⟨plugin,tail,parts⟩ := found
      obtain ⟨rfl,_⟩ := Program.Runs.unique removed (ran_removeUnlessPlugin_ok.mpr ⟨plugin,rfl⟩) parts
      exact ⟨tail,List.append_cancel_left parts⟩

-- A row of calls in which services are replaced. Everything else in it leaves the dummy service alone.
inductive Replaces : List Event → Prop where
  | nil : Replaces []
  | other : successor? event = none → removesDummy event.question = false → Replaces rest → Replaces (event :: rest)
  | turn : successor? event = some service → Ran (reconcileService service) row result → Replaces rest →
      Replaces (event :: (row ++ rest))

theorem Replaces.append (first : Replaces a) (second : Replaces b) : Replaces (a ++ b) := by
  induction first with
  | nil => exact second
  | other unanswered spares _ ih => exact .other unanswered spares ih
  | turn answered ran _ ih =>
    rw [List.cons_append,List.append_assoc]
    exact .turn answered ran ih

theorem composes_replaces : Composes Replaces := ⟨.nil,fun _ _ => .append⟩

theorem successor?_maintains {event : Event} (maintains : MaintainsServices event.question) :
    successor? event = none := by
  obtain ⟨q,answer⟩ := event
  cases q with
  | server call => cases maintains
  | _ => rfl

theorem removesDummy_answered {event : Event} (answered : successor? event = some service) :
    removesDummy event.question = false := by
  obtain ⟨q,answer⟩ := event
  cases q with
  | server call => rfl
  | _ => cases answered

theorem Replaces.removesDummy_iff (replaces : Replaces events) : RemovesDummy events ↔ Exposes events := by
  induction replaces with
  | nil =>
    refine iff_of_false (fun removes => ?_) fun exposes => ?_
    · obtain ⟨_,member,_⟩ := removes
      cases member
    · obtain ⟨before,_,_,_,parts,_⟩ := exposes
      cases before <;> cases parts
  | other unanswered spares _ ih =>
    rw [removesDummy_cons,exposes_cons,unanswered,spares,ih]
    simp
  | @turn event service row result rest answered ran _ ih =>
    have silent : ∀ other ∈ row, successor? other = none := by
      intro other member
      exact successor?_maintains (asks_reconcileService _ _ ran other member)
    rw [removesDummy_cons,removesDummy_answered answered,removesDummy_append,exposes_cons,exposes_append silent,
      removesDummy_reconcileService ran rest,ih,answered]
    simp

-- Calls that neither bring a successor nor remove the dummy service.
def Spares : Question → Prop
  | .packages (.removeService name) => name ≠ Service.dummyName
  | .server (.upgrade _) | .server (.downgrade _) => False
  | _ => True

theorem Aside.spares (q : Question) (aside : Aside q) : Spares q := by
  cases q with
  | server call => cases call <;> trivial
  | packages call => cases call <;> trivial
  | _ => trivial

theorem Spares.removesDummy_eq {q : Question} (spares : Spares q) : removesDummy q = false := by
  cases q with
  | packages call => cases call <;> first | rfl | exact decide_eq_false spares
  | _ => rfl

theorem Spares.successor?_eq {event : Event} (spares : Spares event.question) : successor? event = none := by
  obtain ⟨q,answer⟩ := event
  cases q with
  | server call => cases call <;> first | rfl | cases spares
  | _ => rfl

theorem replaces_of_spares {events : List Event} (spares : ∀ event ∈ events, Spares event.question) :
    Replaces events := by
  induction events with
  | nil => exact .nil
  | cons event rest ih =>
    obtain ⟨first,later⟩ := List.forall_mem_cons.mp spares
    exact .other first.successor?_eq first.removesDummy_eq (ih later)

theorem replaces_of_asks {action : Action α} (asks : Asks Spares action) : Makes Replaces action :=
  fun events result ran => replaces_of_spares (asks events result ran)

variable {settings : Settings} {operation : Operation}

theorem spares_addService (service : Service) : Asks Spares (addService settings service) :=
  asks_bind (asks_ask trivial) fun _ => asks_bind (asks_store trivial) fun _ => asks_packages trivial

theorem spares_removeOrRefreshService (name : String) : Asks Spares (removeOrRefreshService name) := by
  unfold removeOrRefreshService
  split
  · exact asks_bind (asks_ask trivial) fun _ => asks_packages trivial
  · rename_i other
    exact asks_bind (asks_ask trivial) fun _ => asks_bind (asks_packages other) fun _ => asks_store trivial

theorem replaces_upgradeProduct (product : Product) : Makes Replaces (upgradeProduct product) := by
  intro events result ran
  rcases ran_upgradeProduct.mp ran with ⟨error,rfl,_⟩ | ⟨service,row,reconciled,rfl,reconciling,_⟩
  · exact .other rfl rfl (.other rfl rfl .nil)
  · rw [← List.append_nil row]
    exact .other rfl rfl (.turn rfl reconciling .nil)

theorem replaces_downgradeProduct (product : Product) : Makes Replaces (downgradeProduct product) := by
  intro events result ran
  obtain ⟨_,rfl,asked⟩ := ran_info_bind.mp ran
  rcases ran_server_bind.mp asked with ⟨error,rfl,_⟩ | ⟨service,row,rfl,reconciling⟩
  · exact .other rfl rfl (.other rfl rfl .nil)
  · rw [← List.append_nil row]
    exact .other rfl rfl (.turn rfl reconciling .nil)

theorem upheld_replaces (tidy : ¬ operation.CleansUp) : Upheld settings operation Replaces where
  toComposes := composes_replaces
  aside _ aside := replaces_of_spares fun event member => Aside.spares _ (aside event member)
  adds service := replaces_of_asks (spares_addService service)
  dismisses name := replaces_of_asks (spares_removeOrRefreshService name)
  writes _ _ := replaces_of_asks (asks_store trivial)
  removes cleansUp := absurd cleansUp tidy
  forgets cleansUp := absurd cleansUp tidy
  upgrades _ := replaces_upgradeProduct
  downgrades _ := replaces_downgradeProduct

theorem upheld_spares (tidy : ¬ operation.CleansUp) (stays : ¬ operation.Migrates) :
    Upheld settings operation fun events => ∀ event ∈ events, Spares event.question where
  toComposes := composes_allowed
  aside _ aside event member := Aside.spares _ (aside event member)
  adds := spares_addService
  dismisses := spares_removeOrRefreshService
  writes _ _ := asks_store trivial
  removes cleansUp := absurd cleansUp tidy
  forgets cleansUp := absurd cleansUp tidy
  upgrades migrates := absurd migrates stays
  downgrades migrates := absurd migrates stays

-- Where a product is deactivated whose service is the dummy one, the services are refreshed next.
def Refreshes (settings : Settings) (events : List Event) : Prop :=
  ∀ before product service after, events = before ++ ⟨.server (.deactivate product),.ok service⟩ :: after →
    settings.skipServiceInstall = false → service.name = Service.dummyName →
    ∃ reply rest, after = ⟨.report .info "Refreshing services",()⟩ :: ⟨.packages .refreshAllServices,reply⟩ :: rest

theorem refreshes_deactivateProduct {product : Product} {result : Result Service}
    (ran : Ran (deactivateProduct settings product) events result) : Refreshes settings events := by
  intro before asked service after parts installs dummy
  rw [parts] at ran
  obtain ⟨rfl,_⟩ := turn_deactivateProduct.position ran
  obtain ⟨_,same,asking⟩ := ran_info_bind.mp ran
  obtain ⟨_,rfl⟩ := List.cons.inj same
  rcases ran_server_bind.mp asking with ⟨_,impossible,_⟩ | ⟨_,_,answered,dismissing⟩
  · cases impossible
  cases answered
  rw [installs,dummy] at dismissing
  simp only [Bool.false_eq_true,if_false,removeOrRefreshService,if_true,bind_assoc] at dismissing
  obtain ⟨_,rfl,refreshing⟩ := ran_info_bind.mp dismissing
  rcases ran_packages_bind.mp refreshing with ⟨error,rfl,_⟩ | ⟨_,rest,rfl,_⟩
  · exact ⟨_,_,rfl⟩
  · exact ⟨_,_,rfl⟩

-- Nothing but the deactivation itself asks the server to deactivate.
theorem Refreshes.after_opening {opening rest : List Event} (silent : requests serverOf opening = [])
    (refreshes : Refreshes settings rest) : Refreshes settings (opening ++ rest) := by
  intro before product service after parts installs dummy
  rcases append_eq_split.mp parts with ⟨_,early,_⟩ | ⟨_,late,_⟩
  · rw [early] at silent
    cases unasked silent
  · exact refreshes _ _ _ _ late installs dummy

theorem refreshes_of_silent (silent : requests serverOf events = []) : Refreshes settings events := by
  intro before product service after parts
  rw [parts] at silent
  cases unasked silent

theorem Withdraws.refreshes {triplet : Triplet} {result : Result ProductService}
    (withdraws : Withdraws settings triplet events result) : Refreshes settings events := by
  cases withdraws with
  | asked _ _ ran => exact (refreshes_deactivateProduct ran).after_opening rfl
  | _ => exact refreshes_of_silent rfl

-- What an operation does with the dummy service: the server decides whether a migration removes it.
structure KeepsShared (settings : Settings) (operation : Operation) (events : List Event) : Prop where
  removed_iff : RemovesDummy events ↔ Exposes events
  kept : ¬ operation.Migrates → ¬ RemovesDummy events
  refreshed : operation.Withdraws → Refreshes settings events

theorem operation_keepsShared {result : Result operation.Outcome} (tidy : ¬ operation.CleansUp)
    (ran : Ran (operation.action settings) events result) : KeepsShared settings operation events where
  removed_iff := ((upheld_replaces tidy).makes events result ran).removesDummy_iff
  kept stays removes := by
    obtain ⟨event,member,removed⟩ := removes
    have spares := (upheld_spares tidy stays).makes events result ran event member
    rw [spares.removesDummy_eq] at removed
    cases removed
  refreshed withdraws := by
    obtain ⟨opening,triplet,rest,answer,rfl,opens,deactivating,_⟩ := withdraws_of_operation withdraws ran
    refine deactivating.refreshes.after_opening ?_
    rcases opens with rfl | rfl
    · rfl
    · rfl

-- A server that puts the dummy service in the place of every product's.
def pooling : Program.Behaviour collaboration
  | _, .server (.upgrade product) => .ok { serviceOf product with name := Service.dummyName }
  | past, q => obliging true [server154] server154 past q

def pooled : List Event × Result String := Program.play pooling [] (migrateSystem [server155]).run

theorem pooled_ran : Ran (migrateSystem [server155]) pooled.1 pooled.2 := Program.runs_play pooling [] _

theorem pooled_removesDummy : RemovesDummy pooled.1 := by decide +kernel

theorem pooled_exposes : KeepsShared {} (.migrateSystem [server155]) pooled.1 ∧ Exposes pooled.1 := by
  have shared : KeepsShared {} (.migrateSystem [server155]) pooled.1 := operation_keepsShared id pooled_ran
  exact ⟨shared,shared.removed_iff.mp pooled_removesDummy⟩

theorem shared_service_removed :
    ¬ ∀ (settings : Settings) (operation : Operation) (events : List Event) (result : Result operation.Outcome),
      ¬ operation.CleansUp → Ran (operation.action settings) events result → ¬ RemovesDummy events := by
  intro never
  exact never {} (.migrateSystem [server155]) pooled.1 pooled.2 id pooled_ran pooled_removesDummy

end Entitlement.Registration
