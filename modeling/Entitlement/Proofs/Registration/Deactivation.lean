import Entitlement.Proofs.Registration.Operations

-- The deactivation of a single product. It is guarded twice: the system has to be registered, and the product must not
-- be the installed base product.
namespace Entitlement.Registration

variable {settings : Settings} {triplet : Triplet}

inductive Withdraws (settings : Settings) (triplet : Triplet) : List Event → Result ProductService → Prop where
  | unregistered : Withdraws settings triplet [⟨.hasSystemCredentials,false⟩] (.error .systemNotRegistered)
  | unlisted : Withdraws settings triplet
      [⟨.hasSystemCredentials,true⟩,⟨.packages .installedProducts,.error error⟩] (.error error)
  | undetected : findBase installed = none →
      Withdraws settings triplet (migrationOpens installed) (.error .cannotDetectBaseProduct)
  | refused : findBase installed = some base → triplet = base.triplet →
      Withdraws settings triplet (migrationOpens installed) (.error .baseProductDeactivation)
  | asked : findBase installed = some base → triplet ≠ base.triplet →
      Ran (deactivateProduct settings (Product.ofTriplet triplet)) deactivating answer →
      Withdraws settings triplet (migrationOpens installed ++ deactivating)
        (answer.map (ProductService.of (Product.ofTriplet triplet)))

theorem withdraws_of_ran {result : Result ProductService} (ran : Ran (deactivate settings triplet) events result) :
    Withdraws settings triplet events result := by
  rcases ran_requireRegistration_bind.mp ran with ⟨rfl,rfl⟩ | ⟨_,rfl,registered⟩
  · exact .unregistered
  rcases ran_bind.mp registered with ⟨_,failed,rfl⟩ | ⟨_,base,_,rfl,found,detected⟩
  · rcases ran_baseProduct_error.mp failed with rfl | ⟨installed,rfl,undetected,rfl⟩
    · exact .unlisted
    · exact .undetected undetected
  obtain ⟨installed,rfl,detection⟩ := ran_baseProduct_ok.mp found
  have same : base.same (Product.ofTriplet triplet) = decide (base.triplet = triplet) := rfl
  by_cases own : triplet = base.triplet
  · rw [same,decide_eq_true own.symm] at detected
    obtain ⟨rfl,rfl⟩ := ran_throw.mp detected
    exact .refused detection own
  · rw [same,decide_eq_false (Ne.symm own)] at detected
    rcases ran_bind.mp detected with ⟨error,failed,rfl⟩ | ⟨deactivating,service,_,rfl,done,last⟩
    · exact .asked detection own failed
    · obtain ⟨rfl,rfl⟩ := ran_pure.mp last
      rw [List.append_nil]
      exact .asked detection own done

-- Past the guards the server is asked once.

def deactivationNote (product : Product) : Event :=
  ⟨.report .info ("Deactivating " ++ product.tripletText ++ " ..."),()⟩

theorem turn_deactivateProduct : Turn (deactivateProduct settings) deactivationNote .deactivate where
  quiet _ := rfl
  opens product events result ran := by
    obtain ⟨_,rfl,asked⟩ := ran_info_bind.mp ran
    rcases ran_server_bind.mp asked with ⟨error,rfl,_⟩ | ⟨service,rest,rfl,dismissed⟩
    · exact ⟨_,[],rfl,rfl⟩
    have isLocal : Asks Local (do
        if settings.skipServiceInstall then return service
        removeOrRefreshService service.name
        info ("Removing release package " ++ product.name)
        packages (.removeReleasePackage product.name)
        return service) := by
      split
      · exact asks_pure
      · exact asks_bind asksLocal_removeOrRefreshService fun _ => asks_bind (asks_ask rfl) fun _ =>
          asks_bind (asks_packages rfl) fun _ => asks_pure
    exact ⟨_,rest,rfl,isLocal.requests_eq_nil (fun _ => id) dismissed⟩

-- Both operations on a single product come to it; the deregistration asks for the registration once more.

def Operation.Withdraws : Operation → Prop
  | deactivate _ | deregister (some _) => True
  | _ => False

def errorIn : Result α → Option Error
  | .ok _ => none
  | .error error => some error

theorem withdraws_of_operation {operation : Operation} {result : Result operation.Outcome}
    (single : operation.Withdraws) (ran : Ran (operation.action settings) events result) :
    ∃ opening triplet rest answer, events = opening ++ rest ∧
      (opening = [] ∨ opening = [⟨.hasSystemCredentials,true⟩]) ∧ Withdraws settings triplet rest answer ∧
      operation.failure? result = errorIn answer := by
  cases operation with
  | deactivate triplet =>
    refine ⟨[],triplet,events,result,rfl,.inl rfl,withdraws_of_ran ran,?_⟩
    cases result with
    | ok value => rfl
    | error error => rfl
  | deregister product =>
    cases product with
    | none => cases single
    | some triplet =>
      rcases ran_requireRegistration_bind.mp ran with ⟨rfl,rfl⟩ | ⟨rest,rfl,registered⟩
      · exact ⟨[],triplet,_,_,rfl,.inl rfl,.unregistered,rfl⟩
      rcases ran_bind.mp registered with ⟨error,failed,rfl⟩ | ⟨row,service,_,rfl,done,last⟩
      · exact ⟨[_],triplet,_,_,rfl,.inr rfl,withdraws_of_ran failed,rfl⟩
      · obtain ⟨rfl,rfl⟩ := ran_pure.mp last
        exact ⟨[_],triplet,_,_,congrArg (_ :: ·) (List.append_nil row),.inr rfl,withdraws_of_ran done,rfl⟩
  | _ => cases single

end Entitlement.Registration
