import Entitlement.Proofs.Registration.Deregister
import Entitlement.Proofs.Registration.Failures

-- The cleanup after a departure. It is local to the system, asks once which services there are, and removes the login
-- that it was given from the registry.
namespace Entitlement.Registration

variable {settings : Settings}

def listingOf : Question → Option Unit
  | .packages .installedServices => some ()
  | _ => none

def registryOf : Question → Option Credentials
  | .store (.removeRegistryLogin login) => some login
  | _ => none

theorem listingOf_of_dismisses (q : Question) (dismisses : Dismisses q) : listingOf q = none := by
  cases q with
  | packages call => cases call <;> first | rfl | cases dismisses
  | _ => rfl

def Tidies : Question → Prop
  | .packages (.removeService _) | .store (.removeService _) | .store .removeSystem | .report _ _ => True
  | _ => False

theorem tidies_removeServices {services : List InstalledService} : Asks Tidies (removeServices services) :=
  asks_forM fun _ => asks_bind (asks_ask trivial) fun _ => asks_bind (asks_packages trivial) fun _ => asks_store trivial

theorem Notes.tidies (notes : Notes events) : ∀ event ∈ events, Tidies event.question := by
  intro event member
  obtain ⟨_,_,same⟩ := notes event member
  rw [same]
  trivial

-- Besides its listing a cleanup only removes.
theorem tidies_cleanup {result : Result Unit} (ran : Ran (cleanup settings) events result) :
    ∃ listed after, events = ⟨.report .info "Cleaning up ...",()⟩ :: ⟨.packages .installedServices,listed⟩ :: after ∧
      ∀ event ∈ after, Tidies event.question := by
  obtain ⟨listed,after,rfl,ends⟩ := ran_cleanup.mp ran
  refine ⟨listed,after,rfl,?_⟩
  cases listed with
  | error error =>
    obtain ⟨rfl,_⟩ := ends
    simp
  | ok services =>
    rcases ends with ⟨error,failed,_⟩ | ⟨removing,removed,rfl⟩
    · exact tidies_removeServices _ _ failed
    · intro event member
      rcases List.mem_append.mp member with early | late
      · exact tidies_removeServices _ _ removed event early
      · cases List.mem_singleton.mp late; trivial

-- A row that lists the services once, and otherwise only removes and reports.
def ListsOnce (events : List Event) : Prop :=
  requests serverOf events = [] ∧ requests listingOf events = [()] ∧ requests registryOf events = []

theorem requests_of_tidies {pick : Question → Option γ} {events : List Event} (silent : ∀ q, Tidies q → pick q = none)
    (tidies : ∀ event ∈ events, Tidies event.question) : requests pick events = [] := by
  rw [requests,List.filterMap_eq_nil_iff]
  exact fun event member => silent _ (tidies event member)

theorem serverOf_of_tidies (q : Question) (tidies : Tidies q) : serverOf q = none := by
  cases q with
  | server call => cases tidies
  | _ => rfl

theorem listingOf_of_tidies (q : Question) (tidies : Tidies q) : listingOf q = none := by
  cases q with
  | packages call => cases call <;> first | rfl | cases tidies
  | _ => rfl

theorem registryOf_of_tidies (q : Question) (tidies : Tidies q) : registryOf q = none := by
  cases q with
  | store call => cases call <;> first | rfl | cases tidies
  | _ => rfl

theorem listsOnce_of_cleanup {cleaned : Result Unit} (cleans : Ran (cleanup settings) cleaning cleaned)
    (quiet : Notes notes) : ListsOnce (cleaning ++ notes) := by
  obtain ⟨listed,after,rfl,tidies⟩ := tidies_cleanup cleans
  have none {γ : Type} {pick : Question → Option γ} (silent : ∀ q, Tidies q → pick q = Option.none) :
      requests pick (after ++ notes) = [] := by
    refine requests_of_tidies silent fun event member => ?_
    exact (List.mem_append.mp member).elim (tidies event) (quiet.tidies event)
  exact ⟨none serverOf_of_tidies,congrArg (() :: ·) (none listingOf_of_tidies),none registryOf_of_tidies⟩

theorem cleanUpRegistration_listsOnce {login : Option Credentials}
    (ran : Ran (cleanUpRegistration settings login) events result) :
    requests serverOf events = [] ∧ requests listingOf events = [()] ∧ requests registryOf events = login.toList := by
  cases login with
  | none =>
    obtain ⟨_,cleaning,cleaned,notes,rfl,cleans,quiet⟩ := ran_outcomeCleanup ran
    exact listsOnce_of_cleanup cleans quiet
  | some login =>
    obtain ⟨_,reply,_,rfl,called,after⟩ := ran_outcome_bind.mp ran
    cases ran_store.mp called
    cases reply with
    | ok value =>
      obtain ⟨_,cleaning,cleaned,notes,rfl,cleans,quiet⟩ := ran_outcomeCleanup after
      obtain ⟨silent,once,known⟩ := listsOnce_of_cleanup cleans quiet
      exact ⟨silent,once,congrArg (login :: ·) known⟩
    | error error =>
      obtain ⟨_,rfl,warned⟩ := ran_warn_bind.mp after
      obtain ⟨_,cleaning,cleaned,notes,rfl,cleans,quiet⟩ := ran_outcomeCleanup warned
      obtain ⟨silent,once,known⟩ := listsOnce_of_cleanup cleans quiet
      exact ⟨silent,once,congrArg (login :: ·) known⟩

end Entitlement.Registration
