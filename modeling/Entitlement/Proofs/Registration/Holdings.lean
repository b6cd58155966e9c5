import Entitlement.Proofs.Registration.Operations
import Mathlib.Order.BooleanAlgebra.Set

-- The services that the package manager holds and those that have credentials. The two sets are changed by separate
-- calls, any of which may fail; in between, a service may be without the package manager, but not without credentials.
namespace Entitlement.Registration

structure Holdings where
  services : Set String
  secured : Set String

namespace Holdings

-- A call that fails changes nothing.
def after (h : Holdings) : Event → Holdings
  | ⟨.packages (.addService _ name _),.ok _⟩ => { h with services := insert name h.services }
  | ⟨.packages (.removeService name),.ok _⟩ => { h with services := h.services \ {name} }
  | ⟨.store (.writeService name),.ok _⟩ => { h with secured := insert name h.secured }
  | ⟨.store (.removeService name),.ok _⟩ => { h with secured := h.secured \ {name} }
  | _ => h

def afterAll (h : Holdings) (events : List Event) : Holdings := events.foldl after h

def Covered (h : Holdings) : Prop := h.services ⊆ h.secured

-- Every service has its credentials at first and after every call.
def Lasts (h : Holdings) : List Event → Prop
  | [] => h.Covered
  | event :: rest => h.Covered ∧ (h.after event).Lasts rest

variable {h : Holdings}

theorem Lasts.covered (lasts : h.Lasts events) : h.Covered := by
  cases events with
  | nil => exact lasts
  | cons event rest => exact lasts.1

theorem lasts_append : h.Lasts (first ++ second) ↔ h.Lasts first ∧ (h.afterAll first).Lasts second := by
  induction first generalizing h with
  | nil => exact ⟨fun lasts => ⟨lasts.covered,lasts⟩,And.right⟩
  | cons event rest ih => exact (and_congr_right fun _ => ih).trans and_assoc.symm

theorem Lasts.always (lasts : h.Lasts events) (parts : events = before ++ rest) : (h.afterAll before).Covered := by
  rw [parts,lasts_append] at lasts
  exact lasts.2.covered

end Holdings

-- A row of calls that leaves no service without credentials.
def Secures (events : List Event) : Prop := ∀ h : Holdings, h.Covered → h.Lasts events

theorem composes_secures : Composes Secures where
  nil _ covered := covered
  append _ _ early late := by
    intro h covered
    have lasts := early h covered
    have covers := lasts.always (List.append_nil _).symm
    exact Holdings.lasts_append.mpr ⟨lasts,late _ covers⟩

-- What has nothing to do with services.
def Unrelated : Question → Prop
  | .packages (.addService _ _ _) | .packages (.removeService _) | .store (.writeService _)
  | .store (.removeService _) => False
  | _ => True

theorem Aside.unrelated (q : Question) (aside : Aside q) : Unrelated q := by
  cases q with
  | packages call => cases call <;> trivial
  | store call => cases call <;> trivial
  | _ => trivial

theorem after_unrelated (h : Holdings) {event : Event} (unrelated : Unrelated event.question) : h.after event = h := by
  obtain ⟨q,answer⟩ := event
  cases q with
  | packages call => cases call <;> first | rfl | cases unrelated
  | store call => cases call <;> first | rfl | cases unrelated
  | _ => rfl

theorem secures_unrelated {events : List Event} (unrelated : ∀ event ∈ events, Unrelated event.question) :
    Secures events := by
  induction events with
  | nil => exact composes_secures.nil
  | cons event rest ih =>
    intro h covered
    obtain ⟨first,later⟩ := List.forall_mem_cons.mp unrelated
    refine ⟨covered,?_⟩
    rw [after_unrelated h first]
    exact ih later h covered

theorem secures_of_asks {action : Action α} (asks : Asks Unrelated action) : Makes Secures action :=
  fun events result ran => secures_unrelated (asks events result ran)

theorem steady_secures : Steady Secures where
  toComposes := composes_secures
  aside _ aside := secures_unrelated fun event member => Aside.unrelated _ (aside event member)

-- The steps that change the sets. Each is right only as a whole: its second call needs what the first one did.

theorem secures_removeService {name : String} : Makes Secures (removeService name) := by
  intro events result ran h covered
  rcases ran_packages_bind.mp ran with ⟨error,rfl,_⟩ | ⟨_,_,rfl,stored⟩
  · exact ⟨covered,covered⟩
  have without : h.services \ {name} ⊆ h.secured := Set.sdiff_subset.trans covered
  cases ran_store.mp stored
  cases result with
  | error error => exact ⟨covered,without,without⟩
  | ok value => exact ⟨covered,without,Set.sdiff_subset_sdiff_left covered⟩

theorem secures_addition {url name : String} {refresh : Bool} : Makes Secures (do
    store (.writeService name)
    packages (.addService url name refresh)) := by
  intro events result ran h covered
  rcases (ran_call_bind ran_store).mp ran with ⟨error,rfl,_⟩ | ⟨_,_,rfl,added⟩
  · exact ⟨covered,covered⟩
  have written : h.services ⊆ insert name h.secured := covered.trans (Set.subset_insert name h.secured)
  cases ran_packages.mp added
  cases result with
  | error error => exact ⟨covered,written,written⟩
  | ok value => exact ⟨covered,written,Set.insert_subset_insert covered⟩

theorem secures_removeUnlessPlugin {name : String} : Makes Secures (removeUnlessPlugin name) := by
  refine steady_secures.bind (steady_secures.asks (asks_ask trivial)) fun plugin => ?_
  split
  · exact steady_secures.report
  · exact secures_removeService

theorem secures_reconcileService {service : Service} : Makes Secures (reconcileService service) := by
  rw [reconcileService_eq]
  refine steady_secures.bind secures_removeUnlessPlugin fun _ => steady_secures.bind ?_ fun _ => ?_
  · unfold removeObsolete
    split
    · exact steady_secures.pure
    · exact steady_secures.bind steady_secures.report fun _ => secures_removeUnlessPlugin
  · refine steady_secures.bind (steady_secures.asks (asks_ask trivial)) fun plugin => ?_
    split
    · exact steady_secures.report
    · exact steady_secures.bind steady_secures.report fun _ => secures_addition

theorem secures_removeOrRefreshService {name : String} : Makes Secures (removeOrRefreshService name) := by
  unfold removeOrRefreshService
  split
  · exact steady_secures.asks (asks_bind (asks_ask trivial) fun _ => asks_packages trivial)
  · exact steady_secures.bind steady_secures.report fun _ => secures_removeService

variable {settings : Settings} {operation : Operation}

theorem upheld_secures : Upheld settings operation Secures where
  toSteady := steady_secures
  adds _ := steady_secures.bind steady_secures.report fun _ => secures_addition
  dismisses _ := secures_removeOrRefreshService
  writes _ _ := secures_of_asks (asks_store trivial)
  removes _ _ := secures_removeService
  forgets _ := secures_of_asks (asks_store trivial)
  upgrades _ _ := steady_secures.bind steady_secures.report fun _ =>
    steady_secures.bind (makes_adapt (secures_of_asks (asks_server trivial))) fun _ =>
    makes_adapt secures_reconcileService
  downgrades _ _ := steady_secures.bind steady_secures.report fun _ =>
    steady_secures.bind (secures_of_asks (asks_server trivial)) fun _ => secures_reconcileService

theorem services_keepCredentials {result : Result operation.Outcome} {h : Holdings}
    (covered : h.services ⊆ h.secured) (ran : Ran (operation.action settings) events result) :
    ∀ before after, events = before ++ after → (h.afterAll before).services ⊆ (h.afterAll before).secured := by
  intro before after parts
  have lasts := upheld_secures.makes events result ran h covered
  exact lasts.always parts

-- A package manager that takes services away, but adds none.
def withholding : Program.Behaviour collaboration
  | _, .packages (.addService _ _ _) => .error (.command "zypper" 4 "")
  | past, q => obliging true [server154] server154 past q

theorem withheld_keepsCredentials :
    let held : Holdings := ⟨{"SLES"},{"SLES"}⟩
    let ran := Program.play withholding [] ((Operation.applyMigration [server155] {}).action {}).run
    (∀ before after, ran.1 = before ++ after → (held.afterAll before).services ⊆ (held.afterAll before).secured) ∧
      "SLES" ∉ (held.afterAll ran.1).services ∧ "SLES" ∈ (held.afterAll ran.1).secured := by
  intro held ran
  refine ⟨services_keepCredentials (Set.Subset.refl {"SLES"}) (Program.runs_play withholding [] _),?_,?_⟩
  · exact fun member => member.2 rfl
  · exact .inl rfl

end Entitlement.Registration
