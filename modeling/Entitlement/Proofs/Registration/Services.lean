import Entitlement.Proofs.Registration.Runs
import Entitlement.Registration.ProductService

-- Replacing services asks for nothing but services and their credentials, and when it succeeds the row of its calls is
-- settled by what is a plugin's.
namespace Entitlement.Registration

def MaintainsServices : Question → Prop
  | .isServicePlugin _ | .report _ _ | .packages (.addService _ _ _) | .packages (.removeService _)
  | .store (.writeService _) | .store (.removeService _) => True
  | _ => False

theorem asks_removeService {name : String} : Asks MaintainsServices (removeService name) :=
  asks_bind (asks_packages trivial) fun _ => asks_store trivial

theorem asks_removeUnlessPlugin {name : String} : Asks MaintainsServices (removeUnlessPlugin name) := by
  refine asks_bind (asks_ask trivial) fun plugin => ?_
  split
  · exact asks_ask trivial
  · exact asks_removeService

theorem asks_reconcileService {service : Service} : Asks MaintainsServices (reconcileService service) := by
  have add : Asks MaintainsServices (do
      if ← isServicePlugin service.name then
        debug ("service plugin present, not adding service=" ++ service.name)
      else
        info ("Adding service " ++ service.name)
        store (.writeService service.name)
        packages (.addService service.url service.name true)) := by
    refine asks_bind (asks_ask trivial) fun plugin => ?_
    split
    · exact asks_ask trivial
    · exact asks_bind (asks_ask trivial) fun _ => asks_bind (asks_store trivial) fun _ => asks_packages trivial
  refine asks_bind asks_removeUnlessPlugin fun _ => ?_
  split
  · exact asks_bind (asks_ask trivial) fun _ => asks_bind asks_removeUnlessPlugin fun _ => add
  · exact add

-- What is done to services, call by call.

def removal (name : String) : List Event :=
  [⟨.packages (.removeService name),.ok ()⟩,⟨.store (.removeService name),.ok ()⟩]

def removalUnless (plugin : Bool) (name : String) : List Event :=
  ⟨.isServicePlugin name,plugin⟩ ::
    if plugin then [⟨.report .debug ("service plugin present, not removing service=" ++ Text.quoted name),()⟩]
    else removal name

def additionUnless (plugin : Bool) (service : Service) : List Event :=
  ⟨.isServicePlugin service.name,plugin⟩ ::
    if plugin then [⟨.report .debug ("service plugin present, not adding service=" ++ service.name),()⟩]
    else [⟨.report .info ("Adding service " ++ service.name),()⟩,⟨.store (.writeService service.name),.ok ()⟩,
      ⟨.packages (.addService service.url service.name true),.ok ()⟩]

-- A service is in the place of its former one and of the one that it makes obsolete.
def Replaced (service : Service) (events : List Event) : Prop :=
  ∃ former obsolete added, events = removalUnless former service.name ++
    ((if service.obsoletedName.isEmpty then []
      else ⟨.report .info ("Removing service " ++ service.obsoletedName),()⟩ ::
        removalUnless obsolete service.obsoletedName) ++ additionUnless added service)

theorem ran_removeService_ok {name : String} :
    Ran (removeService name) events (.ok ()) ↔ events = removal name := by
  simp only [removeService,ran_packages_bind]
  constructor
  · intro ran
    rcases ran with ⟨_,_,impossible⟩ | ⟨_,_,rfl,stored⟩
    · cases impossible
    · cases ran_store.mp stored; rfl
  · intro same
    exact .inr ⟨(),_,same,ran_store.mpr rfl⟩

theorem ran_removeUnlessPlugin_ok {name : String} :
    Ran (removeUnlessPlugin name) events (.ok ()) ↔ ∃ plugin, events = removalUnless plugin name := by
  unfold removeUnlessPlugin isServicePlugin
  rw [ran_ask_bind]
  refine exists_congr fun plugin => ?_
  cases plugin with
  | true =>
    constructor
    · intro ran
      obtain ⟨_,rfl,reported⟩ := ran
      rw [(ran_report.mp reported).1]
      rfl
    · intro same
      exact ⟨_,same,ran_report.mpr ⟨rfl,rfl⟩⟩
  | false =>
    constructor
    · intro ran
      obtain ⟨_,rfl,removed⟩ := ran
      rw [ran_removeService_ok.mp removed]
      rfl
    · intro same
      exact ⟨_,same,ran_removeService_ok.mpr rfl⟩

-- The steps of putting a service in its place.

def removeObsolete (service : Service) : Action Unit :=
  if service.obsoletedName.isEmpty then pure () else do
    info ("Removing service " ++ service.obsoletedName)
    removeUnlessPlugin service.obsoletedName

def addUnlessPlugin (service : Service) : Action Unit := do
  if ← isServicePlugin service.name then
    debug ("service plugin present, not adding service=" ++ service.name)
  else
    info ("Adding service " ++ service.name)
    store (.writeService service.name)
    packages (.addService service.url service.name true)

theorem reconcileService_eq (service : Service) :
    reconcileService service = (do
      removeUnlessPlugin service.name
      removeObsolete service
      addUnlessPlugin service) := by
  unfold reconcileService removeObsolete addUnlessPlugin
  congr 1
  funext _
  cases service.obsoletedName.isEmpty with
  | true => rfl
  | false => simp only [Bool.not_false,if_true,Bool.false_eq_true,if_false,bind_assoc]

theorem ran_removeObsolete_ok {service : Service} :
    Ran (removeObsolete service) events (.ok ()) ↔ ∃ plugin, events = if service.obsoletedName.isEmpty then []
      else ⟨.report .info ("Removing service " ++ service.obsoletedName),()⟩ ::
        removalUnless plugin service.obsoletedName := by
  unfold removeObsolete
  cases service.obsoletedName.isEmpty with
  | true =>
    simp only [if_true,ran_pure,and_true]
    exact ⟨fun empty => ⟨true,empty⟩,fun ⟨_,empty⟩ => empty⟩
  | false =>
    simp only [Bool.false_eq_true,if_false,ran_info_bind,ran_removeUnlessPlugin_ok]
    constructor
    · intro ran
      obtain ⟨_,rfl,plugin,rfl⟩ := ran
      exact ⟨plugin,rfl⟩
    · intro same
      obtain ⟨plugin,rfl⟩ := same
      exact ⟨_,rfl,plugin,rfl⟩

theorem ran_addUnlessPlugin_ok {service : Service} :
    Ran (addUnlessPlugin service) events (.ok ()) ↔ ∃ plugin, events = additionUnless plugin service := by
  unfold addUnlessPlugin isServicePlugin
  rw [ran_ask_bind]
  refine exists_congr fun plugin => ?_
  cases plugin with
  | true =>
    constructor
    · intro ran
      obtain ⟨_,rfl,reported⟩ := ran
      rw [(ran_report.mp reported).1]
      rfl
    · intro same
      exact ⟨_,same,ran_report.mpr ⟨rfl,rfl⟩⟩
  | false =>
    constructor
    · intro ran
      obtain ⟨_,rfl,adding⟩ := ran
      obtain ⟨_,rfl,storing⟩ := ran_info_bind.mp adding
      obtain ⟨_,_,rfl,stored,added⟩ := ran_then_ok.mp storing
      cases ran_store.mp stored
      cases ran_packages.mp added
      rfl
    · intro same
      refine ⟨_,same,ran_info_bind.mpr ⟨_,rfl,ran_then_ok.mpr ⟨[_],_,rfl,ran_store.mpr rfl,?_⟩⟩⟩
      exact ran_packages.mpr rfl

theorem ran_reconcileService_ok {service : Service} :
    Ran (reconcileService service) events (.ok ()) ↔ Replaced service events := by
  simp only [reconcileService_eq,ran_then_ok,ran_removeUnlessPlugin_ok,ran_removeObsolete_ok,ran_addUnlessPlugin_ok,
    Replaced]
  constructor
  · intro ran
    obtain ⟨_,_,rfl,⟨former,rfl⟩,_,_,rfl,⟨obsolete,rfl⟩,added,rfl⟩ := ran
    exact ⟨former,obsolete,added,rfl⟩
  · intro replaced
    obtain ⟨former,obsolete,added,rfl⟩ := replaced
    exact ⟨_,_,rfl,⟨former,rfl⟩,_,_,rfl,⟨obsolete,rfl⟩,added,rfl⟩

end Entitlement.Registration
