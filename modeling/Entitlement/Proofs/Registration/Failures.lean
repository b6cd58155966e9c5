import Entitlement.Proofs.Loops
import Entitlement.Proofs.Registration.Services
import Entitlement.Registration.Deregister
import Entitlement.Registration.Register

-- Where calls fail. Most steps of a registration go on only as long as their calls succeed: the first call that fails
-- is the last one, and its error is that of the step. After its call to the server such a step is local to the system.
namespace Entitlement.Registration

-- The error that a call is answered with.
def errorOf : Event → Option Error
  | ⟨.server _,.error error⟩ | ⟨.packages _,.error error⟩ | ⟨.store _,.error error⟩ => some error
  | _ => none

def Succeeds (events : List Event) : Prop := ∀ event ∈ events, errorOf event = none

-- The last of the calls fails, and no other does.
def Halts (events : List Event) (error : Error) : Prop :=
  ∃ before last, events = before ++ [last] ∧ Succeeds before ∧ errorOf last = some error

theorem succeeds_append {first second : List Event} :
    Succeeds (first ++ second) ↔ Succeeds first ∧ Succeeds second := List.forall_mem_append

theorem succeeds_cons {event : Event} {rest : List Event} :
    Succeeds (event :: rest) ↔ errorOf event = none ∧ Succeeds rest := List.forall_mem_cons

theorem succeeds_nil : Succeeds [] := by simp [Succeeds]

theorem Halts.append {first second : List Event} (succeeds : Succeeds first) (halts : Halts second error) :
    Halts (first ++ second) error := by
  obtain ⟨before,last,rfl,passed,failed⟩ := halts
  exact ⟨first ++ before,last,by simp,succeeds_append.mpr ⟨succeeds,passed⟩,failed⟩

theorem halts_single {event : Event} (failed : errorOf event = some error) : Halts [event] error :=
  ⟨[],event,rfl,succeeds_nil,failed⟩

-- Nothing follows a call that fails.
theorem Halts.at_end {event : Event} (halts : Halts (before ++ event :: after) error)
    (failed : errorOf event = some cause) : after = [] ∧ cause = error := by
  obtain ⟨passed,last,whole,succeeds,fails⟩ := halts
  rcases append_eq_split.mp whole.symm with ⟨between,rfl,_⟩ | ⟨between,own,_⟩
  · have passes := succeeds event (by simp)
    rw [failed] at passes
    cases passes
  · cases between with
    | nil =>
      obtain ⟨rfl,rfl⟩ := List.cons.inj own
      exact ⟨rfl,Option.some.inj (failed.symm.trans fails)⟩
    | cons head between => simp at own

theorem Halts.last {row : List Event} {event final : Event} (halts : Halts (row ++ [final]) error)
    (member : event ∈ row ++ [final]) (failed : errorOf event = some cause) : event = final := by
  obtain ⟨before,after,parts⟩ := List.append_of_mem member
  rw [parts] at halts
  obtain ⟨rfl,_⟩ := halts.at_end failed
  obtain ⟨_,same⟩ := List.append_inj' parts rfl
  exact (List.cons.inj same).1.symm

theorem Halts.not_succeeds {row : List Event} (halts : Halts row error) : ¬ Succeeds row := by
  obtain ⟨before,last,rfl,_,failed⟩ := halts
  intro succeeds
  have passed := succeeds last (by simp)
  rw [failed] at passed
  cases passed

-- A step that goes on only as long as its calls succeed.
def FailsFast (action : Action α) : Prop :=
  ∀ events result, Ran action events result → match result with
    | .ok _ => Succeeds events
    | .error error => Halts events error

theorem FailsFast.succeeds {action : Action α} (fails : FailsFast action) (ran : Ran action events (.ok value)) :
    Succeeds events := fails _ _ ran

theorem FailsFast.halts {action : Action α} (fails : FailsFast action) (ran : Ran action events (.error error)) :
    Halts events error := fails _ _ ran

theorem failsFast_pure {value : α} : FailsFast (pure value) := by
  intro events result ran
  obtain ⟨rfl,rfl⟩ := ran_pure.mp ran
  exact succeeds_nil

theorem failsFast_bind {action : Action α} {next : α → Action β} (before : FailsFast action)
    (after : ∀ value, FailsFast (next value)) : FailsFast (action >>= next) := by
  intro events result ran
  rcases ran_bind.mp ran with ⟨error,failed,rfl⟩ | ⟨first,value,second,rfl,ranBefore,ranAfter⟩
  · exact before _ _ failed
  · have passed := before _ _ ranBefore
    have later := after value _ _ ranAfter
    cases result with
    | ok value => exact succeeds_append.mpr ⟨passed,later⟩
    | error error => exact .append passed later

theorem failsFast_call {action : Action α} {event : Result α → Event}
    (call : ∀ {events result}, Ran action events result ↔ events = [event result])
    (answers : ∀ result, errorOf (event result) = match result with | .ok _ => none | .error error => some error) :
    FailsFast action := by
  intro events result ran
  rw [call.mp ran]
  have answer := answers result
  cases result with
  | ok value => exact succeeds_cons.mpr ⟨answer,succeeds_nil⟩
  | error error => exact halts_single answer

theorem failsFast_server {call : ServerCall} : FailsFast (server call) :=
  failsFast_call ran_server fun result => by cases result <;> rfl

theorem failsFast_packages {call : PackageCall} : FailsFast (packages call) :=
  failsFast_call ran_packages fun result => by cases result <;> rfl

theorem failsFast_store {call : StoreCall} : FailsFast (store call) :=
  failsFast_call ran_store fun result => by cases result <;> rfl

theorem failsFast_report {level : Level} {text : String} : FailsFast (ask (.report level text)) := by
  intro events result ran
  obtain ⟨rfl,rfl⟩ := ran_report.mp ran
  exact succeeds_cons.mpr ⟨rfl,succeeds_nil⟩

theorem failsFast_isServicePlugin {name : String} : FailsFast (isServicePlugin name) := by
  intro events result ran
  obtain ⟨answer,rfl,rfl⟩ := ran_ask.mp ran
  exact succeeds_cons.mpr ⟨rfl,succeeds_nil⟩

theorem failsFast_mapM {step : α → Action β} {list : List α} (each : ∀ item, FailsFast (step item)) :
    FailsFast (list.mapM step) := by
  induction list with
  | nil => exact failsFast_pure
  | cons head rest ih =>
    rw [List.mapM_cons]
    exact failsFast_bind (each head) fun _ => failsFast_bind ih fun _ => failsFast_pure

-- Nothing follows a call that fails, unless it is one that can be done without.

def Dispensable : Question → Prop
  | .packages .installedProducts | .store .systemCredentials | .store (.addRegistryLogin _) => True
  | _ => False

def StopsAtFailure (events : List Event) (result : Result α) : Prop :=
  ∀ before event after error, events = before ++ event :: after → errorOf event = some error →
    Dispensable event.question ∨ after = [] ∧ result = .error error

theorem StopsAtFailure.of_halts {α : Type} {row : List Event} (halts : Halts row error) :
    StopsAtFailure row (.error error : Result α) := by
  intro before event after cause parts failed
  rw [parts] at halts
  obtain ⟨same,rfl⟩ := halts.at_end failed
  exact .inr ⟨same,rfl⟩

theorem StopsAtFailure.append {α : Type} {result : Result α} {first second : List Event}
    (passes : ∀ event ∈ first, errorOf event = none ∨ Dispensable event.question)
    (stops : StopsAtFailure second result) : StopsAtFailure (first ++ second) result := by
  intro before event after error parts failed
  rcases append_eq_split.mp parts with ⟨_,rfl,_⟩ | ⟨_,later,_⟩
  · rcases passes event (by simp) with passed | dispensable
    · rw [failed] at passed
      cases passed
    · exact .inl dispensable
  · exact stops _ _ _ _ later failed

theorem StopsAtFailure.of_succeeds {α : Type} {result : Result α} {row : List Event} (succeeds : Succeeds row) :
    StopsAtFailure row result := by
  intro before event after error parts failed
  have passed := succeeds event (by simp [parts])
  rw [failed] at passed
  cases passed

theorem StopsAtFailure.passes {α : Type} {row : List Event} {value : α}
    (stops : StopsAtFailure row (.ok value : Result α)) :
    ∀ event ∈ row, errorOf event = none ∨ Dispensable event.question := by
  intro event member
  obtain ⟨before,after,parts⟩ := List.append_of_mem member
  cases failed : errorOf event with
  | none => exact .inl rfl
  | some error =>
    rcases stops before event after error parts failed with dispensable | ⟨_,impossible⟩
    · exact .inr dispensable
    · cases impossible

-- The error of a step is that of a larger one.
theorem StopsAtFailure.error {α β : Type} {row : List Event} {error : Error}
    (stops : StopsAtFailure row (.error error : Result α)) : StopsAtFailure row (.error error : Result β) := by
  intro before event after cause parts failed
  rcases stops before event after cause parts failed with dispensable | ⟨rfl,same⟩
  · exact .inl dispensable
  · cases same; exact .inr ⟨rfl,rfl⟩

-- The services behind products.

variable {settings : Settings}

theorem failsFast_addService {service : Service} : FailsFast (addService settings service) :=
  failsFast_bind failsFast_report fun _ => failsFast_bind failsFast_store fun _ => failsFast_packages

theorem failsFast_removeService {name : String} : FailsFast (removeService name) :=
  failsFast_bind failsFast_packages fun _ => failsFast_store

theorem failsFast_removeOrRefreshService {name : String} : FailsFast (removeOrRefreshService name) := by
  unfold removeOrRefreshService
  split
  · exact failsFast_bind failsFast_report fun _ => failsFast_packages
  · exact failsFast_bind failsFast_report fun _ => failsFast_removeService

theorem failsFast_removeUnlessPlugin {name : String} : FailsFast (removeUnlessPlugin name) := by
  refine failsFast_bind failsFast_isServicePlugin fun plugin => ?_
  split
  · exact failsFast_report
  · exact failsFast_removeService

theorem failsFast_reconcileService {service : Service} : FailsFast (reconcileService service) := by
  rw [reconcileService_eq]
  refine failsFast_bind failsFast_removeUnlessPlugin fun _ => failsFast_bind ?_ fun _ => ?_
  · unfold removeObsolete
    split
    · exact failsFast_pure
    · exact failsFast_bind failsFast_report fun _ => failsFast_removeUnlessPlugin
  · refine failsFast_bind failsFast_isServicePlugin fun plugin => ?_
    split
    · exact failsFast_report
    · exact failsFast_bind failsFast_report fun _ => failsFast_bind failsFast_store fun _ => failsFast_packages

-- What is asked of the server, in order.

def serverOf : Question → Option ServerCall
  | .server call => some call
  | _ => none

def Local (q : Question) : Prop := serverOf q = none

theorem MaintainsServices.isLocal {q : Question} (maintains : MaintainsServices q) : Local q := by
  cases q with
  | server call => cases maintains
  | _ => rfl

theorem asksLocal_reconcileService {service : Service} : Asks Local (reconcileService service) :=
  asks_reconcileService.mono fun _ => MaintainsServices.isLocal

theorem asksLocal_addService {service : Service} : Asks Local (addService settings service) :=
  asks_bind (asks_ask rfl) fun _ => asks_bind (asks_store rfl) fun _ => asks_packages rfl

theorem asksLocal_removeOrRefreshService {name : String} : Asks Local (removeOrRefreshService name) := by
  unfold removeOrRefreshService
  split
  · exact asks_bind (asks_ask rfl) fun _ => asks_packages rfl
  · exact asks_bind (asks_ask rfl) fun _ => asks_bind (asks_packages rfl) fun _ => asks_store rfl

-- A world in which nothing fails: the service of a product has its name.

def serviceOf (product : Product) : Service :=
  { id := 1, url := "https://scc.suse.com/access/services/" ++ product.name, name := product.name, obsoletedName := ""
    product := product }

def obliging (registered : Bool) (installed : List Product) (tree : Product) : Program.Behaviour collaboration
  | _, .server (.announce _ _) => .ok ⟨"SCC_login","secret"⟩
  | _, .server (.activate product _ _) | _, .server (.upgrade product) | _, .server (.downgrade product)
  | _, .server (.deactivate product) => .ok (serviceOf product)
  | _, .server (.productTree _) => .ok tree
  | _, .server .activations => .ok []
  | _, .server (.migrations _ _) => .ok []
  | _, .server (.synchronize products) => .ok products
  | _, .server (.updateSystem _) | _, .server .deregister => .ok ()
  | _, .packages .installedProducts => .ok installed
  | _, .packages .installedServices => .ok []
  | _, .packages .repositories => .ok []
  | _, .packages (.findProductPackages _) => .ok []
  | _, .packages (.addService _ _ _) | _, .packages (.removeService _) | _, .packages .refreshAllServices
  | _, .packages (.installReleasePackage _) | _, .packages (.removeReleasePackage _)
  | _, .packages (.setReleaseVersion _) | _, .packages (.disableRepository _) | _, .packages (.refreshRepositories _ _)
  | _, .packages (.distUpgrade _ _) => .ok ()
  | _, .store .systemCredentials => .ok ⟨"SCC_login","secret",none⟩
  | _, .store (.writeSystem _) | _, .store .removeSystem | _, .store (.writeService _) | _, .store (.removeService _)
  | _, .store (.addRegistryLogin _) | _, .store (.removeRegistryLogin _) => .ok ()
  | _, .hasSystemCredentials => registered
  | _, .isServicePlugin _ | _, .fileExists _ => false
  | _, .report _ _ => ()

end Entitlement.Registration
