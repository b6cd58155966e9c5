import Entitlement.Proofs.Registration.Services
import Entitlement.Registration.Deregister

-- What becomes of the credentials of a system that is deregistered. Neither the server nor the registry can keep
-- them, but a service can: the cleanup stops where the services cannot be listed or one of them not removed.
namespace Entitlement.Registration

def Question.removesSystem : Question → Bool
  | .store .removeSystem => true
  | _ => false

def attemptsRemoval (events : List Event) : Bool := events.any (·.question.removesSystem)

def removalFails : Event → Bool
  | ⟨.packages (.removeService _),.error _⟩ | ⟨.store (.removeService _),.error _⟩ => true
  | _ => false

def RemovalsSucceed (events : List Event) : Prop := ∀ event ∈ events, removalFails event = false

theorem removalsSucceed_append {first second : List Event} :
    RemovalsSucceed (first ++ second) ↔ RemovalsSucceed first ∧ RemovalsSucceed second := List.forall_mem_append

-- A step that succeeds exactly when every removal in it does.
def Tells (action : Action α) : Prop :=
  ∀ events result, Ran action events result → (result.isOk = true ↔ RemovalsSucceed events)

theorem tells_pure {value : α} : Tells (pure value) := by
  intro events result ran
  obtain ⟨rfl,rfl⟩ := ran_pure.mp ran
  simp [RemovalsSucceed,Except.isOk,Except.toBool]

theorem tells_bind {action : Action α} {next : α → Action β} (before : Tells action)
    (after : ∀ value, Tells (next value)) : Tells (action >>= next) := by
  intro events result ran
  rcases ran_bind.mp ran with ⟨error,failed,rfl⟩ | ⟨first,value,second,rfl,ranBefore,ranAfter⟩
  · exact before _ _ failed
  · have succeeded := (before _ _ ranBefore).mp rfl
    rw [after value _ _ ranAfter,removalsSucceed_append]
    exact ⟨fun later => ⟨succeeded,later⟩,And.right⟩

theorem tells_forM {step : α → Action Unit} {list : List α} (each : ∀ item, Tells (step item)) :
    Tells (list.forM step) := by
  induction list with
  | nil => exact tells_pure
  | cons head rest ih => exact tells_bind (each head) fun _ => ih

theorem tells_debug {text : String} : Tells (debug text) := by
  intro events result ran
  obtain ⟨rfl,rfl⟩ := ran_report.mp ran
  simp [RemovalsSucceed,removalFails,Except.isOk,Except.toBool]

theorem tells_removeService {name : String} : Tells (removeService name) := by
  have fromManager : Tells (packages (.removeService name)) := by
    intro events result ran
    cases ran_packages.mp ran
    cases result <;> simp [RemovalsSucceed,removalFails,Except.isOk,Except.toBool]
  have fromStore : Tells (store (.removeService name)) := by
    intro events result ran
    cases ran_store.mp ran
    cases result <;> simp [RemovalsSucceed,removalFails,Except.isOk,Except.toBool]
  exact tells_bind fromManager fun _ => fromStore

-- What comes before the cleanup asks for neither its first call nor its last.
def Dismisses : Question → Prop
  | .packages .installedServices | .store .removeSystem => False
  | _ => True

variable {settings : Settings}

theorem asks_removeOrRefreshService {name : String} : Asks Dismisses (removeOrRefreshService name) := by
  unfold removeOrRefreshService
  split
  · exact asks_bind (asks_ask trivial) fun _ => asks_packages trivial
  · exact asks_bind (asks_ask trivial) fun _ => asks_bind (asks_packages trivial) fun _ => asks_store trivial

theorem asks_deactivateProduct {product : Product} : Asks Dismisses (deactivateProduct settings product) := by
  refine asks_bind (asks_ask trivial) fun _ => asks_bind (asks_server trivial) fun service => ?_
  split
  · exact asks_pure
  · exact asks_bind asks_removeOrRefreshService fun _ => asks_bind (asks_ask trivial) fun _ =>
      asks_bind (asks_packages trivial) fun _ => asks_pure

theorem asks_deregisterSystem : Asks Dismisses (deregisterSystem settings) := by
  refine asks_bind (asks_baseProduct trivial) fun base => asks_bind (asks_packages trivial) fun _ =>
    asks_bind (asks_server trivial) fun _ => asks_bind asks_settled fun _ =>
    asks_bind (asks_mapM fun _ => asks_bind asks_deactivateProduct fun _ => asks_pure) fun dependents =>
    asks_bind (asks_ask trivial) fun _ => asks_bind (asks_server trivial) fun service => ?_
  have leaving : Asks Dismisses (do
      server .deregister
      info "Successfully deregistered system"
      return dependents ++ [ProductService.of base service]) :=
    asks_bind (asks_server trivial) fun _ => asks_bind (asks_ask trivial) fun _ => asks_pure
  split
  · exact asks_bind asks_removeOrRefreshService fun _ => leaving
  · exact leaving

theorem attemptsRemoval_append {first second : List Event} :
    attemptsRemoval (first ++ second) = (attemptsRemoval first || attemptsRemoval second) := List.any_append

theorem attemptsRemoval_of_dismisses (dismisses : ∀ event ∈ events, Dismisses event.question) :
    attemptsRemoval events = false := by
  rw [attemptsRemoval,List.any_eq_false]
  intro event member removes
  have fits := dismisses event member
  obtain ⟨q,answer⟩ := event
  cases q with
  | store call => cases call <;> first | exact fits | cases removes
  | _ => cases removes

theorem attemptsRemoval_of_asks {action : Action α} (asks : Asks Dismisses action) (ran : Ran action events result) :
    attemptsRemoval events = false := attemptsRemoval_of_dismisses (asks _ _ ran)

-- The removal of the services of the server.
def removeServices (services : List InstalledService) : Action Unit :=
  services.forM fun service => do
    debug ("removing server service service=" ++ service.name ++ " url=" ++ service.url)
    removeService service.name

theorem asks_removeServices {services : List InstalledService} : Asks Dismisses (removeServices services) :=
  asks_forM fun _ => asks_bind (asks_ask trivial) fun _ => asks_bind (asks_packages trivial) fun _ => asks_store trivial

theorem tells_removeServices {services : List InstalledService} : Tells (removeServices services) :=
  tells_forM fun _ => tells_bind tells_debug fun _ => tells_removeService

theorem ran_cleanup :
    Ran (cleanup settings) events result ↔
      ∃ listed after, events = ⟨.report .info "Cleaning up ...",()⟩ :: ⟨.packages .installedServices,listed⟩ :: after ∧
        match listed with
        | .error error => after = [] ∧ result = .error error
        | .ok services =>
          (∃ error, Ran (removeServices (services.filter (isServerService settings))) after (.error error) ∧
            result = .error error) ∨
          ∃ removing, Ran (removeServices (services.filter (isServerService settings))) removing (.ok ()) ∧
            after = removing ++ [⟨.store .removeSystem,result⟩] := by
  constructor
  · intro ran
    obtain ⟨_,rfl,started⟩ := ran_info_bind.mp ran
    rcases ran_packages_bind.mp started with ⟨error,rfl,rfl⟩ | ⟨services,after,rfl,listed⟩
    · exact ⟨.error error,[],rfl,rfl,rfl⟩
    rcases ran_bind.mp listed with ⟨error,failed,rfl⟩ | ⟨removing,_,_,rfl,removed,last⟩
    · exact ⟨.ok services,after,rfl,.inl ⟨error,failed,rfl⟩⟩
    · cases ran_store.mp last
      exact ⟨.ok services,_,rfl,.inr ⟨removing,removed,rfl⟩⟩
  · rintro ⟨listed,after,rfl,ends⟩
    refine ran_info_bind.mpr ⟨_,rfl,ran_packages_bind.mpr ?_⟩
    cases listed with
    | error error => obtain ⟨rfl,rfl⟩ := ends; exact .inl ⟨error,rfl,rfl⟩
    | ok services =>
      refine .inr ⟨services,after,rfl,ran_bind.mpr ?_⟩
      rcases ends with ⟨error,failed,rfl⟩ | ⟨removing,removed,rfl⟩
      · exact .inl ⟨error,failed,rfl⟩
      · exact .inr ⟨removing,(),_,rfl,removed,ran_store.mpr rfl⟩

-- The credentials are removed last, and only if nothing was in the way.
theorem cleanup_removes (ran : Ran (cleanup settings) events result) :
    ∃ listed after, events = ⟨.report .info "Cleaning up ...",()⟩ :: ⟨.packages .installedServices,listed⟩ :: after ∧
      (attemptsRemoval after = true ↔ listed.isOk = true ∧ RemovalsSucceed after) ∧
      (attemptsRemoval after = true → ∃ removing reply, after = removing ++ [⟨.store .removeSystem,reply⟩]) := by
  obtain ⟨listed,after,rfl,ends⟩ := ran_cleanup.mp ran
  refine ⟨listed,after,rfl,?_⟩
  cases listed with
  | error error =>
    obtain ⟨rfl,_⟩ := ends
    simp [attemptsRemoval,Except.isOk,Except.toBool]
  | ok services =>
    rcases ends with ⟨error,failed,_⟩ | ⟨removing,removed,rfl⟩
    · have stopped := tells_removeServices _ _ failed
      have silent := attemptsRemoval_of_asks asks_removeServices failed
      rw [silent,← stopped]
      simp [Except.isOk,Except.toBool]
    · have succeeded := (tells_removeServices _ _ removed).mp rfl
      have attempted : attemptsRemoval (removing ++ [⟨.store .removeSystem,result⟩]) = true := by
        rw [attemptsRemoval_append]
        exact Bool.or_true _
      have passed : RemovalsSucceed (removing ++ [⟨.store .removeSystem,result⟩]) := by
        refine removalsSucceed_append.mpr ⟨succeeded,?_⟩
        simp [RemovalsSucceed,removalFails]
      exact ⟨iff_of_true attempted ⟨rfl,passed⟩,fun _ => ⟨removing,result,rfl⟩⟩

def Notes (events : List Event) : Prop := ∀ event ∈ events, ∃ level text, event.question = .report level text

theorem Notes.attemptsRemoval_eq (notes : Notes events) : attemptsRemoval events = false := by
  rw [attemptsRemoval,List.any_eq_false]
  intro event member
  obtain ⟨_,_,same⟩ := notes event member
  rw [same]
  exact Bool.false_ne_true

theorem Notes.removalsSucceed (notes : Notes events) : RemovalsSucceed events := by
  rintro ⟨q,answer⟩ member
  obtain ⟨_,_,same⟩ := notes _ member
  cases same
  rfl

-- The cleanup, with a warning where it fails.
theorem ran_outcomeCleanup (ran : Ran (do
      match ← outcome (cleanup settings) with
      | .ok () => pure ()
      | .error e => warn ("cleanup after deregistration failed: " ++ e.message)) events result) :
    result = .ok () ∧ ∃ cleaning cleaned notes, events = cleaning ++ notes ∧ Ran (cleanup settings) cleaning cleaned ∧
      Notes notes := by
  obtain ⟨cleaning,cleaned,notes,rfl,cleans,later⟩ := ran_outcome_bind.mp ran
  cases cleaned with
  | ok value =>
    obtain ⟨rfl,rfl⟩ := ran_pure.mp later
    exact ⟨rfl,cleaning,_,[],rfl,cleans,by simp [Notes]⟩
  | error error =>
    obtain ⟨rfl,rfl⟩ := ran_warn.mp later
    exact ⟨rfl,cleaning,_,_,rfl,cleans,by simp [Notes]⟩

-- What the registry answers does not matter.
theorem ran_cleanUpRegistration {credentials : Option Credentials}
    (ran : Ran (cleanUpRegistration settings credentials) events result) :
    result = .ok () ∧ ∃ registry cleaning cleaned notes, events = registry ++ (cleaning ++ notes) ∧
      (∀ event ∈ registry, Dismisses event.question) ∧ Ran (cleanup settings) cleaning cleaned ∧ Notes notes := by
  cases credentials with
  | none =>
    obtain ⟨done,cleaning,cleaned,notes,rfl,cleans,quiet⟩ := ran_outcomeCleanup ran
    exact ⟨done,[],cleaning,cleaned,notes,rfl,by simp,cleans,quiet⟩
  | some login =>
    obtain ⟨_,reply,_,rfl,called,after⟩ := ran_outcome_bind.mp ran
    cases ran_store.mp called
    cases reply with
    | ok value =>
      obtain ⟨done,cleaning,cleaned,notes,rfl,cleans,quiet⟩ := ran_outcomeCleanup after
      exact ⟨done,_,cleaning,cleaned,notes,rfl,by simp [Dismisses],cleans,quiet⟩
    | error error =>
      obtain ⟨_,rfl,warned⟩ := ran_warn_bind.mp after
      obtain ⟨done,cleaning,cleaned,notes,rfl,cleans,quiet⟩ := ran_outcomeCleanup warned
      exact ⟨done,[_,_],cleaning,cleaned,notes,rfl,by simp [Dismisses],cleans,quiet⟩

-- A row of calls in which the credentials are removed exactly where the services are listed and all removed.
def RemovesUnlessStopped (events : List Event) : Prop :=
  ∃ before listed after, events = before ++ ⟨.packages .installedServices,listed⟩ :: after ∧
    (∀ event ∈ before, Dismisses event.question) ∧
    (attemptsRemoval events = true ↔ listed.isOk = true ∧ RemovalsSucceed after) ∧
    (attemptsRemoval events = true → ∃ removing reply notes,
      after = removing ++ ⟨.store .removeSystem,reply⟩ :: notes ∧ Notes notes)

theorem removesUnlessStopped_of_cleanup (dismisses : ∀ event ∈ before, Dismisses event.question)
    (cleans : Ran (cleanup settings) cleaning cleaned) (quiet : Notes notes) :
    RemovesUnlessStopped (before ++ (cleaning ++ notes)) := by
  obtain ⟨listed,after,rfl,attempts,atEnd⟩ := cleanup_removes cleans
  have started : ∀ event ∈ before ++ [⟨.report .info "Cleaning up ...",()⟩], Dismisses event.question := by
    intro event member
    rcases List.mem_append.mp member with early | late
    · exact dismisses event early
    · cases List.mem_singleton.mp late; trivial
  have whole : before ++ (⟨.report .info "Cleaning up ...",()⟩ :: ⟨.packages .installedServices,listed⟩ :: after ++ notes) =
      (before ++ [⟨.report .info "Cleaning up ...",()⟩]) ++
        ⟨.packages .installedServices,listed⟩ :: (after ++ notes) := by simp
  have skipped : attemptsRemoval (⟨.packages .installedServices,listed⟩ :: (after ++ notes)) =
    attemptsRemoval (after ++ notes) := rfl
  rw [whole]
  refine ⟨_,listed,after ++ notes,rfl,started,?_,?_⟩
  all_goals rw [attemptsRemoval_append,attemptsRemoval_of_dismisses started,Bool.false_or,skipped,
    attemptsRemoval_append,quiet.attemptsRemoval_eq,Bool.or_false]
  · rw [attempts,removalsSucceed_append]
    constructor
    · intro ⟨found,removed⟩; exact ⟨found,removed,quiet.removalsSucceed⟩
    · intro ⟨found,removed,_⟩; exact ⟨found,removed⟩
  · intro attempted
    obtain ⟨removing,reply,rfl⟩ := atEnd attempted
    exact ⟨removing,reply,notes,by simp,quiet⟩

-- Past the guards, what the server and the registry answer has no part in it, nor has a service that could not be
-- removed before the cleanup.
theorem deregister_removes_iff {result : Result DeregisterOutcome}
    (ran : Ran (deregister settings none) events result)
    (admitted : events = ⟨.fileExists (settings.rootPath cloudGuestTool),false⟩ :: ⟨.hasSystemCredentials,true⟩ :: rest) :
    RemovesUnlessStopped rest := by
  obtain ⟨tool,_,rfl,entered⟩ := ran_ask_bind.mp ran
  cases admitted
  rcases ran_requireRegistration_bind.mp entered with ⟨same,_⟩ | ⟨_,same,registered⟩
  · cases same
  cases same
  obtain ⟨_,rfl,announced⟩ := ran_info_bind.mp registered
  obtain ⟨_,credentials,_,rfl,known,later⟩ := ran_outcome_bind.mp announced
  cases ran_store.mp known
  obtain ⟨leaving,ended,_,rfl,left,last⟩ := ran_outcome_bind.mp later
  obtain ⟨_,_,finished,rfl,cleansUp,concluding⟩ : ∃ first middle second, _ = first ++ second ∧
      Ran (cleanUpRegistration settings credentials.toOption) first (.ok middle) ∧ Ran _ second result := by
    rcases ran_bind.mp last with ⟨_,failed,_⟩ | cleaned
    · cases (ran_cleanUpRegistration failed).1
    · exact cleaned
  obtain ⟨_,registry,cleaning,cleaned,notes,rfl,apart,cleans,quiet⟩ := ran_cleanUpRegistration cleansUp
  have nothing : finished = [] := by
    rcases ran_bind.mp concluding with ⟨_,settled,_⟩ | ⟨_,_,_,rfl,settled,returned⟩
    · exact (ran_settled.mp settled).1
    · rw [(ran_settled.mp settled).1,(ran_pure.mp returned).1]; rfl
  have dismisses : ∀ event ∈ ⟨.report .info ("Deregistering system from " ++ settings.baseUrl),()⟩ ::
      ⟨.store .systemCredentials,credentials⟩ :: (leaving ++ registry), Dismisses event.question := by
    simp only [List.forall_mem_cons,List.forall_mem_append]
    exact ⟨trivial,trivial,asks_deregisterSystem _ _ left,apart⟩
  simpa [nothing] using removesUnlessStopped_of_cleanup dismisses cleans quiet

-- A system that nobody answers, but for the list of its services.
def forsaken (listed : Result (List InstalledService)) : Program.Behaviour collaboration
  | _, .server _ => .error (.transport "no route to host")
  | _, .packages .installedServices => listed
  | _, .packages _ => .error (.command "zypper" 7 "")
  | _, .store .removeSystem => .ok ()
  | _, .store _ => .error .noProxyCredentials
  | _, .hasSystemCredentials => true
  | _, .isServicePlugin _ | _, .fileExists _ => false
  | _, .report _ _ => ()

theorem forsaken_removes :
    let ran := Program.play (forsaken (.ok [])) [] (deregister {} none).run
    ran.1 = ⟨.fileExists (({} : Settings).rootPath cloudGuestTool),false⟩ :: ⟨.hasSystemCredentials,true⟩ ::
      ran.1.drop 2 ∧ RemovesUnlessStopped (ran.1.drop 2) ∧ attemptsRemoval (ran.1.drop 2) = true :=
  ⟨rfl,deregister_removes_iff (Program.runs_play (forsaken (.ok [])) [] (deregister {} none).run) rfl,rfl⟩

-- A list of services that cannot be read is enough for the credentials to stay.
theorem unlisted_keeps_credentials :
    ¬ ∀ (settings : Settings) (events rest : List Event) (result : Result DeregisterOutcome),
      Ran (deregister settings none) events result →
      events = ⟨.fileExists (settings.rootPath cloudGuestTool),false⟩ :: ⟨.hasSystemCredentials,true⟩ :: rest →
      attemptsRemoval rest = true := by
  intro always
  have ran := Program.runs_play (forsaken (.error (.command "zypper" 7 ""))) [] (deregister {} none).run
  have attempted := always {} _ _ _ ran rfl
  exact Bool.false_ne_true attempted

end Entitlement.Registration
