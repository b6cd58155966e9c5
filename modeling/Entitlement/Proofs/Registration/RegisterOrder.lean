import Entitlement.Proofs.Registration.ActivationOrder
import Entitlement.Proofs.Registration.Introduction

-- The order of a registration. A system is made known to the server before anything is activated, and its login is
-- kept before anything else is asked. The product comes before its extensions, and nothing follows what fails.
namespace Entitlement.Registration

variable {settings : Settings} {options : RegisterOptions} {system : SystemInfo}

-- The whole of a registration.

theorem register_eq :
    register settings options system = (do
      let (product,release) ← requestedProduct options.product
      info ("Registering system to " ++ settings.baseUrl)
      let announced ← announceOrUpdate options.regcode system
      addRegistryLogin
      let products ← activateAll settings options release product
      info "Successfully registered system"
      return ⟨announced,products⟩) := by
  unfold register activateAll enroll
  refine bind_congr fun (product,release) => bind_congr fun _ => bind_congr fun announced => bind_congr fun _ => ?_
  simp only [bind_assoc,pure_bind]
  refine bind_congr fun service => ?_
  cases product.isBase with
  | true => simp
  | false => simp

def registerNote (settings : Settings) : Event := ⟨.report .info ("Registering system to " ++ settings.baseUrl),()⟩

def registeredNote : Event := ⟨.report .info "Successfully registered system",()⟩

-- What comes after the system is made known to the server, or is not.
inductive Proceeds (settings : Settings) (options : RegisterOptions) (release : Bool) (product tree : Product) :
    Result Bool → List Event → Result RegisterOutcome → Prop where
  | unknown : Proceeds settings options release product tree (.error error) [] (.error error)
  | stopped : Ran addRegistryLogin linking (.ok ()) →
      ActivatesAll settings options release product tree row (.error error) →
      Proceeds settings options release product tree (.ok announced) (linking ++ row) (.error error)
  | registered : Ran addRegistryLogin linking (.ok ()) →
      ActivatesAll settings options release product tree row (.ok products) →
      Proceeds settings options release product tree (.ok announced) (linking ++ (row ++ [registeredNote]))
        (.ok ⟨announced,products⟩)

theorem ran_register {result : Result RegisterOutcome} (ran : Ran (register settings options system) events result) :
    (∃ error, Ran (requestedProduct options.product) events (.error error) ∧ result = .error error) ∨
    ∃ looking product release known introducing made tree rest,
      events = (looking ++ registerNote settings :: introducing) ++ rest ∧
      Ran (requestedProduct options.product) looking (.ok (product,release)) ∧
      Introduces options system known introducing made ∧
      Proceeds settings options release product tree made rest result := by
  rw [register_eq] at ran
  rcases ran_bind.mp ran with ⟨error,failed,rfl⟩ | ⟨looking,⟨product,release⟩,_,rfl,chosen,later⟩
  · exact .inl ⟨error,failed,rfl⟩
  refine .inr ⟨looking,product,release,?_⟩
  obtain ⟨_,rfl,started⟩ := ran_info_bind.mp later
  rcases ran_bind.mp started with ⟨error,failed,rfl⟩ | ⟨introducing,announced,_,rfl,introduced,linked⟩
  · obtain ⟨known,introduces⟩ := introduces_of_ran failed
    exact ⟨known,_,_,product,[],by simp [registerNote],chosen,introduces,.unknown⟩
  obtain ⟨known,introduces⟩ := introduces_of_ran introduced
  rcases ran_bind.mp linked with ⟨_,failed,_⟩ | ⟨linking,⟨⟩,_,rfl,links,activating⟩
  · cases ran_addRegistryLogin failed
  rcases ran_bind.mp activating with ⟨error,failed,rfl⟩ | ⟨row,products,_,rfl,activated,last⟩
  · obtain ⟨tree,course⟩ := activatesAll_of_ran failed
    exact ⟨known,introducing,_,tree,_,by simp [registerNote],chosen,introduces,.stopped links course⟩
  · obtain ⟨tree,course⟩ := activatesAll_of_ran activated
    obtain ⟨_,rfl,returned⟩ := ran_info_bind.mp last
    obtain ⟨rfl,rfl⟩ := ran_pure.mp returned
    exact ⟨known,introducing,_,tree,_,by simp [registerNote,registeredNote],chosen,introduces,.registered links course⟩

section Proceeds

variable {product tree : Product} {release : Bool} {made : Result Bool} {result : Result RegisterOutcome}

-- The calls of a registration are those of its activations.
theorem Proceeds.row (proceeds : Proceeds settings options release product tree made events result) :
    (events = [] ∧ ∀ outcome, result ≠ .ok outcome) ∨
    ∃ row activated, ActivatesAll settings options release product tree row activated ∧
      (∃ linking closing, events = linking ++ (row ++ closing) ∧ requests serverOf linking = [] ∧
        requests serverOf closing = [] ∧ requests releaseOf linking = [] ∧ requests releaseOf closing = []) ∧
      ∀ outcome, result = .ok outcome → activated = .ok outcome.products ∧ made = .ok outcome.announced := by
  have silent {linking : List Event} (links : Ran addRegistryLogin linking (.ok ())) : requests serverOf linking = [] :=
    asks_addRegistryLogin.requests_eq_nil Links.isLocal links
  have unreleased {linking : List Event} (links : Ran addRegistryLogin linking (.ok ())) : requests releaseOf linking = [] :=
    asks_addRegistryLogin.requests_eq_nil releaseOf_of_links links
  cases proceeds with
  | unknown => exact .inl ⟨rfl,fun _ impossible => nomatch impossible⟩
  | @stopped linking row _ _ links course =>
    refine .inr ⟨row,_,course,⟨linking,[],by simp,silent links,rfl,unreleased links,rfl⟩,fun _ impossible => ?_⟩
    cases impossible
  | @registered linking row _ _ links course =>
    refine .inr ⟨row,_,course,⟨linking,_,rfl,silent links,rfl,unreleased links,rfl⟩,fun _ same => ?_⟩
    cases same
    exact ⟨rfl,rfl⟩

theorem Proceeds.stopsAtFailure (proceeds : Proceeds settings options release product tree made events result) :
    StopsAtFailure events result := by
  cases proceeds with
  | unknown => exact .of_succeeds succeeds_nil
  | stopped links course => exact .append (passes_of_links asks_addRegistryLogin links) course.stopsAtFailure.error
  | registered links course =>
    refine .append (passes_of_links asks_addRegistryLogin links) (.append course.stopsAtFailure.passes ?_)
    exact .of_succeeds (succeeds_cons.mpr ⟨rfl,succeeds_nil⟩)

theorem activateOf_calls :
    (activation options product :: extras options product tree).filterMap (fun call => activateOf (.server call)) =
      product :: companions product tree := by
  unfold extras
  split
  · simp [activation,activateOf,List.filterMap_map,Function.comp_def]
  · rename_i other
    simp [activation,activateOf,companions,other]

theorem Proceeds.ordered (proceeds : Proceeds settings options release product tree made events result) :
    requests serverOf events <+: activation options product :: extras options product tree := by
  rcases proceeds.row with ⟨rfl,_⟩ | ⟨row,_,course,⟨_,_,rfl,before,after,_,_⟩,_⟩
  · exact List.nil_prefix
  · rw [requests_append,requests_append,before,after,List.append_nil]
    exact course.ordered

def announceOf : Question → Option SystemInfo
  | .server (.announce _ info) => some info
  | _ => none

theorem announceOf_of_local (q : Question) (isLocal : Local q) : announceOf q = none := by
  cases q with
  | server call => cases isLocal
  | _ => rfl

theorem Proceeds.unannounced (proceeds : Proceeds settings options release product tree made events result) :
    requests announceOf events = [] := by
  have most := proceeds.ordered.filterMap fun call => announceOf (.server call)
  have none : (activation options product :: extras options product tree).filterMap
      (fun call => announceOf (.server call)) = [] := by
    unfold extras
    split
    · simp [activation,announceOf,Function.comp_def]
    · rfl
  rw [none] at most
  rw [requests_of_local announceOf_of_local]
  exact List.prefix_nil.mp most

theorem Proceeds.fetched (proceeds : Proceeds settings options release product tree made events result) :
    Fetched product tree events ∨ Treeless events ∧ requests activateOf events <+: [product] := by
  rcases proceeds.row with ⟨rfl,_⟩ | ⟨row,_,course,⟨_,_,rfl,before,after,_,_⟩,_⟩
  · exact .inr ⟨rfl,List.nil_prefix⟩
  rcases course.fetched with fetched | ⟨treeless,most⟩
  · exact .inl ((fetched.before (.of_local after)).after (.of_local before))
  · refine .inr ⟨.append (.of_local before) (treeless.append (.of_local after)),?_⟩
    rw [requests_of_local activateOf_of_local,requests_append,requests_append,before,after,List.append_nil]
    exact requests_of_local activateOf_of_local row ▸ most

theorem Proceeds.released (proceeds : Proceeds settings options release product tree made events result) :
    requests releaseOf events <+: [product.name] := by
  rcases proceeds.row with ⟨rfl,_⟩ | ⟨row,_,course,⟨_,_,rfl,_,_,before,after⟩,_⟩
  · exact List.nil_prefix
  · rw [requests_append,requests_append,before,after,List.append_nil]
    exact course.releases.1

theorem Proceeds.releasing {name : String} {reply : Result Unit}
    (proceeds : Proceeds settings options release product tree made events result)
    (parts : events = before ++ ⟨.packages (.installReleasePackage name),reply⟩ :: after) :
    settings.skipServiceInstall = false ∧ release = true ∧ name = product.name ∧
      ∃ opening service, requests serverOf opening = [] ∧
        before = opening ++ readied settings options product service := by
  rcases proceeds.row with ⟨rfl,_⟩ | ⟨row,_,course,⟨linking,_,rfl,silent,_,first,last⟩,_⟩
  · simp at parts
  · have asked : releaseOf (.packages (.installReleasePackage name)) ≠ none := Option.some_ne_none name
    obtain ⟨_,_,rfl,within⟩ := within_row parts first last asked
    obtain ⟨installs,own,same,service,rfl⟩ := course.release_position within
    exact ⟨installs,own,same,linking,service,silent,rfl⟩

theorem Proceeds.complete {outcome : RegisterOutcome}
    (proceeds : Proceeds settings options release product tree made events (.ok outcome)) :
    made = .ok outcome.announced ∧
      requests serverOf events = activation options product :: extras options product tree ∧
      outcome.products = events.filterMap enrolled ∧
      outcome.products.map ProductService.product = (product :: companions product tree).map Product.triplet ∧
      (product.isBase = true → Fetched product tree events) ∧
      requests releaseOf events = if release && !settings.skipServiceInstall then [product.name] else [] := by
  rcases proceeds.row with ⟨_,impossible⟩ | ⟨row,_,course,⟨_,_,rfl,before,after,first,last⟩,yields⟩
  · exact absurd rfl (impossible outcome)
  obtain ⟨rfl,announced⟩ := yields outcome rfl
  obtain ⟨called,gathered,same,fetches⟩ := course.complete
  refine ⟨announced,?_,?_,same,fun base => ((fetches base).before (.of_local after)).after (.of_local before),?_⟩
  · rw [requests_append,requests_append,before,after,List.append_nil]
    exact called
  · rw [List.filterMap_append,List.filterMap_append,enrolled_of_local before,enrolled_of_local after,List.append_nil]
    exact gathered
  · rw [requests_append,requests_append,first,last,List.append_nil]
    exact course.releases.2 _ rfl

end Proceeds

-- The login is kept before anything else is asked, or nothing else is asked.
theorem Introduces.persists {known : Bool} {made : Result Bool} {product tree : Product} {release : Bool}
    {result : Result RegisterOutcome} {regcode : String} {info : SystemInfo} {login : Login}
    {introducing rest : List Event}
    (introduces : Introduces options system known introducing made)
    (proceeds : Proceeds settings options release product tree made rest result)
    (parts : introducing ++ rest = before ++ ⟨.server (.announce regcode info),.ok login⟩ :: after) :
    (∃ error, after = [⟨.store (.writeSystem login.credentials),.error error⟩]) ∨
      ∃ later, after = ⟨.store (.writeSystem login.credentials),.ok ()⟩ :: later := by
  rcases append_eq_split.mp parts with ⟨between,own,rfl⟩ | ⟨_,later,_⟩
  · obtain ⟨reply,rfl,rfl⟩ := introduces.announces own
    cases reply with
    | ok value => exact .inr ⟨rest,rfl⟩
    | error error =>
      cases proceeds
      exact .inl ⟨error,rfl⟩
  · have silent := proceeds.unannounced
    rw [later] at silent
    cases unasked silent

-- What a registration does once the product is found.
structure Registers (settings : Settings) (options : RegisterOptions) (system : SystemInfo) (known : Bool)
    (product tree : Product) (events : List Event) (result : Result RegisterOutcome) : Prop where
  asked : ∃ before after, events = before ++ ⟨.hasSystemCredentials,known⟩ :: after ∧ requests inquiryOf before = [] ∧
    requests serverOf before = []
  chosen : ∃ looking release, looking <+: events ∧ Chosen options.product product release looking
  ordered : ∃ later, requests serverOf events = introduction options system known :: later ∧
    later <+: activation options product :: extras options product tree
  persisted : ∀ before regcode info login after,
    events = before ++ ⟨.server (.announce regcode info),.ok login⟩ :: after →
      (∃ error, after = [⟨.store (.writeSystem login.credentials),.error error⟩]) ∨
      ∃ rest, after = ⟨.store (.writeSystem login.credentials),.ok ()⟩ :: rest
  activated : requests activateOf events <+: product :: companions product tree
  fetched : Fetched product tree events ∨ Treeless events ∧ requests activateOf events <+: [product]
  stops : StopsAtFailure events result
  released : requests releaseOf events <+: [product.name]
  releasing : ∀ before name reply after, events = before ++ ⟨.packages (.installReleasePackage name),reply⟩ :: after →
    options.product.isSome = true ∧ settings.skipServiceInstall = false ∧ name = product.name ∧
      ∃ opening service, requests activateOf opening = [] ∧
        before = opening ++ readied settings options product service
  complete : ∀ outcome, result = .ok outcome → outcome.announced = !known ∧
    requests serverOf events =
      introduction options system known :: activation options product :: extras options product tree ∧
    requests activateOf events = product :: companions product tree ∧
    outcome.products = events.filterMap enrolled ∧
    outcome.products.map ProductService.product = (product :: companions product tree).map Product.triplet ∧
    (product.isBase = true → Fetched product tree events) ∧
    requests releaseOf events =
      if options.product.isSome && !settings.skipServiceInstall then [product.name] else []

section Whole

variable {known release : Bool} {product tree : Product} {made : Result Bool} {looking introducing rest : List Event}
  {result : Result RegisterOutcome}

theorem requests_opening (settings : Settings)
    (chosen : Ran (requestedProduct options.product) looking (.ok (product,release)))
    (introduces : Introduces options system known introducing made) :
    requests serverOf (looking ++ registerNote settings :: introducing) = [introduction options system known] ∧
      requests releaseOf (looking ++ registerNote settings :: introducing) = [] ∧
      (looking ++ registerNote settings :: introducing).filterMap enrolled = [] := by
  have silent : requests serverOf looking = [] := asks_requestedProduct.requests_eq_nil Looks.isLocal chosen
  have unreleased : requests releaseOf looking = [] := asks_requestedProduct.requests_eq_nil releaseOf_of_looks chosen
  obtain ⟨called,none,unenrolled,_⟩ := introduces.asks
  refine ⟨?_,?_,?_⟩
  · rw [requests_append,silent]
    exact called
  · rw [requests_append,unreleased]
    exact none
  · rw [List.filterMap_append,enrolled_of_local silent]
    exact unenrolled

theorem stopsAtFailure_opening (chosen : Ran (requestedProduct options.product) looking (.ok (product,release)))
    (introduces : Introduces options system known introducing made)
    (proceeds : Proceeds settings options release product tree made rest result) :
    StopsAtFailure ((looking ++ registerNote settings :: introducing) ++ rest) result := by
  have stops := introduces.stopsAtFailure
  have noted : ∀ event ∈ [registerNote settings], errorOf event = none ∨ Dispensable event.question := by
    intro event member
    cases List.mem_singleton.mp member
    exact .inl rfl
  have whole : (looking ++ registerNote settings :: introducing) ++ rest =
      looking ++ ([registerNote settings] ++ (introducing ++ rest)) := by simp
  rw [whole]
  refine .append (passes_of_looks asks_requestedProduct chosen) (.append noted ?_)
  cases made with
  | error error =>
    cases proceeds
    rw [List.append_nil]
    exact stops.error
  | ok announced => exact .append stops.passes proceeds.stopsAtFailure

theorem registers_of_proceeds (chosen : Ran (requestedProduct options.product) looking (.ok (product,release)))
    (introduces : Introduces options system known introducing made)
    (proceeds : Proceeds settings options release product tree made rest result) :
    Registers settings options system known product tree
      ((looking ++ registerNote settings :: introducing) ++ rest) result := by
  have choice := chosen_of_ran chosen
  obtain ⟨called,unreleased,unenrolled⟩ := requests_opening settings chosen introduces
  have calls : requests serverOf ((looking ++ registerNote settings :: introducing) ++ rest) =
      introduction options system known :: requests serverOf rest := by
    rw [requests_append,called]
    rfl
  have activations : requests activateOf ((looking ++ registerNote settings :: introducing) ++ rest) =
      requests activateOf rest := by
    rw [requests_of_local activateOf_of_local,calls,requests_of_local activateOf_of_local rest]
    cases known <;> rfl
  have releases : requests releaseOf ((looking ++ registerNote settings :: introducing) ++ rest) =
      requests releaseOf rest := by
    rw [requests_append,unreleased]
    rfl
  have opened : Treeless (looking ++ registerNote settings :: introducing) := by
    apply Treeless.of_calls
    rw [called]
    cases known <;> rfl
  exact {
    asked := by
      obtain ⟨_,_,_,more,rfl⟩ := introduces.asks
      refine ⟨looking ++ [registerNote settings],more ++ rest,by simp,?_,?_⟩
      · rw [requests_append,asks_requestedProduct.requests_eq_nil inquiryOf_of_looks chosen]
        rfl
      · rw [requests_append,asks_requestedProduct.requests_eq_nil Looks.isLocal chosen]
        rfl
    chosen := ⟨looking,release,by simp,choice⟩
    ordered := ⟨_,calls,proceeds.ordered⟩
    persisted := by
      intro before regcode info login after parts
      have silent : requests announceOf (looking ++ [registerNote settings]) = [] := by
        rw [requests_of_local announceOf_of_local,requests_append,
          asks_requestedProduct.requests_eq_nil Looks.isLocal chosen]
        rfl
      have whole : (looking ++ registerNote settings :: introducing) ++ rest =
          (looking ++ [registerNote settings]) ++ (introducing ++ rest) := by simp
      rcases append_eq_split.mp (whole.symm.trans parts) with ⟨_,early,_⟩ | ⟨_,later,_⟩
      · rw [early] at silent
        cases unasked silent
      · exact introduces.persists proceeds later
    activated := by
      have most := proceeds.ordered.filterMap fun call => activateOf (.server call)
      rw [activateOf_calls,← requests_of_local activateOf_of_local] at most
      exact activations ▸ most
    fetched := by
      rw [activations]
      rcases proceeds.fetched with fetched | ⟨treeless,most⟩
      · exact .inl (fetched.after opened)
      · exact .inr ⟨opened.append treeless,most⟩
    stops := stopsAtFailure_opening chosen introduces proceeds
    released := releases ▸ proceeds.released
    releasing := by
      intro before name reply after parts
      rw [← List.append_nil rest] at parts
      have asked : releaseOf (.packages (.installReleasePackage name)) ≠ none := Option.some_ne_none name
      obtain ⟨_,_,rfl,within⟩ := within_row parts unreleased rfl asked
      obtain ⟨installs,own,same,opening,service,silent,rfl⟩ := proceeds.releasing within
      refine ⟨choice.release_eq ▸ own,installs,same,_ ++ opening,service,?_,(List.append_assoc _ _ _).symm⟩
      rw [requests_of_local activateOf_of_local,requests_append,called,silent]
      cases known <;> rfl
    complete := by
      intro outcome same
      subst same
      obtain ⟨announced,all,gathered,listed,fetches,released⟩ := proceeds.complete
      refine ⟨introduces.tells announced,by rw [calls,all],?_,?_,listed,fun base => (fetches base).after opened,?_⟩
      · rw [activations,requests_of_local activateOf_of_local,all,activateOf_calls]
      · rw [List.filterMap_append,unenrolled]
        exact gathered
      · rw [releases,released,choice.release_eq] }

end Whole

-- A product that was not asked for has to be found before the server is asked for anything.
structure Undetected (options : RegisterOptions) (events : List Event) (result : Result RegisterOutcome) : Prop where
  unasked : options.product = none
  silent : requests serverOf events = []
  fails : (∃ error, events = [⟨.packages .installedProducts,.error error⟩] ∧ result = .error error) ∨
    ∃ installed, events = [⟨.packages .installedProducts,.ok installed⟩] ∧ findBase installed = none ∧
      result = .error .cannotDetectBaseProduct

theorem undetected_of_ran (ran : Ran (requestedProduct options.product) events (.error error)) :
    Undetected options events (.error error) := by
  cases request : options.product with
  | none =>
    rw [request] at ran
    rcases ran_bind.mp ran with ⟨_,failed,same⟩ | ⟨_,_,_,_,_,last⟩
    · cases same
      refine ⟨request,asks_requestedProduct.requests_eq_nil Looks.isLocal ran,?_⟩
      rcases ran_baseProduct_error.mp failed with rfl | ⟨installed,rfl,undetected,rfl⟩
      · exact .inl ⟨_,rfl,rfl⟩
      · exact .inr ⟨installed,rfl,undetected,rfl⟩
    · cases (ran_pure.mp last).2
  | some triplet =>
    -- With a request the search for the installed base product cannot fail.
    rw [request] at ran
    obtain ⟨_,reply,_,_,_,later⟩ := ran_outcome_bind.mp ran
    cases reply with
    | ok base =>
      cases same : base.same (Product.ofTriplet triplet) with
      | true =>
        simp only [same,if_true] at later
        cases (ran_pure.mp later).2
      | false =>
        simp only [same,Bool.false_eq_true,if_false] at later
        cases (ran_pure.mp later).2
    | error cause =>
      obtain ⟨_,_,last⟩ := ran_report_bind.mp later
      cases (ran_pure.mp last).2

theorem register_registers {result : Result RegisterOutcome} (ran : Ran (register settings options system) events result) :
    Undetected options events result ∨ ∃ known product tree,
      Registers settings options system known product tree events result := by
  rcases ran_register ran with ⟨error,failed,rfl⟩ |
    ⟨looking,product,release,known,introducing,made,tree,rest,rfl,chosen,introduces,proceeds⟩
  · exact .inl (undetected_of_ran failed)
  · exact .inr ⟨known,product,tree,registers_of_proceeds chosen introduces proceeds⟩

def recommendedPython : Product := { python154 with free := true, recommended := true }

-- An extension comes with the base product also where the one that it stands below does not.
theorem python_comes_along :
    let world := obliging false [server154]
      { server154 with extensions := [{ desktop154 with extensions := [recommendedPython] }] }
    let ran := Program.play world [] (register {} {} default).run
    (Undetected {} ran.1 ran.2 ∨ ∃ known product tree, Registers {} {} default known product tree ran.1 ran.2) ∧
      (requests activateOf ran.1).map (·.name) = ["SLES","sle-module-python3"] ∧
      requests announceOf ran.1 = [default] ∧ requests releaseOf ran.1 = [] := by
  intro world ran
  refine ⟨register_registers (Program.runs_play world [] (register {} {} default).run),?_,?_,?_⟩
  · decide +kernel
  · decide +kernel
  · decide +kernel

end Entitlement.Registration
