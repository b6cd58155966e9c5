import Entitlement.Proofs.Registration.Activation
import Entitlement.Proofs.Registration.Restoration

-- How a registration opens. The product to activate is looked up, the system is announced, or updated if it is known
-- already, and the registry is given its login.
namespace Entitlement.Registration

variable {settings : Settings} {options : RegisterOptions} {system : SystemInfo}

-- How a system is made known.

def introduction (options : RegisterOptions) (system : SystemInfo) : Bool → ServerCall
  | true => .updateSystem system
  | false => .announce options.regcode system

def updateNote : Event := ⟨.report .debug "system credentials present, updating instead of announcing",()⟩

inductive Introduces (options : RegisterOptions) (system : SystemInfo) : Bool → List Event → Result Bool → Prop where
  | updated (reply : Result Unit) : Introduces options system true
      [⟨.hasSystemCredentials,true⟩,updateNote,⟨.server (.updateSystem system),reply⟩] (reply.map fun _ => false)
  | unannounced : Introduces options system false
      [⟨.hasSystemCredentials,false⟩,⟨.server (.announce options.regcode system),.error error⟩] (.error error)
  | announced (reply : Result Unit) : Introduces options system false
      [⟨.hasSystemCredentials,false⟩,⟨.server (.announce options.regcode system),.ok login⟩,
        ⟨.store (.writeSystem login.credentials),reply⟩] (reply.map fun _ => true)

theorem introduces_of_ran {result : Result Bool}
    (ran : Ran (announceOrUpdate options.regcode system) events result) :
    ∃ known, Introduces options system known events result := by
  obtain ⟨known,_,rfl,later⟩ := ran_ask_bind.mp ran
  refine ⟨known,?_⟩
  cases known with
  | true =>
    obtain ⟨_,rfl,updating⟩ := ran_report_bind.mp later
    rcases ran_server_bind.mp updating with ⟨error,rfl,rfl⟩ | ⟨_,_,rfl,last⟩
    · exact .updated (.error error)
    · obtain ⟨rfl,rfl⟩ := ran_pure.mp last
      exact .updated (.ok ())
  | false =>
    rcases ran_server_bind.mp later with ⟨error,rfl,rfl⟩ | ⟨login,_,rfl,announced⟩
    · exact .unannounced
    rcases (ran_call_bind ran_store).mp announced with ⟨error,rfl,rfl⟩ | ⟨_,_,rfl,last⟩
    · exact .announced (.error error)
    · obtain ⟨rfl,rfl⟩ := ran_pure.mp last
      exact .announced (.ok ())

-- The login of the registry, which stops nothing.

def Links : Question → Prop
  | .store .systemCredentials | .store (.addRegistryLogin _) | .report _ _ => True
  | _ => False

theorem asks_addRegistryLogin : Asks Links addRegistryLogin := by
  refine asks_bind (asks_outcome (asks_bind (asks_store trivial) fun _ => asks_store trivial)) fun reply => ?_
  split
  · exact asks_pure
  · exact asks_ask trivial

theorem ran_addRegistryLogin (ran : Ran addRegistryLogin events result) : result = .ok () := by
  obtain ⟨_,reply,_,_,_,later⟩ := ran_outcome_bind.mp ran
  cases reply with
  | ok value => exact (ran_pure.mp later).2
  | error error => exact (ran_warn.mp later).2

-- The product to activate.

def Looks : Question → Prop
  | .packages .installedProducts | .report _ _ => True
  | _ => False

theorem asks_requestedProduct {request : Option Triplet} : Asks Looks (requestedProduct request) := by
  unfold requestedProduct
  split
  · exact asks_bind (asks_baseProduct trivial) fun _ => asks_pure
  · refine asks_bind (asks_outcome (asks_baseProduct trivial)) fun reply => ?_
    split
    · split
      · exact asks_pure
      · exact asks_pure
    · exact asks_bind (asks_ask trivial) fun _ => asks_pure

-- A product counts as the base product when it is the installed one.
structure Chosen (request : Option Triplet) (product : Product) (release : Bool) (looking : List Event) : Prop where
  requested : ∀ triplet, request = some triplet → product.triplet = triplet
  detected : request = none → ∃ installed, ⟨.packages .installedProducts,.ok installed⟩ ∈ looking ∧
    findBase installed = some product
  isBase_iff : product.isBase = true ↔ ∃ installed base, ⟨.packages .installedProducts,.ok installed⟩ ∈ looking ∧
    findBase installed = some base ∧ base.triplet = product.triplet
  release_eq : release = request.isSome

theorem isBase_of_findBase {installed : List Product} {base : Product} (found : findBase installed = some base) :
    base.isBase = true := by
  unfold findBase at found
  simpa using List.find?_some found

theorem chosen_of_ran {request : Option Triplet} {product : Product} {release : Bool}
    (ran : Ran (requestedProduct request) events (.ok (product,release))) : Chosen request product release events := by
  cases request with
  | none =>
    obtain ⟨_,base,_,rfl,detected,last⟩ := ran_bind_ok.mp ran
    obtain ⟨rfl,same⟩ := ran_pure.mp last
    obtain ⟨installed,rfl,found⟩ := ran_baseProduct_ok.mp detected
    cases same
    have isBase := isBase_of_findBase found
    exact {
      requested := fun _ asked => nomatch asked
      detected := fun _ => ⟨installed,by simp,found⟩
      isBase_iff := iff_of_true isBase ⟨installed,product,by simp,found,rfl⟩
      release_eq := rfl }
  | some triplet =>
    obtain ⟨_,reply,_,rfl,detected,later⟩ := ran_outcome_bind.mp ran
    cases reply with
    | ok base =>
      obtain ⟨installed,rfl,found⟩ := ran_baseProduct_ok.mp detected
      cases same : base.same (Product.ofTriplet triplet) with
      | true =>
        simp only [same,if_true] at later
        obtain ⟨rfl,chosen⟩ := ran_pure.mp later
        cases chosen
        exact {
          requested := fun _ asked => Option.some.inj asked
          detected := fun unasked => nomatch unasked
          isBase_iff := iff_of_true rfl ⟨installed,base,by simp,found,same_iff.mp same⟩
          release_eq := rfl }
      | false =>
        simp only [same,Bool.false_eq_true,if_false] at later
        obtain ⟨rfl,chosen⟩ := ran_pure.mp later
        cases chosen
        refine {
          requested := fun _ asked => Option.some.inj asked
          detected := fun unasked => nomatch unasked
          isBase_iff := iff_of_false (fun base => Bool.false_ne_true base) ?_
          release_eq := rfl }
        intro installs
        obtain ⟨others,other,member,foundOther,equal⟩ := installs
        obtain rfl : others = installed := by simpa using member
        cases found.symm.trans foundOther
        have triplets : base.same (Product.ofTriplet triplet) = true := same_iff.mpr equal
        rw [same] at triplets
        cases triplets
    | error error =>
      obtain ⟨_,rfl,last⟩ := ran_report_bind.mp later
      obtain ⟨rfl,chosen⟩ := ran_pure.mp last
      cases chosen
      refine {
        requested := fun _ asked => Option.some.inj asked
        detected := fun unasked => nomatch unasked
        isBase_iff := iff_of_false (fun base => Bool.false_ne_true base) ?_
        release_eq := rfl }
      intro installs
      obtain ⟨others,other,member,foundOther,_⟩ := installs
      rcases ran_baseProduct_error.mp detected with rfl | ⟨installed,rfl,undetected,_⟩
      · simp at member
      · obtain rfl : others = installed := by simpa using member
        rw [foundOther] at undetected
        cases undetected

theorem Links.isLocal (q : Question) (links : Links q) : serverOf q = none := by
  cases q with
  | server call => cases links
  | _ => rfl

theorem Looks.isLocal (q : Question) (looks : Looks q) : serverOf q = none := by
  cases q with
  | server call => cases looks
  | _ => rfl

-- Whether the system is known already.
def inquiryOf : Question → Option Unit
  | .hasSystemCredentials => some ()
  | _ => none

theorem inquiryOf_of_looks (q : Question) (looks : Looks q) : inquiryOf q = none := by
  cases q with
  | hasSystemCredentials => cases looks
  | _ => rfl

theorem releaseOf_of_links (q : Question) (links : Links q) : releaseOf q = none := by
  cases q with
  | packages call => cases links
  | _ => rfl

theorem releaseOf_of_looks (q : Question) (looks : Looks q) : releaseOf q = none := by
  cases q with
  | packages call => cases call <;> first | rfl | cases looks
  | _ => rfl

-- What a search for the product or for the login fails in can be done without.
theorem passes_of_links {action : Action α} (asks : Asks Links action) (ran : Ran action events result) :
    ∀ event ∈ events, errorOf event = none ∨ Dispensable event.question := by
  intro event member
  have links := asks _ _ ran event member
  obtain ⟨q,answer⟩ := event
  cases q with
  | store call => cases call <;> first | exact .inr trivial | cases links
  | report level text => exact .inl rfl
  | _ => cases links

theorem passes_of_looks {action : Action α} (asks : Asks Looks action) (ran : Ran action events result) :
    ∀ event ∈ events, errorOf event = none ∨ Dispensable event.question := by
  intro event member
  have looks := asks _ _ ran event member
  obtain ⟨q,answer⟩ := event
  cases q with
  | packages call => cases call <;> first | exact .inr trivial | cases looks
  | report level text => exact .inl rfl
  | _ => cases looks

section Introduces

variable {known : Bool} {made : Result Bool}

theorem Introduces.asks (introduces : Introduces options system known events made) :
    requests serverOf events = [introduction options system known] ∧ requests releaseOf events = [] ∧
      events.filterMap enrolled = [] ∧ ∃ rest, events = ⟨.hasSystemCredentials,known⟩ :: rest := by
  cases introduces with
  | updated reply => exact ⟨rfl,rfl,rfl,_,rfl⟩
  | unannounced => exact ⟨rfl,rfl,rfl,_,rfl⟩
  | announced reply => exact ⟨rfl,rfl,rfl,_,rfl⟩

theorem Introduces.tells {announced : Bool} (introduces : Introduces options system known events made)
    (same : made = .ok announced) : announced = !known := by
  cases introduces with
  | updated reply => cases reply <;> cases same; rfl
  | unannounced => cases same
  | announced reply => cases reply <;> cases same; rfl

theorem Introduces.stopsAtFailure (introduces : Introduces options system known events made) :
    StopsAtFailure events made := by
  cases introduces with
  | updated reply =>
    have noted : Succeeds [⟨.hasSystemCredentials,true⟩,updateNote] :=
      succeeds_cons.mpr ⟨rfl,succeeds_cons.mpr ⟨rfl,succeeds_nil⟩⟩
    cases reply with
    | ok value => exact .of_succeeds (succeeds_append.mpr ⟨noted,succeeds_cons.mpr ⟨rfl,succeeds_nil⟩⟩)
    | error error => exact .of_halts (.append noted (halts_single rfl))
  | unannounced => exact .of_halts (.append (succeeds_cons.mpr ⟨rfl,succeeds_nil⟩) (halts_single rfl))
  | @announced login reply =>
    have given : Succeeds [⟨.hasSystemCredentials,false⟩,⟨.server (.announce options.regcode system),.ok login⟩] :=
      succeeds_cons.mpr ⟨rfl,succeeds_cons.mpr ⟨rfl,succeeds_nil⟩⟩
    cases reply with
    | ok value => exact .of_succeeds (succeeds_append.mpr ⟨given,succeeds_cons.mpr ⟨rfl,succeeds_nil⟩⟩)
    | error error => exact .of_halts (.append given (halts_single rfl))

theorem Introduces.announces {regcode : String} {info : SystemInfo} {login : Login}
    (introduces : Introduces options system known events made)
    (parts : events = before ++ ⟨.server (.announce regcode info),.ok login⟩ :: after) :
    ∃ reply : Result Unit, after = [⟨.store (.writeSystem login.credentials),reply⟩] ∧
      made = reply.map fun _ => true := by
  cases introduces with
  | updated reply =>
    match before with
    | [] => cases parts
    | [_] => cases parts
    | [_,_] => cases parts
    | _ :: _ :: _ :: _ => simp at parts
  | unannounced =>
    match before with
    | [] => cases parts
    | [_] => cases parts
    | _ :: _ :: _ => simp at parts
  | announced reply =>
    match before with
    | [] => cases parts
    | [_] => cases parts; exact ⟨reply,rfl,rfl⟩
    | [_,_] => cases parts
    | _ :: _ :: _ :: _ => simp at parts

end Introduces

end Entitlement.Registration
