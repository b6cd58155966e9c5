import Entitlement.Proofs.Product.Walk
import Entitlement.Proofs.Registration.Turns

-- The activation of a product and, on the base product, of the extensions that come with it. The walk of the tree is a
-- loop over the extensions that it comes to, in their order.
namespace Entitlement.Registration

section Walk

variable {σ : Type} {first : ExceptT Error (StateT σ (Program collaboration)) Unit}
  {second : Unit → ExceptT Error (StateT σ (Program collaboration)) Unit}

-- A walk that gathers on its way, as a step that yields what it has gathered.
def settled (walk : ExceptT Error (StateT σ (Program collaboration)) Unit) (state : σ) : Action σ := do
  let (result,state) ← ExceptT.lift (walk.run.run state)
  ExceptT.mk (pure (result.map fun () => state))

theorem settled_bind (state : σ) :
    settled (first >>= second) state = settled first state >>= settled (second ()) := by
  apply ExceptT.ext
  simp only [settled,ExceptT.run_bind,StateT.run_bind,ExceptT.run_lift,map_eq_pure_bind,bind_assoc,pure_bind,
    ExceptT.run_mk]
  refine bind_congr fun reply => ?_
  obtain ⟨result,after⟩ := reply
  cases result with
  | ok value => rfl
  | error error => rfl

-- A step on the way whose answer is added to what is gathered.
theorem settled_modify {action : Action α} {add : α → σ → σ} (state : σ) :
    settled (ExceptT.mk (StateT.lift action.run) >>= fun value => modify (add value)) state =
      action >>= fun value => pure (add value state) := by
  apply ExceptT.ext
  simp only [settled,ExceptT.run_bind,StateT.run_bind,ExceptT.run_lift,map_eq_pure_bind,bind_assoc,pure_bind,
    ExceptT.run_mk,StateT.run_lift]
  refine bind_congr fun reply => ?_
  cases reply with
  | ok value => rfl
  | error error => rfl

end Walk

variable {settings : Settings} {options : RegisterOptions} {release : Bool}

def enroll (settings : Settings) (options : RegisterOptions) (release : Bool) (product : Product) :
    Action ProductService := do
  let service ← activateProduct settings product options.regcode options.email release
  return ProductService.of product service

-- What is done for each extension on the way.
def visitExtension (settings : Settings) (options : RegisterOptions) (extension : Product) :
    ExceptT Error (StateT (List ProductService) (Program collaboration)) Unit := do
  if activatedWithBase extension then
    let service ← ExceptT.mk (StateT.lift
      (activateProduct settings extension options.regcode options.email false).run)
    modify fun done => done ++ [ProductService.of extension service]

theorem settled_visitExtension (extension : Product) (done : List ProductService) :
    settled (visitExtension settings options extension) done =
      if activatedWithBase extension then do
        let service ← enroll settings options false extension
        return done ++ [service]
      else pure done := by
  unfold visitExtension enroll
  split
  · simp only [bind_assoc,pure_bind]
    exact settled_modify done
  · rfl

theorem settled_forM (list : List Product) (done : List ProductService) :
    settled (list.forM (visitExtension settings options)) done = (do
      let more ← (list.filter activatedWithBase).mapM (enroll settings options false)
      return done ++ more) := by
  induction list generalizing done with
  | nil =>
    rw [List.filter_nil,List.mapM_nil,pure_bind,List.append_nil]
    rfl
  | cons extension rest ih =>
    change settled (do
      visitExtension settings options extension
      rest.forM (visitExtension settings options)) done = _
    rw [settled_bind,settled_visitExtension]
    by_cases chosen : activatedWithBase extension = true
    · rw [if_pos chosen,List.filter_cons_of_pos chosen,List.mapM_cons]
      simp only [bind_assoc,pure_bind,ih,List.append_assoc,List.singleton_append]
    · rw [if_neg chosen,List.filter_cons_of_neg chosen,pure_bind,ih]

theorem activateExtensions_eq (base : Product) (done : List ProductService) :
    activateExtensions settings options base done = (do
      let tree ← server (.productTree base)
      let more ← ((tree.reached depthLimit).filter activatedWithBase).mapM (enroll settings options false)
      if tree.height ≤ depthLimit then pure (done ++ more) else throw (.treeTooDeep tree.tripletText depthLimit)) := by
  have walked (tree : Product) : settled (tree.traverse (Product.always (visitExtension settings options))) done = (do
      let more ← ((tree.reached depthLimit).filter activatedWithBase).mapM (enroll settings options false)
      if tree.height ≤ depthLimit then pure (done ++ more) else throw (.treeTooDeep tree.tripletText depthLimit)) := by
    rw [Product.traverse_always,settled_bind,settled_forM,bind_assoc]
    refine bind_congr fun more => ?_
    rw [pure_bind]
    by_cases low : tree.height ≤ depthLimit
    · simp only [Product.endsWalk,low,decide_true,if_true]
      rfl
    · simp only [Product.endsWalk,low,decide_false,Bool.false_eq_true,if_false]
      rfl
  have visits : (fun extension => do
      if activatedWithBase extension then
        let service ← ExceptT.mk (StateT.lift
          (activateProduct settings extension options.regcode options.email false).run)
        modify fun done => done ++ [ProductService.of extension service]
      return true) = Product.always (visitExtension settings options) := by
    funext extension
    unfold Product.always visitExtension
    split
    · simp only [bind_assoc]
    · rfl
  unfold activateExtensions
  refine bind_congr fun tree => ?_
  rw [← walked,← visits]
  rfl

-- The row of calls for one product.

def enrollNote (product : Product) : Event := ⟨.report .info ("Activating " ++ product.tripletText ++ " ..."),()⟩

def activation (options : RegisterOptions) (product : Product) : ServerCall :=
  .activate product options.regcode options.email

def addition (settings : Settings) (service : Service) : List Event :=
  [⟨.report .info ("Adding service " ++ service.name),()⟩,⟨.store (.writeService service.name),.ok ()⟩,
    ⟨.packages (.addService service.url service.name !settings.noServiceRefresh),.ok ()⟩]

def releaseNote (product : Product) : Event := ⟨.report .info ("Installing release package " ++ product.name),()⟩

-- What is done before the release package of a product is installed.
def readied (settings : Settings) (options : RegisterOptions) (product : Product) (service : Service) : List Event :=
  enrollNote product :: ⟨.server (activation options product),.ok service⟩ ::
    (addition settings service ++ [releaseNote product])

theorem ran_addService_ok {service : Service} :
    Ran (addService settings service) events (.ok ()) ↔ events = addition settings service := by
  unfold addService
  rw [ran_info_bind]
  constructor
  · intro ran
    obtain ⟨_,rfl,storing⟩ := ran
    obtain ⟨_,_,rfl,stored,added⟩ := ran_then_ok.mp storing
    cases ran_store.mp stored
    cases ran_packages.mp added
    rfl
  · intro same
    exact ⟨_,same,ran_then_ok.mpr ⟨[_],_,rfl,ran_store.mpr rfl,ran_packages.mpr rfl⟩⟩

-- How far the activation of a product comes.
inductive Enrolls (settings : Settings) (options : RegisterOptions) (release : Bool) (product : Product) :
    List Event → Result ProductService → Prop where
  | refused : Enrolls settings options release product
      [enrollNote product,⟨.server (activation options product),.error error⟩] (.error error)
  | skipped : settings.skipServiceInstall = true → Enrolls settings options release product
      [enrollNote product,⟨.server (activation options product),.ok service⟩] (.ok (.of product service))
  | unadded : Ran (addService settings service) adding (.error error) → Enrolls settings options release product
      (enrollNote product :: ⟨.server (activation options product),.ok service⟩ :: adding) (.error error)
  | added : settings.skipServiceInstall = false → release = false → Enrolls settings options release product
      (enrollNote product :: ⟨.server (activation options product),.ok service⟩ :: addition settings service)
      (.ok (.of product service))
  | released (reply : Result Unit) : settings.skipServiceInstall = false → release = true →
      Enrolls settings options release product
        (enrollNote product :: ⟨.server (activation options product),.ok service⟩ ::
          (addition settings service ++ [releaseNote product,⟨.packages (.installReleasePackage product.name),reply⟩]))
        (reply.map fun _ => .of product service)

theorem enrolls_of_ran {product : Product} {result : Result ProductService}
    (ran : Ran (enroll settings options release product) events result) :
    Enrolls settings options release product events result := by
  unfold enroll activateProduct at ran
  simp only [bind_assoc] at ran
  obtain ⟨_,rfl,asked⟩ := ran_info_bind.mp ran
  rcases ran_server_bind.mp asked with ⟨error,rfl,rfl⟩ | ⟨service,_,rfl,later⟩
  · exact .refused
  cases skips : settings.skipServiceInstall with
  | true =>
    simp only [skips,if_true,pure_bind] at later
    obtain ⟨rfl,rfl⟩ := ran_pure.mp later
    exact .skipped skips
  | false =>
    simp only [skips,Bool.false_eq_true,if_false,bind_assoc] at later
    rcases ran_bind.mp later with ⟨error,failed,rfl⟩ | ⟨adding,_,_,rfl,added,last⟩
    · exact .unadded failed
    obtain rfl := ran_addService_ok.mp added
    cases release with
    | false =>
      simp only [Bool.false_eq_true,if_false,pure_bind] at last
      obtain ⟨rfl,rfl⟩ := ran_pure.mp last
      rw [List.append_nil]
      exact .added skips rfl
    | true =>
      simp only [if_true,bind_assoc] at last
      obtain ⟨_,rfl,installing⟩ := ran_info_bind.mp last
      rcases ran_packages_bind.mp installing with ⟨error,rfl,rfl⟩ | ⟨_,_,rfl,installed⟩
      · exact .released (.error error) skips rfl
      · obtain ⟨rfl,rfl⟩ := ran_pure.mp installed
        exact .released (.ok ()) skips rfl

-- A product is activated by one call, and the rest is local.
theorem Enrolls.opens {product : Product} {result : Result ProductService}
    (enrolls : Enrolls settings options release product events result) :
    ∃ answer rest, events = enrollNote product :: ⟨.server (activation options product),answer⟩ :: rest ∧
      requests serverOf rest = [] ∧ ∀ value, result = .ok value → ∃ service, answer = .ok service ∧
        value = .of product service := by
  cases enrolls with
  | refused => exact ⟨_,[],rfl,rfl,fun _ same => by cases same⟩
  | skipped _ => exact ⟨_,[],rfl,rfl,fun _ same => ⟨_,rfl,(Except.ok.inj same).symm⟩⟩
  | unadded adding =>
    have silent := asksLocal_addService.requests_eq_nil (fun _ => id) adding
    exact ⟨_,_,rfl,silent,fun _ same => by cases same⟩
  | added _ _ => exact ⟨_,_,rfl,rfl,fun _ same => ⟨_,rfl,(Except.ok.inj same).symm⟩⟩
  | released reply _ _ =>
    refine ⟨_,_,rfl,rfl,fun _ same => ⟨_,rfl,?_⟩⟩
    cases reply with
    | ok value => exact (Except.ok.inj same).symm
    | error error => cases same

-- Nothing follows an activation that is refused.
theorem Enrolls.refusal {product : Product} {result : Result ProductService} {answer : Result Service}
    (enrolls : Enrolls settings options release product events result)
    (parts : events = enrollNote product :: ⟨.server (activation options product),answer⟩ :: rest)
    (refused : answer = .error error) : rest = [] ∧ result = .error error := by
  subst refused
  cases enrolls with
  | refused => cases parts; exact ⟨rfl,rfl⟩
  | _ => cases parts

theorem turn_enroll : Turn (enroll settings options release) enrollNote (activation options) where
  quiet _ := rfl
  opens _ _ _ ran := by
    obtain ⟨answer,rest,parts,silent,_⟩ := (enrolls_of_ran ran).opens
    exact ⟨answer,rest,parts,silent⟩

theorem failsFast_activateProduct {product : Product} {regcode : String} {email : Option String} :
    FailsFast (activateProduct settings product regcode email release) := by
  refine failsFast_bind failsFast_report fun _ => failsFast_bind failsFast_server fun service => ?_
  split
  · exact failsFast_pure
  refine failsFast_bind failsFast_addService fun _ => ?_
  split
  · exact failsFast_bind failsFast_report fun _ => failsFast_bind failsFast_packages fun _ => failsFast_pure
  · exact failsFast_pure

theorem failsFast_enroll {product : Product} : FailsFast (enroll settings options release product) :=
  failsFast_bind failsFast_activateProduct fun _ => failsFast_pure

-- What is asked for, and what comes of it.

def activateOf : Question → Option Product
  | .server (.activate product _ _) => some product
  | _ => none

def releaseOf : Question → Option String
  | .packages (.installReleasePackage name) => some name
  | _ => none

def enrolled : Event → Option ProductService
  | ⟨.server (.activate product _ _),.ok service⟩ => some (.of product service)
  | _ => none

theorem activateOf_of_local (q : Question) (isLocal : Local q) : activateOf q = none := by
  cases q with
  | server call => cases isLocal
  | _ => rfl

theorem enrolled_of_local {events : List Event} (silent : requests serverOf events = []) :
    events.filterMap enrolled = [] := by
  rw [requests,List.filterMap_eq_nil_iff] at silent
  rw [List.filterMap_eq_nil_iff]
  intro event member
  have isLocal := silent event member
  obtain ⟨q,answer⟩ := event
  cases q with
  | server call => cases isLocal
  | _ => rfl

theorem enrolled_enroll {product : Product} {value : ProductService}
    (ran : Ran (enroll settings options release product) events (.ok value)) :
    events.filterMap enrolled = [value] ∧ value.product = product.triplet := by
  obtain ⟨_,rest,rfl,silent,yields⟩ := (enrolls_of_ran ran).opens
  obtain ⟨service,rfl,rfl⟩ := yields value rfl
  exact ⟨congrArg (ProductService.of product service :: ·) (enrolled_of_local silent),rfl⟩

theorem enrolled_gathers {list : List Product} {values : List ProductService}
    (gathers : Gathers (enroll settings options release) list events values) :
    events.filterMap enrolled = values ∧ values.map ProductService.product = list.map Product.triplet := by
  induction gathers with
  | nil => exact ⟨rfl,rfl⟩
  | cons ran _ ih =>
    obtain ⟨one,same⟩ := enrolled_enroll ran
    obtain ⟨others,rest⟩ := ih
    rw [List.filterMap_append,one,others,List.map_cons,List.map_cons,same,rest]
    exact ⟨rfl,rfl⟩

-- Release packages are installed for the product that was asked for, and for nothing else.

theorem unreleased_addService {service : Service} : Asks (releaseOf · = none) (addService settings service) :=
  asks_bind (asks_ask rfl) fun _ => asks_bind (asks_store rfl) fun _ => asks_packages rfl

theorem unreleased_enroll {product : Product} : Asks (releaseOf · = none) (enroll settings options false product) := by
  have activates : Asks (releaseOf · = none)
      (activateProduct settings product options.regcode options.email false) := by
    refine asks_bind (asks_ask rfl) fun _ => asks_bind (asks_server rfl) fun service => ?_
    split
    · exact asks_pure
    · exact asks_bind unreleased_addService fun _ => asks_pure
  exact asks_bind activates fun _ => asks_pure

theorem Enrolls.releases {product : Product} {result : Result ProductService}
    (enrolls : Enrolls settings options release product events result) :
    requests releaseOf events <+: [product.name] ∧ ∀ value, result = .ok value →
      requests releaseOf events = if release && !settings.skipServiceInstall then [product.name] else [] := by
  cases enrolls with
  | refused => exact ⟨List.nil_prefix,fun _ same => by cases same⟩
  | skipped skips => exact ⟨List.nil_prefix,fun _ _ => by rw [skips]; simp; rfl⟩
  | unadded adding =>
    have silent := unreleased_addService.requests_eq_nil (fun _ => id) adding
    exact ⟨silent ▸ List.nil_prefix,fun _ same => by cases same⟩
  | added _ unasked => exact ⟨List.nil_prefix,fun _ _ => by rw [unasked]; rfl⟩
  | released reply installs asked => exact ⟨List.prefix_rfl,fun _ _ => by rw [installs,asked]; rfl⟩

theorem Enrolls.release_position {product : Product} {name : String} {reply : Result Unit}
    {result : Result ProductService} (enrolls : Enrolls settings options release product events result)
    (parts : events = before ++ ⟨.packages (.installReleasePackage name),reply⟩ :: after) :
    settings.skipServiceInstall = false ∧ release = true ∧ name = product.name ∧
      ∃ service, before = readied settings options product service := by
  have absent (silent : requests releaseOf events = []) : False := by
    rw [parts] at silent
    cases unasked silent
  cases enrolls with
  | refused => exact (absent rfl).elim
  | skipped _ => exact (absent rfl).elim
  | unadded adding =>
    have silent := unreleased_addService.requests_eq_nil (fun _ => id) adding
    exact (absent silent).elim
  | added _ _ => exact (absent rfl).elim
  | @released service answer installs asked =>
    have silent : requests releaseOf (readied settings options product service) = [] := rfl
    have whole : readied settings options product service ++
        [⟨.packages (.installReleasePackage product.name),answer⟩] =
        before ++ ⟨.packages (.installReleasePackage name),reply⟩ :: after := by
      rw [← parts]
      simp [readied]
    rcases append_eq_split.mp whole with ⟨_,early,_⟩ | ⟨between,late,rfl⟩
    · rw [early] at silent
      cases unasked silent
    · cases between with
      | nil =>
        cases late
        exact ⟨installs,asked,rfl,service,List.append_nil _⟩
      | cons head between => simp at late

end Entitlement.Registration
