import Entitlement.Proofs.Registration.Deregister
import Entitlement.Proofs.Registration.Turns

-- The products of a system leave one after the other. What was installed for one is gone before the next is asked
-- for, and the system itself is deregistered only when all of them have left.
namespace Entitlement.Registration

-- A dependent product has a release package that goes with it.
structure Leaver where
  product : Product
  dependent : Bool

def dismiss (settings : Settings) (leaver : Leaver) (service : Service) : Action Unit :=
  if settings.skipServiceInstall then pure () else do
    removeOrRefreshService service.name
    if leaver.dependent then
      info ("Removing release package " ++ leaver.product.name)
      packages (.removeReleasePackage leaver.product.name)

def leave (settings : Settings) (leaver : Leaver) : Action ProductService := do
  info ("Deactivating " ++ leaver.product.tripletText ++ " ...")
  let service ← server (.deactivate leaver.product)
  dismiss settings leaver service
  return ProductService.of leaver.product service

-- What is installed of the tree of the base product.
def survey : Action (Product × List Product) := do
  let base ← baseProduct
  let installed ← packages .installedProducts
  let tree ← server (.productTree base)
  let extensions ← ExceptT.mk (pure (installedExtensions tree installed))
  return (base,extensions)

def leavers (base : Product) (extensions : List Product) : List Leaver :=
  extensions.reverse.map (⟨·,true⟩) ++ [⟨base,false⟩]

variable {settings : Settings}

theorem leave_dependent (extension : Product) :
    leave settings ⟨extension,true⟩ = (do
      let service ← deactivateProduct settings extension
      return ProductService.of extension service) := by
  unfold leave deactivateProduct dismiss
  cases settings.skipServiceInstall with
  | true => simp
  | false => simp

theorem deregisterSystem_eq :
    deregisterSystem settings = (do
      let (base,extensions) ← survey
      let products ← (leavers base extensions).mapM (leave settings)
      server .deregister
      info "Successfully deregistered system"
      return products) := by
  unfold deregisterSystem survey leavers
  simp only [bind_assoc,pure_bind,List.mapM_append,List.mapM_map,leave_dependent,List.mapM_cons,List.mapM_nil,
    Function.comp_def]
  cases skips : settings.skipServiceInstall with
  | true => simp [leave,dismiss,skips]
  | false => simp [leave,dismiss,skips]

-- The row of calls for one product.

def leaveNote (leaver : Leaver) : Event := ⟨.report .info ("Deactivating " ++ leaver.product.tripletText ++ " ..."),()⟩

def removalOrRefresh (name : String) : List Event :=
  if name = Service.dummyName then
    [⟨.report .info "Refreshing services",()⟩,⟨.packages .refreshAllServices,.ok ()⟩]
  else ⟨.report .info ("Removing service " ++ name),()⟩ :: removal name

def packageRemoval (leaver : Leaver) : List Event :=
  if leaver.dependent then
    [⟨.report .info ("Removing release package " ++ leaver.product.name),()⟩,
      ⟨.packages (.removeReleasePackage leaver.product.name),.ok ()⟩]
  else []

-- What is done with the service that the server returned.
def dismissal (settings : Settings) (leaver : Leaver) (service : Service) : List Event :=
  if settings.skipServiceInstall then [] else removalOrRefresh service.name ++ packageRemoval leaver

theorem ran_removeOrRefreshService_ok {name : String} :
    Ran (removeOrRefreshService name) events (.ok ()) ↔ events = removalOrRefresh name := by
  unfold removeOrRefreshService removalOrRefresh
  split
  · rw [ran_info_bind]
    constructor
    · intro ran
      obtain ⟨_,rfl,refreshed⟩ := ran
      cases ran_packages.mp refreshed
      rfl
    · intro same
      exact ⟨_,same,ran_packages.mpr rfl⟩
  · rw [ran_info_bind]
    simp only [ran_removeService_ok]
    exact ⟨fun ⟨_,same,rest⟩ => rest ▸ same,fun same => ⟨_,same,rfl⟩⟩

theorem ran_dismiss_ok {leaver : Leaver} {service : Service} :
    Ran (dismiss settings leaver service) events (.ok ()) ↔ events = dismissal settings leaver service := by
  unfold dismiss dismissal
  split
  · simp [ran_pure]
  rw [ran_then_ok]
  simp only [ran_removeOrRefreshService_ok]
  unfold packageRemoval
  cases leaver.dependent with
  | false =>
    simp only [Bool.false_eq_true,if_false,ran_pure,and_true]
    exact ⟨fun ⟨_,_,same,first,second⟩ => first ▸ second ▸ same,fun same => ⟨_,_,same,rfl,rfl⟩⟩
  | true =>
    simp only [if_true,ran_info_bind]
    constructor
    · intro ran
      obtain ⟨_,_,rfl,rfl,_,rfl,removed⟩ := ran
      cases ran_packages.mp removed
      rfl
    · intro same
      exact ⟨_,_,same,rfl,_,rfl,ran_packages.mpr rfl⟩

theorem asksLocal_dismiss {leaver : Leaver} {service : Service} : Asks Local (dismiss settings leaver service) := by
  unfold dismiss
  split
  · exact asks_pure
  · refine asks_bind asksLocal_removeOrRefreshService fun _ => ?_
    split
    · exact asks_bind (asks_ask rfl) fun _ => asks_packages rfl
    · exact asks_pure

theorem failsFast_dismiss {leaver : Leaver} {service : Service} : FailsFast (dismiss settings leaver service) := by
  unfold dismiss
  split
  · exact failsFast_pure
  · refine failsFast_bind failsFast_removeOrRefreshService fun _ => ?_
    split
    · exact failsFast_bind failsFast_report fun _ => failsFast_packages
    · exact failsFast_pure

theorem failsFast_leave {leaver : Leaver} : FailsFast (leave settings leaver) :=
  failsFast_bind failsFast_report fun _ => failsFast_bind failsFast_server fun _ =>
    failsFast_bind failsFast_dismiss fun _ => failsFast_pure

theorem turn_leave : Turn (leave settings) leaveNote (fun leaver => .deactivate leaver.product) where
  quiet _ := rfl
  opens leaver events result ran := by
    obtain ⟨_,rfl,asked⟩ := ran_info_bind.mp ran
    rcases ran_server_bind.mp asked with ⟨error,rfl,_⟩ | ⟨service,rest,rfl,left⟩
    · exact ⟨_,[],rfl,rfl⟩
    · have isLocal : Asks Local (do
          dismiss settings leaver service
          return ProductService.of leaver.product service) :=
        asks_bind asksLocal_dismiss fun _ => asks_pure
      exact ⟨_,rest,rfl,isLocal.requests_eq_nil (fun _ => id) left⟩

theorem ran_leave_ok {leaver : Leaver} {value : ProductService} :
    Ran (leave settings leaver) events (.ok value) ↔
      ∃ service, events = leaveNote leaver :: ⟨.server (.deactivate leaver.product),.ok service⟩ ::
        dismissal settings leaver service ∧ value = ProductService.of leaver.product service := by
  unfold leave
  rw [ran_info_bind]
  simp only [ran_server_bind,ran_then_ok,ran_dismiss_ok,ran_pure]
  constructor
  · intro ran
    obtain ⟨_,rfl,⟨_,_,impossible⟩ | ⟨service,_,rfl,_,_,rfl,rfl,rfl,same⟩⟩ := ran
    · cases impossible
    · cases same
      exact ⟨service,by simp [leaveNote],rfl⟩
  · intro same
    obtain ⟨service,rfl,rfl⟩ := same
    exact ⟨_,rfl,.inr ⟨service,_,rfl,_,[],(List.append_nil _).symm,rfl,rfl,rfl⟩⟩

-- Products that leave one after the other, each dismissed before the next.
inductive Leaves (settings : Settings) : List Leaver → List Event → Prop where
  | nil : Leaves settings [] []
  | cons : Leaves settings rest later →
      Leaves settings (leaver :: rest) (leaveNote leaver :: ⟨.server (.deactivate leaver.product),.ok service⟩ ::
        (dismissal settings leaver service ++ later))

section Row

variable {list : List Leaver}

theorem Leaves.of_gathers (gathers : Gathers (leave settings) list events values) : Leaves settings list events := by
  induction gathers with
  | nil => exact .nil
  | cons ran _ ih =>
    obtain ⟨service,rfl,_⟩ := ran_leave_ok.mp ran
    exact .cons ih

-- What comes of it once it is known which products are to leave.
def depart (settings : Settings) (list : List Leaver) : Action (List ProductService) := do
  let products ← list.mapM (leave settings)
  server .deregister
  info "Successfully deregistered system"
  return products

def deregistration (reply : Result Unit) : Event := ⟨.server .deregister,reply⟩

def departedNote : Event := ⟨.report .info "Successfully deregistered system",()⟩

inductive Departs (settings : Settings) (list : List Leaver) :
    List Event → Result (List ProductService) → Prop where
  | stopped : Breaks (leave settings) list leaving error → Departs settings list leaving (.error error)
  | refused : Gathers (leave settings) list leaving values →
      Departs settings list (leaving ++ [deregistration (.error error)]) (.error error)
  | departed : Gathers (leave settings) list leaving values →
      Departs settings list (leaving ++ [deregistration (.ok ()),departedNote]) (.ok values)

theorem departs_of_ran {result : Result (List ProductService)} (ran : Ran (depart settings list) events result) :
    Departs settings list events result := by
  rcases ran_bind.mp ran with ⟨error,failed,rfl⟩ | ⟨leaving,values,_,rfl,left,later⟩
  · rcases ran_mapM.mp failed with ⟨_,_,impossible⟩ | ⟨_,breaks,same⟩
    · cases impossible
    · cases same; exact .stopped breaks
  rcases ran_mapM.mp left with ⟨_,gathers,same⟩ | ⟨_,_,impossible⟩
  · cases same
    rcases ran_server_bind.mp later with ⟨error,rfl,rfl⟩ | ⟨_,_,rfl,accepted⟩
    · exact .refused gathers
    · obtain ⟨_,rfl,last⟩ := ran_info_bind.mp accepted
      obtain ⟨rfl,rfl⟩ := ran_pure.mp last
      exact .departed gathers
  · cases impossible

-- The calls of a departure against those of the products that leave.

def deactivateOf : Question → Option Product
  | .server (.deactivate product) => some product
  | _ => none

def deregisterOf : Question → Option Unit
  | .server .deregister => some ()
  | _ => none

theorem deactivateOf_of_local (q : Question) (isLocal : Local q) : deactivateOf q = none := by
  cases q with
  | server call => cases isLocal
  | _ => rfl

theorem deregisterOf_of_local (q : Question) (isLocal : Local q) : deregisterOf q = none := by
  cases q with
  | server call => cases isLocal
  | _ => rfl

-- What follows the last product.
theorem Departs.parts {result : Result (List ProductService)} (departs : Departs settings list events result) :
    (∃ error, Breaks (leave settings) list events error ∧ result = .error error) ∨
    ∃ leaving values answer closing, events = leaving ++ deregistration answer :: closing ∧
      Gathers (leave settings) list leaving values ∧ requests serverOf closing = [] ∧ Succeeds closing := by
  cases departs with
  | stopped breaks => exact .inl ⟨_,breaks,rfl⟩
  | refused gathers => exact .inr ⟨_,_,_,[],rfl,gathers,rfl,succeeds_nil⟩
  | departed gathers => exact .inr ⟨_,_,_,_,rfl,gathers,rfl,succeeds_cons.mpr ⟨rfl,succeeds_nil⟩⟩

theorem unregistered_leaving (list : List Leaver) :
    (list.map fun leaver => ServerCall.deactivate leaver.product).filterMap (fun call => deregisterOf (.server call)) =
      [] := by
  rw [List.filterMap_map,List.filterMap_eq_nil_iff]
  exact fun _ _ => rfl

theorem requests_leaving (gathers : Gathers (leave settings) list events values) :
    requests deactivateOf events = list.map Leaver.product ∧ requests deregisterOf events = [] := by
  have called := turn_leave.inOrder gathers
  constructor
  · rw [requests_of_local deactivateOf_of_local,called,List.filterMap_map]
    exact congrFun List.filterMap_eq_map' list
  · rw [requests_of_local deregisterOf_of_local,called,unregistered_leaving]

theorem requests_breaking (breaks : Breaks (leave settings) list events error) :
    requests deactivateOf events <+: list.map Leaver.product ∧ requests deregisterOf events = [] := by
  constructor
  · apply breaks.requests_begin
    intro leaver row reply ran
    rw [requests_of_local deactivateOf_of_local,turn_leave.asks_once ran]
    rfl
  · obtain ⟨_,_,_,_,called⟩ := breaks.requests_eq fun _ _ _ ran => turn_leave.asks_once ran
    rw [requests_of_local deregisterOf_of_local,called,unregistered_leaving]

-- Nothing is deactivated from there on.
theorem deactivates_none {answer : Result Unit} {closing : List Event} (silent : requests serverOf closing = []) :
    requests deactivateOf (deregistration answer :: closing) = [] := by
  have none : requests deactivateOf closing = [] := by
    rw [requests_of_local deactivateOf_of_local,silent]
    rfl
  exact none

theorem Departs.ordered (departs : Departs settings list events result) :
    requests deactivateOf events <+: list.map Leaver.product := by
  rcases departs.parts with ⟨_,breaks,_⟩ | ⟨row,_,answer,closing,rfl,gathers,silent,_⟩
  · exact (requests_breaking breaks).1
  · have all : requests deactivateOf (row ++ deregistration answer :: closing) = list.map Leaver.product := by
      rw [requests_append,(requests_leaving gathers).1,deactivates_none silent,List.append_nil]
    exact all ▸ List.prefix_rfl

theorem Departs.complete {products : List ProductService} (departs : Departs settings list events result)
    (same : result = .ok products) : requests deactivateOf events = list.map Leaver.product := by
  rcases departs.parts with ⟨_,_,failed⟩ | ⟨row,_,answer,closing,rfl,gathers,silent,_⟩
  · cases same.symm.trans failed
  · rw [requests_append,(requests_leaving gathers).1,deactivates_none silent,List.append_nil]

theorem Leaves.of_turn {row : List Event} {product : Product} {answer : Result Service}
    (turns : InTurn (leave settings) leaveNote (fun leaver => .deactivate leaver.product) list row)
    (parts : row = before ++ ⟨.server (.deactivate product),answer⟩ :: after) :
    ∃ done leaver rest first, list = done ++ leaver :: rest ∧ product = leaver.product ∧
      before = first ++ [leaveNote leaver] ∧ Leaves settings done first := by
  obtain ⟨done,leaver,rest,first,values,same,noted,asked,gathers⟩ := turns _ _ _ _ parts
  exact ⟨done,leaver,rest,first,same,ServerCall.deactivate.inj asked,noted,.of_gathers gathers⟩

theorem Departs.dismissed {product : Product} {answer : Result Service}
    (departs : Departs settings list events result)
    (parts : events = before ++ ⟨.server (.deactivate product),answer⟩ :: after) :
    ∃ done leaver rest first, list = done ++ leaver :: rest ∧ product = leaver.product ∧
      before = first ++ [leaveNote leaver] ∧ Leaves settings done first := by
  rcases departs.parts with ⟨_,breaks,_⟩ | ⟨row,_,reply,closing,same,gathers,silent,_⟩
  · exact Leaves.of_turn (turn_leave.inTurn_breaks breaks) parts
  · rw [same] at parts
    have asked : deactivateOf (.server (.deactivate product)) ≠ Option.none := Option.some_ne_none product
    have located : ([] : List Event) ++ (row ++ deregistration reply :: closing) =
        before ++ ⟨.server (.deactivate product),answer⟩ :: after := parts
    obtain ⟨_,_,rfl,within⟩ := within_row located rfl (deactivates_none silent) asked
    exact Leaves.of_turn (turn_leave.inTurn_gathers gathers) within

theorem Departs.deregisters (departs : Departs settings list events result) :
    requests deregisterOf events ≠ [] ↔
      ∀ event ∈ events, event.question ≠ .server .deregister → errorOf event = none := by
  rcases departs.parts with ⟨error,breaks,_⟩ | ⟨row,values,answer,closing,rfl,gathers,_,passed⟩
  · have failed := (failsFast_mapM fun _ => failsFast_leave) _ _ (ran_mapM.mpr (.inr ⟨error,breaks,rfl⟩))
    obtain ⟨before,last,rfl,_,fails⟩ := failed
    have silent := (requests_breaking breaks).2
    refine iff_of_false (fun asked => asked silent) fun passes => ?_
    have other : last.question ≠ .server .deregister := by
      intro same
      have asked := unasked silent
      rw [same] at asked
      cases asked
    have none := passes last (by simp) other
    rw [fails] at none
    cases none
  · have succeeded : Succeeds row :=
      (failsFast_mapM fun _ => failsFast_leave) _ _ (ran_mapM.mpr (.inl ⟨values,gathers,rfl⟩))
    refine iff_of_true ?_ ?_
    · intro silent
      cases unasked silent
    · intro event member other
      rcases List.mem_append.mp member with early | late
      · exact succeeded event early
      · rcases List.mem_cons.mp late with rfl | later
        · exact absurd rfl other
        · exact passed event later

theorem Departs.last {answer : Result Unit} (departs : Departs settings list events result)
    (parts : events = before ++ deregistration answer :: after) :
    Leaves settings list before ∧ requests serverOf after = [] := by
  rcases departs.parts with ⟨_,breaks,_⟩ | ⟨row,_,reply,closing,rfl,gathers,silent,_⟩
  · have none := (requests_breaking breaks).2
    rw [parts] at none
    cases unasked none
  · rcases append_eq_split.mp parts with ⟨between,rfl,_⟩ | ⟨between,later,rfl⟩
    · cases unasked (requests_leaving gathers).2
    · cases between with
      | nil =>
        obtain ⟨_,rfl⟩ := List.cons.inj later
        rw [List.append_nil]
        exact ⟨.of_gathers gathers,silent⟩
      | cons head between =>
        obtain ⟨_,rfl⟩ := List.cons.inj later
        cases unasked silent

end Row

end Entitlement.Registration
