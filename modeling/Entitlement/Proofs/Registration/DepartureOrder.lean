import Entitlement.Proofs.Product.Occurrences
import Entitlement.Proofs.Registration.Cleanup
import Entitlement.Proofs.Registration.Departure
import Entitlement.Proofs.Registration.Restoration

-- The order in which a system leaves. Each extension is deactivated before those that it stands below, wherever it
-- occurs in the tree, and the base product last. Whatever happens to that, the registration is cleaned up once.
namespace Entitlement.Registration

variable {settings : Settings}

-- The survey before anything leaves.

def Surveys : Question → Prop
  | .packages .installedProducts | .server (.productTree _) => True
  | _ => False

-- Without a tree there is nothing to leave.
structure Unsurveyed (events : List Event) (result : Result α) : Prop where
  asks : ∀ event ∈ events, Surveys event.question
  unfetched : ∀ base tree, ⟨.server (.productTree base),.ok tree⟩ ∉ events
  fails : ∃ error, result = .error error

def surveyed (reported installed : List Product) (base tree : Product) : List Event :=
  [⟨.packages .installedProducts,.ok reported⟩,⟨.packages .installedProducts,.ok installed⟩,
    ⟨.server (.productTree base),.ok tree⟩]

theorem ran_survey {result : Result (Product × List Product)} (ran : Ran survey events result) :
    Unsurveyed events result ∨ ∃ reported installed base tree, events = surveyed reported installed base tree ∧
      findBase reported = some base ∧ result = (installedExtensions tree installed).map (base,·) := by
  rcases ran_bind.mp ran with ⟨error,failed,rfl⟩ | ⟨_,base,_,rfl,found,detected⟩
  · have asks : Asks Surveys baseProduct := asks_baseProduct trivial
    rcases ran_baseProduct_error.mp failed with rfl | ⟨_,rfl,_⟩
    · exact .inl ⟨asks _ _ failed,by simp,error,rfl⟩
    · exact .inl ⟨asks _ _ failed,by simp,error,rfl⟩
  obtain ⟨reported,rfl,detection⟩ := ran_baseProduct_ok.mp found
  rcases ran_packages_bind.mp detected with ⟨error,rfl,rfl⟩ | ⟨installed,_,rfl,listed⟩
  · exact .inl ⟨by simp [Surveys],by simp,error,rfl⟩
  rcases ran_server_bind.mp listed with ⟨error,rfl,rfl⟩ | ⟨tree,_,rfl,fetched⟩
  · exact .inl ⟨by simp [Surveys],by simp,error,rfl⟩
  refine .inr ⟨reported,installed,base,tree,?_⟩
  rcases ran_bind.mp fetched with ⟨error,failed,rfl⟩ | ⟨_,extensions,_,rfl,settled,chosen⟩
  · obtain ⟨rfl,selected⟩ := ran_settled.mp failed
    exact ⟨rfl,detection,by rw [← selected]; rfl⟩
  · obtain ⟨rfl,selected⟩ := ran_settled.mp settled
    obtain ⟨rfl,rfl⟩ := ran_pure.mp chosen
    exact ⟨rfl,detection,by rw [← selected]; rfl⟩

-- The installed places of a tree in the order in which they are left.
def departures (installed : List Product) (tree : Product) : List (Product.Place × Product) :=
  (tree.occurrences.filter fun found => isListed installed found.2).reverse

theorem departures_snd (installed : List Product) (tree : Product) :
    (departures installed tree).map Prod.snd = (tree.descendants.filter (isListed installed)).reverse := by
  rw [departures,List.map_reverse,← Product.occurrences_snd,List.filter_map]
  rfl

-- What stands below a place leaves before what stands there.
theorem departures_descend {installed : List Product} {tree outer inner : Product} {above below : Product.Place}
    (inside : above <+: below) (distinct : above ≠ below) (placed : above ≠ []) (stands : tree.at? above = some outer)
    (standsBelow : tree.at? below = some inner) (listed : isListed installed outer = true)
    (listedBelow : isListed installed inner = true) :
    ∃ first second third, departures installed tree = first ++ (below,inner) :: (second ++ (above,outer) :: third) := by
  have placedBelow : below ≠ [] := by
    intro empty
    rw [empty] at inside
    exact placed (List.prefix_nil.mp inside)
  have ordered : (tree.occurrences.filter fun found => isListed installed found.2).Pairwise Product.Ahead :=
    (Product.occurrences_ahead tree).filter _
  have first : (above,outer) ∈ tree.occurrences.filter fun found => isListed installed found.2 :=
    List.mem_filter.mpr ⟨(Product.mem_occurrences tree).mpr ⟨placed,stands⟩,listed⟩
  have second : (below,inner) ∈ tree.occurrences.filter fun found => isListed installed found.2 :=
    List.mem_filter.mpr ⟨(Product.mem_occurrences tree).mpr ⟨placedBelow,standsBelow⟩,listedBelow⟩
  obtain ⟨before,between,after,parts⟩ := Product.stands_before ordered first second
    (fun same => distinct (Prod.mk.inj same).1) (fun ahead => ahead inside)
  refine ⟨after.reverse,between.reverse,before.reverse,?_⟩
  rw [departures,parts]
  simp

def leaving (installed : List Product) (base tree : Product) : List Leaver :=
  leavers base (tree.descendants.filter (isListed installed))

theorem leaving_products (installed : List Product) (base tree : Product) :
    (leaving installed base tree).map Leaver.product = (departures installed tree).map Prod.snd ++ [base] := by
  rw [departures_snd]
  simp [leaving,leavers,Function.comp_def]

-- What a system does that knows what is installed and what the server has of it.
structure LeavesInOrder (settings : Settings) (installed : List Product) (base tree : Product) (events : List Event)
    (result : Result (List ProductService)) : Prop where
  tooDeep : depthLimit < tree.height → events = [] ∧ result = .error (.treeTooDeep tree.tripletText depthLimit)
  ordered : requests deactivateOf events <+: (departures installed tree).map Prod.snd ++ [base]
  complete : ∀ products, result = .ok products →
    requests deactivateOf events = (departures installed tree).map Prod.snd ++ [base]
  preorder : (departures installed tree).map Prod.snd = (tree.descendants.filter (isListed installed)).reverse
  descends : ∀ above below outer inner, above <+: below → above ≠ below → above ≠ [] →
    tree.at? above = some outer → tree.at? below = some inner → isListed installed outer = true →
    isListed installed inner = true →
    ∃ first second third, departures installed tree = first ++ (below,inner) :: (second ++ (above,outer) :: third)
  dismissed : ∀ before product answer after, events = before ++ ⟨.server (.deactivate product),answer⟩ :: after →
    ∃ done leaver rest row, leaving installed base tree = done ++ leaver :: rest ∧ product = leaver.product ∧
      before = row ++ [leaveNote leaver] ∧ Leaves settings done row
  deregisters : requests deregisterOf events ≠ [] ↔
    tree.height ≤ depthLimit ∧ ∀ event ∈ events, event.question ≠ .server .deregister → errorOf event = none
  last : ∀ before answer after, events = before ++ deregistration answer :: after →
    Leaves settings (leaving installed base tree) before ∧ requests serverOf after = []

theorem Departs.leavesInOrder {installed : List Product} {base tree : Product} {result : Result (List ProductService)}
    (departs : Departs settings (leaving installed base tree) events result) (low : tree.height ≤ depthLimit) :
    LeavesInOrder settings installed base tree events result where
  tooDeep high := by omega
  ordered := by
    rw [← leaving_products]
    exact departs.ordered
  complete _ same := by
    rw [← leaving_products]
    exact departs.complete same
  preorder := departures_snd installed tree
  descends _ _ _ _ inside distinct placed stands standsBelow listed listedBelow :=
    departures_descend inside distinct placed stands standsBelow listed listedBelow
  dismissed _ _ _ _ parts := departs.dismissed parts
  deregisters := by
    rw [departs.deregisters]
    exact ⟨fun passes => ⟨low,passes⟩,fun ⟨_,passes⟩ => passes⟩
  last _ _ _ parts := departs.last parts

-- A tree that is too high is reported before anything leaves.
theorem leavesInOrder_tooDeep {installed : List Product} {base tree : Product} (high : ¬ tree.height ≤ depthLimit) :
    LeavesInOrder settings installed base tree [] (.error (.treeTooDeep tree.tripletText depthLimit)) where
  tooDeep _ := ⟨rfl,rfl⟩
  ordered := List.nil_prefix
  complete _ impossible := nomatch impossible
  preorder := departures_snd installed tree
  descends _ _ _ _ inside distinct placed stands standsBelow listed listedBelow :=
    departures_descend inside distinct placed stands standsBelow listed listedBelow
  dismissed before _ _ _ parts := by simp at parts
  deregisters := iff_of_false (fun asked => asked rfl) fun ⟨low,_⟩ => high low
  last before _ _ parts := by simp at parts

theorem ran_deregisterSystem {result : Result (List ProductService)}
    (ran : Ran (deregisterSystem settings) events result) :
    Unsurveyed events result ∨ ∃ reported installed base tree rest,
      events = surveyed reported installed base tree ++ rest ∧ findBase reported = some base ∧
      LeavesInOrder settings installed base tree rest result := by
  rw [deregisterSystem_eq] at ran
  rcases ran_bind.mp ran with ⟨error,failed,rfl⟩ | ⟨looking,⟨base,extensions⟩,rest,rfl,looked,departed⟩
  · rcases ran_survey failed with unsurveyed | ⟨reported,installed,base,tree,rfl,detected,same⟩
    · exact .inl ⟨unsurveyed.asks,unsurveyed.unfetched,error,rfl⟩
    · rw [installedExtensions_eq] at same
      split at same
      · cases same
      · rename_i high
        cases same
        exact .inr ⟨reported,installed,base,tree,[],by simp,detected,leavesInOrder_tooDeep high⟩
  · rcases ran_survey looked with unsurveyed | ⟨reported,installed,_,tree,rfl,detected,same⟩
    · obtain ⟨_,impossible⟩ := unsurveyed.fails
      cases impossible
    · rw [installedExtensions_eq] at same
      split at same
      · rename_i low
        cases same
        have departs : Departs settings (leaving installed base tree) rest result := departs_of_ran departed
        exact .inr ⟨reported,installed,base,tree,rest,rfl,detected,departs.leavesInOrder low⟩
      · cases same

-- What is looked at before a system is let go, and the login that it has then.
def admission (settings : Settings) (login : Result Credentials) : List Event :=
  [⟨.fileExists (settings.rootPath cloudGuestTool),false⟩,⟨.hasSystemCredentials,true⟩,
    ⟨.report .info ("Deregistering system from " ++ settings.baseUrl),()⟩,⟨.store .systemCredentials,login⟩]

-- A guest of a cloud and a system without credentials are not let go.
inductive Kept (settings : Settings) : List Event → Result DeregisterOutcome → Prop where
  | guest : Kept settings [⟨.fileExists (settings.rootPath cloudGuestTool),true⟩] (.error (.unsupportedOperation
      "de-registration is disabled by registercloudguest, use `registercloudguest --clean` instead"))
  | unregistered : Kept settings [⟨.fileExists (settings.rootPath cloudGuestTool),false⟩,⟨.hasSystemCredentials,false⟩]
      (.error .systemNotRegistered)

theorem ran_deregister {result : Result DeregisterOutcome} (ran : Ran (deregister settings none) events result) :
    Kept settings events result ∨ ∃ login row left cleaning, events = admission settings login ++ (row ++ cleaning) ∧
      Ran (deregisterSystem settings) row left ∧ Ran (cleanUpRegistration settings login.toOption) cleaning (.ok ()) ∧
      result = left.map DeregisterOutcome.mk := by
  obtain ⟨guest,_,rfl,entered⟩ := ran_ask_bind.mp ran
  cases guest with
  | true =>
    obtain ⟨rfl,rfl⟩ := ran_throw.mp entered
    exact .inl .guest
  | false =>
    rcases ran_requireRegistration_bind.mp entered with ⟨rfl,rfl⟩ | ⟨_,rfl,registered⟩
    · exact .inl .unregistered
    obtain ⟨_,rfl,announced⟩ := ran_info_bind.mp registered
    obtain ⟨_,login,_,rfl,known,later⟩ := ran_outcome_bind.mp announced
    cases ran_store.mp known
    obtain ⟨row,left,_,rfl,departed,last⟩ := ran_outcome_bind.mp later
    rcases ran_bind.mp last with ⟨_,failed,_⟩ | ⟨cleaning,_,_,rfl,cleaned,concluding⟩
    · cases (ran_cleanUpRegistration failed).1
    refine .inr ⟨login,row,left,cleaning,?_⟩
    rcases ran_bind.mp concluding with ⟨error,failed,rfl⟩ | ⟨_,products,_,rfl,settled,returned⟩
    · obtain ⟨rfl,rfl⟩ := ran_settled.mp failed
      exact ⟨by simp [admission],departed,cleaned,rfl⟩
    · obtain ⟨rfl,rfl⟩ := ran_settled.mp settled
      obtain ⟨rfl,rfl⟩ := ran_pure.mp returned
      exact ⟨by simp [admission],departed,cleaned,rfl⟩

-- The cleanup that comes last, once, with the login that was known at first.
structure CleanedUp (settings : Settings) (login : Result Credentials) (row cleaning : List Event) : Prop where
  ran : Ran (cleanUpRegistration settings login.toOption) cleaning (.ok ())
  silent : requests serverOf cleaning = []
  once : requests listingOf (row ++ cleaning) = [()]
  known : requests registryOf cleaning = login.toOption.toList

-- The products leave in their order, and however that ends, the registration is cleaned up.
def LetGo (settings : Settings) (events : List Event) (result : Result DeregisterOutcome) : Prop :=
  ∃ login row left cleaning, events = admission settings login ++ (row ++ cleaning) ∧
    result = left.map DeregisterOutcome.mk ∧ CleanedUp settings login row cleaning ∧
    (Unsurveyed row left ∨ ∃ reported installed base tree rest,
      row = surveyed reported installed base tree ++ rest ∧ findBase reported = some base ∧
      LeavesInOrder settings installed base tree rest left)

theorem deregister_leavesInOrder {result : Result DeregisterOutcome}
    (ran : Ran (deregister settings none) events result) :
    Kept settings events result ∨ LetGo settings events result := by
  rcases ran_deregister ran with kept | ⟨login,row,left,cleaning,parts,departed,cleaned,same⟩
  · exact .inl kept
  · obtain ⟨silent,once,known⟩ := cleanUpRegistration_listsOnce cleaned
    have none : requests listingOf row = [] := asks_deregisterSystem.requests_eq_nil listingOf_of_dismisses departed
    have listed : requests listingOf (row ++ cleaning) = [()] := by
      rw [requests_append,none,once]
      rfl
    exact .inr ⟨login,row,left,cleaning,parts,same,⟨cleaned,silent,listed,known⟩,ran_deregisterSystem departed⟩

def desktopWithPython : Product := { desktop154 with extensions := [python154] }

theorem python_leaves_first :
    let world := obliging true [desktop154,server154,python154] { server154 with extensions := [desktopWithPython] }
    let ran := Program.play world [] (deregister {} none).run
    (Kept {} ran.1 ran.2 ∨ LetGo {} ran.1 ran.2) ∧
      (requests deactivateOf ran.1).map (·.name) = ["sle-module-python3","sle-module-desktop-applications","SLES"] ∧
      requests deregisterOf ran.1 = [()] := by
  intro world ran
  refine ⟨deregister_leavesInOrder (Program.runs_play world [] (deregister {} none).run),?_,?_⟩
  · decide +kernel
  · decide +kernel

end Entitlement.Registration
