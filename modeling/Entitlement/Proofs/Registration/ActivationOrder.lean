import Entitlement.Proofs.Registration.Activation

-- A product is activated before its extensions, and they follow in the order of the tree. The first step that fails
-- is the last one of all.
namespace Entitlement.Registration

variable {settings : Settings} {options : RegisterOptions} {release : Bool} {product tree : Product}

def activateAll (settings : Settings) (options : RegisterOptions) (release : Bool) (product : Product) :
    Action (List ProductService) := do
  let first ← enroll settings options release product
  if product.isBase then activateExtensions settings options product [first] else pure [first]

-- What the walk of a tree comes to of the extensions that come with the base product.
def followed (tree : Product) : List Product := (tree.reached depthLimit).filter activatedWithBase

def companions (product tree : Product) : List Product :=
  if product.isBase then tree.descendants.filter fun e => e.free && e.recommended && e.available else []

theorem companions_eq (base : product.isBase = true) :
    companions product tree = tree.descendants.filter activatedWithBase := if_pos base

theorem followed_begins (tree : Product) : followed tree <+: tree.descendants.filter activatedWithBase :=
  (Product.reached_begins depthLimit tree).filter activatedWithBase

theorem followed_eq (low : tree.height ≤ depthLimit) : followed tree = tree.descendants.filter activatedWithBase := by
  rw [followed,Product.reached_eq depthLimit tree low]

-- The tree counts only where it is fetched.
inductive ActivatesAll (settings : Settings) (options : RegisterOptions) (release : Bool) (product tree : Product) :
    List Event → Result (List ProductService) → Prop where
  | refused : Ran (enroll settings options release product) row (.error error) →
      ActivatesAll settings options release product tree row (.error error)
  | alone : product.isBase = false → Ran (enroll settings options release product) row (.ok first) →
      ActivatesAll settings options release product tree row (.ok [first])
  | treeless : product.isBase = true → Ran (enroll settings options release product) row (.ok first) →
      ActivatesAll settings options release product tree (row ++ [fetch product (.error error)]) (.error error)
  | stopped : product.isBase = true → Ran (enroll settings options release product) row (.ok first) →
      Breaks (enroll settings options false) (followed tree) later error →
      ActivatesAll settings options release product tree (row ++ fetch product (.ok tree) :: later) (.error error)
  | tooDeep : product.isBase = true → Ran (enroll settings options release product) row (.ok first) →
      Gathers (enroll settings options false) (followed tree) later values → ¬ tree.height ≤ depthLimit →
      ActivatesAll settings options release product tree (row ++ fetch product (.ok tree) :: later)
        (.error (.treeTooDeep tree.tripletText depthLimit))
  | whole : product.isBase = true → Ran (enroll settings options release product) row (.ok first) →
      Gathers (enroll settings options false) (followed tree) later values → tree.height ≤ depthLimit →
      ActivatesAll settings options release product tree (row ++ fetch product (.ok tree) :: later)
        (.ok (first :: values))

theorem activatesAll_of_ran {result : Result (List ProductService)}
    (ran : Ran (activateAll settings options release product) events result) :
    ∃ tree, ActivatesAll settings options release product tree events result := by
  rcases ran_bind.mp ran with ⟨error,failed,rfl⟩ | ⟨row,first,_,rfl,activated,later⟩
  · exact ⟨product,.refused failed⟩
  cases base : product.isBase with
  | false =>
    simp only [base,Bool.false_eq_true,if_false] at later
    obtain ⟨rfl,rfl⟩ := ran_pure.mp later
    exact ⟨product,by simpa using ActivatesAll.alone base activated⟩
  | true =>
    simp only [base,if_true,activateExtensions_eq] at later
    rcases ran_server_bind.mp later with ⟨error,rfl,rfl⟩ | ⟨tree,_,rfl,fetched⟩
    · exact ⟨product,.treeless base activated⟩
    refine ⟨tree,?_⟩
    rcases ran_bind.mp fetched with ⟨error,failed,rfl⟩ | ⟨row,values,_,rfl,done,last⟩
    · rcases ran_mapM.mp failed with ⟨_,_,impossible⟩ | ⟨_,breaks,same⟩
      · cases impossible
      · cases same; exact .stopped base activated breaks
    rcases ran_mapM.mp done with ⟨_,gathers,same⟩ | ⟨_,_,impossible⟩
    · cases same
      by_cases low : tree.height ≤ depthLimit
      · simp only [low,if_true] at last
        obtain ⟨rfl,rfl⟩ := ran_pure.mp last
        rw [List.append_nil]
        exact .whole base activated gathers low
      · simp only [low,if_false] at last
        obtain ⟨rfl,rfl⟩ := ran_throw.mp last
        rw [List.append_nil]
        exact .tooDeep base activated gathers low
    · cases impossible

-- The trees that are asked for.

def treeRequestOf : ServerCall → Option Product
  | .productTree product => some product
  | _ => none

theorem Treeless.of_calls (others : (requests serverOf events).filterMap treeRequestOf = []) : Treeless events := by
  rw [requests,List.filterMap_filterMap,List.filterMap_eq_nil_iff] at others
  rw [Treeless,List.filterMap_eq_nil_iff]
  intro event member
  have other := others event member
  obtain ⟨q,answer⟩ := event
  cases q with
  | server call => cases call <;> first | rfl | cases other
  | _ => rfl

theorem Treeless.of_activations {list : List Product} (calls : requests serverOf events <+: list.map (activation options)) :
    Treeless events := by
  have none : (list.map (activation options)).filterMap treeRequestOf = [] := by
    rw [List.filterMap_map,List.filterMap_eq_nil_iff]
    intro _ _
    rfl
  apply Treeless.of_calls
  exact List.prefix_nil.mp (none ▸ calls.filterMap treeRequestOf)

theorem Treeless.of_local (silent : requests serverOf events = []) : Treeless events := by
  apply Treeless.of_calls
  rw [silent]
  rfl

-- The calls to the server.

def extras (options : RegisterOptions) (product tree : Product) : List ServerCall :=
  if product.isBase then .productTree product :: (companions product tree).map (activation options) else []

theorem extras_eq (base : product.isBase = true) :
    extras options product tree =
      .productTree product :: (tree.descendants.filter activatedWithBase).map (activation options) := by
  simp [extras,companions_eq base,base]

section Course

variable {result : Result (List ProductService)}

theorem requests_fetched {row later : List Event} {value : ProductService} {reply : Result Product}
    (ran : Ran (enroll settings options release product) row (.ok value)) :
    requests serverOf (row ++ fetch product reply :: later) =
      activation options product :: .productTree product :: requests serverOf later := by
  rw [requests_append,turn_enroll.asks_once ran]
  rfl

theorem ActivatesAll.ordered (course : ActivatesAll settings options release product tree events result) :
    requests serverOf events <+: activation options product :: extras options product tree := by
  have follows : (followed tree).map (activation options) <+:
    (tree.descendants.filter activatedWithBase).map (activation options) := (followed_begins tree).map _
  cases course with
  | refused failed =>
    rw [turn_enroll.asks_once failed]
    exact List.prefix_append _ _
  | alone _ ran =>
    rw [turn_enroll.asks_once ran]
    exact List.prefix_append _ _
  | treeless base ran =>
    rw [requests_fetched ran,extras_eq base,List.prefix_cons_inj,List.prefix_cons_inj]
    exact List.nil_prefix
  | stopped base ran breaks =>
    rw [requests_fetched ran,extras_eq base,List.prefix_cons_inj,List.prefix_cons_inj]
    exact (breaks.requests_begin fun _ _ _ ran => turn_enroll.asks_once ran).trans follows
  | tooDeep base ran gathers _ =>
    rw [requests_fetched ran,extras_eq base,turn_enroll.inOrder gathers,List.prefix_cons_inj,List.prefix_cons_inj]
    exact follows
  | whole base ran gathers _ =>
    rw [requests_fetched ran,extras_eq base,turn_enroll.inOrder gathers,List.prefix_cons_inj,List.prefix_cons_inj]
    exact follows

theorem treeless_enroll {result : Result ProductService}
    (ran : Ran (enroll settings options release product) events result) : Treeless events := by
  have once : requests serverOf events <+: [product].map (activation options) := by
    rw [turn_enroll.asks_once ran]
    exact List.prefix_rfl
  exact .of_activations once

theorem fetched_gathers {row later : List Event} {first : ProductService} {list : List Product}
    {values : List ProductService} (ran : Ran (enroll settings options release product) row (.ok first))
    (gathers : Gathers (enroll settings options false) list later values) :
    Fetched product tree (row ++ fetch product (.ok tree) :: later) := by
  have calls : requests serverOf later <+: list.map (activation options) :=
    turn_enroll.inOrder gathers ▸ List.prefix_rfl
  exact .around (treeless_enroll ran) (.of_activations calls)

-- Without its tree no extension of a product is activated.
theorem ActivatesAll.fetched (course : ActivatesAll settings options release product tree events result) :
    Fetched product tree events ∨ Treeless events ∧ requests activateOf events <+: [product] := by
  cases course with
  | refused failed =>
    refine .inr ⟨treeless_enroll failed,?_⟩
    rw [requests_of_local activateOf_of_local,turn_enroll.asks_once failed]
    exact List.prefix_rfl
  | alone _ ran =>
    refine .inr ⟨treeless_enroll ran,?_⟩
    rw [requests_of_local activateOf_of_local,turn_enroll.asks_once ran]
    exact List.prefix_rfl
  | treeless _ ran =>
    refine .inr ⟨(treeless_enroll ran).append rfl,?_⟩
    rw [requests_of_local activateOf_of_local,requests_fetched ran]
    exact List.prefix_rfl
  | stopped _ ran breaks =>
    have calls := breaks.requests_begin fun _ _ _ ran => turn_enroll.asks_once ran
    exact .inl (.around (treeless_enroll ran) (.of_activations calls))
  | tooDeep _ ran gathers _ => exact .inl (fetched_gathers ran gathers)
  | whole _ ran gathers _ => exact .inl (fetched_gathers ran gathers)

-- When all are activated, nothing is left out.
theorem ActivatesAll.complete {products : List ProductService}
    (course : ActivatesAll settings options release product tree events (.ok products)) :
    requests serverOf events = activation options product :: extras options product tree ∧
      products = events.filterMap enrolled ∧
      products.map ProductService.product = (product :: companions product tree).map Product.triplet ∧
      (product.isBase = true → Fetched product tree events) := by
  cases course with
  | alone other ran =>
    obtain ⟨one,same⟩ := enrolled_enroll ran
    rw [turn_enroll.asks_once ran,one]
    simp [extras,companions,other,same]
  | whole base ran gathers low =>
    obtain ⟨one,same⟩ := enrolled_enroll ran
    obtain ⟨others,rest⟩ := enrolled_gathers gathers
    rw [requests_fetched ran,extras_eq base,turn_enroll.inOrder gathers,followed_eq low,List.filterMap_append,one]
    refine ⟨rfl,congrArg (_ :: ·) others.symm,?_,fun _ => fetched_gathers ran gathers⟩
    rw [followed_eq low] at rest
    simp [companions_eq base,same,rest]

theorem ActivatesAll.stopsAtFailure (course : ActivatesAll settings options release product tree events result) :
    StopsAtFailure events result := by
  have extending {row later : List Event} {value : ProductService}
      (ran : Ran (enroll settings options release product) row (.ok value)) (stops : StopsAtFailure later result) :
      StopsAtFailure (row ++ fetch product (.ok tree) :: later) result := by
    have passed : Succeeds (row ++ [fetch product (.ok tree)]) :=
      succeeds_append.mpr ⟨failsFast_enroll.succeeds ran,succeeds_cons.mpr ⟨rfl,succeeds_nil⟩⟩
    rw [List.append_cons]
    exact .append (fun event member => .inl (passed event member)) stops
  cases course with
  | refused failed => exact .of_halts (failsFast_enroll.halts failed)
  | alone _ ran => exact .of_succeeds (failsFast_enroll.succeeds ran)
  | treeless _ ran => exact .of_halts (.append (failsFast_enroll.succeeds ran) (halts_single rfl))
  | stopped _ ran breaks =>
    have failed := (failsFast_mapM fun _ => failsFast_enroll).halts (ran_mapM.mpr (.inr ⟨_,breaks,rfl⟩))
    exact extending ran (.of_halts failed)
  | tooDeep _ ran gathers _ =>
    have passed := (failsFast_mapM fun _ => failsFast_enroll).succeeds (ran_mapM.mpr (.inl ⟨_,gathers,rfl⟩))
    exact extending ran (.of_succeeds passed)
  | whole _ ran gathers _ =>
    have passed := (failsFast_mapM fun _ => failsFast_enroll).succeeds (ran_mapM.mpr (.inl ⟨_,gathers,rfl⟩))
    exact extending ran (.of_succeeds passed)

-- Release packages belong to the first row.
theorem ActivatesAll.first_row (course : ActivatesAll settings options release product tree events result) :
    ∃ row more reply, events = row ++ more ∧ Enrolls settings options release product row reply ∧
      requests releaseOf more = [] ∧ ∀ products, result = .ok products → ∃ value, reply = .ok value := by
  have unreleased : Asks (releaseOf · = none) ((followed tree).mapM (enroll settings options false)) :=
    asks_mapM fun _ => unreleased_enroll
  have gathered {row : List Event} {values : List ProductService}
      (gathers : Gathers (enroll settings options false) (followed tree) row values) :
      requests releaseOf (fetch product (.ok tree) :: row) = [] := by
    have silent := unreleased.requests_eq_nil (fun _ => id) (ran_mapM.mpr (.inl ⟨values,gathers,rfl⟩))
    exact silent
  have broken {row : List Event} {error : Error}
      (breaks : Breaks (enroll settings options false) (followed tree) row error) :
      requests releaseOf (fetch product (.ok tree) :: row) = [] := by
    have silent := unreleased.requests_eq_nil (fun _ => id) (ran_mapM.mpr (.inr ⟨error,breaks,rfl⟩))
    exact silent
  cases course with
  | refused failed => exact ⟨_,[],_,(List.append_nil _).symm,enrolls_of_ran failed,rfl,fun _ same => by cases same⟩
  | alone _ ran => exact ⟨_,[],_,(List.append_nil _).symm,enrolls_of_ran ran,rfl,fun _ _ => ⟨_,rfl⟩⟩
  | treeless _ ran => exact ⟨_,_,_,rfl,enrolls_of_ran ran,rfl,fun _ _ => ⟨_,rfl⟩⟩
  | stopped _ ran breaks => exact ⟨_,_,_,rfl,enrolls_of_ran ran,broken breaks,fun _ _ => ⟨_,rfl⟩⟩
  | tooDeep _ ran gathers _ => exact ⟨_,_,_,rfl,enrolls_of_ran ran,gathered gathers,fun _ _ => ⟨_,rfl⟩⟩
  | whole _ ran gathers _ => exact ⟨_,_,_,rfl,enrolls_of_ran ran,gathered gathers,fun _ _ => ⟨_,rfl⟩⟩

theorem ActivatesAll.opens (course : ActivatesAll settings options release product tree events result) :
    ∃ answer rest, events = enrollNote product :: ⟨.server (activation options product),answer⟩ :: rest ∧
      ∀ error, answer = .error error → rest = [] := by
  have enrolled {row more : List Event} {first : ProductService}
      (ran : Ran (enroll settings options release product) row (.ok first)) :
      ∃ answer rest, row ++ more = enrollNote product :: ⟨.server (activation options product),answer⟩ :: rest ∧
        ∀ error, answer = .error error → rest = [] := by
    obtain ⟨answer,rest,rfl,_⟩ := (enrolls_of_ran ran).opens
    exact ⟨answer,rest ++ more,rfl,fun error refused => nomatch ((enrolls_of_ran ran).refusal rfl refused).2⟩
  cases course with
  | refused failed =>
    obtain ⟨answer,rest,rfl,_⟩ := (enrolls_of_ran failed).opens
    exact ⟨answer,rest,rfl,fun error refused => ((enrolls_of_ran failed).refusal rfl refused).1⟩
  | alone _ ran => simpa only [List.append_nil] using @enrolled events [] _ ran
  | treeless _ ran => exact enrolled ran
  | stopped _ ran _ => exact enrolled ran
  | tooDeep _ ran _ _ => exact enrolled ran
  | whole _ ran _ _ => exact enrolled ran

theorem ActivatesAll.releases (course : ActivatesAll settings options release product tree events result) :
    requests releaseOf events <+: [product.name] ∧ ∀ products, result = .ok products →
      requests releaseOf events = if release && !settings.skipServiceInstall then [product.name] else [] := by
  obtain ⟨row,more,reply,rfl,enrolls,silent,yields⟩ := course.first_row
  obtain ⟨most,whole⟩ := enrolls.releases
  rw [requests_append,silent,List.append_nil]
  refine ⟨most,fun products same => ?_⟩
  obtain ⟨value,rfl⟩ := yields products same
  exact whole value rfl

theorem ActivatesAll.release_position {name : String} {reply : Result Unit}
    (course : ActivatesAll settings options release product tree events result)
    (parts : events = before ++ ⟨.packages (.installReleasePackage name),reply⟩ :: after) :
    settings.skipServiceInstall = false ∧ release = true ∧ name = product.name ∧
      ∃ service, before = readied settings options product service := by
  obtain ⟨row,more,reply,rfl,enrolls,silent,_⟩ := course.first_row
  rcases append_eq_split.mp parts with ⟨_,own,_⟩ | ⟨_,rfl,_⟩
  · exact enrolls.release_position own
  · cases unasked silent

end Course

end Entitlement.Registration
