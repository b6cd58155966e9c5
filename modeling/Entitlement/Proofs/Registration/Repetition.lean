import Entitlement.Proofs.Registration.DepartureOrder
import Entitlement.Proofs.Registration.RegisterOrder

-- How often a product is asked for in one run. The trees of the server are not cleared of repetitions, and an extension
-- is visited under every parent that it occurs under: a run asks for it once for each of its occurrences, and so only
-- once where no product is listed twice.
namespace Entitlement.Registration

def AtMostOnce (products : List Product) : Prop := (products.map Product.triplet).Nodup

instance (products : List Product) : Decidable (AtMostOnce products) :=
  inferInstanceAs (Decidable (products.map Product.triplet).Nodup)

-- The products that calls were made for, against those that a run goes through.
structure OncePerOccurrence (through asked : List Product) (finished : Prop) : Prop where
  bounded : ∀ triplet, (asked.map Product.triplet).count triplet ≤ (through.map Product.triplet).count triplet
  whole : finished →
    ∀ triplet, (asked.map Product.triplet).count triplet = (through.map Product.triplet).count triplet
  once : AtMostOnce through → AtMostOnce asked

-- The order in which a run goes through its products is of no matter here.
theorem oncePerOccurrence_of_ordered {order through asked : List Product} {finished : Prop} (ordered : asked <+: order)
    (complete : finished → asked = order) (same : order.Perm through) : OncePerOccurrence through asked finished where
  bounded triplet := by
    rw [← (same.map Product.triplet).count_eq triplet]
    exact (ordered.sublist.map Product.triplet).count_le triplet
  whole ended triplet := by
    rw [complete ended]
    exact (same.map Product.triplet).count_eq triplet
  once distinct := ((same.map Product.triplet).nodup_iff.mpr distinct).sublist (ordered.sublist.map Product.triplet)

variable {settings : Settings} {options : RegisterOptions} {system : SystemInfo}

-- Registration. A base product that is activated without its tree is one of a run that fails.

def Activates (options : RegisterOptions) (events : List Event) (result : Result RegisterOutcome) : Prop :=
  (requests activateOf events = [] ∧ ∃ error, result = .error error) ∨
  ∃ product release looking, looking <+: events ∧ Chosen options.product product release looking ∧
    (Treeless events ∧ ((∃ outcome, result = .ok outcome) → product.isBase = false) ∧
        OncePerOccurrence [product] (requests activateOf events) (∃ outcome, result = .ok outcome) ∨
      ∃ tree, Fetched product tree events ∧
        OncePerOccurrence (product :: companions product tree) (requests activateOf events)
          (∃ outcome, result = .ok outcome))

theorem Registers.activates {known : Bool} {product tree : Product} {result : Result RegisterOutcome}
    (registers : Registers settings options system known product tree events result) :
    Activates options events result := by
  obtain ⟨looking,release,opens,choice⟩ := registers.chosen
  have complete : (∃ outcome, result = .ok outcome) →
      requests activateOf events = product :: companions product tree := by
    intro ended
    obtain ⟨outcome,same⟩ := ended
    exact (registers.complete outcome same).2.2.1
  refine .inr ⟨product,release,looking,opens,choice,?_⟩
  rcases registers.fetched with fetched | ⟨treeless,alone⟩
  · exact .inr ⟨tree,fetched,oncePerOccurrence_of_ordered registers.activated complete (.refl _)⟩
  · refine .inl ⟨treeless,fun ended => ?_,oncePerOccurrence_of_ordered alone (fun ended => ?_) (.refl _)⟩
    · obtain ⟨outcome,same⟩ := ended
      have fetches := (registers.complete outcome same).2.2.2.2.2.1
      exact Bool.eq_false_iff.mpr fun base => (fetches base).not_treeless treeless
    · rw [complete ended] at alone ⊢
      rw [List.prefix_nil.mp (List.cons_prefix_cons.mp alone).2]

theorem activates_of_ran {result : Result RegisterOutcome} (ran : Ran (register settings options system) events result) :
    Activates options events result := by
  rcases ran_register ran with ⟨error,failed,rfl⟩ |
    ⟨_,_,_,_,_,_,_,_,rfl,chosen,introduces,proceeds⟩
  · refine .inl ⟨?_,error,rfl⟩
    rw [requests_of_local activateOf_of_local,(undetected_of_ran failed).silent]
    rfl
  · exact (registers_of_proceeds chosen introduces proceeds).activates

-- Deregistration.

def Deactivates (settings : Settings) (events : List Event) (result : Result DeregisterOutcome) : Prop :=
  (requests deactivateOf events = [] ∧ ∃ error, result = .error error) ∨
  ∃ login reported installed base tree rest,
    events = admission settings login ++ (surveyed reported installed base tree ++ rest) ∧
    findBase reported = some base ∧
    OncePerOccurrence (base :: tree.descendants.filter (isListed installed)) (requests deactivateOf events)
      (∃ outcome, result = .ok outcome)

theorem deactivateOf_of_surveys (q : Question) (surveys : Surveys q) : deactivateOf q = none := by
  cases q with
  | server call => cases call <;> first | rfl | cases surveys
  | _ => rfl

theorem LeavesInOrder.oncePerOccurrence {installed : List Product} {base tree : Product}
    {result : Result (List ProductService)}
    (leaves : LeavesInOrder settings installed base tree events result) :
    OncePerOccurrence (base :: tree.descendants.filter (isListed installed)) (requests deactivateOf events)
      (∃ products, result = .ok products) := by
  refine oncePerOccurrence_of_ordered leaves.ordered (fun ⟨products,same⟩ => leaves.complete products same) ?_
  rw [leaves.preorder]
  exact (List.perm_append_singleton base _).trans ((List.reverse_perm _).cons base)

theorem deactivates_of_ran {result : Result DeregisterOutcome} (ran : Ran (deregister settings none) events result) :
    Deactivates settings events result := by
  rcases ran_deregister ran with kept | ⟨login,row,left,cleaning,rfl,departed,cleaned,rfl⟩
  · cases kept with
    | guest => exact .inl ⟨rfl,_,rfl⟩
    | unregistered => exact .inl ⟨rfl,_,rfl⟩
  have after : requests deactivateOf cleaning = [] := by
    rw [requests_of_local deactivateOf_of_local,(cleanUpRegistration_listsOnce cleaned).1]
    rfl
  have within : requests deactivateOf (admission settings login ++ (row ++ cleaning)) = requests deactivateOf row := by
    rw [requests_append,requests_append,after,List.append_nil]
    rfl
  rcases ran_deregisterSystem departed with unsurveyed | ⟨reported,installed,base,tree,rest,rfl,detected,leaves⟩
  · obtain ⟨error,rfl⟩ := unsurveyed.fails
    refine .inl ⟨?_,error,rfl⟩
    rw [within]
    exact List.filterMap_eq_nil_iff.mpr fun event member => deactivateOf_of_surveys _ (unsurveyed.asks event member)
  · refine .inr ⟨login,reported,installed,base,tree,rest ++ cleaning,by simp,detected,?_⟩
    have once := leaves.oncePerOccurrence
    have same : requests deactivateOf (surveyed reported installed base tree ++ rest) = requests deactivateOf rest := rfl
    rw [within,same]
    refine ⟨once.bounded,fun ended => once.whole ?_,once.once⟩
    cases left with
    | ok products => exact ⟨products,rfl⟩
    | error error =>
      obtain ⟨_,impossible⟩ := ended
      cases impossible

-- Rollback. Here too, a run that comes to its end has fetched the tree.

def Downgrades (events : List Event) (result : Result Unit) : Prop :=
  (requests downgradeOf events = [] ∧ ∃ error, result = .error error) ∨
  ∃ reported base row, events = rollbackOpens reported ++ row ∧ findBase reported = some base ∧
    (Treeless events ∧ (∃ error, result = .error error) ∧
        OncePerOccurrence [base] (requests downgradeOf events) (result = .ok ()) ∨
      ∃ first installed tree later, row = first ++ (rollbackLooks installed base tree ++ later) ∧
        events.filterMap treeOf = [tree] ∧
        OncePerOccurrence (base :: tree.descendants.filter (isListed installed)) (requests downgradeOf events)
          (result = .ok ()))

theorem turn_downgradeProduct : Turn downgradeProduct downgradeNote .downgrade where
  quiet _ := rfl
  opens product events result ran := by
    obtain ⟨_,rfl,asked⟩ := ran_info_bind.mp ran
    rcases ran_server_bind.mp asked with ⟨error,rfl,_⟩ | ⟨service,rest,rfl,reconciled⟩
    · exact ⟨_,[],rfl,rfl⟩
    · exact ⟨_,rest,rfl,asksLocal_reconcileService.requests_eq_nil (fun _ => id) reconciled⟩

theorem downgradeOf_of_local (q : Question) (isLocal : Local q) : downgradeOf q = none := by
  cases q with
  | server call => cases isLocal
  | _ => rfl

theorem downgrades_once {product : Product} {result : Result Unit} (ran : Ran (downgradeProduct product) events result) :
    requests downgradeOf events = [product] := by
  rw [requests_of_local downgradeOf_of_local,turn_downgradeProduct.asks_once ran]
  rfl

theorem treeless_downgradeProduct {product : Product} {result : Result Unit}
    (ran : Ran (downgradeProduct product) events result) : Treeless events := by
  apply Treeless.of_calls
  rw [turn_downgradeProduct.asks_once ran]
  rfl

-- The extensions, and what the server and the package manager are told after them.
def restore (installed : List Product) (base : Product) (extensions : List Product) : Action Unit := do
  extensions.forM downgradeProduct
  let _ ← server (.synchronize installed)
  packages (.setReleaseVersion base.version)

theorem downgrades_restore {installed extensions : List Product} {base : Product} {result : Result Unit}
    (ran : Ran (restore installed base extensions) events result) :
    requests downgradeOf events <+: extensions ∧ (result = .ok () → requests downgradeOf events = extensions) := by
  have each : ∀ (item : Product) (row : List Event) (reply : Result Unit), Ran (downgradeProduct item) row reply →
      requests downgradeOf row = [id item] := fun _ _ _ ran => downgrades_once ran
  rcases ran_bind.mp ran with ⟨error,failed,rfl⟩ | ⟨row,_,closing,rfl,downgraded,last⟩
  · rcases ran_forM.mp failed with ⟨_,_,impossible⟩ | ⟨_,breaks,_⟩
    · cases impossible
    · refine ⟨?_,fun impossible => nomatch impossible⟩
      simpa using breaks.requests_begin each
  · rcases ran_forM.mp downgraded with ⟨_,gathers,_⟩ | ⟨_,_,impossible⟩
    · have silent : requests downgradeOf closing = [] := by
        rcases ran_server_bind.mp last with ⟨_,rfl,_⟩ | ⟨_,_,rfl,pinned⟩
        · rfl
        · cases ran_packages.mp pinned
          rfl
      have all : requests downgradeOf (row ++ closing) = extensions := by
        rw [requests_append,silent,List.append_nil,gathers.requests_eq each,List.map_id]
      exact ⟨all ▸ List.prefix_rfl,fun _ => all⟩
    · cases impossible

-- A question that is not for a tree.
def Untreed (q : Question) : Prop := ∀ answer, treeOf ⟨q,answer⟩ = none

theorem treeless_restore {installed extensions : List Product} {base : Product} {result : Result Unit}
    (ran : Ran (restore installed base extensions) events result) : Treeless events := by
  have downgrading {product : Product} : Asks Untreed (downgradeProduct product) :=
    asks_bind (asks_ask fun _ => rfl) fun _ => asks_bind (asks_server fun _ => rfl) fun _ =>
      asks_reconcileService.mono fun _ maintains answer => treeOf_of_maintainsServices ⟨_,answer⟩ maintains
  have asks : Asks Untreed (restore installed base extensions) :=
    asks_bind (asks_forM fun _ => downgrading) fun _ => asks_bind (asks_server fun _ => rfl) fun _ =>
      asks_packages fun _ => rfl
  exact List.filterMap_eq_nil_iff.mpr fun event member => asks _ _ ran event member event.answer

-- Until there is a tree, the base product is the only one.
theorem downgrades_alone {reported : List Product} {base : Product} {row : List Event}
    (detected : findBase reported = some base) (only : requests downgradeOf row = [base]) (treeless : Treeless row) :
    Downgrades (rollbackOpens reported ++ row) (.error error) := by
  have all : requests downgradeOf (rollbackOpens reported ++ row) = [base] := only
  exact .inr ⟨reported,base,row,rfl,detected,.inl ⟨treeless,⟨_,rfl⟩,oncePerOccurrence_of_ordered (all ▸ List.prefix_rfl)
    (fun impossible => nomatch impossible) (.refl _)⟩⟩

theorem downgrades_through {reported installed : List Product} {base tree : Product} {first row : List Event}
    {result : Result Unit} (detected : findBase reported = some base)
    (opening : requests downgradeOf first = [base] ∧ Treeless first)
    (most : requests downgradeOf row <+: tree.descendants.filter (isListed installed)) (treeless : Treeless row)
    (whole : result = .ok () → requests downgradeOf row = tree.descendants.filter (isListed installed)) :
    Downgrades (rollbackOpens reported ++ (first ++ (rollbackLooks installed base tree ++ row))) result := by
  obtain ⟨only,treelessFirst⟩ := opening
  have all : requests downgradeOf (rollbackOpens reported ++ (first ++ (rollbackLooks installed base tree ++ row))) =
      base :: requests downgradeOf row := by
    rw [requests_append,requests_append,only]
    rfl
  have trees : (first ++ (rollbackLooks installed base tree ++ row)).filterMap treeOf = [tree] := by
    rw [List.filterMap_append,List.filterMap_append,treelessFirst,treeless]
    rfl
  refine .inr ⟨reported,base,_,rfl,detected,.inr ⟨first,installed,tree,row,rfl,trees,?_⟩⟩
  rw [all]
  refine oncePerOccurrence_of_ordered (List.cons_prefix_cons.mpr ⟨rfl,most⟩) (fun ended => ?_) (.refl _)
  rw [whole ended]

theorem downgrades_of_ran {result : Result Unit} (ran : Ran rollback events result) : Downgrades events result := by
  rcases ran_requireRegistration_bind.mp ran with ⟨rfl,rfl⟩ | ⟨_,rfl,guarded⟩
  · exact .inl ⟨rfl,_,rfl⟩
  obtain ⟨_,rfl,started⟩ := ran_info_bind.mp guarded
  rcases ran_bind.mp started with ⟨error,failed,rfl⟩ | ⟨_,base,_,rfl,found,detected⟩
  · rcases ran_baseProduct_error.mp failed with rfl | ⟨_,rfl,_⟩
    · exact .inl ⟨rfl,_,rfl⟩
    · exact .inl ⟨rfl,_,rfl⟩
  obtain ⟨reported,rfl,detection⟩ := ran_baseProduct_ok.mp found
  rcases ran_bind.mp detected with ⟨error,failed,rfl⟩ | ⟨first,_,rest,rfl,downgraded,later⟩
  · exact downgrades_alone detection (downgrades_once failed) (treeless_downgradeProduct failed)
  have opening : requests downgradeOf first = [base] ∧ Treeless first :=
    ⟨downgrades_once downgraded,treeless_downgradeProduct downgraded⟩
  have stopping {rest : List Event} {error : Error} (quiet : requests downgradeOf rest = []) (treeless : Treeless rest) :
      Downgrades (rollbackOpens reported ++ (first ++ rest)) (.error error) := by
    refine downgrades_alone detection ?_ (opening.2.append treeless)
    rw [requests_append,opening.1,quiet]
    rfl
  rcases ran_packages_bind.mp later with ⟨error,rfl,rfl⟩ | ⟨installed,_,rfl,listed⟩
  · exact stopping rfl rfl
  rcases ran_server_bind.mp listed with ⟨error,rfl,rfl⟩ | ⟨tree,_,rfl,fetched⟩
  · exact stopping rfl rfl
  rcases ran_bind.mp fetched with ⟨error,failed,rfl⟩ | ⟨_,extensions,row,rfl,selected,restored⟩
  · obtain ⟨rfl,_⟩ := ran_settled.mp failed
    exact downgrades_through detection opening List.nil_prefix rfl fun impossible => nomatch impossible
  obtain ⟨rfl,same⟩ := ran_settled.mp selected
  obtain ⟨_,rfl⟩ := installedExtensions_ok.mp same.symm
  obtain ⟨most,whole⟩ := downgrades_restore restored
  exact downgrades_through detection opening most (treeless_restore restored) whole

-- No run asks for a product more often than it is listed.
theorem mutations_oncePerOccurrence :
    (∀ settings options system events result, Ran (register settings options system) events result →
      Activates options events result) ∧
    (∀ settings events result, Ran (deregister settings none) events result →
      Deactivates settings events result) ∧
    ∀ events result, Ran rollback events result → Downgrades events result :=
  ⟨fun _ _ _ _ _ ran => activates_of_ran ran,fun _ _ _ ran => deactivates_of_ran ran,
    fun _ _ ran => downgrades_of_ran ran⟩

theorem desktop_oncePerOccurrence :
    let world := obliging true [server154,desktop154,python154]
      { server154 with extensions := [{ desktop154 with extensions := [recommendedPython] }] }
    let registering := Program.play world [] (register {} {} default).run
    let departing := Program.play world [] (deregister {} none).run
    let restoring := Program.play world [] rollback.run
    (Activates {} registering.1 registering.2 ∧ AtMostOnce (requests activateOf registering.1)) ∧
      (Deactivates {} departing.1 departing.2 ∧ AtMostOnce (requests deactivateOf departing.1)) ∧
      Downgrades restoring.1 restoring.2 ∧ AtMostOnce (requests downgradeOf restoring.1) := by
  intro world registering departing restoring
  obtain ⟨registers,departs,restores⟩ := mutations_oncePerOccurrence
  refine ⟨⟨registers _ _ _ _ _ (Program.runs_play world [] (register {} {} default).run),?_⟩,
    ⟨departs _ _ _ (Program.runs_play world [] (deregister {} none).run),?_⟩,
    restores _ _ (Program.runs_play world [] rollback.run),?_⟩
  · decide +kernel
  · decide +kernel
  · decide +kernel

def basesystem154 : Product := Product.ofTriplet ⟨"sle-module-basesystem","15.4","x86_64"⟩

-- One extension on top of two others.
def sharing : Product :=
  { server154 with extensions := [{ basesystem154 with extensions := [recommendedPython] },
    { desktop154 with extensions := [recommendedPython] }] }

theorem shared_extension_repeats :
    let world := obliging true [server154,basesystem154,desktop154,python154] sharing
    let registering := Program.play world [] (register {} {} default).run
    let departing := Program.play world [] (deregister {} none).run
    let restoring := Program.play world [] rollback.run
    (Ran (register {} {} default) registering.1 registering.2 ∧ ¬ AtMostOnce (requests activateOf registering.1)) ∧
      (Ran (deregister {} none) departing.1 departing.2 ∧ ¬ AtMostOnce (requests deactivateOf departing.1)) ∧
      Ran rollback restoring.1 restoring.2 ∧ ¬ AtMostOnce (requests downgradeOf restoring.1) := by
  intro world registering departing restoring
  refine ⟨⟨Program.runs_play world [] (register {} {} default).run,?_⟩,
    ⟨Program.runs_play world [] (deregister {} none).run,?_⟩,Program.runs_play world [] rollback.run,?_⟩
  · decide +kernel
  · decide +kernel
  · decide +kernel

end Entitlement.Registration
