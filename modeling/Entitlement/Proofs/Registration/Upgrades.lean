import Entitlement.Proofs.Registration.Turns
import Entitlement.Proofs.Registration.Restoration

-- The upgrade of a path on the server. It is executed in full or stops at the first product that is not upgraded or
-- whose service is not put in its place; what comes after the last product is not begun before.
namespace Entitlement.Registration

-- One product of a path.
def upgradeProduct (product : Product) : Action Unit := do
  info ("Upgrading product " ++ product.displayName)
  let service ← stepFor "Upgrading" product.displayName (server (.upgrade product))
  stepFor "Updating service of" product.displayName (reconcileService service)

-- The version of the last base product.
def pinnedVersion (version : String) (path : List Product) : String :=
  path.foldl (fun version product => if product.isBase then product.version else version) version

theorem upgradeProducts_eq (version : String) (path : List Product) :
    upgradeProducts version path = (do
      path.forM upgradeProduct
      return pinnedVersion version path) := by
  induction path generalizing version with
  | nil => rfl
  | cons product rest ih =>
    change upgradeProducts version (product :: rest) = (do
      (do upgradeProduct product; rest.forM upgradeProduct)
      return pinnedVersion version (product :: rest))
    simp only [upgradeProducts,ih,upgradeProduct,bind_assoc]
    rfl

def upgradeNote (product : Product) : Event :=
  ⟨.report .info ("Upgrading product " ++ product.displayName),()⟩

section Product

variable {product : Product}

theorem ran_upgradeProduct {result : Result Unit} :
    Ran (upgradeProduct product) events result ↔
      (∃ error, events = [upgradeNote product,⟨.server (.upgrade product),.error error⟩] ∧
        result = .error (.productStep "Upgrading" product.displayName error)) ∨
      ∃ service rest reconciled, events = upgradeNote product :: ⟨.server (.upgrade product),.ok service⟩ :: rest ∧
        Ran (reconcileService service) rest reconciled ∧
        result = reconciled.mapError (.productStep "Updating service of" product.displayName) := by
  unfold upgradeProduct stepFor
  rw [ran_info_bind]
  simp only [ran_bind,ran_adapt,ran_server]
  constructor
  · intro ran
    obtain ⟨_,rfl,⟨error,⟨reply,rfl,wrapped⟩,rfl⟩ |
      ⟨_,service,rest,rfl,⟨reply,rfl,wrapped⟩,reconciled,ran,rfl⟩⟩ := ran
    · cases reply with
      | ok service => cases wrapped
      | error cause => cases wrapped; exact .inl ⟨cause,rfl,rfl⟩
    · cases reply with
      | ok service => cases wrapped; exact .inr ⟨service,rest,reconciled,rfl,ran,rfl⟩
      | error cause => cases wrapped
  · intro ends
    rcases ends with ⟨error,rfl,rfl⟩ | ⟨service,rest,reconciled,rfl,ran,rfl⟩
    · exact ⟨_,rfl,.inl ⟨_,⟨.error error,rfl,rfl⟩,rfl⟩⟩
    · exact ⟨_,rfl,.inr ⟨[_],service,rest,rfl,⟨.ok service,rfl,rfl⟩,reconciled,ran,rfl⟩⟩

-- What is asked for a product.

theorem upgradeOf_of_local (q : Question) (isLocal : Local q) : upgradeOf q = none := by
  cases q with
  | server call => cases isLocal
  | _ => rfl

theorem synchronizeOf_of_local (q : Question) (isLocal : Local q) : synchronizeOf q = none := by
  cases q with
  | server call => cases isLocal
  | _ => rfl

theorem pinOf_of_maintainsServices (q : Question) (maintains : MaintainsServices q) : pinOf q = none := by
  cases q with
  | packages call => cases call <;> first | rfl | cases maintains
  | _ => rfl

theorem turn_upgradeProduct : Turn upgradeProduct upgradeNote .upgrade where
  quiet _ := rfl
  opens product events result ran := by
    rcases ran_upgradeProduct.mp ran with ⟨error,rfl,_⟩ | ⟨service,rest,reconciled,rfl,reconciling,_⟩
    · exact ⟨_,[],rfl,rfl⟩
    · exact ⟨_,rest,rfl,asksLocal_reconcileService.requests_eq_nil (fun _ => id) reconciling⟩

theorem asks_upgradeProduct : Asks (pinOf · = none) (upgradeProduct product) := by
  have reconciles {service : Service} : Asks (pinOf · = none) (reconcileService service) :=
    asks_reconcileService.mono pinOf_of_maintainsServices
  exact asks_bind (asks_ask rfl) fun _ => asks_bind (asks_adapt (asks_server rfl)) fun _ => asks_adapt reconciles

-- The error of a product is wrapped around that of the call that failed.
theorem upgradeProduct_halts (ran : Ran (upgradeProduct product) events (.error error)) :
    ∃ action cause, error = .productStep action product.displayName cause ∧ Halts events cause := by
  rcases ran_upgradeProduct.mp ran with ⟨cause,rfl,same⟩ | ⟨service,rest,reconciled,rfl,reconciling,same⟩
  · cases same
    exact ⟨_,cause,rfl,[upgradeNote product],_,rfl,succeeds_cons.mpr ⟨rfl,succeeds_nil⟩,rfl⟩
  · cases reconciled with
    | ok value => cases same
    | error cause =>
      cases same
      have passed : Succeeds [upgradeNote product,⟨.server (.upgrade product),.ok service⟩] :=
        succeeds_cons.mpr ⟨rfl,succeeds_cons.mpr ⟨rfl,succeeds_nil⟩⟩
      exact ⟨_,cause,rfl,.append passed (failsFast_reconcileService.halts reconciling)⟩

end Product

-- Products upgraded one after the other, each service put in its place before the next.
inductive Upgrades : List Product → List Event → Prop where
  | nil : Upgrades [] []
  | cons : Replaced service replacing → Upgrades rest later →
      Upgrades (product :: rest)
        (upgradeNote product :: ⟨.server (.upgrade product),.ok service⟩ :: (replacing ++ later))

section Row

variable {path : List Product} {values : List Unit}

theorem Upgrades.of_gathers (gathers : Gathers upgradeProduct path events values) : Upgrades path events := by
  induction gathers with
  | nil => exact .nil
  | cons ran _ ih =>
    rcases ran_upgradeProduct.mp ran with ⟨_,_,impossible⟩ | ⟨service,rest,reconciled,rfl,reconciling,same⟩
    · cases impossible
    · cases reconciled with
      | error cause => cases same
      | ok value => exact .cons (ran_reconcileService_ok.mp reconciling) ih

theorem upgrades_succeed (gathers : Gathers upgradeProduct path events values) : Succeeds events := by
  induction gathers with
  | nil => exact succeeds_nil
  | cons ran _ ih =>
    refine succeeds_append.mpr ⟨?_,ih⟩
    rcases ran_upgradeProduct.mp ran with ⟨_,_,impossible⟩ | ⟨service,rest,reconciled,rfl,reconciling,same⟩
    · cases impossible
    · cases reconciled with
      | error cause => cases same
      | ok value =>
        have passed := failsFast_reconcileService.succeeds reconciling
        exact succeeds_cons.mpr ⟨rfl,succeeds_cons.mpr ⟨rfl,passed⟩⟩

theorem requests_upgrades (gathers : Gathers upgradeProduct path events values) :
    requests upgradeOf events = path ∧ requests synchronizeOf events = [] ∧ requests pinOf events = [] := by
  have called := turn_upgradeProduct.inOrder gathers
  refine ⟨?_,?_,?_⟩
  · rw [requests_of_local upgradeOf_of_local,called,List.filterMap_map]
    exact (congrFun List.filterMap_eq_map' path).trans (List.map_id path)
  · rw [requests_of_local synchronizeOf_of_local,called,List.filterMap_map,List.filterMap_eq_nil_iff]
    exact fun _ _ => rfl
  · exact (asks_mapM fun _ => asks_upgradeProduct).requests_eq_nil (fun _ => id) (ran_mapM.mpr (.inl ⟨_,gathers,rfl⟩))

-- Where an upgrade stops, and why.
theorem upgrades_halt (breaks : Breaks upgradeProduct path events error) :
    ∃ done failing rest action cause, path = done ++ failing :: rest ∧ requests upgradeOf events = done ++ [failing] ∧
      requests synchronizeOf events = [] ∧ requests pinOf events = [] ∧
      error = .productStep action failing.displayName cause ∧ Halts events cause := by
  have unpinned : requests pinOf events = [] :=
    (asks_mapM fun _ => asks_upgradeProduct).requests_eq_nil (fun _ => id) (ran_mapM.mpr (.inr ⟨_,breaks,rfl⟩))
  obtain ⟨done,failing,rest,first,second,values,rfl,rfl,gathers,failed⟩ := breaks
  obtain ⟨upgraded,synchronized,_⟩ := requests_upgrades gathers
  obtain ⟨action,cause,rfl,halts⟩ := upgradeProduct_halts failed
  have last := turn_upgradeProduct.asks_once failed
  refine ⟨done,failing,rest,action,cause,rfl,?_,?_,unpinned,rfl,.append (upgrades_succeed gathers) halts⟩
  · rw [requests_append,upgraded,requests_of_local upgradeOf_of_local second,last]; rfl
  · rw [requests_append,synchronized,requests_of_local synchronizeOf_of_local second,last]; rfl

end Row

-- The courses of a migration on the server.

def migrationOpens (installed : List Product) : List Event :=
  [⟨.hasSystemCredentials,true⟩,⟨.packages .installedProducts,.ok installed⟩]

-- What the server is told of a system whose products are upgraded.
def synchronization (installed : List Product) (path : MigrationPath) (reply : Result (List Product)) : Event :=
  ⟨.server (.synchronize (MigrationPath.applyTo installed path)),reply⟩

-- The system is pinned to the version of its base product, if that is among those upgraded.
def pinning (version : String) : List Event :=
  if version.isEmpty then [] else [⟨.packages (.setReleaseVersion version),.ok ()⟩]

theorem requests_pinning {version : String} :
    requests serverOf (pinning version) = [] ∧ requests upgradeOf (pinning version) = [] := by
  unfold pinning
  split
  · exact ⟨rfl,rfl⟩
  · exact ⟨rfl,rfl⟩

inductive Migrates (path : MigrationPath) : List Event → Result String → Prop where
  | unregistered : Migrates path [⟨.hasSystemCredentials,false⟩] (.error .systemNotRegistered)
  | unlisted : Migrates path [⟨.hasSystemCredentials,true⟩,⟨.packages .installedProducts,.error error⟩] (.error error)
  | stopped : Breaks upgradeProduct path upgrading error →
      Migrates path (migrationOpens installed ++ upgrading) (.error error)
  | refused : Gathers upgradeProduct path upgrading values →
      Migrates path (migrationOpens installed ++ (upgrading ++ [synchronization installed path (.error error)]))
        (.error error)
  | unpinned : Gathers upgradeProduct path upgrading values →
      Migrates path (migrationOpens installed ++ (upgrading ++
          [synchronization installed path (.ok accepted),
            ⟨.packages (.setReleaseVersion (pinnedVersion "" path)),.error error⟩]))
        (.error error)
  | finished : Gathers upgradeProduct path upgrading values →
      Migrates path (migrationOpens installed ++ (upgrading ++
          synchronization installed path (.ok accepted) :: pinning (pinnedVersion "" path)))
        (.ok (pinnedVersion "" path))

theorem migrates_of_ran {path : MigrationPath} {result : Result String} (ran : Ran (migrateSystem path) events result) :
    Migrates path events result := by
  rcases ran_requireRegistration_bind.mp ran with ⟨rfl,rfl⟩ | ⟨_,rfl,registered⟩
  · exact .unregistered
  rcases ran_packages_bind.mp registered with ⟨error,rfl,rfl⟩ | ⟨installed,_,rfl,listed⟩
  · exact .unlisted
  rw [upgradeProducts_eq,bind_assoc] at listed
  rcases ran_bind.mp listed with ⟨error,failed,rfl⟩ | ⟨upgrading,⟨⟩,_,rfl,passed,upgraded⟩
  · rcases ran_forM.mp failed with ⟨_,_,impossible⟩ | ⟨_,breaks,same⟩
    · cases impossible
    · cases same; exact .stopped breaks
  rcases ran_forM.mp passed with ⟨values,gathers,_⟩ | ⟨_,_,impossible⟩
  · rw [pure_bind] at upgraded
    rcases ran_server_bind.mp upgraded with ⟨error,rfl,rfl⟩ | ⟨accepted,_,rfl,synchronized⟩
    · exact .refused gathers
    have closed : Migrates path (migrationOpens installed ++ (upgrading ++
        synchronization installed path (.ok accepted) :: pinning (pinnedVersion "" path)))
        (.ok (pinnedVersion "" path)) := .finished gathers
    cases empty : (pinnedVersion "" path).isEmpty with
    | true =>
      simp only [empty,Bool.not_true,Bool.false_eq_true,if_false] at synchronized
      obtain ⟨rfl,rfl⟩ := ran_pure.mp synchronized
      simp only [pinning,empty,if_true] at closed
      exact closed
    | false =>
      simp only [empty,Bool.not_false,if_true] at synchronized
      rcases ran_packages_bind.mp synchronized with ⟨error,rfl,rfl⟩ | ⟨_,_,rfl,last⟩
      · exact .unpinned gathers
      · obtain ⟨rfl,rfl⟩ := ran_pure.mp last
        simp only [pinning,empty,Bool.false_eq_true,if_false] at closed
        exact closed
  · cases impossible

section Courses

variable {path : MigrationPath} {result : Result String}

-- Past the last product only the whole system is asked for.
theorem Migrates.parts (migrates : Migrates path events result) :
    requests upgradeOf events = [] ∨
    (∃ installed upgrading error, events = migrationOpens installed ++ upgrading ∧
      Breaks upgradeProduct path upgrading error ∧ result = .error error) ∨
    ∃ installed upgrading values reply closing,
      events = migrationOpens installed ++ (upgrading ++ synchronization installed path reply :: closing) ∧
      Gathers upgradeProduct path upgrading values ∧
      requests upgradeOf (synchronization installed path reply :: closing) = [] := by
  cases migrates with
  | unregistered => exact .inl rfl
  | unlisted => exact .inl rfl
  | stopped breaks => exact .inr (.inl ⟨_,_,_,rfl,breaks,rfl⟩)
  | refused gathers => exact .inr (.inr ⟨_,_,_,_,_,rfl,gathers,rfl⟩)
  | unpinned gathers => exact .inr (.inr ⟨_,_,_,_,_,rfl,gathers,rfl⟩)
  | finished gathers => exact .inr (.inr ⟨_,_,_,_,_,rfl,gathers,requests_pinning.2⟩)

theorem Migrates.ordered (migrates : Migrates path events result) : requests upgradeOf events <+: path := by
  rcases migrates.parts with silent | ⟨_,upgrading,_,rfl,breaks,_⟩ | ⟨_,upgrading,_,_,_,rfl,gathers,quiet⟩
  · exact silent ▸ List.nil_prefix
  · obtain ⟨done,failing,rest,_,_,rfl,asked,_⟩ := upgrades_halt breaks
    change requests upgradeOf upgrading <+: _
    exact ⟨rest,by simp [asked]⟩
  · rw [requests_append,requests_append,(requests_upgrades gathers).1,quiet,List.append_nil]
    exact List.prefix_rfl

theorem Upgrades.of_turn {row : List Event} (turns : InTurn upgradeProduct upgradeNote .upgrade path row)
    (parts : row = before ++ ⟨.server (.upgrade product),answer⟩ :: after) :
    ∃ upgrading, before = upgrading ++ [upgradeNote product] ∧ Upgrades (requests upgradeOf before) upgrading := by
  obtain ⟨done,item,rest,first,values,_,rfl,same,gathers⟩ := turns _ _ _ _ parts
  cases same
  refine ⟨first,rfl,?_⟩
  rw [requests_append,(requests_upgrades gathers).1]
  exact (List.append_nil done).symm ▸ .of_gathers gathers

theorem Migrates.inTurn (migrates : Migrates path events result)
    (parts : events = before ++ ⟨.server (.upgrade product),answer⟩ :: after) :
    ∃ installed upgrading, before = migrationOpens installed ++ (upgrading ++ [upgradeNote product]) ∧
      Upgrades (requests upgradeOf before) upgrading := by
  have asked : upgradeOf (.server (.upgrade product)) ≠ none := Option.some_ne_none product
  rcases migrates.parts with silent | ⟨installed,upgrading,_,rfl,breaks,_⟩ | ⟨installed,_,_,_,_,rfl,gathers,quiet⟩
  · rw [parts] at silent
    cases unasked silent
  · rw [← List.append_nil upgrading] at parts
    obtain ⟨_,_,rfl,row⟩ := within_row parts rfl rfl asked
    obtain ⟨done,rfl,upgraded⟩ := Upgrades.of_turn (turn_upgradeProduct.inTurn_breaks breaks) row
    exact ⟨installed,done,rfl,upgraded⟩
  · obtain ⟨_,_,rfl,row⟩ := within_row parts rfl quiet asked
    obtain ⟨done,rfl,upgraded⟩ := Upgrades.of_turn (turn_upgradeProduct.inTurn_gathers gathers) row
    exact ⟨installed,done,rfl,upgraded⟩

-- Where a product is not upgraded, or its service is not put in its place, nothing more is asked.
structure StopsAt (path : MigrationPath) (events : List Event) (result : Result String) (cause : Error) : Prop where
  unsynchronized : requests synchronizeOf events = []
  unpinned : requests pinOf events = []
  named : ∃ done product rest action error, path = done ++ product :: rest ∧
    requests upgradeOf events = done ++ [product] ∧ result = .error error ∧
    error = .productStep action product.displayName cause ∧ error.apiCode = cause.apiCode ∧
    error.exitCode = cause.exitCode

theorem succeeds_migrationOpens (installed : List Product) : Succeeds (migrationOpens installed) :=
  succeeds_cons.mpr ⟨rfl,succeeds_cons.mpr ⟨rfl,succeeds_nil⟩⟩

theorem Migrates.stopsAt (migrates : Migrates path events result) (parts : events = before ++ event :: after)
    (failed : errorOf event = some cause) (begun : requests upgradeOf (before ++ [event]) ≠ [])
    (unsynchronized : requests synchronizeOf (before ++ [event]) = []) :
    after = [] ∧ StopsAt path events result cause := by
  have whole : events = (before ++ [event]) ++ after := by simp [parts]
  rcases migrates.parts with silent | ⟨installed,upgrading,_,same,breaks,ended⟩ |
    ⟨installed,upgrading,_,_,_,same,gathers,_⟩
  · rw [whole,requests_append] at silent
    exact absurd (List.append_eq_nil_iff.mp silent).1 begun
  · obtain ⟨done,product,rest,action,_,rfl,asked,unsynchronized,unpinned,rfl,halts⟩ := upgrades_halt breaks
    have stops := Halts.append (succeeds_migrationOpens installed) halts
    rw [← same,parts] at stops
    obtain ⟨rfl,rfl⟩ := stops.at_end failed
    rw [same]
    exact ⟨rfl,unsynchronized,unpinned,done,product,rest,action,_,rfl,asked,ended,rfl,rfl,rfl⟩
  · rw [same,← List.append_assoc] at parts
    rcases append_eq_split.mp parts with ⟨between,early,_⟩ | ⟨between,late,rfl⟩
    · have passed := succeeds_append.mpr ⟨succeeds_migrationOpens installed,upgrades_succeed gathers⟩
      have passes := passed event (by rw [early]; simp)
      rw [failed] at passes
      cases passes
    · -- The call comes after the synchronization or is that call itself.
      cases between with
      | nil =>
        obtain ⟨rfl,_⟩ := List.cons.inj late
        cases unasked unsynchronized
      | cons head between =>
        obtain ⟨rfl,_⟩ := List.cons.inj late
        rw [List.append_assoc,List.append_assoc,List.cons_append] at unsynchronized
        cases unasked unsynchronized

theorem Migrates.complete (migrates : Migrates path events result) (passed : Succeeds events)
    (registered : ⟨.hasSystemCredentials,true⟩ ∈ events) : ∃ version, result = .ok version := by
  cases migrates with
  | unregistered => simp at registered
  | @unlisted error => cases passed ⟨.packages .installedProducts,.error error⟩ (by simp)
  | stopped breaks =>
    obtain ⟨_,_,_,_,_,_,_,_,_,_,before,last,rfl,_,failed⟩ := upgrades_halt breaks
    have passes := passed last (by simp)
    rw [failed] at passes
    cases passes
  | @refused _ _ installed error _ => cases passed (synchronization installed path (.error error)) (by simp)
  | @unpinned _ _ _ _ error _ =>
    cases passed ⟨.packages (.setReleaseVersion (pinnedVersion "" path)),.error error⟩ (by simp)
  | finished _ => exact ⟨_,rfl⟩

-- What a migration that succeeds has asked for.
structure Finishes (path : MigrationPath) (events : List Event) (version : String) : Prop where
  parts : ∃ installed upgrading accepted,
    events = migrationOpens installed ++
      (upgrading ++ synchronization installed path (.ok accepted) :: pinning version) ∧
    Upgrades path upgrading ∧ requests pinOf upgrading = [] ∧
    requests serverOf events = path.map .upgrade ++ [.synchronize (MigrationPath.applyTo installed path)]
  upgraded : requests upgradeOf events = path
  version_eq : version = pinnedVersion "" path

theorem Migrates.finishes (migrates : Migrates path events (.ok version)) : Finishes path events version := by
  cases migrates with
  | @finished upgrading _ installed accepted gathers =>
    have called := turn_upgradeProduct.inOrder gathers
    obtain ⟨upgraded,_,unpinned⟩ := requests_upgrades gathers
    have asked : requests serverOf (migrationOpens installed) = [] := rfl
    refine ⟨⟨installed,upgrading,accepted,rfl,.of_gathers gathers,unpinned,?_⟩,?_,rfl⟩
    · rw [requests_append,requests_append,called,asked,List.nil_append,List.append_cancel_left_eq]
      exact congrArg (ServerCall.synchronize (MigrationPath.applyTo installed path) :: ·) requests_pinning.1
    · rw [requests_append,requests_append,upgraded]
      exact (congrArg (path ++ ·) requests_pinning.2).trans (List.append_nil path)

end Courses

-- A path is upgraded in full, or up to the first product of it that fails.
structure UpgradedOrStopped (path : MigrationPath) (events : List Event) (result : Result String) : Prop where
  ordered : requests upgradeOf events <+: path
  inTurn : ∀ before product answer after, events = before ++ ⟨.server (.upgrade product),answer⟩ :: after →
    ∃ installed upgrading, before = migrationOpens installed ++ (upgrading ++ [upgradeNote product]) ∧
      Upgrades (requests upgradeOf before) upgrading
  stopped : ∀ before event after cause, events = before ++ event :: after → errorOf event = some cause →
    requests upgradeOf (before ++ [event]) ≠ [] → requests synchronizeOf (before ++ [event]) = [] →
    after = [] ∧ StopsAt path events result cause
  complete : Succeeds events → ⟨.hasSystemCredentials,true⟩ ∈ events → ∃ version, result = .ok version
  finished : ∀ version, result = .ok version → Finishes path events version

theorem migrateSystem_upgradedOrStopped {path : MigrationPath} {result : Result String}
    (ran : Ran (migrateSystem path) events result) : UpgradedOrStopped path events result := by
  have migrates := migrates_of_ran ran
  refine ⟨migrates.ordered,?_,?_,migrates.complete,?_⟩
  · intro before product answer after parts
    exact migrates.inTurn parts
  · intro before event after cause parts failed begun unsynchronized
    exact migrates.stopsAt parts failed begun unsynchronized
  · intro version same
    cases same
    exact migrates.finishes

-- A server that upgrades all but one product.
def refusing (product : Product) : Program.Behaviour collaboration
  | _, .server (.upgrade other) => if other.same product then .error (.api 422 "not eligible") else .ok (serviceOf other)
  | past, q => obliging true [server154,desktop154] server154 past q

def server155 : Product := { server154 with version := "15.5" }

def desktop155 : Product := { desktop154 with version := "15.5" }

theorem desktop_not_upgraded :
    let ran := Program.play (refusing desktop155) [] (migrateSystem [server155,desktop155,server154]).run
    UpgradedOrStopped [server155,desktop155,server154] ran.1 ran.2 ∧
      requests upgradeOf ran.1 = [server155,desktop155] ∧ requests synchronizeOf ran.1 = [] ∧
      ran.2 = .error (.productStep "Upgrading" desktop155.displayName (.api 422 "not eligible")) :=
  ⟨migrateSystem_upgradedOrStopped (Program.runs_play (refusing desktop155) []
    (migrateSystem [server155,desktop155,server154]).run),rfl,rfl,rfl⟩

end Entitlement.Registration
