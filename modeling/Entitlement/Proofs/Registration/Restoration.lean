import Entitlement.Proofs.Registration.MigrationCourse

-- What a migration that was rolled back leaves behind. The calls fall into two rows, those of the migration up to
-- the one that failed and those of the rollback. The second row alone decides what the server and the package
-- manager were told last, and it is the same wherever the first one stopped.
namespace Entitlement.Registration

def upgradeOf : Question → Option Product
  | .server (.upgrade product) => some product
  | _ => none

def downgradeOf : Question → Option Product
  | .server (.downgrade product) => some product
  | _ => none

def synchronizeOf : Question → Option (List Product)
  | .server (.synchronize products) => some products
  | _ => none

def pinOf : Question → Option String
  | .packages (.setReleaseVersion version) => some version
  | _ => none

theorem downgradeOf_of_maintainsServices (q : Question) (maintains : MaintainsServices q) : downgradeOf q = none := by
  cases q with
  | server call => cases maintains
  | _ => rfl

theorem downgradeOf_of_prepares (q : Question) (prepares : Prepares q) : downgradeOf q = none := by
  cases q with
  | server call => cases call <;> first | rfl | cases prepares
  | _ => rfl

theorem upgradeOf_of_rollsBack (q : Question) (rollsBack : RollsBack q) : upgradeOf q = none := by
  cases q with
  | server call => cases call <;> first | rfl | cases rollsBack
  | _ => rfl

theorem treeOf_of_maintainsServices (event : Event) (maintains : MaintainsServices event.question) : treeOf event = none := by
  obtain ⟨q,answer⟩ := event
  cases q with
  | server call => cases maintains
  | _ => rfl

-- Every downgrade is answered with a service, which is in its place before anything else is asked.
def Reconciled (events : List Event) : Prop :=
  ∀ before product answer after, events = before ++ ⟨.server (.downgrade product),answer⟩ :: after →
    ∃ service replacing rest, answer = .ok service ∧ after = replacing ++ rest ∧ Replaced service replacing

theorem Reconciled.append (first : Reconciled a) (second : Reconciled b) : Reconciled (a ++ b) := by
  intro before product answer after same
  rcases List.append_eq_append_iff.mp same with ⟨gap,_,rest⟩ | ⟨gap,whole,rest⟩
  · exact second gap product answer after rest
  · cases gap with
    | nil => exact second [] product answer after rest.symm
    | cons head tail =>
      obtain ⟨rfl,rfl⟩ := List.cons.inj rest
      obtain ⟨service,replacing,left,answered,rfl,replaced⟩ := first before product answer tail whole
      exact ⟨service,replacing,left ++ b,answered,by simp,replaced⟩

theorem reconciled_of_none (none : requests downgradeOf events = []) : Reconciled events := by
  rintro before product answer after rfl
  rw [requests_append] at none
  cases (List.append_eq_nil_iff.mp none).2

theorem Replaced.undowngraded {service : Service} (replaced : Replaced service replacing) :
    requests downgradeOf replacing = [] :=
  asks_reconcileService.requests_eq_nil downgradeOf_of_maintainsServices (ran_reconcileService_ok.mpr replaced)

theorem Replaced.treeless {service : Service} (replaced : Replaced service replacing) : Treeless replacing :=
  asks_reconcileService.filterMap_eq_nil treeOf_of_maintainsServices (ran_reconcileService_ok.mpr replaced)

variable {products : List Product}

theorem TakesBack.treeless (taken : TakesBack products events) : Treeless events := by
  induction taken with
  | nil => rfl
  | cons replaced _ ih => exact replaced.treeless.append ih

theorem TakesBack.requests_eq (taken : TakesBack products events) : requests downgradeOf events = products := by
  induction taken with
  | nil => rfl
  | @cons _ replacing rest later product replaced _ ih =>
    have others : requests downgradeOf (replacing ++ later) = rest := by rw [requests_append,replaced.undowngraded,ih]; rfl
    exact congrArg (product :: ·) others

theorem Replaced.reconciled {service : Service} {product : Product} (replaced : Replaced service replacing) :
    Reconciled (downgradeNote product :: ⟨.server (.downgrade product),.ok service⟩ :: replacing) := by
  intro before other answer after same
  rcases before with _ | ⟨_,_ | ⟨_,before⟩⟩
  · cases same
  · cases same; exact ⟨service,replacing,[],rfl,by simp,replaced⟩
  · obtain ⟨_,_,later⟩ : _ ∧ _ ∧ replacing = before ++ ⟨.server (.downgrade other),answer⟩ :: after := by
      simpa using same
    have quiet := replaced.undowngraded
    rw [later,requests_append] at quiet
    cases (List.append_eq_nil_iff.mp quiet).2

theorem TakesBack.reconciled (taken : TakesBack products events) : Reconciled events := by
  induction taken with
  | nil => exact reconciled_of_none rfl
  | cons replaced _ ih => exact replaced.reconciled.append ih

-- The rows of a migration and of its rollback, for what is installed. The tree is fetched for the base product and
-- stands for it, so that what it adds are its descendants. Its root adds nothing where it is the base product.
structure Restored (installed : List Product) (base tree : Product) (migrating restoring : List Event) : Prop where
  detected : findBase installed = some base
  fetched : Fetched base tree restoring
  before : requests downgradeOf migrating = []
  after : requests upgradeOf restoring = []
  ordered : requests downgradeOf restoring = base :: tree.descendants.filter (isListed installed)
  complete : ∀ p ∈ installed, (p.same base ∨ ∃ e ∈ tree.descendants, p.same e) →
    ∃ d ∈ requests downgradeOf restoring, d.triplet = p.triplet
  rooted : tree.same base → ∀ p ∈ installed, (∃ e ∈ tree :: tree.descendants, p.same e) →
    ∃ d ∈ requests downgradeOf restoring, d.triplet = p.triplet
  reconciled : Reconciled restoring
  synchronized : (requests synchronizeOf (migrating ++ restoring)).getLast? = some installed
  pinned : (requests pinOf (migrating ++ restoring)).getLast? = some base.version

theorem same_iff {p q : Product} : p.same q ↔ p.triplet = q.triplet := by simp [Product.same]

theorem tripletText_mem {p e : Product} {installed : List Product} (member : p ∈ installed)
    (same : p.triplet = e.triplet) : (tripletTexts installed).contains e.tripletText := by
  rw [List.contains_iff_mem,tripletTexts,List.mem_map]
  exact ⟨p,member,congrArg Triplet.text same⟩

-- What the calls of a rollback come to.

section Retreats

variable {reported installed : List Product} {base tree : Product}

theorem Retreats.reads (retreats : Retreats reported installed base tree back) :
    ⟨.packages .installedProducts,.ok reported⟩ ∈ back ∧ ⟨.packages .installedProducts,.ok installed⟩ ∈ back := by
  obtain ⟨_,_,_,_,_,_,_,rfl⟩ := retreats
  simp [rollbackOpens,rollbackLooks]

theorem Retreats.fetched (retreats : Retreats reported installed base tree back) : Fetched base tree back := by
  obtain ⟨_,_,first,later,accepted,taken,others,rfl⟩ := retreats
  have opened : Treeless (rollbackOpens reported) := rfl
  have closed : Treeless (rollbackCloses installed accepted base) := rfl
  have looked : Fetched base tree (fetch base (.ok tree) :: (later ++ rollbackCloses installed accepted base)) :=
    .around List.filterMap_nil (others.treeless.append closed)
  have listed : Treeless [⟨.packages .installedProducts,.ok installed⟩] := rfl
  exact ((looked.after listed).after taken.treeless).after opened

theorem Retreats.requests_downgradeOf (retreats : Retreats reported installed base tree back) :
    requests downgradeOf back = base :: tree.descendants.filter (isListed installed) := by
  obtain ⟨_,_,first,later,accepted,taken,others,rfl⟩ := retreats
  simp only [requests_append,taken.requests_eq,others.requests_eq]
  exact congrArg (base :: ·) (List.append_nil _)

theorem Retreats.reconciled (retreats : Retreats reported installed base tree back) : Reconciled back := by
  obtain ⟨_,_,first,later,accepted,taken,others,rfl⟩ := retreats
  have opened : Reconciled (rollbackOpens reported) := reconciled_of_none rfl
  have looked : Reconciled (rollbackLooks installed base tree) := reconciled_of_none rfl
  have closed : Reconciled (rollbackCloses installed accepted base) := reconciled_of_none rfl
  exact opened.append (taken.reconciled.append (looked.append (others.reconciled.append closed)))

-- The server and the package manager are told last, so that nothing that was said before counts.
theorem Retreats.synchronized (retreats : Retreats reported installed base tree back) :
    (requests synchronizeOf back).getLast? = some installed := by
  obtain ⟨_,_,first,later,accepted,_,_,rfl⟩ := retreats
  have last : requests synchronizeOf (rollbackCloses installed accepted base) = [installed] := rfl
  simp only [requests_append,last,← List.append_assoc,List.getLast?_concat]

theorem Retreats.pinned (retreats : Retreats reported installed base tree back) :
    (requests pinOf back).getLast? = some base.version := by
  obtain ⟨_,_,first,later,accepted,_,_,rfl⟩ := retreats
  have last : requests pinOf (rollbackCloses installed accepted base) = [base.version] := rfl
  simp only [requests_append,last,← List.append_assoc,List.getLast?_concat]

end Retreats

theorem mem_restored {installed : List Product} {base tree p : Product} (member : p ∈ installed)
    (occurs : p.same base ∨ ∃ e ∈ tree.descendants, p.same e) :
    ∃ d ∈ base :: tree.descendants.filter (isListed installed), d.triplet = p.triplet := by
  rcases occurs with same | ⟨e,descends,same⟩
  · exact ⟨base,List.mem_cons_self,(same_iff.mp same).symm⟩
  · refine ⟨e,List.mem_cons_of_mem _ (List.mem_filter.mpr ⟨descends,?_⟩),(same_iff.mp same).symm⟩
    exact tripletText_mem member (same_iff.mp same)

-- The rollback is followed by a note of its success.
theorem Restored.of_rollback {installed : List Product} {migrating : List Event} (rolled : Ran rollback back (.ok ()))
    (quiet : requests downgradeOf migrating = [])
    (steady : ∀ reported, ⟨.packages .installedProducts,.ok reported⟩ ∈ back → reported = installed) :
    ∃ base tree, Restored installed base tree migrating (back ++ [rollbackNote (.ok ())]) := by
  obtain ⟨reported,again,base,tree,retreats⟩ := ran_rollback_ok.mp rolled
  obtain rfl : reported = installed := steady reported retreats.reads.1
  obtain rfl : again = reported := steady again retreats.reads.2
  have noted {γ : Type} (pick : Question → Option γ) (silent : requests pick [rollbackNote (.ok ())] = []) :
      requests pick (back ++ [rollbackNote (.ok ())]) = requests pick back := by
    rw [requests_append,silent,List.append_nil]
  have order : requests downgradeOf (back ++ [rollbackNote (.ok ())]) =
      base :: tree.descendants.filter (isListed again) := (noted _ rfl).trans retreats.requests_downgradeOf
  exact ⟨base,tree,{
    detected := retreats.detected
    fetched := retreats.fetched.before rfl
    before := quiet
    after := (noted _ rfl).trans (asks_rollback.requests_eq_nil upgradeOf_of_rollsBack rolled)
    ordered := order
    complete := by
      intro p member occurs
      rw [order]
      exact mem_restored member occurs
    rooted := by
      intro root p member occurs
      rw [order]
      apply mem_restored member
      obtain ⟨e,within,same⟩ := occurs
      rcases List.mem_cons.mp within with rfl | descends
      · exact .inl (same_iff.mpr ((same_iff.mp same).trans (same_iff.mp root)))
      · exact .inr ⟨e,descends,same⟩
    reconciled := retreats.reconciled.append (reconciled_of_none rfl)
    synchronized := by
      rw [requests_append,noted _ rfl,List.getLast?_append,retreats.synchronized]
      rfl
    pinned := by
      rw [requests_append,noted _ rfl,List.getLast?_append,retreats.pinned]
      rfl }⟩

theorem FailsWith.requests_downgradeOf {path : MigrationPath} {options : MigrationOptions} {error : Error}
    (failed : FailsWith path options failing error) : requests downgradeOf failing = [] := by
  rcases failed with unprepared | ⟨_,_,prepared,rfl⟩
  · exact asks_prepareMigration.requests_eq_nil downgradeOf_of_prepares unprepared
  · rw [requests_append,asks_prepareMigration.requests_eq_nil downgradeOf_of_prepares prepared]; rfl

-- The calls of a migration that is rolled back are those up to the one that failed, and then those of the rollback.
theorem rolledBack_restores {path : MigrationPath} {options : MigrationOptions} {failure : MigrationFailure}
    {installed : List Product} (ran : Ran (applyMigration path options) events (.ok (.error failure)))
    (restored : failure.rollback = some (.ok ()))
    (steady : ∀ reported, ⟨.packages .installedProducts,.ok reported⟩ ∈ events → reported = installed) :
    ∃ base tree failing restoring, events = failing ++ rollbackNotes failure.error ++ restoring ∧
      FailsWith path options failing failure.error ∧
      Restored installed base tree (failing ++ rollbackNotes failure.error) restoring := by
  obtain ⟨ended,same,course⟩ := course_of_ran ran
  cases same
  obtain ⟨error,inconsistent,reply⟩ := failure
  cases restored
  cases inconsistent with
  | true => rcases course.classified.one with ⟨_,same⟩ | ⟨_,same⟩ | ⟨_,_,same⟩ | ⟨_,same⟩ <;> cases same
  | false =>
    obtain ⟨failing,back,rfl,rolled,failed,quiet⟩ := course.once
    have none : requests downgradeOf (failing ++ rollbackNotes error) = [] := by
      rw [requests_append,failed.requests_downgradeOf]; rfl
    have steadyBack : ∀ reported, ⟨.packages .installedProducts,.ok reported⟩ ∈ back → reported = installed := by
      intro reported member
      exact steady reported (by simp [member])
    obtain ⟨base,tree,restores⟩ := Restored.of_rollback rolled none steadyBack
    exact ⟨base,tree,failing,_,by simp,failed,restores⟩

-- A server that takes products back, but lets none go forward.
def unyielding (installed : List Product) (tree : Product) : Program.Behaviour collaboration
  | _, .server (.downgrade _) => .ok default
  | _, .server (.productTree _) => .ok tree
  | _, .server (.synchronize products) => .ok products
  | _, .server _ => .error (.api 422 "not eligible")
  | _, .packages .installedProducts => .ok installed
  | _, .packages (.addService _ _ _) | _, .packages (.removeService _) | _, .packages (.setReleaseVersion _) => .ok ()
  | _, .packages _ => .error (.command "zypper" 4 "")
  | _, .store (.writeService _) | _, .store (.removeService _) => .ok ()
  | _, .store _ => .error .noProxyCredentials
  | _, .hasSystemCredentials => true
  | _, .isServicePlugin _ | _, .fileExists _ => false
  | _, .report _ _ => ()

def server154 : Product := { Product.ofTriplet ⟨"SLES","15.4","x86_64"⟩ with isBase := true }

def desktop154 : Product := Product.ofTriplet ⟨"sle-module-desktop-applications","15.4","x86_64"⟩

def python154 : Product := Product.ofTriplet ⟨"sle-module-python3","15.4","x86_64"⟩

theorem desktop_restored :
    let world := unyielding [server154,desktop154] { server154 with extensions := [desktop154] }
    let ran := Program.play world [] (applyMigration [{ server154 with version := "15.5" }] {}).run
    ∃ failure, ran.2 = .ok (.error failure) ∧ failure.rollback = some (.ok ()) ∧
      ∃ base tree failing restoring, ran.1 = failing ++ rollbackNotes failure.error ++ restoring ∧
        FailsWith [{ server154 with version := "15.5" }] {} failing failure.error ∧
        Restored [server154,desktop154] base tree (failing ++ rollbackNotes failure.error) restoring := by
  intro world ran
  refine ⟨_,rfl,rfl,rolledBack_restores (Program.runs_play world [] _) rfl fun reported member => ?_⟩
  obtain ⟨_,answered⟩ := Program.play_answered world [] _ _ member
  exact Except.ok.inj answered

-- A tree with another product at its root, which is installed and is not taken back.
theorem foreign_root_left :
    let installed := [server154,desktop154]
    let ran := Program.play (unyielding installed desktop154) [] (applyMigration [{ server154 with version := "15.5" }] {}).run
    (∃ failure, ran.2 = .ok (.error failure) ∧ failure.rollback = some (.ok ())) ∧
      findBase installed = some server154 ∧ ⟨.server (.productTree server154),.ok desktop154⟩ ∈ ran.1 ∧
      (∀ reported, ⟨.packages .installedProducts,.ok reported⟩ ∈ ran.1 → reported = installed) ∧
      ¬ ∀ p ∈ installed, (p.same server154 ∨ ∃ e ∈ desktop154 :: desktop154.descendants, p.same e) →
        ∃ d ∈ requests downgradeOf ran.1, d.triplet = p.triplet := by
  intro installed ran
  have one : requests downgradeOf ran.1 = [server154] := rfl
  refine ⟨⟨_,rfl,rfl⟩,rfl,List.mem_of_getElem? (i := 19) rfl,?_,fun all => ?_⟩
  · intro reported member
    obtain ⟨_,answered⟩ := Program.play_answered _ [] _ _ member
    exact Except.ok.inj answered
  · obtain ⟨d,member,same⟩ := all desktop154 (.tail _ (.head _)) (.inr ⟨desktop154,.head _,by decide⟩)
    rw [one,List.mem_singleton] at member
    subst member
    exact absurd same (by decide)

end Entitlement.Registration
