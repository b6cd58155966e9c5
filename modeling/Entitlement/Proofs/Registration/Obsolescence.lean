import Entitlement.Proofs.Registration.Upgrades

-- Which repositories a migration disables. The products of a path are looked for one after the other, and the repositories
-- of what is found are disabled as it comes up. In the end, or wherever a call fails, the list of those that were disabled
-- is told from what was listed and found until then.
namespace Entitlement.Registration

-- A package, with the product that was looked for.
structure Find where
  product : Product
  package : ProductPackage

def Find.label (find : Find) : String := find.package.repository

def Find.Outdated (find : Find) : Prop := Edition.compare find.package.edition find.product.version = .lt

instance : DecidablePred Find.Outdated := fun _ => inferInstanceAs (Decidable (_ = _))

-- A repository goes by its name and by its alias, where these are given.
def GoesBy (r : Repository) (label : String) : Prop := label ≠ "" ∧ (label = r.name ∨ label = r.aliasName)

instance : Decidable (GoesBy r label) := inferInstanceAs (Decidable (_ ∧ _))

def Enabled (listed : List Repository) (label : String) : Prop := ∃ r ∈ listed, r.enabled = true ∧ GoesBy r label

instance : Decidable (Enabled listed label) := inferInstanceAs (Decidable (∃ r ∈ listed, _))

def Qualifies (listed : List Repository) (find : Find) : Prop := Enabled listed find.label ∧ find.Outdated

instance : DecidablePred (Qualifies listed) := fun _ => inferInstanceAs (Decidable (_ ∧ _))

-- The labels of what qualifies, each once, in the order in which they come up, but for those that are disabled already.
def obsoleteBut (disabled : List String) (listed : List Repository) (finds : List Find) : List String :=
  (((finds.filter fun find => Qualifies listed find).map Find.label).filter (· ∉ disabled)).eraseDups

def obsolete (listed : List Repository) (finds : List Find) : List String :=
  ((finds.filter fun find => Qualifies listed find).map Find.label).eraseDups

section Lists

variable {listed : List Repository} {disabled : List String} {finds : List Find} {label : String}

theorem obsoleteBut_nil : obsoleteBut [] listed finds = obsolete listed finds := by
  rw [obsoleteBut,List.filter_eq_self.mpr (by simp),obsolete]

theorem mem_obsoleteBut : label ∈ obsoleteBut disabled listed finds ↔
    (Enabled listed label ∧ ∃ find ∈ finds, find.label = label ∧ find.Outdated) ∧ label ∉ disabled := by
  simp only [obsoleteBut,List.mem_eraseDups,List.mem_filter,List.mem_map,decide_eq_true_iff]
  refine and_congr_left fun _ => ?_
  constructor
  · rintro ⟨find,⟨member,enabled,outdated⟩,rfl⟩
    exact ⟨enabled,find,member,rfl,outdated⟩
  · rintro ⟨enabled,find,member,rfl,outdated⟩
    exact ⟨find,⟨member,enabled,outdated⟩,rfl⟩

theorem mem_obsolete : label ∈ obsolete listed finds ↔
    Enabled listed label ∧ ∃ find ∈ finds, find.label = label ∧ find.Outdated := by
  rw [← obsoleteBut_nil,mem_obsoleteBut]
  exact and_iff_left List.not_mem_nil

theorem enabledLabels_contains : (enabledLabels listed).contains label = true ↔ Enabled listed label := by
  rw [List.contains_iff_mem,enabledLabels,List.mem_filter,List.mem_flatMap]
  simp only [List.mem_filter,List.mem_cons,List.not_mem_nil,or_false,Bool.not_eq_true',String.isEmpty_eq_false_iff]
  constructor
  · rintro ⟨⟨r,⟨member,enabled⟩,named⟩,filled⟩
    exact ⟨r,member,enabled,filled,named⟩
  · rintro ⟨r,member,enabled,filled,named⟩
    exact ⟨⟨r,⟨member,enabled⟩,named⟩,filled⟩

theorem isObsolete_iff {product : Product} {package : ProductPackage} :
    isObsolete (enabledLabels listed) disabled product package = true ↔
      Qualifies listed ⟨product,package⟩ ∧ package.repository ∉ disabled := by
  rw [isObsolete,Bool.and_eq_true,Bool.and_eq_true,enabledLabels_contains,beq_iff_eq]
  simp only [Bool.not_eq_true',List.contains_eq_mem,decide_eq_false_iff_not]
  constructor
  · rintro ⟨⟨enabled,fresh⟩,outdated⟩
    exact ⟨⟨enabled,outdated⟩,fresh⟩
  · rintro ⟨⟨enabled,outdated⟩,fresh⟩
    exact ⟨⟨enabled,fresh⟩,outdated⟩

-- To strike a label from the rest of the list is to have it disabled from there on.
theorem obsoleteBut_cons (find : Find) (rest : List Find) :
    obsoleteBut disabled listed (find :: rest) =
      if Qualifies listed find ∧ find.label ∉ disabled then
        find.label :: obsoleteBut (disabled ++ [find.label]) listed rest
      else obsoleteBut disabled listed rest := by
  by_cases qualifies : Qualifies listed find
  · by_cases fresh : find.label ∈ disabled
    · simp [obsoleteBut,qualifies,fresh]
    · have struck : ∀ labels : List String, (labels.filter (· ∉ disabled)).filter (fun other => !other == find.label) =
          labels.filter (· ∉ disabled ++ [find.label]) := by
        intro labels
        rw [List.filter_filter]
        refine List.filter_congr fun other _ => ?_
        rw [Bool.eq_iff_iff]
        simp [and_comm]
      simp only [obsoleteBut,List.filter_cons,qualifies,fresh,List.map_cons,decide_true,if_true,not_false_eq_true,
        and_self,List.eraseDups_cons,struck]
  · simp [obsoleteBut,qualifies]

theorem obsoleteBut_append (first second : List Find) :
    obsoleteBut disabled listed (first ++ second) =
      obsoleteBut disabled listed first ++ obsoleteBut (disabled ++ obsoleteBut disabled listed first) listed second := by
  induction first generalizing disabled with
  | nil => simp [obsoleteBut]
  | cons find rest ih =>
    rw [List.cons_append,obsoleteBut_cons,obsoleteBut_cons find rest]
    split
    · rw [ih,List.cons_append,List.append_assoc]
      rfl
    · exact ih

-- Where a label first comes up among what qualifies.
def comesUp (listed : List Repository) (finds : List Find) (label : String) : Nat :=
  finds.findIdx fun find => Qualifies listed find ∧ find.label = label

theorem comesUp_cons_of_ne {find : Find} (other : ¬ (Qualifies listed find ∧ find.label = label)) :
    comesUp listed (find :: finds) label = comesUp listed finds label + 1 := by
  rw [comesUp,List.findIdx_cons,decide_eq_false other]
  rfl

theorem comesUp_cons_self {find : Find} (qualifies : Qualifies listed find) :
    comesUp listed (find :: finds) find.label = 0 := by
  rw [comesUp,List.findIdx_cons,decide_eq_true ⟨qualifies,rfl⟩]
  rfl

theorem obsoleteBut_ordered (disabled : List String) (listed : List Repository) (finds : List Find) :
    (obsoleteBut disabled listed finds).Pairwise fun one other =>
      comesUp listed finds one < comesUp listed finds other := by
  induction finds generalizing disabled with
  | nil => exact .nil
  | cons find rest ih =>
    have onward (disabled : List String)
        (others : ∀ label ∈ obsoleteBut disabled listed rest, ¬ (Qualifies listed find ∧ find.label = label)) :
        (obsoleteBut disabled listed rest).Pairwise fun one other =>
          comesUp listed (find :: rest) one < comesUp listed (find :: rest) other := by
      refine (ih disabled).imp_of_mem fun one other less => ?_
      rw [comesUp_cons_of_ne (others _ one),comesUp_cons_of_ne (others _ other)]
      exact Nat.succ_lt_succ less
    rw [obsoleteBut_cons]
    split
    case isTrue fresh =>
      have others : ∀ label ∈ obsoleteBut (disabled ++ [find.label]) listed rest,
          ¬ (Qualifies listed find ∧ find.label = label) := by
        rintro label member ⟨_,rfl⟩
        exact (mem_obsoleteBut.mp member).2 (by simp)
      refine List.pairwise_cons.mpr ⟨fun other member => ?_,onward _ others⟩
      rw [comesUp_cons_self fresh.1,comesUp_cons_of_ne (others other member)]
      exact Nat.succ_pos _
    case isFalse stale =>
      refine onward _ fun label member again => stale ⟨again.1,?_⟩
      rw [again.2]
      exact (mem_obsoleteBut.mp member).2

theorem obsolete_ordered : (obsolete listed finds).Pairwise fun one other =>
    comesUp listed finds one < comesUp listed finds other := by
  rw [← obsoleteBut_nil]
  exact obsoleteBut_ordered [] listed finds

end Lists

-- What is asked and told of repositories.

def searchOf : Question → Option String
  | .packages (.findProductPackages name) => some name
  | _ => none

def disableOf : Question → Option String
  | .packages (.disableRepository label) => some label
  | _ => none

def repositoriesOf : Event → Option (List Repository)
  | ⟨.packages .repositories,.ok listed⟩ => some listed
  | _ => none

def answerOf : Event → Option (List ProductPackage)
  | ⟨.packages (.findProductPackages _),.ok packages⟩ => some packages
  | _ => none

def listingsIn (events : List Event) : List (List Repository) := events.filterMap repositoriesOf

def listedIn (events : List Event) : List Repository := (listingsIn events).flatten

-- The answers belong to the products of the path in turn.
def findsOf (path : List Product) (answers : List (List ProductPackage)) : List Find :=
  (path.zip answers).flatMap fun answered => answered.2.map (Find.mk answered.1)

def answersIn (events : List Event) : List (List ProductPackage) := events.filterMap answerOf

def findsIn (path : List Product) (events : List Event) : List Find := findsOf path (answersIn events)

-- The products of a path are gone through to the end, up to one that cannot be looked for, or up to a repository that
-- cannot be disabled.
inductive Disabling (repositories : List Repository) (disabled : List String) (path : List Product) :
    List Event → Result (List String) → Prop where
  | through : requests searchOf events = path.map (·.name) → (answersIn events).length = path.length →
      requests disableOf events = obsoleteBut disabled repositories (findsIn path events) →
      Disabling repositories disabled path events
        (.ok (disabled ++ obsoleteBut disabled repositories (findsIn path events)))
  | unsearched : requests searchOf events ++ [name] <+: path.map (·.name) →
      requests disableOf events = obsoleteBut disabled repositories (findsIn path events) →
      Disabling repositories disabled path (events ++ [⟨.packages (.findProductPackages name),.error error⟩])
        (.error error)
  | refused : requests searchOf events <+: path.map (·.name) →
      obsoleteBut disabled repositories (findsIn path events) = requests disableOf events ++ label :: rest →
      Disabling repositories disabled path (events ++ [⟨.packages (.disableRepository label),.error error⟩])
        (.error error)

section Loop

variable {repositories : List Repository} {disabled : List String} {product : Product} {path : List Product}
  {packages : List ProductPackage} {label : String}

def disablingNote (label : String) : Event := ⟨.report .info ("Disabling obsolete repository " ++ label),()⟩

def disableLabel (label : String) : Action Unit := do
  info ("Disabling obsolete repository " ++ label)
  Registration.packages (.disableRepository label)

theorem ran_disable {result : Result Unit} :
    Ran (disableLabel label) events result ↔ events = [disablingNote label,⟨.packages (.disableRepository label),result⟩] := by
  rw [disableLabel,ran_info_bind]
  constructor
  · rintro ⟨_,rfl,called⟩
    rw [ran_packages.mp called]
    rfl
  · rintro rfl
    exact ⟨_,rfl,ran_packages.mpr rfl⟩

-- What is disabled for a product is known before the first repository is.
theorem disableFor_eq (product : Product) (disabled : List String) (packages : List ProductPackage) :
    disableFor (enabledLabels repositories) product disabled packages = (do
      (obsoleteBut disabled repositories (packages.map (Find.mk product))).forM disableLabel
      return disabled ++ obsoleteBut disabled repositories (packages.map (Find.mk product))) := by
  induction packages generalizing disabled with
  | nil =>
    change pure disabled = pure (disabled ++ [])
    rw [List.append_nil]
  | cons package rest ih =>
    rw [List.map_cons,obsoleteBut_cons,disableFor]
    by_cases qualifies : Qualifies repositories ⟨product,package⟩ ∧ Find.label ⟨product,package⟩ ∉ disabled
    · rw [if_pos qualifies,if_pos (isObsolete_iff.mpr qualifies),ih]
      change _ = (do
        (do disableLabel package.repository; (obsoleteBut (disabled ++ [package.repository]) repositories _).forM disableLabel)
        return _)
      simp only [disableLabel,bind_assoc,List.append_assoc,List.singleton_append]
      rfl
    · rw [if_neg qualifies,if_neg (mt isObsolete_iff.mp qualifies),ih]

theorem disables_once : ∀ label events result, Ran (disableLabel label) events result →
    requests disableOf events = [label] := by
  intro label events result ran
  rw [ran_disable.mp ran]
  rfl

-- Events that have no part in looking for the products of a path.
def Beside (events : List Event) : Prop := requests searchOf events = [] ∧ answersIn events = []

theorem beside_disable {result : Result Unit} (ran : Ran (disableLabel label) events result) : Beside events := by
  rw [ran_disable.mp ran]
  cases result <;> exact ⟨rfl,rfl⟩

theorem answers_append (first second : List Event) : answersIn (first ++ second) = answersIn first ++ answersIn second :=
  List.filterMap_append

theorem Beside.append {first second : List Event} (one : Beside first) (other : Beside second) :
    Beside (first ++ second) := by
  rw [Beside,requests_append,answers_append,one.1,one.2]
  exact other

theorem beside_gathers {labels : List String} {values : List Unit} (gathers : Gathers disableLabel labels events values) :
    Beside events := by
  induction gathers with
  | nil => exact ⟨rfl,rfl⟩
  | cons ran _ ih => exact (beside_disable ran).append ih

def searchedFor (product : Product) (packages : List ProductPackage) : Event :=
  ⟨.packages (.findProductPackages product.name),.ok packages⟩

section Round

variable {row tail : List Event}

theorem found_round (beside : Beside row) :
    findsIn (product :: path) (searchedFor product packages :: (row ++ tail)) =
      packages.map (Find.mk product) ++ findsIn path tail := by
  have told : answersIn (searchedFor product packages :: (row ++ tail)) = packages :: answersIn tail := by
    change packages :: answersIn (row ++ tail) = _
    rw [answers_append,beside.2,List.nil_append]
  rw [findsIn,told]
  rfl

theorem searches_round (beside : Beside row) :
    requests searchOf (searchedFor product packages :: (row ++ tail)) = product.name :: requests searchOf tail := by
  change product.name :: requests searchOf (row ++ tail) = _
  rw [requests_append,beside.1,List.nil_append]

theorem Disabling.later {result : Result (List String)} {now : List String} (beside : Beside row)
    (same : obsoleteBut disabled repositories (packages.map (Find.mk product)) = now)
    (asked : requests disableOf row = now) (disabling : Disabling repositories (disabled ++ now) path tail result) :
    Disabling repositories disabled (product :: path) (searchedFor product packages :: (row ++ tail)) result := by
  have finds (tail : List Event) : obsoleteBut disabled repositories
      (findsIn (product :: path) (searchedFor product packages :: (row ++ tail))) =
        now ++ obsoleteBut (disabled ++ now) repositories (findsIn path tail) := by
    rw [found_round beside,obsoleteBut_append,same]
  have disables (tail : List Event) : requests disableOf (searchedFor product packages :: (row ++ tail)) =
      now ++ requests disableOf tail := by
    change requests disableOf (row ++ tail) = _
    rw [requests_append,asked]
  cases disabling with
  | through all answered called =>
    rw [List.append_assoc,← finds tail]
    refine .through ?_ ?_ ?_
    · rw [searches_round beside,all]
      rfl
    · change (packages :: answersIn (row ++ tail)).length = _
      rw [answers_append,beside.2,List.nil_append,List.length_cons,answered,List.length_cons]
    · rw [disables,finds,called]
  | @unsearched events _ _ begun called =>
    rw [← List.append_assoc,← List.cons_append]
    refine .unsearched ?_ ?_
    · rw [searches_round beside]
      exact List.cons_prefix_cons.mpr ⟨rfl,begun⟩
    · rw [disables,finds,called]
  | @refused events label rest _ begun parted =>
    have partedLater : obsoleteBut disabled repositories
        (findsIn (product :: path) (searchedFor product packages :: (row ++ events))) =
          requests disableOf (searchedFor product packages :: (row ++ events)) ++ label :: rest := by
      rw [disables,finds,parted,List.append_assoc]
    rw [← List.append_assoc,← List.cons_append]
    refine .refused ?_ partedLater
    rw [searches_round beside]
    exact List.cons_prefix_cons.mpr ⟨rfl,begun⟩

theorem Disabling.of_breaks (breaks : Breaks disableLabel
      (obsoleteBut disabled repositories (packages.map (Find.mk product))) row error) :
    Disabling repositories disabled (product :: path) (searchedFor product packages :: row) (.error error) := by
  obtain ⟨done,failing,rest,first,second,values,labels,rfl,gathers,refusal⟩ := breaks
  cases ran_disable.mp refusal
  have noted : Beside [disablingNote failing] := ⟨rfl,rfl⟩
  have beside := (beside_gathers gathers).append noted
  have parts : searchedFor product packages :: (first ++ [disablingNote failing,
        ⟨.packages (.disableRepository failing),.error error⟩]) =
      searchedFor product packages :: ((first ++ [disablingNote failing]) ++ []) ++
        [⟨.packages (.disableRepository failing),.error error⟩] := by simp
  have asked : requests disableOf (searchedFor product packages :: ((first ++ [disablingNote failing]) ++ [])) = done := by
    change requests disableOf ((first ++ [disablingNote failing]) ++ []) = done
    rw [List.append_nil,requests_append,gathers.requests_eq disables_once,List.map_id']
    exact List.append_nil done
  have finds : findsIn path [] = [] := by rw [findsIn,findsOf,answersIn,List.filterMap_nil,List.zip_nil_right,List.flatMap_nil]
  have parted : obsoleteBut disabled repositories
      (findsIn (product :: path) (searchedFor product packages :: ((first ++ [disablingNote failing]) ++ []))) =
        requests disableOf (searchedFor product packages :: ((first ++ [disablingNote failing]) ++ [])) ++
          failing :: rest := by
    rw [found_round beside,asked,finds,List.append_nil,labels]
  rw [parts]
  refine .refused ?_ parted
  rw [searches_round beside]
  exact List.cons_prefix_cons.mpr ⟨rfl,List.nil_prefix⟩

end Round

theorem disabling_of_ran {result : Result (List String)}
    (ran : Ran (disableForAll (enabledLabels repositories) disabled path) events result) :
    Disabling repositories disabled path events result := by
  induction path generalizing disabled events with
  | nil =>
    obtain ⟨rfl,rfl⟩ := ran_pure.mp ran
    have nothing : Disabling repositories disabled [] [] (.ok (disabled ++ [])) := .through rfl rfl rfl
    rwa [List.append_nil] at nothing
  | cons product rest ih =>
    rcases ran_packages_bind.mp ran with ⟨error,rfl,rfl⟩ | ⟨packages,_,rfl,answered⟩
    · have begun : requests searchOf ([] : List Event) ++ [product.name] <+: (product :: rest).map (·.name) :=
        List.cons_prefix_cons.mpr ⟨rfl,List.nil_prefix⟩
      exact .unsearched begun rfl
    rw [disableFor_eq,bind_assoc] at answered
    rcases ran_bind.mp answered with ⟨error,failed,rfl⟩ | ⟨row,⟨⟩,later,rfl,passed,onward⟩
    · rcases ran_forM.mp failed with ⟨_,_,impossible⟩ | ⟨_,breaks,same⟩
      · cases impossible
      · cases same; exact .of_breaks breaks
    · rcases ran_forM.mp passed with ⟨values,gathers,_⟩ | ⟨_,_,impossible⟩
      · rw [pure_bind] at onward
        have asked := gathers.requests_eq disables_once
        rw [List.map_id'] at asked
        exact .later (beside_gathers gathers) rfl asked (ih onward)
      · cases impossible

end Loop

end Entitlement.Registration
