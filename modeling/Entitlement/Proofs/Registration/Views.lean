import Entitlement.Proofs.Calendar.Dates
import Entitlement.Proofs.Product.Arrangement
import Entitlement.Proofs.Registration.Extensions
import Entitlement.Proofs.Registration.SystemProducts
import Mathlib.Data.List.Forall2

-- Three views of what is activated. Each goes through the activations in its own way: the status of a product takes the
-- last one, the products of the system the first one, and the listing of the extensions asks whether there is any.
namespace Entitlement.Registration

variable {installed : List Product} {activations : List Activation} {tree : Product} {text : String}

-- An activation of a product that no later one follows.
def Latest (activations : List Activation) (text : String) (a : Activation) : Prop :=
  ∃ before after, activations = before ++ a :: after ∧ a.tripletText = text ∧ ∀ later ∈ after, later.tripletText ≠ text

-- An activation that is put in hides those of its triplet, and no other.
theorem find?_insert (a : Activation) (sorted : List Activation) (text : String) :
    (Activation.insert a sorted).find? (·.tripletText == text) =
      if a.tripletText = text then some a else sorted.find? (·.tripletText == text) := by
  induction sorted with
  | nil => simp [Activation.insert,List.find?_singleton]
  | cons b rest ih =>
    rw [Activation.insert]
    split
    · rename_i same
      by_cases own : b.tripletText = text <;> simp [same,own]
    · rename_i other
      split
      · by_cases own : a.tripletText = text <;> simp [own]
      · by_cases also : b.tripletText = text
        · have hidden : a.tripletText ≠ text := fun own => other (own.trans also.symm)
          simp [also,hidden]
        · simp [also,ih]

theorem find?_foldl (sorted : List Activation) :
    (activations.foldl (fun sorted a => Activation.insert a sorted) sorted).find? (·.tripletText == text) =
      (activations.reverse.find? (·.tripletText == text)).or (sorted.find? (·.tripletText == text)) := by
  induction activations generalizing sorted with
  | nil => rfl
  | cons a rest ih =>
    rw [List.foldl_cons,ih,find?_insert,List.reverse_cons,List.find?_append,Option.or_assoc]
    by_cases own : a.tripletText = text <;> simp [own]

-- The map of the activations finds the last one of a triplet.
theorem find?_eq : Activation.find? activations text = activations.reverse.find? (·.tripletText == text) := by
  rw [Activation.find?,Activation.byTriplet,find?_foldl]
  exact Option.or_none

theorem find?_eq_some_iff {a : Activation} : Activation.find? activations text = some a ↔ Latest activations text a := by
  rw [find?_eq,List.find?_eq_some_iff_append]
  constructor
  · rintro ⟨own,after,before,same,others⟩
    refine ⟨before.reverse,after.reverse,?_,by simpa using own,?_⟩
    · rw [← List.reverse_reverse activations,same]
      simp
    · simpa using others
  · rintro ⟨before,after,rfl,own,others⟩
    exact ⟨by simpa using own,after.reverse,before.reverse,by simp,by simpa using others⟩

theorem find?_eq_none_iff : Activation.find? activations text = none ↔ ¬ Activated activations text := by
  simp [find?_eq,Activated]

theorem Latest.activated {a : Activation} (latest : Latest activations text a) : Activated activations text := by
  obtain ⟨before,after,rfl,own,_⟩ := latest
  exact ⟨a,by simp,own⟩

-- The status of an installed product.

def detailsOf (s : ProductStatus) : List String :=
  [s.subscription,s.regcode,s.startsAt,s.expiresAt,s.subscriptionStatus,s.kind]

-- The text of a date. Where there is none, it is empty.
def DateShown (text : String) : Option Timestamp → Prop
  | none => text = ""
  | some t => t.Shows text

theorem dateShown_dateText (date : Option Timestamp) : DateShown (ProductStatus.dateText date) date := by
  cases date with
  | none => rfl
  | some t => exact t.display_shows

structure Subscribed (a : Activation) (s : ProductStatus) : Prop where
  named : s.subscription = a.name
  coded : s.regcode = a.regcode
  starting : DateShown s.startsAt a.startsAt
  expiring : DateShown s.expiresAt a.expiresAt
  state : s.subscriptionStatus = a.status
  kind : s.kind = a.kind

structure Reports (activations : List Activation) (p : Product) (s : ProductStatus) : Prop where
  product : s.product = p.triplet
  summary : s.summary = p.summary
  registered_iff : s.status = ProductStatus.registered ↔ Activated activations p.tripletText
  otherwise : ¬ Activated activations p.tripletText → s.status = ProductStatus.notRegistered
  subscribed : ∀ a, Latest activations p.tripletText a → a.regcode ≠ "" → Subscribed a s
  bare : (∀ a, Latest activations p.tripletText a → a.regcode = "") → detailsOf s = List.replicate 6 ""

theorem reports_of (p : Product) : Reports activations p (ProductStatus.of activations p) := by
  unfold ProductStatus.of
  split
  · rename_i absent
    have inactive := find?_eq_none_iff.mp absent
    exact ⟨rfl,rfl,iff_of_false (by simp [ProductStatus.registered,ProductStatus.notRegistered]) inactive,fun _ => rfl,
      fun a latest => absurd latest.activated inactive,fun _ => rfl⟩
  · rename_i a found
    have latest := find?_eq_some_iff.mp found
    have only : ∀ other, Latest activations p.tripletText other → other = a := fun other also =>
      Option.some.inj ((find?_eq_some_iff.mpr also).symm.trans found)
    split
    · rename_i free
      refine ⟨rfl,rfl,iff_of_true rfl latest.activated,fun inactive => absurd latest.activated inactive,?_,fun _ => rfl⟩
      intro other also coded
      rw [only other also] at coded
      exact absurd (String.isEmpty_iff.mp free) coded
    · rename_i coded
      refine ⟨rfl,rfl,iff_of_true rfl latest.activated,fun inactive => absurd latest.activated inactive,?_,?_⟩
      · intro other also _
        rw [only other also]
        exact ⟨rfl,rfl,dateShown_dateText _,dateShown_dateText _,rfl,rfl⟩
      · intro uncoded
        exact absurd (String.isEmpty_iff.mpr (uncoded a latest)) coded

-- The listing of the extensions of a tree.
structure Marked (activations : List Activation) (tree : Product) (listing : Extension) : Prop where
  root : listing.product = tree.triplet
  shaped : listing.outline.map (·.2.product) = tree.descendants.map Product.triplet
  activated_iff : ∀ e ∈ listing.toExtensionFacts :: listing.outline.map Prod.snd,
    e.activated = true ↔ Activated activations e.product.text

theorem contains_activatedTexts : (activatedTexts activations).contains text = true ↔ Activated activations text := by
  rw [activatedTexts,TextSet.contains_ofList,List.mem_map]
  rfl

theorem marked_listed (tree : Product) :
    Marked activations tree (Extension.listed (activatedTexts activations) tree) := by
  have outlined : (Extension.listed (activatedTexts activations) tree).outline.map Prod.snd =
      tree.descendants.map (Extension.factsOf (activatedTexts activations)) := Extension.outline_listed tree
  refine ⟨?_,Extension.outline_products tree,?_⟩
  · rw [Extension.toExtensionFacts_listed]
    rfl
  · rw [Extension.toExtensionFacts_listed,outlined,← List.map_cons,List.forall_mem_map]
    exact fun p _ => contains_activatedTexts

-- The runs. All answers of a registered system agree with what is installed, activated and offered.

def Reads (installed : List Product) (activations : List Activation) (tree : Product) : Event → Prop
  | ⟨.hasSystemCredentials,answer⟩ => answer = true
  | ⟨.packages .installedProducts,answer⟩ => answer = .ok installed
  | ⟨.server .activations,answer⟩ => answer = .ok activations
  | ⟨.server (.productTree _),answer⟩ => answer = .ok tree
  | _ => True

section Reads

variable {result : Result α}

theorem read_installed {next : List Product → Action α} (ran : Ran (packages .installedProducts >>= next) events result)
    (reads : ∀ event ∈ events, Reads installed activations tree event) :
    ∃ rest, Ran (next installed) rest result ∧ ∀ event ∈ rest, Reads installed activations tree event := by
  rcases ran_packages_bind.mp ran with ⟨error,rfl,_⟩ | ⟨_,rest,rfl,onward⟩
  · cases reads _ (.head _)
  · cases reads _ (.head _)
    exact ⟨rest,onward,fun event member => reads event (.tail _ member)⟩

theorem read_registered {next : Bool → Action α} (ran : Ran (isRegistered >>= next) events result)
    (reads : ∀ event ∈ events, Reads installed activations tree event) :
    ∃ rest, Ran (next true) rest result ∧ ∀ event ∈ rest, Reads installed activations tree event := by
  obtain ⟨_,rest,rfl,onward⟩ := ran_ask_bind.mp ran
  cases reads _ (.head _)
  exact ⟨rest,onward,fun event member => reads event (.tail _ member)⟩

theorem read_activations {next : List Activation → Action α} (ran : Ran (server .activations >>= next) events result)
    (reads : ∀ event ∈ events, Reads installed activations tree event) : ∃ rest, Ran (next activations) rest result := by
  rcases ran_server_bind.mp ran with ⟨error,rfl,_⟩ | ⟨_,rest,rfl,onward⟩
  · cases reads _ (.head _)
  · cases reads _ (.head _)
    exact ⟨rest,onward⟩

end Reads

theorem statuses_read {result : Result (List ProductStatus)} (ran : Ran statuses events result)
    (reads : ∀ event ∈ events, Reads installed activations tree event) :
    result = .ok (installed.map (ProductStatus.of activations)) := by
  obtain ⟨_,asking,later⟩ := read_installed ran reads
  obtain ⟨_,reading,last⟩ := read_registered asking later
  obtain ⟨_,merging⟩ := read_activations reading last
  exact (ran_pure.mp merging).2

theorem systemProducts_read {result : Result (List Product)} (ran : Ran systemProducts events result)
    (reads : ∀ event ∈ events, Reads installed activations tree event) :
    result = .ok (addUnknown installed (activations.map Activation.product)) := by
  obtain ⟨_,asking,later⟩ := read_installed ran reads
  obtain ⟨_,reading,last⟩ := read_registered asking later
  obtain ⟨_,merging⟩ := read_activations reading last
  exact (ran_pure.mp merging).2

theorem extensionTree_read {result : Result Extension} (ran : Ran extensionTree events result)
    (reads : ∀ event ∈ events, Reads installed activations tree event) (based : (findBase installed).isSome) :
    result = Extension.list (activatedTexts activations) tree.tripletText depthLimit tree := by
  cases listsTree_of_ran ran with
  | unregistered => cases reads _ (.head _)
  | undetected failed =>
    rcases ran_baseProduct_error.mp failed with rfl | ⟨_,rfl,undetected,_⟩
    · cases reads _ (.tail _ (.head _))
    · cases reads _ (.tail _ (.head _))
      rw [undetected] at based
      cases based
  | unread _ => cases reads _ (.tail _ (.tail _ (.head _)))
  | unfetched _ => cases reads _ (.tail _ (.tail _ (.tail _ (.head _))))
  | fetched _ =>
    cases reads _ (.tail _ (.tail _ (.head _)))
    cases reads _ (.tail _ (.tail _ (.tail _ (.head _))))
    rfl

structure Views (installed : List Product) (activations : List Activation) (tree : Product)
    (statuses : Result (List ProductStatus)) (products : Result (List Product)) (listing : Result Extension) : Prop where
  reported : ∃ reports, statuses = .ok reports ∧ List.Forall₂ (Reports activations) installed reports
  merged : ∃ all, products = .ok all ∧ Merged installed activations all
  marked : (findBase installed).isSome → tree.height ≤ depthLimit →
    ∃ extensions, listing = .ok extensions ∧ Marked activations tree extensions

theorem views_agree {stated : Result (List ProductStatus)} {products : Result (List Product)}
    {listing : Result Extension} (states : Ran statuses first stated) (gathers : Ran systemProducts second products)
    (lists : Ran extensionTree third listing)
    (reads : ∀ event ∈ first ++ second ++ third, Reads installed activations tree event) :
    Views installed activations tree stated products listing := by
  simp only [List.forall_mem_append] at reads
  obtain ⟨⟨readFirst,readSecond⟩,readThird⟩ := reads
  refine ⟨⟨_,statuses_read states readFirst,?_⟩,⟨_,systemProducts_read gathers readSecond,merged_addUnknown _ _⟩,?_⟩
  · rw [List.forall₂_map_right_iff,List.forall₂_same]
    exact fun p _ => reports_of p
  · intro based low
    refine ⟨_,?_,marked_listed tree⟩
    rw [extensionTree_read lists readThird based,Extension.list_eq,if_pos low]

theorem reads_activating (p : Program collaboration α) :
    ∀ event ∈ (Program.play (activating activations installed tree) [] p).1, Reads installed activations tree event := by
  rintro ⟨q,answer⟩ member
  obtain ⟨_,answered⟩ := Program.play_answered _ [] p _ member
  cases q with
  | server call => cases call <;> cases answered <;> trivial
  | packages call => cases call <;> cases answered <;> trivial
  | hasSystemCredentials => exact answered
  | _ => trivial

-- A product that is activated twice, the second time with a subscription of some years, and one that is not installed.
theorem desktopTree_viewed :
    let activations := [activationOf "Basic" "" server154,activationOf "Python" "" python154,
      { activationOf "Server" "CODE" server154 with startsAt := some ⟨1625014800,0⟩, expiresAt := some ⟨1709251199,999000000⟩ }]
    let world := activating activations [server154,desktop154] desktopTree
    let stated := (Program.play world [] statuses.run).2
    Views [server154,desktop154] activations desktopTree stated (Program.play world [] systemProducts.run).2
        (Program.play world [] extensionTree.run).2 ∧
      stated.map (·.map fun s => (s.startsAt,s.expiresAt)) =
        .ok [("2021-06-30 01:00:00 UTC","2024-02-29 23:59:59 UTC"),("","")] ∧
      (findBase [server154,desktop154]).isSome ∧ desktopTree.height ≤ depthLimit := by
  intro activations world stated
  refine ⟨views_agree (Program.runs_play world [] statuses.run) (Program.runs_play world [] systemProducts.run)
    (Program.runs_play world [] extensionTree.run) ?_,by decide +kernel,by decide,by decide⟩
  simp only [List.forall_mem_append]
  exact ⟨⟨reads_activating _,reads_activating _⟩,reads_activating _⟩

end Entitlement.Registration
