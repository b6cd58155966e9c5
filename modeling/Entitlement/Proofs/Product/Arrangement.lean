import Mathlib.Data.List.Perm.Basic
import Entitlement.MigrationPath

-- The order of the products of a path. Sorting loses no product and invents none: it puts the base products first, then
-- those that are not installed, then the others, and within each of the three groups nothing changes its place.
namespace Entitlement

namespace TextSet

theorem mem_insert {set : TextSet} {text other : String} :
    other ∈ (set.insert text).items ↔ other = text ∨ other ∈ set.items := by
  unfold insert
  split
  · rename_i present
    constructor
    · exact .inr
    · intro member
      rcases member with rfl | member
      · exact present
      · exact member
  · exact List.mem_cons

theorem mem_foldl_insert {set : TextSet} {texts : List String} {text : String} :
    text ∈ (texts.foldl insert set).items ↔ text ∈ texts ∨ text ∈ set.items := by
  induction texts generalizing set with
  | nil => simp
  | cons head rest ih =>
    rw [List.foldl_cons,ih,mem_insert,List.mem_cons]
    tauto

theorem contains_ofList {texts : List String} {text : String} : (ofList texts).contains text = true ↔ text ∈ texts := by
  rw [contains,List.contains_iff_mem,ofList,mem_foldl_insert]
  simp [empty]

end TextSet

namespace MigrationPath

inductive Standing where
  | base
  | new
  | installed
deriving DecidableEq

def Standing.level : Standing → Nat
  | base => 0
  | new => 1
  | installed => 2

-- How a product stands to the triplets that are present. An installed base product is still a base product.
def standingIn (present : TextSet) (p : Product) : Standing :=
  if p.isBase then .base else if present.contains p.tripletText then .installed else .new

def members (present : TextSet) (s : Standing) (path : MigrationPath) : MigrationPath :=
  path.filter (standingIn present · = s)

-- The three groups one behind another.
def rows (rowOf : Standing → MigrationPath) : MigrationPath := rowOf .base ++ (rowOf .new ++ rowOf .installed)

def InOrder (present : TextSet) (path : MigrationPath) : Prop :=
  path.Pairwise fun p q => (standingIn present p).level ≤ (standingIn present q).level

-- A path in the order of its groups. Products count as a whole here, not by their triplets.
structure Sorts (present : TextSet) (path sorted : MigrationPath) : Prop where
  perm : sorted.Perm path
  ordered : InOrder present sorted
  stable : ∀ s, members present s sorted = members present s path

section Sorting

variable {present : TextSet} {path : MigrationPath} {s t : Standing} {p : Product}

theorem rank_eq (present : TextSet) (p : Product) : rank present p = (standingIn present p).level := by
  unfold rank standingIn
  by_cases base : p.isBase = true
  · simp [base,Standing.level]
  · by_cases found : present.contains p.tripletText = true <;> simp [base,found,Standing.level]

theorem notAfter_iff {p q : Product} :
    notAfter present p q = true ↔ (standingIn present p).level ≤ (standingIn present q).level := by
  simp [notAfter,rank_eq]

theorem notAfter_trans (present : TextSet) (p q r : Product) (first : notAfter present p q = true)
    (second : notAfter present q r = true) : notAfter present p r = true := by
  rw [notAfter_iff] at first second ⊢
  exact Nat.le_trans first second

theorem notAfter_total (present : TextSet) (p q : Product) : (notAfter present p q || notAfter present q p) = true := by
  rw [Bool.or_eq_true,notAfter_iff,notAfter_iff]
  exact Nat.le_total _ _

theorem pairwise_notAfter : path.Pairwise (notAfter present · ·) ↔ InOrder present path := by
  simp only [InOrder,notAfter_iff]

theorem members_cons (s : Standing) (p : Product) (rest : MigrationPath) :
    members present s (p :: rest) = if standingIn present p = s then p :: members present s rest
      else members present s rest := by
  simp [members,List.filter_cons]

theorem members_append (s : Standing) (first second : MigrationPath) :
    members present s (first ++ second) = members present s first ++ members present s second := List.filter_append ..

theorem standing_of_mem (member : p ∈ members present s path) : standingIn present p = s :=
  of_decide_eq_true (List.mem_filter.mp member).2

theorem members_self (s : Standing) : members present s (members present s path) = members present s path :=
  List.filter_eq_self.mpr fun _ member => decide_eq_true (standing_of_mem member)

theorem members_eq_nil (others : ∀ p ∈ path, standingIn present p ≠ s) : members present s path = [] := by
  apply List.filter_eq_nil_iff.mpr
  intro p member same
  exact others p member (of_decide_eq_true same)

theorem inOrder_members (s : Standing) : InOrder present (members present s path) := by
  apply List.pairwise_of_forall_mem_list
  intro p here q there
  have same : standingIn present p = standingIn present q := (standing_of_mem here).trans (standing_of_mem there).symm
  exact Nat.le_of_eq (congrArg Standing.level same)

-- Each group is in order already, and sorting keeps it together.
theorem members_sort (s : Standing) : members present s (sort present path) = members present s path := by
  have row : (members present s path).Pairwise (notAfter present · ·) := pairwise_notAfter.mpr (inOrder_members s)
  have kept : (members present s path).Sublist (sort present path) :=
    List.sublist_mergeSort (notAfter_trans present) (notAfter_total present) row List.filter_sublist
  have inside : (members present s path).Sublist (members present s (sort present path)) := by
    have filtered := kept.filter (standingIn present · = s)
    rwa [← members,members_self] at filtered
  have equal := ((List.mergeSort_perm path (notAfter present)).filter (standingIn present · = s)).length_eq
  exact (inside.eq_of_length equal.symm).symm

theorem sorts_sort (present : TextSet) (path : MigrationPath) : Sorts present path (sort present path) where
  perm := List.mergeSort_perm path (notAfter present)
  ordered := pairwise_notAfter.mp (List.pairwise_mergeSort (notAfter_trans present) (notAfter_total present) path)
  stable := members_sort

end Sorting

-- The same where the products are told that are installed: what is present are their triplets.

section Installed

variable {installed : List Product} {path : MigrationPath}

def standing (installed : List Product) (p : Product) : Standing :=
  if p.isBase then .base else if p.tripletText ∈ tripletTexts installed then .installed else .new

def group (installed : List Product) (s : Standing) (path : MigrationPath) : MigrationPath :=
  path.filter (standing installed · = s)

structure Arranged (installed : List Product) (path sorted : MigrationPath) : Prop where
  perm : sorted.Perm path
  ordered : sorted.Pairwise fun p q => (standing installed p).level ≤ (standing installed q).level
  stable : ∀ s, group installed s sorted = group installed s path

theorem standing_eq (installed : List Product) :
    standing installed = standingIn (TextSet.ofList (tripletTexts installed)) := by
  funext p
  simp only [standing,standingIn,TextSet.contains_ofList]

theorem Sorts.arranged {sorted : MigrationPath} (sorts : Sorts (TextSet.ofList (tripletTexts installed)) path sorted) :
    Arranged installed path sorted := by
  refine ⟨sorts.perm,?_,?_⟩
  · rw [standing_eq]
    exact sorts.ordered
  · unfold group
    rw [standing_eq]
    exact sorts.stable

theorem arranged_sort : Arranged installed path (sort (TextSet.ofList (tripletTexts installed)) path) :=
  (sorts_sort _ path).arranged

end Installed

end MigrationPath
end Entitlement
