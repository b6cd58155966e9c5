import Entitlement.Proofs.Product.Arrangement

-- Sorted paths. The order of the groups and the order within them leave no choice, so a path has one sorted form: its
-- three groups one behind another. A path in order stays as it is, and two of them are merged.
namespace Entitlement.MigrationPath

variable {present : TextSet} {path sorted first second rest : MigrationPath} {s : Standing} {p : Product}

-- Groups that come before the product at the front of a path in order have no members behind it.
theorem members_behind (behind : ∀ q ∈ rest, (standingIn present p).level ≤ (standingIn present q).level)
    (passed : s.level < (standingIn present p).level) : members present s rest = [] := by
  apply members_eq_nil
  intro q member same
  have low := behind q member
  rw [same] at low
  omega

theorem rows_members (ordered : InOrder present path) : (rows fun s => members present s path) = path := by
  induction path with
  | nil => rfl
  | cons p rest ih =>
    obtain ⟨behind,later⟩ := List.pairwise_cons.mp ordered
    have whole := ih later
    simp only [rows,members_cons] at whole ⊢
    cases standing : standingIn present p with
    | base => simp [whole]
    | new =>
      have bases : members present .base rest = [] := members_behind behind (by rw [standing]; decide)
      rw [bases] at whole ⊢
      simpa using whole
    | installed =>
      have bases : members present .base rest = [] := members_behind behind (by rw [standing]; decide)
      have new : members present .new rest = [] := members_behind behind (by rw [standing]; decide)
      rw [bases,new] at whole ⊢
      simpa using whole

theorem Sorts.eq_rows (sorts : Sorts present path sorted) : sorted = rows fun s => members present s path := by
  calc sorted
    _ = rows fun s => members present s sorted := (rows_members sorts.ordered).symm
    _ = rows fun s => members present s path := congrArg rows (funext sorts.stable)

theorem sort_eq (present : TextSet) (path : MigrationPath) :
    sort present path = rows fun s => members present s path := (sorts_sort present path).eq_rows

theorem Sorts.unique (sorts : Sorts present path sorted) : sorted = sort present path :=
  sorts.eq_rows.trans (sort_eq present path).symm

theorem sort_of_inOrder (ordered : InOrder present path) : sort present path = path := by
  have sorts : Sorts present path path := ⟨.refl path,ordered,fun _ => rfl⟩
  exact sorts.unique.symm

theorem inOrder_iff : InOrder present path ↔ sort present path = path := by
  constructor
  · exact sort_of_inOrder
  · intro same
    rw [← same]
    exact (sorts_sort present path).ordered

-- A product that overtakes another one comes from a group before all that is still to come of the other path.
theorem members_merge (ordered : InOrder present first) (also : InOrder present second) (s : Standing) :
    members present s (first.merge second (notAfter present)) = members present s first ++ members present s second := by
  induction first generalizing second with
  | nil => simp [members]
  | cons p rest ih =>
    induction second with
    | nil => simp [members]
    | cons q others ih' =>
      obtain ⟨behind,later⟩ := List.pairwise_cons.mp ordered
      have last := (List.pairwise_cons.mp also).2
      rw [List.cons_merge_cons]
      by_cases before : notAfter present p q = true
      · rw [if_pos before,members_cons,ih later also,members_cons s p]
        split
        · rfl
        · rfl
      · rw [if_neg before,members_cons,ih' last,members_cons s q]
        rw [notAfter_iff] at before
        by_cases own : standingIn present q = s
        · have passed : s.level < (standingIn present p).level := by
            rw [own] at before
            omega
          have none : members present s (p :: rest) = [] := by
            apply members_behind _ passed
            intro next member
            rcases List.mem_cons.mp member with rfl | further
            · exact Nat.le_refl _
            · exact behind next further
          rw [if_pos own,if_pos own,none]
          rfl
        · rw [if_neg own,if_neg own]

theorem merge_sorts (ordered : InOrder present first) (also : InOrder present second) :
    Sorts present (first ++ second) (first.merge second (notAfter present)) where
  perm := List.merge_perm_append (notAfter present)
  ordered := by
    rw [← pairwise_notAfter] at ordered also ⊢
    exact List.pairwise_merge (notAfter_trans present) (notAfter_total present) first second ordered also
  stable s := by rw [members_merge ordered also,members_append]

-- What is promised of sorting. The groups of two paths in order are put together one by one, as merging does.
structure SortsStably (present : TextSet) : Prop where
  sorts : ∀ path, Sorts present path (sort present path)
  only : ∀ path other, Sorts present path other → other = sort present path
  stable : ∀ path, sort present path = path.mergeSort (notAfter present)
  grouped : ∀ path, sort present path = rows fun s => members present s path
  again : ∀ path, sort present (sort present path) = sort present path
  settled : ∀ path, InOrder present path ↔ sort present path = path
  merged : ∀ first second, InOrder present first → InOrder present second →
    sort present (first ++ second) = (rows fun s => members present s first ++ members present s second) ∧
    sort present (first ++ second) = first.merge second (notAfter present)

theorem sort_stable (present : TextSet) : SortsStably present where
  sorts := sorts_sort present
  only _ _ other := other.unique
  stable _ := rfl
  grouped := sort_eq present
  again path := sort_of_inOrder (sorts_sort present path).ordered
  settled _ := inOrder_iff
  merged first second ordered also := by
    refine ⟨?_,(merge_sorts ordered also).unique.symm⟩
    rw [sort_eq]
    simp only [members_append]

-- An installed base product, and two descriptions of one installed product: they have the same triplet, but only one
-- of them has a summary.

def server : Product := { Product.ofTriplet ⟨"SLES","15.4","x86_64"⟩ with isBase := true }

def compiler : Product := Product.ofTriplet ⟨"gcc","15.4","x86_64"⟩

def ruby : Product := Product.ofTriplet ⟨"ruby","15.4","x86_64"⟩

def describedRuby : Product := { ruby with summary := "Ruby" }

instance : Decidable (InOrder present path) := inferInstanceAs (Decidable (List.Pairwise _ _))

theorem rubies_merged :
    let present := TextSet.ofList (tripletTexts [server,ruby])
    InOrder present [server,describedRuby] ∧ InOrder present [compiler,ruby] ∧
      sort present [server,describedRuby,compiler,ruby] = [server,compiler,describedRuby,ruby] ∧
      sort present [compiler,ruby,server,describedRuby] = [server,compiler,ruby,describedRuby] := by
  intro present
  have one : InOrder present [server,describedRuby] := by decide
  have two : InOrder present [compiler,ruby] := by decide
  have stably := sort_stable present
  exact ⟨one,two,(stably.merged _ _ one two).1,(stably.merged _ _ two one).1⟩

end Entitlement.MigrationPath
