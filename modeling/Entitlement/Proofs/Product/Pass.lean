import Entitlement.Proofs.Product.Occurrences

-- A walk as a pass over the row of all places below the root: the visitor is asked at each place, what stands below a
-- place that it declines is struck from the row, and the pass ends where it would lead below the last level. The two
-- are equal in every monad, so that they ask the same of every visitor, in the same order.
namespace Entitlement.Product

-- What is left to go through after a place. What stands below it is passed over when the visitor declines.
def remaining (place : Place) (accepted : Bool) (row : List (Place × Product)) : List (Place × Product) :=
  if accepted then row else row.filter fun later => ¬ place <+: later.1

theorem sublist_remaining (place : Place) (accepted : Bool) (row : List (Place × Product)) :
    (remaining place accepted row).Sublist row := by
  cases accepted with
  | true => exact List.Sublist.refl row
  | false => exact List.filter_sublist

theorem mem_remaining {place : Place} {accepted : Bool} {row : List (Place × Product)} {found : Place × Product} :
    found ∈ remaining place accepted row ↔ found ∈ row ∧ (accepted = false → ¬ place <+: found.1) := by
  cases accepted <;> simp [remaining]

theorem remaining_declined {place : Place} {below others : List (Place × Product)}
    (inside : ∀ found ∈ below, place <+: found.1) (outside : ∀ found ∈ others, ¬ place <+: found.1) :
    remaining place false (below ++ others) = others := by
  simp only [remaining,Bool.false_eq_true,if_false]
  rw [List.filter_append,List.filter_eq_nil_iff.mpr,List.filter_eq_self.mpr,List.nil_append]
  · simpa using outside
  · simpa using inside

-- Going on from this place would lead below the last level.
def Exceeds (place : Place) (p : Product) (accepted : Bool) : Prop :=
  accepted = true ∧ place.length = depthLimit ∧ p.extensions ≠ []

instance : Decidable (Exceeds place p accepted) := inferInstanceAs (Decidable (_ ∧ _))

variable {m : Type → Type} [Monad m] {root : String} {visit : Product → ExceptT Error m Bool}

-- A walk as a pass over a row of places.
def follow (root : String) (visit : Product → ExceptT Error m Bool) :
    List (Place × Product) → ExceptT Error m Unit
  | [] => pure ()
  | (place,p) :: rest => do
    let accepted ← visit p
    if Exceeds place p accepted then throw (.treeTooDeep root depthLimit)
    follow root visit (remaining place accepted rest)
termination_by row => row.length
decreasing_by exact Nat.lt_succ_of_le (sublist_remaining _ _ _).length_le

-- The places below a product that stands at a place itself.
def under (above : Place) (found : Place × Product) : Place × Product := (above ++ found.1,found.2)

theorem under_nil : under [] = id := rfl

def rowBelow (above : Place) (p : Product) : List (Place × Product) := p.occurrences.map (under above)

def rowOf (above : Place) (index : Nat) (list : List Product) : List (Place × Product) :=
  (occurrencesAll index list).map (under above)

theorem rowOf_cons (above : Place) (index : Nat) (p : Product) (rest : List Product) :
    rowOf above index (p :: rest) =
      (above ++ [index],p) :: (rowBelow (above ++ [index]) p ++ rowOf above (index + 1) rest) := by
  simp [rowOf,rowBelow,occurrencesAll,under,Function.comp_def]

-- A row that stands apart from the products from an index on below a place.
def Apart (above : Place) (index : Nat) (row : List (Place × Product)) : Prop :=
  ∀ found ∈ row, ∀ offset, ¬ above ++ [index + offset] <+: found.1

theorem Apart.next {above : Place} {index : Nat} {row : List (Place × Product)} (apart : Apart above index row) :
    Apart above (index + 1) row := by
  intro found member offset
  rw [Nat.add_assoc]
  exact apart found member (1 + offset)

theorem apart_below {above : Place} {row : List (Place × Product)} (outside : ∀ found ∈ row, ¬ above <+: found.1) :
    Apart above 0 row := by
  intro found member offset deeper
  exact outside found member ((List.prefix_append above _).trans deeper)

theorem inside_rowBelow {above : Place} {p : Product} : ∀ found ∈ rowBelow above p, above <+: found.1 := by
  intro found member
  obtain ⟨inner,_,rfl⟩ := List.mem_map.mp member
  exact List.prefix_append above inner.1

-- What comes after a product and what stands below it.
theorem outside_others {above : Place} {index : Nat} {rest : List Product} {row : List (Place × Product)}
    (apart : Apart above index row) :
    ∀ found ∈ rowOf above (index + 1) rest ++ row, ¬ above ++ [index] <+: found.1 := by
  intro found member
  rcases List.mem_append.mp member with beside | after
  · obtain ⟨inner,stands,rfl⟩ := List.mem_map.mp beside
    obtain ⟨offset,deeper,same⟩ := head_occurrencesAll stands
    simp only [under,same,List.prefix_append_right_inj,List.cons_prefix_cons]
    omega
  · exact apart found after 0

theorem walkBelow_last {p : Product} (high : p.extensions ≠ []) :
    walkBelow root visit 0 p = throw (.treeTooDeep root depthLimit) := by
  match p with
  | ⟨_,[]⟩ => exact absurd rfl high
  | ⟨_,_ :: _⟩ => rfl

variable [LawfulMonad m]

mutual

-- Only a product without extensions stands on the last level.
theorem walkBelow_follow (levels : Nat) (p : Product) (above : Place) (row : List (Place × Product))
    (level : above.length + levels = depthLimit) (room : p.extensions = [] ∨ 0 < levels)
    (outside : ∀ found ∈ row, ¬ above <+: found.1) :
    (walkBelow root visit levels p >>= fun _ => follow root visit row) =
      follow root visit (rowBelow above p ++ row) := by
  match p, levels with
  | ⟨_,[]⟩, _ => simp [walkBelow,rowBelow,occurrences,occurrencesAll]
  | ⟨_,extension :: rest⟩, 0 => simp at room
  | ⟨_,extension :: rest⟩, levels + 1 =>
    exact walkAll_follow levels (extension :: rest) above 0 row (by omega) (apart_below outside)

theorem walkAll_follow (levels : Nat) (list : List Product) (above : Place) (index : Nat)
    (row : List (Place × Product)) (level : above.length + 1 + levels = depthLimit) (apart : Apart above index row) :
    (walkAll root visit levels list >>= fun _ => follow root visit row) =
      follow root visit (rowOf above index list ++ row) := by
  match list with
  | [] => simp [walkAll,rowOf,occurrencesAll]
  | p :: rest =>
    have outside := @outside_others above index rest row apart
    have onward := walkAll_follow levels rest above (index + 1) row level apart.next
    rw [rowOf_cons,List.cons_append,List.append_assoc,follow,walkAll,bind_assoc]
    congr 1
    funext accepted
    cases accepted with
    | false => simp [onward,remaining_declined inside_rowBelow outside,Exceeds]
    | true =>
      simp only [if_true,bind_assoc,onward]
      by_cases deep : Exceeds (above ++ [index]) p true
      · obtain ⟨_,lowest,high⟩ := deep
        have last : levels = 0 := by
          rw [List.length_append,List.length_singleton] at lowest
          omega
        rw [if_pos ⟨rfl,lowest,high⟩,last,walkBelow_last high]
        simp
      · rw [if_neg deep]
        refine (walkBelow_follow levels p (above ++ [index]) _ (by simpa using level) ?_ outside).trans ?_
        · by_cases bare : p.extensions = []
          · exact .inl bare
          · have higher : (above ++ [index]).length ≠ depthLimit := fun lowest => deep ⟨rfl,lowest,bare⟩
            rw [List.length_append,List.length_singleton] at higher
            exact .inr (by omega)
        · simp [remaining]

end

theorem traverse_eq_follow (tree : Product) :
    tree.traverse visit = follow tree.tripletText visit tree.occurrences := by
  have whole : rowBelow [] tree ++ [] = tree.occurrences := by
    simp [rowBelow,under_nil]
  have walked := @walkBelow_follow m _ tree.tripletText visit _ depthLimit tree [] [] rfl (.inr (by decide)) nofun
  rw [whole] at walked
  rw [← walked]
  simp [traverse,follow]

end Entitlement.Product
