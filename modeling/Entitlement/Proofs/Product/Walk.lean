import Entitlement.Proofs.Product.Tree

-- The walk of a visitor that always goes on, in any monad. It does what the visitor does for each extension that the
-- walk comes to, in their order, and then ends, or stops where the tree is too high.
namespace Entitlement.Product

mutual

-- The extensions below a product that a walk comes to when so many levels are left.
def reached (levels : Nat) : Product → List Product
  | ⟨_,[]⟩ => []
  | ⟨_,extension :: rest⟩ => match levels with
    | 0 => []
    | levels + 1 => extension :: (reached levels extension ++
        if extension.height ≤ levels then reachedAll levels rest else [])

def reachedAll (levels : Nat) : List Product → List Product
  | [] => []
  | extension :: rest => extension :: (reached levels extension ++
      if extension.height ≤ levels then reachedAll levels rest else [])

end

theorem reached_succ (levels : Nat) (p : Product) : reached (levels + 1) p = reachedAll levels p.extensions := by
  match p with
  | ⟨_,[]⟩ => simp only [reached,reachedAll]
  | ⟨_,extension :: rest⟩ => simp only [reached,reachedAll]

mutual

-- Nothing is left out before the place where a walk stops.
theorem reached_begins (levels : Nat) (p : Product) : reached levels p <+: p.descendants := by
  match p, levels with
  | ⟨_,[]⟩, _ => simp only [reached,descendants,descendantsAll,List.prefix_rfl]
  | ⟨_,extension :: rest⟩, 0 => simp only [reached,List.nil_prefix]
  | ⟨_,extension :: rest⟩, levels+1 =>
    rw [reached_succ]
    exact reachedAll_begins levels (extension :: rest)

theorem reachedAll_begins (levels : Nat) (list : List Product) : reachedAll levels list <+: descendantsAll list := by
  match list with
  | [] => simp only [reachedAll,descendantsAll,List.prefix_rfl]
  | extension :: rest =>
    rw [reachedAll,descendantsAll,List.cons_prefix_cons]
    refine ⟨rfl,?_⟩
    split
    · rename_i low
      rw [reached_eq levels extension low,List.prefix_append_right_inj]
      exact reachedAll_begins levels rest
    · rw [List.append_nil]
      exact (reached_begins levels extension).trans (List.prefix_append _ _)

theorem reached_eq (levels : Nat) (p : Product) (low : p.height ≤ levels) : reached levels p = p.descendants := by
  match p, levels with
  | ⟨_,[]⟩, _ => simp only [reached,descendants,descendantsAll]
  | ⟨_,extension :: rest⟩, 0 =>
    simp only [height,heightAll] at low
    omega
  | ⟨_,extension :: rest⟩, levels+1 =>
    rw [reached_succ]
    exact reachedAll_eq levels (extension :: rest) low

theorem reachedAll_eq (levels : Nat) (list : List Product) (low : heightAll list ≤ levels + 1) :
    reachedAll levels list = descendantsAll list := by
  match list with
  | [] => rfl
  | extension :: rest =>
    simp only [heightAll] at low
    have first : extension.height ≤ levels := by omega
    rw [reachedAll,descendantsAll,if_pos first,reached_eq levels extension first,reachedAll_eq levels rest (by omega)]

end

variable {m : Type → Type} [Monad m] {root : String} {act : Product → ExceptT Error m Unit}

-- Does something for each extension, and always goes on.
def always (act : Product → ExceptT Error m Unit) (extension : Product) : ExceptT Error m Bool := do
  act extension
  pure true

def endsWalk (root : String) (low : Bool) : ExceptT Error m Unit :=
  if low then pure () else throw (.treeTooDeep root depthLimit)

variable [LawfulMonad m]

theorem walkAll_cons (levels : Nat) (extension : Product) (rest : List Product) :
    walkAll root (always act) levels (extension :: rest) = (do
      act extension
      walkBelow root (always act) levels extension
      walkAll root (always act) levels rest) := by
  simp [walkAll,always]

mutual

theorem walkBelow_always (levels : Nat) (p : Product) :
    walkBelow root (always act) levels p = (do
      (reached levels p).forM act
      endsWalk root (p.height ≤ levels)) := by
  match p, levels with
  | ⟨_,[]⟩, levels => simp [walkBelow,reached,endsWalk,height,heightAll]
  | ⟨_,extension :: rest⟩, 0 => simp [walkBelow,reached,endsWalk,height,heightAll]
  | ⟨_,extension :: rest⟩, levels+1 =>
    rw [reached_succ]
    exact walkAll_always levels (extension :: rest)

theorem walkAll_always (levels : Nat) (list : List Product) :
    walkAll root (always act) levels list = (do
      (reachedAll levels list).forM act
      endsWalk root (heightAll list ≤ levels + 1)) := by
  match list with
  | [] => simp [walkAll,reachedAll,endsWalk,heightAll]
  | extension :: rest =>
    rw [walkAll_cons,walkBelow_always levels extension,walkAll_always levels rest,reachedAll]
    by_cases low : extension.height ≤ levels
    · have same : (heightAll (extension :: rest) ≤ levels + 1) = (heightAll rest ≤ levels + 1) := by
        simp only [heightAll,eq_iff_iff]
        omega
      simp [endsWalk,low,same]
    · have high : ¬ heightAll (extension :: rest) ≤ levels + 1 := by
        simp only [heightAll]
        omega
      simp [endsWalk,low,high]

end

theorem traverse_always (tree : Product) :
    tree.traverse (always act) = (do
      (tree.reached depthLimit).forM act
      endsWalk tree.tripletText (tree.height ≤ depthLimit)) := walkBelow_always depthLimit tree

end Entitlement.Product
