import Entitlement.Product.Tree

-- The walk of a tree of products against the tree itself: what is gathered on the way is the row of all
-- extensions, each before its own, and the walk comes to its end on every tree that is not too high.
namespace Entitlement.Product

mutual

def descendants : Product → List Product
  | ⟨_,extensions⟩ => descendantsAll extensions

def descendantsAll : List Product → List Product
  | [] => []
  | p :: rest => p :: (descendants p ++ descendantsAll rest)

end

theorem mem_descendantsAll {q : Product} {list : List Product} :
    q ∈ descendantsAll list ↔ ∃ p ∈ list, q ∈ p :: p.descendants := by
  induction list with
  | nil => simp [descendantsAll]
  | cons p rest ih =>
    simp [descendantsAll,ih,or_assoc]

mutual

-- The number of levels below a product.
def height : Product → Nat
  | ⟨_,extensions⟩ => heightAll extensions

def heightAll : List Product → Nat
  | [] => 0
  | p :: rest => max (height p + 1) (heightAll rest)

end

-- The visitor of `flatten`.
def collect (extension : Product) : ExceptT Error (StateM (List Product)) Bool := do
  modify (extension :: ·)
  pure true

variable {root : String}

theorem run_bind_state {σ : Type} (action : ExceptT Error (StateM σ) α)
    (next : α → ExceptT Error (StateM σ) β) (before : σ) :
    (action >>= next).run before = match action.run before with
      | (.ok value,after) => (next value).run after
      | (.error error,after) => (.error error,after) := by
  change (match action.run before with | (reply,after) => ExceptT.bindCont next reply after) = _
  rcases action.run before with ⟨reply,after⟩
  cases reply with
  | ok value => rfl
  | error error => rfl

theorem walkAll_collect_cons (levels : Nat) (extension : Product) (rest seen : List Product) :
    (walkAll root collect levels (extension :: rest)).run seen =
      match (walkBelow root collect levels extension).run (extension :: seen) with
      | (.ok _,after) => (walkAll root collect levels rest).run after
      | (.error error,after) => (.error error,after) := by
  have visited : (collect extension).run seen = (.ok true,extension :: seen) := rfl
  rw [walkAll,run_bind_state,visited]
  change (walkBelow root collect levels extension >>= fun _ => walkAll root collect levels rest).run _ = _
  rw [run_bind_state]
  rcases (walkBelow root collect levels extension).run (extension :: seen) with ⟨reply,after⟩
  cases reply with
  | ok value => rfl
  | error error => rfl

mutual

theorem walkBelow_collect (levels : Nat) (p : Product) (seen : List Product) (low : p.height ≤ levels) :
    (walkBelow root collect levels p).run seen = (.ok (),p.descendants.reverse ++ seen) := by
  match p, levels with
  | ⟨_,[]⟩, _ => simp only [walkBelow,descendants,descendantsAll]; rfl
  | ⟨_,extension :: rest⟩, 0 =>
    simp only [height,heightAll] at low
    omega
  | ⟨_,extension :: rest⟩, levels+1 =>
    exact walkAll_collect levels (extension :: rest) seen low

theorem walkAll_collect (levels : Nat) (list : List Product) (seen : List Product)
    (low : heightAll list ≤ levels + 1) :
    (walkAll root collect levels list).run seen = (.ok (),(descendantsAll list).reverse ++ seen) := by
  match list with
  | [] => rfl
  | extension :: rest =>
    simp only [heightAll] at low
    have below := walkBelow_collect levels extension (extension :: seen) (by omega)
    have after := walkAll_collect levels rest (extension.descendants.reverse ++ extension :: seen) (by omega)
    rw [walkAll_collect_cons,below]
    simp [after,descendantsAll]

end

-- Where the tree is too high, the walk stops at the first product below the last level.
mutual

theorem walkBelow_tooDeep (levels : Nat) (p : Product) (seen : List Product) (high : levels < p.height) :
    ∃ after, (walkBelow root collect levels p).run seen = (.error (.treeTooDeep root depthLimit),after) := by
  match p, levels with
  | ⟨_,[]⟩, _ =>
    simp only [height,heightAll] at high
    omega
  | ⟨_,extension :: rest⟩, 0 => exact ⟨seen,rfl⟩
  | ⟨_,extension :: rest⟩, levels+1 =>
    exact walkAll_tooDeep levels (extension :: rest) seen high

theorem walkAll_tooDeep (levels : Nat) (list : List Product) (seen : List Product)
    (high : levels + 1 < heightAll list) :
    ∃ after, (walkAll root collect levels list).run seen = (.error (.treeTooDeep root depthLimit),after) := by
  match list with
  | [] =>
    simp only [heightAll] at high
    omega
  | extension :: rest =>
    simp only [heightAll] at high
    rw [walkAll_collect_cons]
    by_cases low : extension.height ≤ levels
    · rw [walkBelow_collect levels extension _ low]
      exact walkAll_tooDeep levels rest _ (by omega)
    · obtain ⟨after,stopped⟩ := walkBelow_tooDeep levels extension (extension :: seen) (by omega)
      rw [stopped]
      exact ⟨after,rfl⟩

end

theorem flatten_of_walk {root : Product} {result : Result Unit} {after : List Product}
    (walked : (walkBelow root.tripletText collect depthLimit root).run [] = (result,after)) :
    root.flatten = result.map fun _ => after.reverse := by
  change (root.traverse collect).run [] = (result,after) at walked
  unfold collect at walked
  simp only [flatten,walked]
  cases result <;> rfl

theorem flatten_eq (root : Product) :
    root.flatten =
      if root.height ≤ depthLimit then .ok root.descendants
      else .error (.treeTooDeep root.tripletText depthLimit) := by
  by_cases low : root.height ≤ depthLimit
  · rw [flatten_of_walk (walkBelow_collect depthLimit root [] low),if_pos low]
    simp [Except.map]
  · obtain ⟨after,stopped⟩ := @walkBelow_tooDeep root.tripletText depthLimit root [] (by omega)
    rw [flatten_of_walk stopped,if_neg low]
    rfl

theorem flatten_ok {root : Product} {products : List Product} (flat : root.flatten = .ok products) :
    products = root.descendants := by
  rw [flatten_eq] at flat
  split at flat
  · cases flat; rfl
  · cases flat

end Entitlement.Product
