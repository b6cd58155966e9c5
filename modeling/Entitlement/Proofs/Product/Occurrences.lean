import Entitlement.Proofs.Product.Tree

-- The places in a tree of products. An extension that stands under several products occurs in several places, and a
-- place is known by the row of positions that leads to it from the root.
namespace Entitlement.Product

abbrev Place := List Nat

def at? (p : Product) : Place → Option Product
  | [] => some p
  | index :: rest => p.extensions[index]?.bind fun extension => extension.at? rest

mutual

-- The places below a product, each before those below it, with what stands there.
def occurrences : Product → List (Place × Product)
  | ⟨_,extensions⟩ => occurrencesAll 0 extensions

def occurrencesAll (index : Nat) : List Product → List (Place × Product)
  | [] => []
  | p :: rest => ([index],p) :: ((occurrences p).map (fun found => (index :: found.1,found.2)) ++
      occurrencesAll (index + 1) rest)

end

mutual

theorem occurrences_snd (p : Product) : p.occurrences.map Prod.snd = p.descendants := by
  match p with
  | ⟨_,extensions⟩ => exact occurrencesAll_snd 0 extensions

theorem occurrencesAll_snd (index : Nat) (list : List Product) :
    (occurrencesAll index list).map Prod.snd = descendantsAll list := by
  match list with
  | [] => rfl
  | p :: rest =>
    have below := occurrences_snd p
    have after := occurrencesAll_snd (index + 1) rest
    simp [occurrencesAll,descendantsAll,Function.comp_def,below,after]

end

mutual

theorem mem_occurrences {q : Product} {place : Place} (p : Product) :
    (place,q) ∈ p.occurrences ↔ place ≠ [] ∧ p.at? place = some q := by
  match p with
  | ⟨_,extensions⟩ =>
    rw [occurrences,mem_occurrencesAll 0 extensions]
    cases place with
    | nil => simp
    | cons index rest =>
      simp only [Nat.zero_add,at?,Option.bind_eq_some_iff,ne_eq,reduceCtorEq,not_false_eq_true,true_and,List.cons.injEq]
      constructor
      · intro occurs
        obtain ⟨_,_,extension,⟨rfl,rfl⟩,found,stands⟩ := occurs
        exact ⟨extension,found,stands⟩
      · intro occurs
        obtain ⟨extension,found,stands⟩ := occurs
        exact ⟨index,rest,extension,⟨rfl,rfl⟩,found,stands⟩

theorem mem_occurrencesAll {q : Product} {place : Place} (index : Nat) (list : List Product) :
    (place,q) ∈ occurrencesAll index list ↔
      ∃ offset rest extension, place = (index + offset) :: rest ∧ list[offset]? = some extension ∧
        extension.at? rest = some q := by
  match list with
  | [] => simp [occurrencesAll]
  | p :: others =>
    simp only [occurrencesAll,List.mem_cons,List.mem_append,List.mem_map,mem_occurrencesAll (index + 1) others]
    constructor
    · intro occurs
      rcases occurs with same | ⟨⟨rest,other⟩,below,same⟩ | ⟨offset,rest,extension,rfl,found,stands⟩
      · cases same; exact ⟨0,[],_,rfl,rfl,rfl⟩
      · cases same
        exact ⟨0,rest,p,rfl,rfl,((mem_occurrences p).mp below).2⟩
      · exact ⟨offset + 1,rest,extension,by congr 1; omega,found,stands⟩
    · intro occurs
      obtain ⟨offset,rest,extension,rfl,found,stands⟩ := occurs
      cases offset with
      | zero =>
        cases found
        cases rest with
        | nil => cases stands; exact .inl rfl
        | cons next rest =>
          have below := (mem_occurrences p).mpr ⟨List.cons_ne_nil next rest,stands⟩
          exact .inr (.inl ⟨_,below,rfl⟩)
      | succ offset => exact .inr (.inr ⟨offset,rest,extension,by congr 1; omega,found,stands⟩)

end

theorem at?_append (p : Product) (above below : Place) : p.at? (above ++ below) = (p.at? above).bind (·.at? below) := by
  induction above generalizing p with
  | nil => rfl
  | cons index rest ih =>
    simp only [List.cons_append,at?,ih,Option.bind_assoc]

theorem extensions_of_at? {p q : Product} {place : Place} (stands : p.at? place = some q) (deeper : place ≠ []) :
    p.extensions ≠ [] := by
  obtain ⟨index,rest,rfl⟩ := List.exists_cons_of_ne_nil deeper
  obtain ⟨extension,found,_⟩ := Option.bind_eq_some_iff.mp stands
  intro bare
  rw [bare] at found
  cases found

-- A tree is as high as its places are deep.

mutual

theorem height_le_iff (limit : Nat) (p : Product) :
    p.height ≤ limit ↔ ∀ found ∈ p.occurrences, found.1.length ≤ limit := by
  match p with
  | ⟨_,extensions⟩ => exact heightAll_le_iff limit 0 extensions

theorem heightAll_le_iff (limit index : Nat) (list : List Product) :
    heightAll list ≤ limit ↔ ∀ found ∈ occurrencesAll index list, found.1.length ≤ limit := by
  match list,limit with
  | [],_ => simp [heightAll,occurrencesAll]
  | p :: rest,0 => simp [heightAll,occurrencesAll]
  | p :: rest,limit + 1 =>
    have below := height_le_iff limit p
    have beside := heightAll_le_iff (limit + 1) (index + 1) rest
    rw [heightAll,Nat.max_le,Nat.add_le_add_iff_right,below,beside,occurrencesAll,List.forall_mem_cons,
      List.forall_mem_append,List.forall_mem_map]
    simp

end

-- One place comes before another and is not below it.
def Ahead (earlier later : Place × Product) : Prop := ¬ later.1 <+: earlier.1

theorem head_occurrencesAll {index : Nat} {list : List Product} {found : Place × Product}
    (member : found ∈ occurrencesAll index list) : ∃ offset rest, found.1 = (index + offset) :: rest := by
  obtain ⟨place,q⟩ := found
  obtain ⟨offset,rest,_,same,_⟩ := (mem_occurrencesAll index list).mp member
  exact ⟨offset,rest,same⟩

mutual

theorem occurrences_ahead (p : Product) : p.occurrences.Pairwise Ahead := by
  match p with
  | ⟨_,extensions⟩ => exact occurrencesAll_ahead 0 extensions

theorem occurrencesAll_ahead (index : Nat) (list : List Product) : (occurrencesAll index list).Pairwise Ahead := by
  match list with
  | [] => exact .nil
  | p :: rest =>
    rw [occurrencesAll,List.pairwise_cons,List.pairwise_append]
    refine ⟨?_,?_,occurrencesAll_ahead (index + 1) rest,?_⟩
    · intro found member
      rcases List.mem_append.mp member with below | beside
      · obtain ⟨⟨place,q⟩,stands,rfl⟩ := List.mem_map.mp below
        have deeper := ((mem_occurrences p).mp stands).1
        simp [Ahead,deeper]
      · obtain ⟨offset,more,same⟩ := head_occurrencesAll beside
        simp only [Ahead,same,List.cons_prefix_cons]
        omega
    · rw [List.pairwise_map]
      refine (occurrences_ahead p).imp ?_
      intro earlier later ahead
      simpa [Ahead] using ahead
    · intro earlier below later beside
      obtain ⟨⟨place,q⟩,_,rfl⟩ := List.mem_map.mp below
      obtain ⟨offset,more,same⟩ := head_occurrencesAll beside
      simp only [Ahead,same,List.cons_prefix_cons]
      omega

end

-- Where a list comes with a relation between earlier and later members, two members that are not so related the one
-- way stand the other way round.
theorem stands_before {relation : α → α → Prop} {list : List α} {a b : α} (ordered : list.Pairwise relation)
    (first : a ∈ list) (second : b ∈ list) (distinct : a ≠ b) (unrelated : ¬ relation b a) :
    ∃ before between after, list = before ++ a :: (between ++ b :: after) := by
  obtain ⟨before,rest,rfl⟩ := List.append_of_mem first
  rcases List.mem_append.mp second with early | late
  · have related := (List.pairwise_append.mp ordered).2.2 b early a List.mem_cons_self
    exact absurd related unrelated
  · rcases List.mem_cons.mp late with same | beyond
    · exact absurd same.symm distinct
    · obtain ⟨between,after,rfl⟩ := List.append_of_mem beyond
      exact ⟨before,between,after,rfl⟩

end Entitlement.Product
