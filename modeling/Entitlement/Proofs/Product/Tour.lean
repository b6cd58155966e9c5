import Entitlement.Proofs.Product.Pass

-- What a walk visits, for every visitor and whatever it keeps in mind. The visits are those of a tour that knows no
-- last level, and the walk leaves it only after a product on the last level that has extensions and is accepted.
namespace Entitlement.Product

variable {σ : Type} {root : String} {visit : Product → ExceptT Error (StateM σ) Bool}

-- A call of the visitor: what it says of the product at a place, and the state that it leaves.
structure Visit (σ : Type) where
  place : Place
  product : Product
  answer : Result Bool
  after : σ

-- The visits of a walk for which no level is too deep.
def tour (visit : Product → ExceptT Error (StateM σ) Bool) : List (Place × Product) → σ → List (Visit σ)
  | [], _ => []
  | (place,p) :: rest, before =>
    let (answer,after) := (visit p).run before
    ⟨place,p,answer,after⟩ :: match answer with
      | .error _ => []
      | .ok accepted => tour visit (remaining place accepted rest) after
termination_by row => row.length
decreasing_by exact Nat.lt_succ_of_le (sublist_remaining _ _ _).length_le

-- What ends a walk after a visit.
def halt (root : String) (place : Place) (p : Product) : Result Bool → Option Error
  | .error error => some error
  | .ok accepted => if Exceeds place p accepted then some (.treeTooDeep root depthLimit) else none

def Visit.halts (root : String) (v : Visit σ) : Option Error := halt root v.place v.product v.answer

def Visit.call (v : Visit σ) : Product × Result Bool := (v.product,v.answer)

def leaves (before : σ) (visits : List (Visit σ)) : σ := visits.foldl (fun _ v => v.after) before

-- The visits that are made, out of those of a tour: all of them, or those up to the first that ends the walk.
inductive Goes (root : String) : List (Visit σ) → List (Visit σ) → Result Unit → Prop where
  | through : Goes root [] [] (.ok ())
  | halted : v.halts root = some error → Goes root (v :: left) [v] (.error error)
  | onward : v.halts root = none → Goes root toured made result → Goes root (v :: toured) (v :: made) result

-- A visitor that also keeps what it was asked and what it said.
def recording (visit : Product → ExceptT Error (StateM σ) Bool) (p : Product) :
    ExceptT Error (StateM (σ × List (Product × Result Bool))) Bool :=
  ExceptT.mk fun (before,calls) =>
    let (answer,after) := (visit p).run before
    (answer,(after,calls ++ [(p,answer)]))

theorem run_recording {p : Product} {before after : σ} {answer : Result Bool}
    (ran : (visit p).run before = (answer,after)) (seen : List (Product × Result Bool)) :
    (recording visit p).run (before,seen) = (answer,(after,seen ++ [(p,answer)])) := by
  change (let (answer,after) := (visit p).run before; (answer,(after,seen ++ [(p,answer)]))) = _
  rw [ran]

theorem run_follow_nil (before : σ) : (follow root visit []).run before = (.ok (),before) := by
  rw [follow]
  rfl

section Step

variable {place : Place} {p : Product} {rest : List (Place × Product)} {before after : σ}

theorem run_follow_halt {answer : Result Bool} {error : Error} (ran : (visit p).run before = (answer,after))
    (halts : halt root place p answer = some error) :
    (follow root visit ((place,p) :: rest)).run before = (.error error,after) := by
  rw [follow,run_bind_state,ran]
  cases answer with
  | error cause => cases halts; rfl
  | ok accepted =>
    by_cases deep : Exceeds place p accepted
    · rw [halt,if_pos deep] at halts
      cases halts
      simp only [if_pos deep]
      rfl
    · rw [halt,if_neg deep] at halts
      cases halts

theorem run_follow_onward {accepted : Bool} (ran : (visit p).run before = (.ok accepted,after))
    (quiet : halt root place p (.ok accepted) = none) :
    (follow root visit ((place,p) :: rest)).run before =
      (follow root visit (remaining place accepted rest)).run after := by
  have shallow : ¬ Exceeds place p accepted := by
    intro deep
    rw [halt,if_pos deep] at quiet
    cases quiet
  rw [follow,run_bind_state,ran]
  simp only [if_neg shallow]

end Step

-- The walk of a row, with and without a record of the calls of the visitor.
structure Follows (root : String) (visit : Product → ExceptT Error (StateM σ) Bool) (row : List (Place × Product))
    (before : σ) (made : List (Visit σ)) (result : Result Unit) : Prop where
  goes : Goes root (tour visit row before) made result
  ran : (follow root visit row).run before = (result,leaves before made)
  recorded : ∀ seen, (follow root (recording visit) row).run (before,seen) =
    (result,(leaves before made,seen ++ made.map Visit.call))

theorem follow_follows (row : List (Place × Product)) (before : σ) :
    ∃ made result, Follows root visit row before made result := by
  fun_induction tour visit row before with
  | case1 before =>
    refine ⟨[],.ok (),?_,run_follow_nil before,fun seen => ?_⟩
    · rw [tour]; exact .through
    · rw [run_follow_nil]; simp [leaves]
  | case2 place p rest before answer after ran ih =>
    cases halted : halt root place p answer with
    | some error =>
      refine ⟨[⟨place,p,answer,after⟩],.error error,?_,run_follow_halt ran halted,fun seen => ?_⟩
      · rw [tour,ran]; exact .halted halted
      · exact run_follow_halt (run_recording ran seen) halted
    | none =>
      cases answer with
      | error error => cases halted
      | ok accepted =>
        obtain ⟨made,result,goes,walked,recorded⟩ := ih accepted
        refine ⟨⟨place,p,.ok accepted,after⟩ :: made,result,?_,?_,fun seen => ?_⟩
        · rw [tour,ran]; exact .onward halted goes
        · rw [run_follow_onward ran halted]; exact walked
        · rw [run_follow_onward (run_recording ran seen) halted,recorded]
          simp [leaves,Visit.call]

-- Where the visits of a tour stand.

def Visit.found (v : Visit σ) : Place × Product := (v.place,v.product)

theorem tour_sublist (row : List (Place × Product)) (before : σ) :
    ((tour visit row before).map Visit.found).Sublist row := by
  fun_induction tour visit row before with
  | case1 => exact .slnil
  | case2 place p rest before answer after ran ih =>
    refine .cons_cons (place,p) ?_
    cases answer with
    | error error => exact List.nil_sublist rest
    | ok accepted => exact (ih accepted).trans (sublist_remaining place accepted rest)

-- A tour ends where the visitor fails, and never comes to what stands below a place that was declined.
structure Regular (toured : List (Visit σ)) : Prop where
  failsLast : ∀ done v later error, toured = done ++ v :: later → v.answer = .error error → later = []
  passesOver : ∀ done v later, toured = done ++ v :: later → v.answer = .ok false → ∀ w ∈ later, ¬ v.place <+: w.place

theorem regular_cons {v : Visit σ} {later : List (Visit σ)} (fails : ∀ error, v.answer = .error error → later = [])
    (passes : v.answer = .ok false → ∀ w ∈ later, ¬ v.place <+: w.place) (regular : Regular later) :
    Regular (v :: later) where
  failsLast done w left error parts failed := by
    cases done with
    | nil => cases parts; exact fails error failed
    | cons head done =>
      obtain ⟨_,rest⟩ := List.cons.inj parts
      exact regular.failsLast done w left error rest failed
  passesOver done w left parts declined := by
    cases done with
    | nil => cases parts; exact passes declined
    | cons head done =>
      obtain ⟨_,rest⟩ := List.cons.inj parts
      exact regular.passesOver done w left rest declined

theorem Regular.tail {v : Visit σ} {later : List (Visit σ)} (regular : Regular (v :: later)) : Regular later where
  failsLast done w left error parts := regular.failsLast (v :: done) w left error (congrArg (v :: ·) parts)
  passesOver done w left parts := regular.passesOver (v :: done) w left (congrArg (v :: ·) parts)

theorem regular_tour (row : List (Place × Product)) (before : σ) : Regular (tour visit row before) := by
  fun_induction tour visit row before with
  | case1 => exact ⟨fun done _ _ _ parts => by simp at parts,fun done _ _ parts => by simp at parts⟩
  | case2 place p rest before answer after ran ih =>
    cases answer with
    | error error => exact regular_cons (fun _ _ => rfl) nofun ⟨by simp,by simp⟩
    | ok accepted =>
      refine regular_cons nofun ?_ (ih accepted)
      intro declined w later
      cases declined
      have stands : w.found ∈ remaining place false rest :=
        (tour_sublist (remaining place false rest) after).subset (List.mem_map_of_mem later)
      exact (mem_remaining.mp stands).2 rfl

-- Every place below the last level stands below one on it, which is not passed over alone.
def Grounded (row : List (Place × Product)) : Prop :=
  ∀ found ∈ row, depthLimit < found.1.length →
    ∃ above ∈ row, above.1 <+: found.1 ∧ above.1.length = depthLimit ∧ above.2.extensions ≠ []

theorem grounded_occurrences (p : Product) : Grounded p.occurrences := by
  intro found member deep
  obtain ⟨_,stands⟩ := (mem_occurrences p).mp member
  rw [← List.take_append_drop depthLimit found.1,at?_append,Option.bind_eq_some_iff] at stands
  obtain ⟨parent,above,below⟩ := stands
  have level : (found.1.take depthLimit).length = depthLimit := by
    rw [List.length_take]
    omega
  have deeper : found.1.drop depthLimit ≠ [] := by
    rw [ne_eq,List.drop_eq_nil_iff]
    omega
  have proper : found.1.take depthLimit ≠ [] := by
    rw [ne_eq,← List.length_eq_zero_iff,level]
    decide
  exact ⟨(_,parent),(mem_occurrences p).mpr ⟨proper,above⟩,List.take_prefix _ _,level,extensions_of_at? below deeper⟩

theorem Grounded.remaining {place : Place} {p : Product} {accepted : Bool} {rest : List (Place × Product)}
    (grounded : Grounded ((place,p) :: rest)) (shallow : ¬ Exceeds place p accepted) :
    Grounded (remaining place accepted rest) := by
  intro found member deep
  obtain ⟨kept,spared⟩ := mem_remaining.mp member
  obtain ⟨above,stands,covers,level,high⟩ := grounded found (List.mem_cons_of_mem _ kept) deep
  rcases List.mem_cons.mp stands with rfl | later
  · cases accepted with
    | true => exact absurd ⟨rfl,level,high⟩ shallow
    | false => exact absurd covers (spared rfl)
  · have stays : accepted = false → ¬ place <+: above.1 := fun declined reaches => spared declined (reaches.trans covers)
    exact ⟨above,mem_remaining.mpr ⟨later,stays⟩,covers,level,high⟩

theorem Grounded.shallow {found : Place × Product} {rest : List (Place × Product)} (grounded : Grounded (found :: rest))
    (ahead : (found :: rest).Pairwise Ahead) : found.1.length ≤ depthLimit := by
  refine Nat.le_of_not_lt fun deep => ?_
  obtain ⟨above,stands,covers,level,_⟩ := grounded found List.mem_cons_self deep
  rcases List.mem_cons.mp stands with rfl | later
  · omega
  · exact (List.pairwise_cons.mp ahead).1 above later covers

-- A walk that goes on does not come below the last level.
theorem goes_shallow {row : List (Place × Product)} {before : σ} {made : List (Visit σ)} {result : Result Unit}
    (grounded : Grounded row) (ahead : row.Pairwise Ahead) (goes : Goes root (tour visit row before) made result) :
    ∀ v ∈ made, v.place.length ≤ depthLimit := by
  fun_induction tour visit row before generalizing made with
  | case1 => cases goes; exact nofun
  | case2 place p rest before answer after ran ih =>
    have first : place.length ≤ depthLimit := grounded.shallow ahead
    cases goes with
    | halted => exact fun v member => List.mem_singleton.mp member ▸ first
    | onward quiet later =>
      refine List.forall_mem_cons.mpr ⟨first,?_⟩
      cases answer with
      | error error => cases quiet
      | ok accepted =>
        have shallow : ¬ Exceeds place p accepted := by
          intro deep
          rw [Visit.halts,halt,if_pos deep] at quiet
          cases quiet
        have kept := sublist_remaining place accepted rest
        exact ih accepted (grounded.remaining shallow) ((List.pairwise_cons.mp ahead).2.sublist kept) later

-- A visit after which the walk would have to go below the last level.
def Visit.Exceeds (v : Visit σ) : Prop :=
  v.answer = .ok true ∧ v.place.length = depthLimit ∧ v.product.extensions ≠ []

theorem Visit.halts_eq_some {v : Visit σ} {error : Error} :
    v.halts root = some error ↔ v.answer = .error error ∨ v.Exceeds ∧ error = .treeTooDeep root depthLimit := by
  obtain ⟨place,p,answer,after⟩ := v
  cases answer with
  | error cause => simp [halts,halt,Exceeds]
  | ok accepted => simp [halts,halt,Exceeds,Product.Exceeds,eq_comm]

section Goes

variable {toured made : List (Visit σ)} {result : Result Unit}

theorem Goes.begins (goes : Goes root toured made result) : made <+: toured := by
  induction goes with
  | through => exact List.prefix_rfl
  | halted _ => exact List.prefix_append [_] _
  | onward _ _ ih => exact List.cons_prefix_cons.mpr ⟨rfl,ih⟩

theorem Goes.error_iff {error : Error} (goes : Goes root toured made result) :
    result = .error error ↔ ∃ v ∈ made, v.halts root = some error := by
  induction goes with
  | through => simp
  | halted halts => simp [halts]
  | onward quiet _ ih => simp [ih,quiet]

theorem Goes.last {done later : List (Visit σ)} {v : Visit σ} {error : Error} (goes : Goes root toured made result)
    (parts : made = done ++ v :: later) (halts : v.halts root = some error) : later = [] := by
  induction goes generalizing done with
  | through => simp at parts
  | halted _ =>
    cases done with
    | nil => cases parts; rfl
    | cons head done => simp at parts
  | onward quiet _ ih =>
    cases done with
    | nil => cases parts; rw [quiet] at halts; cases halts
    | cons head done =>
      obtain ⟨_,rest⟩ := List.cons.inj parts
      exact ih rest

-- Only where a level is too deep is a tour left before its end.
theorem Goes.exceeds (goes : Goes root toured made result) (regular : Regular toured) :
    made = toured ∨ ∃ v ∈ made, v.Exceeds := by
  induction goes with
  | through => exact .inl rfl
  | @halted error v left halts =>
    rcases Visit.halts_eq_some.mp halts with failed | ⟨deep,_⟩
    · rw [regular.failsLast [] v left error rfl failed]
      exact .inl rfl
    · exact .inr ⟨v,List.mem_singleton_self v,deep⟩
  | onward _ _ ih =>
    rcases ih regular.tail with whole | ⟨v,member,deep⟩
    · exact .inl (congrArg _ whole)
    · exact .inr ⟨v,List.mem_cons_of_mem _ member,deep⟩

theorem Goes.tooDeep_iff (goes : Goes root toured made result) (regular : Regular toured) :
    result = .error (.treeTooDeep root depthLimit) ↔
      (∃ v ∈ toured, v.Exceeds) ∨ ∃ v ∈ made, v.answer = .error (.treeTooDeep root depthLimit) := by
  rw [goes.error_iff]
  simp only [Visit.halts_eq_some]
  constructor
  · rintro ⟨v,member,failed | ⟨deep,_⟩⟩
    · exact .inr ⟨v,member,failed⟩
    · exact .inl ⟨v,goes.begins.subset member,deep⟩
  · rintro (⟨v,member,deep⟩ | ⟨v,member,failed⟩)
    · rcases goes.exceeds regular with whole | ⟨w,made,deeper⟩
      · exact ⟨v,whole ▸ member,.inr ⟨deep,trivial⟩⟩
      · exact ⟨w,made,.inr ⟨deeper,trivial⟩⟩
    · exact ⟨v,member,.inl failed⟩

end Goes

-- A walk that comes to its end has left out only what stands below a place that was declined.
theorem goes_complete {row : List (Place × Product)} {before : σ} {made : List (Visit σ)}
    (goes : Goes root (tour visit row before) made (.ok ())) :
    ∀ found ∈ row, found ∈ made.map Visit.found ∨ ∃ v ∈ made, v.answer = .ok false ∧ v.place <+: found.1 := by
  fun_induction tour visit row before generalizing made with
  | case1 => exact nofun
  | case2 place p rest before answer after ran ih =>
    cases goes with
    | @onward _ _ others _ quiet later =>
      cases answer with
      | error error => cases quiet
      | ok accepted =>
        refine List.forall_mem_cons.mpr ⟨.inl List.mem_cons_self,fun found member => ?_⟩
        by_cases kept : found ∈ remaining place accepted rest
        · rcases ih accepted later found kept with visited | ⟨v,visited,declined⟩
          · exact .inl (List.mem_cons_of_mem _ visited)
          · exact .inr ⟨v,List.mem_cons_of_mem _ visited,declined⟩
        · cases accepted with
          | true => exact absurd (mem_remaining.mpr ⟨member,fun declined => Bool.noConfusion declined⟩) kept
          | false =>
            have covers : place <+: found.1 := by
              refine Decidable.byContradiction fun outside => kept (mem_remaining.mpr ⟨member,fun _ => outside⟩)
            exact .inr ⟨_,List.mem_cons_self,rfl,covers⟩

-- A tree is put into a row exactly where no level is too deep, and then as a whole.
structure Flattens (tree : Product) : Prop where
  succeeds_iff : (∃ products, tree.flatten = .ok products) ↔ ∀ found ∈ tree.occurrences, found.1.length ≤ depthLimit
  whole : ∀ products, tree.flatten = .ok products → products = tree.occurrences.map Prod.snd
  refused : ∀ error, tree.flatten = .error error → error = .treeTooDeep tree.tripletText depthLimit

theorem flattens (tree : Product) : Flattens tree where
  succeeds_iff := by
    rw [flatten_eq,← height_le_iff]
    split <;> simp [*]
  whole products flat := by
    rw [occurrences_snd]
    exact flatten_ok flat
  refused error refused := by
    rw [flatten_eq] at refused
    split at refused
    · cases refused
    · cases refused; rfl

-- A walk against a tour through all places below the root, in which the visitor is asked at each place what it finds
-- there and the places below a declined one are passed over.
structure Walks (tree : Product) (visit : Product → ExceptT Error (StateM σ) Bool) (before : σ)
    (made : List (Visit σ)) (result : Result Unit) (after : σ) : Prop where
  calls : ∀ seen, (tree.traverse (recording visit)).run (before,seen) = (result,(after,seen ++ made.map Visit.call))
  left : after = leaves before made
  begins : made <+: tour visit tree.occurrences before
  whole : made = tour visit tree.occurrences before ∨ ∃ v ∈ made, v.Exceeds
  -- Each place is below the root and is visited once, before those below it and those after it.
  inOrder : (made.map Visit.found).Sublist tree.occurrences
  levels : ∀ v ∈ made, v.place ≠ [] ∧ v.place.length ≤ depthLimit
  skipped : ∀ done v later, made = done ++ v :: later → v.answer = .ok false → ∀ w ∈ later, ¬ v.place <+: w.place
  complete : result = .ok () → ∀ found ∈ tree.occurrences,
    found ∈ made.map Visit.found ∨ ∃ v ∈ made, v.answer = .ok false ∧ v.place <+: found.1
  failed : ∀ done v later error, made = done ++ v :: later → v.answer = .error error → later = [] ∧ result = .error error
  tooDeep_iff : result = .error (.treeTooDeep tree.tripletText depthLimit) ↔
    (∃ v ∈ tour visit tree.occurrences before, v.Exceeds) ∨
      ∃ v ∈ made, v.answer = .error (.treeTooDeep tree.tripletText depthLimit)
  refused : ∀ error, result = .error error →
    (∃ v ∈ made, v.answer = .error error) ∨ error = .treeTooDeep tree.tripletText depthLimit

theorem traverse_walks (tree : Product) (visit : Product → ExceptT Error (StateM σ) Bool) (before : σ) :
    (∃ made, Walks tree visit before made ((tree.traverse visit).run before).1 ((tree.traverse visit).run before).2) ∧
      Flattens tree := by
  refine ⟨?_,flattens tree⟩
  have followed : ∃ made result, Follows tree.tripletText visit tree.occurrences before made result :=
    follow_follows tree.occurrences before
  obtain ⟨made,result,goes,ran,recorded⟩ := followed
  have regular : Regular (tour visit tree.occurrences before) := regular_tour tree.occurrences before
  rw [traverse_eq_follow,ran]
  have inOrder : (made.map Visit.found).Sublist tree.occurrences :=
    (goes.begins.sublist.map Visit.found).trans (tour_sublist tree.occurrences before)
  exact ⟨made,{
    calls := fun seen => by rw [traverse_eq_follow]; exact recorded seen
    left := rfl
    begins := goes.begins
    whole := goes.exceeds regular
    inOrder := inOrder
    levels := by
      intro v member
      have stands := (mem_occurrences tree).mp (inOrder.subset (List.mem_map_of_mem member))
      exact ⟨stands.1,goes_shallow (grounded_occurrences tree) (occurrences_ahead tree) goes v member⟩
    skipped := by
      intro done v later parts declined w member
      obtain ⟨left,toured⟩ := goes.begins
      have onward : tour visit tree.occurrences before = done ++ v :: (later ++ left) := by
        rw [← toured,parts,List.append_assoc,List.cons_append]
      exact regular.passesOver done v _ onward declined w (List.mem_append_left left member)
    complete := by
      rintro rfl
      exact goes_complete goes
    failed := by
      intro done v later error parts failed
      have halts : v.halts tree.tripletText = some error := Visit.halts_eq_some.mpr (.inl failed)
      exact ⟨goes.last parts halts,goes.error_iff.mpr ⟨v,by simp [parts],halts⟩⟩
    tooDeep_iff := goes.tooDeep_iff regular
    refused := by
      intro error refused
      obtain ⟨v,member,halts⟩ := goes.error_iff.mp refused
      rcases Visit.halts_eq_some.mp halts with failed | ⟨_,deep⟩
      · exact .inl ⟨v,member,failed⟩
      · exact .inr deep }⟩

end Entitlement.Product
