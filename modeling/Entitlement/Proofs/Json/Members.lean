import Entitlement.Json.Access
import Entitlement.Proofs.Json.Tables

-- The members of an object that was read. They are in the order of their names, so that no two have one name, and each of
-- them comes from a member that was written.
namespace Entitlement.Json

open Reader

variable {name : String} {value : Json} {members found : List (String × Json)} {m : String × Json} {room : Nat}

-- The names ascend.
def Ascending (members : List (String × Json)) : Prop := members.Pairwise fun first second => first.1 < second.1

theorem lt_of_not_lt {first second : String} (different : first ≠ second) (notLess : ¬ first < second) : second < first := by
  refine Decidable.byContradiction fun neither => different ?_
  exact String.le_antisymm (String.not_lt.mp neither) (String.not_lt.mp notLess)

theorem mem_insertMember (member : m ∈ insertMember name value members) : m = (name,value) ∨ m ∈ members := by
  induction members with
  | nil => exact .inl (List.mem_singleton.mp member)
  | cons head rest ih =>
    obtain ⟨other,old⟩ := head
    unfold insertMember at member
    split_ifs at member with same less
    · exact (List.mem_cons.mp member).imp_right (List.mem_cons_of_mem _)
    · exact List.mem_cons.mp member
    · rcases List.mem_cons.mp member with rfl | later
      · exact .inr List.mem_cons_self
      · exact (ih later).imp_right (List.mem_cons_of_mem _)

theorem ascending_insertMember (ascending : Ascending members) : Ascending (insertMember name value members) := by
  induction members with
  | nil => exact List.pairwise_singleton _ _
  | cons head rest ih =>
    obtain ⟨other,old⟩ := head
    obtain ⟨below,later⟩ := List.pairwise_cons.mp ascending
    unfold insertMember
    split_ifs with same less
    · subst same
      exact List.pairwise_cons.mpr ⟨below,later⟩
    · refine List.pairwise_cons.mpr ⟨List.forall_mem_cons.mpr ⟨less,fun m member => ?_⟩,ascending⟩
      exact String.lt_trans less (below m member)
    · refine List.pairwise_cons.mpr ⟨fun m member => ?_,ih later⟩
      rcases mem_insertMember member with rfl | among
      · exact lt_of_not_lt same less
      · exact below m among

-- Whatever had the name before is no more.
theorem eq_of_mem_insertMember {other : Json} (ascending : Ascending members)
    (member : (name,other) ∈ insertMember name value members) : other = value := by
  induction members with
  | nil => exact (Prod.mk.inj (List.mem_singleton.mp member)).2
  | cons head rest ih =>
    obtain ⟨first,old⟩ := head
    obtain ⟨below,later⟩ := List.pairwise_cons.mp ascending
    have behind (reached : ¬ first < name) : (name,other) ∉ rest := fun among => reached (below _ among)
    unfold insertMember at member
    split_ifs at member with same less
    · subst same
      rcases List.mem_cons.mp member with equal | among
      · exact (Prod.mk.inj equal).2
      · exact absurd among (behind (String.lt_irrefl name))
    · rcases List.mem_cons.mp member with equal | among
      · exact (Prod.mk.inj equal).2
      · rcases List.mem_cons.mp among with equal | among
        · exact absurd (Prod.mk.inj equal).1 same
        · exact absurd among (behind fun less' => String.lt_irrefl _ (String.lt_trans less less'))
    · rcases List.mem_cons.mp member with equal | among
      · exact absurd (Prod.mk.inj equal).1 same
      · exact ih later among

theorem mem_of_lookUp (looked : lookUp members name = some value) : (name,value) ∈ members := by
  obtain ⟨⟨other,_⟩,first,rfl⟩ := Option.map_eq_some_iff.mp looked
  obtain rfl : other = name := by simpa using List.find?_some first
  exact List.mem_of_find?_eq_some first

theorem foldl_insertMember {read sorted : List (String × Json)} (ascending : Ascending sorted) :
    Ascending (read.foldl (fun sorted m => insertMember m.1 m.2 sorted) sorted) ∧
      ∀ m ∈ read.foldl (fun sorted m => insertMember m.1 m.2 sorted) sorted, m ∈ read ∨ m ∈ sorted := by
  induction read generalizing sorted with
  | nil => exact ⟨ascending,fun m member => .inr member⟩
  | cons head rest ih =>
    obtain ⟨order,each⟩ := ih (@ascending_insertMember head.1 head.2 _ ascending)
    refine ⟨order,fun m member => ?_⟩
    rcases each m member with among | among
    · exact .inl (List.mem_cons_of_mem _ among)
    · rcases mem_insertMember among with rfl | among
      · exact .inl List.mem_cons_self
      · exact .inr among

theorem object_of_value {nodes : List (Scribed × Node)} {v : Json} (read : Reader.value room (.object nodes) = some v) :
    ∃ inner found, room = inner + 1 ∧ v = .object found ∧ Ascending found ∧
      ∀ m ∈ found, ∃ n ∈ nodes, n.1 = some m.1 ∧ Reader.value inner n.2 = some m.2 := by
  cases room with
  | zero => cases read
  | succ inner =>
    obtain ⟨pairs,taken,same⟩ := Option.bind_eq_some_iff.mp read
    cases same
    obtain ⟨ascending,each⟩ := @foldl_insertMember pairs [] List.Pairwise.nil
    refine ⟨inner,_,rfl,rfl,ascending,fun m member => ?_⟩
    have among : m ∈ pairs := (each m member).resolve_right List.not_mem_nil
    obtain ⟨n,written,given⟩ := mapM_some taken m among
    obtain ⟨name,named,given⟩ := Option.bind_eq_some_iff.mp given
    obtain ⟨value,read,same⟩ := Option.bind_eq_some_iff.mp given
    cases same
    exact ⟨n,written,named,read⟩

theorem members_of_value {node : Node} (read : Reader.value room node = some (.object members)) :
    ∃ inner, room = inner + 1 ∧ Ascending members ∧ ∀ m ∈ members, ∃ n, Reader.value inner n = some m.2 := by
  cases node with
  | object nodes =>
    obtain ⟨inner,_,rfl,same,ascending,each⟩ := object_of_value read
    cases same
    refine ⟨inner,rfl,ascending,?_⟩
    intro m member
    obtain ⟨n,_,_,given⟩ := each m member
    exact ⟨n.2,given⟩
  | array items =>
    cases room with
    | zero => cases read
    | succ room =>
      obtain ⟨_,_,same⟩ := Option.map_eq_some_iff.mp read
      cases same
  | _ => cases room <;> simp [Reader.value] at read

theorem ascending_of_value {node : Node} (read : Reader.value room node = some (.object members)) : Ascending members := by
  obtain ⟨_,_,ascending,_⟩ := members_of_value read
  exact ascending

-- What is read of a written object comes from its members.
theorem object_of_written {v : Json} (read : Reader.value room (node (.object members)) = some v) :
    ∃ inner found, v = .object found ∧
      ∀ m ∈ found, ∃ source ∈ members, source.1 = m.1 ∧ Reader.value inner source.2.node = some m.2 := by
  obtain ⟨inner,found,_,rfl,_,each⟩ := object_of_value read
  refine ⟨inner,found,rfl,fun m member => ?_⟩
  obtain ⟨n,written,named,given⟩ := each m member
  rw [memberNodes_eq] at written
  obtain ⟨source,among,rfl⟩ := List.mem_map.mp written
  exact ⟨source,among,Option.some.inj named,given⟩

end Entitlement.Json
