import Entitlement.Proofs.Json.Members
import Entitlement.Proofs.Json.RoundTrip

-- Values that are read as they were written. Their objects have their members in order, they are no deeper than a reader
-- goes, and their numbers are integers of 64 bits. What was read is of this kind, if only it has no other numbers; it
-- stays so where members are put into its objects or taken out of them.
namespace Entitlement.Json

open Reader

-- The number, and what is in the value, are integers.
inductive Integral : Json → Prop where
  | null : Integral .null
  | bool : Integral (.bool b)
  | number : Integral (.number (.integer n))
  | string : Integral (.string s)
  | array {items : List Json} : (∀ item ∈ items, Integral item) → Integral (.array items)
  | object {members : List (String × Json)} : (∀ m ∈ members, Integral m.2) → Integral (.object members)

-- What a reader that may open so many containers can read as it was written.
inductive Sound : Nat → Json → Prop where
  | null : Sound room .null
  | bool : Sound room (.bool b)
  | number : -(limit63 : Int) ≤ n → n < limit64 → Sound room (.number (.integer n))
  | string : Sound room (.string s)
  | array {items : List Json} : (∀ item ∈ items, Sound room item) → Sound (room + 1) (.array items)
  | object {members : List (String × Json)} : Ascending members → (∀ m ∈ members, Sound room m.2) →
      Sound (room + 1) (.object members)

variable {name : String} {value v : Json} {members before : List (String × Json)} {room : Nat}

section Members

theorem lookUp_cons (m : String × Json) (rest : List (String × Json)) (name : String) :
    lookUp (m :: rest) name = if m.1 = name then some m.2 else lookUp rest name := by
  unfold lookUp
  rw [List.find?_cons]
  by_cases same : m.1 = name
  · rw [if_pos same,beq_iff_eq.mpr same]
    rfl
  · rw [if_neg same,beq_eq_false_iff_ne.mpr same]

theorem lookUp_insertMember (name other : String) (value : Json) (members : List (String × Json)) :
    lookUp (insertMember name value members) other = if name = other then some value else lookUp members other := by
  induction members with
  | nil => exact lookUp_cons (name,value) [] other
  | cons head rest ih =>
    obtain ⟨first,old⟩ := head
    unfold insertMember
    by_cases same : name = first
    · subst same
      simp only [if_true,lookUp_cons]
      split <;> rfl
    by_cases less : name < first
    · rw [if_neg same,if_pos less]
      exact lookUp_cons (name,value) ((first,old) :: rest) other
    · rw [if_neg same,if_neg less,lookUp_cons,ih,lookUp_cons]
      by_cases found : first = other
      · rw [if_pos found,if_neg (found ▸ same)]
        exact (if_pos found).symm
      · rw [if_neg found,if_neg found]

theorem insertMember_twice (name : String) (value second : Json) (members : List (String × Json)) :
    insertMember name second (insertMember name value members) = insertMember name second members := by
  induction members with
  | nil => simp [insertMember]
  | cons head rest ih =>
    obtain ⟨first,old⟩ := head
    by_cases same : name = first
    · simp [insertMember,same]
    by_cases less : name < first
    · simp [insertMember,same,less]
    · simp [insertMember,same,less,ih]

-- Without the members of its name, nothing is left of what was put in.
theorem filter_insertMember (name : String) (value : Json) (members : List (String × Json)) :
    (insertMember name value members).filter (fun m => m.1 != name) = members.filter fun m => m.1 != name := by
  induction members with
  | nil => simp [insertMember]
  | cons head rest ih =>
    obtain ⟨first,old⟩ := head
    by_cases same : name = first
    · simp [insertMember,same]
    by_cases less : name < first
    · simp [insertMember,same,less]
    · simp only [insertMember,same,less,if_false,List.filter_cons,ih]

theorem filter_eq_self_of_lookUp (absent : lookUp members name = none) :
    members.filter (fun m => m.1 != name) = members := by
  rw [lookUp,Option.map_eq_none_iff,List.find?_eq_none] at absent
  apply List.filter_eq_self.mpr
  intro m member
  rw [bne,Bool.not_eq_true']
  exact Bool.eq_false_iff.mpr (absent m member)

theorem insertMember_of_lookUp (ascending : Ascending members) (looked : lookUp members name = some value) :
    insertMember name value members = members := by
  induction members with
  | nil => cases looked
  | cons head rest ih =>
    obtain ⟨first,old⟩ := head
    obtain ⟨below,later⟩ := List.pairwise_cons.mp ascending
    rw [lookUp_cons] at looked
    by_cases same : first = name
    · rw [if_pos same] at looked
      cases looked
      simp [insertMember,same]
    · rw [if_neg same] at looked
      have behind : ¬ name < first := fun less =>
        String.lt_irrefl _ (String.lt_trans less (below _ (mem_of_lookUp looked)))
      simp [insertMember,Ne.symm same,behind,ih later looked]

theorem insertMember_append (below : ∀ m ∈ before, m.1 < name) :
    insertMember name value before = before ++ [(name,value)] := by
  induction before with
  | nil => rfl
  | cons head rest ih =>
    obtain ⟨this,later⟩ := List.forall_mem_cons.mp below
    have different : name ≠ head.1 := fun same => String.lt_irrefl _ (same ▸ this)
    have behind : ¬ name < head.1 := fun less => String.lt_irrefl _ (String.lt_trans less this)
    rw [insertMember,if_neg different,if_neg behind,ih later]
    rfl

-- Members in order stay as they are when they are put in one after the other.
theorem foldl_insertMember_ascending (ascending : Ascending (before ++ members)) :
    members.foldl (fun sorted m => insertMember m.1 m.2 sorted) before = before ++ members := by
  induction members generalizing before with
  | nil => exact (List.append_nil before).symm
  | cons m rest ih =>
    have below : ∀ earlier ∈ before, earlier.1 < m.1 :=
      fun earlier member => (List.pairwise_append.mp ascending).2.2 earlier member m List.mem_cons_self
    have split : before ++ m :: rest = before ++ [m] ++ rest := (List.append_cons before m rest)
    rw [List.foldl_cons,insertMember_append below,split]
    rw [split] at ascending
    exact ih ascending

end Members

section Reading

theorem Sound.value_node (sound : Sound room v) : Reader.value room v.node = some v := by
  induction sound with
  | null | bool | string => simp [node,Reader.value]
  | number low high => simp [node,Reader.value,value?_spelling low high]
  | array _ each =>
    have items := (mapM_map_some each).trans (congrArg some (List.map_id _))
    rw [node,itemNodes_eq,Reader.value,items]
    rfl
  | @object room members ascending _ each =>
    have pairs : (memberNodes members).mapM (fun m => do some ((← m.1),(← Reader.value room m.2))) = some members := by
      rw [memberNodes_eq]
      apply (mapM_map_some _).trans (congrArg some (List.map_id members))
      intro m member
      simp [each m member]
    rw [node,Reader.value,pairs]
    exact congrArg (fun members => some (Json.object members)) (@foldl_insertMember_ascending members [] ascending)

theorem array_of_value {items : List Json} {node : Node} (read : Reader.value room node = some (.array items)) :
    ∃ inner, room = inner + 1 ∧ ∀ item ∈ items, ∃ n, Reader.value inner n = some item := by
  cases room with
  | zero => cases node <;> simp [Reader.value] at read
  | succ inner =>
    cases node with
    | array nodes =>
      obtain ⟨_,taken,same⟩ := Option.map_eq_some_iff.mp read
      cases same
      refine ⟨inner,rfl,?_⟩
      intro item member
      obtain ⟨n,_,given⟩ := mapM_some taken item member
      exact ⟨n,given⟩
    | object nodes =>
      obtain ⟨_,_,same⟩ := Option.bind_eq_some_iff.mp read
      cases same
    | _ => simp [Reader.value] at read

theorem Integral.sound (integral : Integral v) {node : Node} (read : Reader.value room node = some v) : Sound room v := by
  induction integral generalizing room node with
  | null => exact .null
  | bool => exact .bool
  | string => exact .string
  | number =>
    obtain ⟨_,value⟩ := number_of_value read
    obtain ⟨low,high⟩ := range_of_value? value
    exact .number low high
  | array _ each =>
    obtain ⟨inner,rfl,items⟩ := array_of_value read
    apply Sound.array
    intro item member
    obtain ⟨n,given⟩ := items item member
    exact each item member given
  | object _ each =>
    obtain ⟨inner,rfl,ascending,found⟩ := members_of_value read
    apply Sound.object ascending
    intro m member
    obtain ⟨n,given⟩ := found m member
    exact each m member given

end Reading

section Editing

theorem sound_nil : Sound (room + 1) (.object []) := .object List.Pairwise.nil fun _ member => nomatch member

theorem Sound.ascending (sound : Sound (room + 1) (.object members)) : Ascending members := by
  cases sound with
  | object ascending _ => exact ascending

theorem Sound.member (sound : Sound (room + 1) (.object members)) (looked : lookUp members name = some value) :
    Sound room value := by
  cases sound with
  | object _ each => exact each _ (mem_of_lookUp looked)

theorem Sound.insertMember (sound : Sound (room + 1) (.object members)) (new : Sound room value) :
    Sound (room + 1) (.object (Reader.insertMember name value members)) := by
  cases sound with
  | object ascending each =>
    apply Sound.object (ascending_insertMember ascending)
    intro m member
    rcases mem_insertMember member with rfl | among
    · exact new
    · exact each m among

theorem Sound.decode_pretty (sound : Sound depthLimit v) : Format.value.decode (Text.encode v.pretty) = .ok v :=
  decode_ok.mpr ⟨_,Node.ofBytes?_pretty v,sound.value_node⟩

end Editing

end Entitlement.Json
