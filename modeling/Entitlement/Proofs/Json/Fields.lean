import Entitlement.Proofs.Json.Tables

-- The fields of a record, from the members that are written. An object stands for a record if every member of it is named
-- by a text and no field of the record is written twice; what the record then holds are the members that are fields. A
-- field that may be null is the same to its readers whether it is null or missing.
namespace Entitlement.Json

variable {names : List String} {members before after : List (Scribed × Node)} {name other : String} {node : Node}
  {room : Nat}

-- The members that are fields of the record.
def kept (names : List String) (members : List (Scribed × Node)) : Fields := members.filterMap fun m =>
  m.1.bind fun name => if names.contains name then some (name,m.2) else none

theorem kept_append (before after : List (Scribed × Node)) :
    kept names (before ++ after) = kept names before ++ kept names after := List.filterMap_append

theorem kept_known (known : name ∈ names) :
    kept names ((some name,node) :: members) = (name,node) :: kept names members := by
  simp [kept,known]

theorem kept_unknown (unknown : name ∉ names) : kept names ((some name,node) :: members) = kept names members := by
  simp [kept,unknown]

theorem mem_kept {f : String × Node} : f ∈ kept names members ↔ (some f.1,f.2) ∈ members ∧ f.1 ∈ names := by
  obtain ⟨name,node⟩ := f
  constructor
  · intro member
    obtain ⟨⟨key,value⟩,among,same⟩ := List.mem_filterMap.mp member
    cases key with
    | none => cases same
    | some key =>
      obtain ⟨known,same⟩ := Option.ite_none_right_eq_some.mp same
      cases same
      exact ⟨among,List.contains_iff_mem.mp known⟩
  · rintro ⟨among,known⟩
    refine List.mem_filterMap.mpr ⟨_,among,?_⟩
    rw [Option.bind_some,if_pos (List.contains_iff_mem.mpr known)]

-- An object that a record can be read from.
structure Regular (names : List String) (members : List (Scribed × Node)) : Prop where
  named : ∀ m ∈ members, m.1.isSome
  distinct : ((kept names members).map Prod.fst).Nodup

theorem regular_perm (same : before.Perm after) : Regular names before ↔ Regular names after := by
  have one {first last : List (Scribed × Node)} (same : first.Perm last) (regular : Regular names first) :
      Regular names last :=
    ⟨fun m member => regular.named m (same.mem_iff.mpr member),
      ((same.filterMap _).map _).nodup_iff.mp regular.distinct⟩
  exact ⟨one same,one same.symm⟩

theorem regular_known (known : name ∈ names) : Regular names ((some name,node) :: members) ↔
    name ∉ (kept names members).map Prod.fst ∧ Regular names members := by
  constructor
  · rintro ⟨named,distinct⟩
    rw [kept_known known] at distinct
    obtain ⟨fresh,others⟩ := List.nodup_cons.mp distinct
    exact ⟨fresh,(List.forall_mem_cons.mp named).2,others⟩
  · rintro ⟨fresh,named,distinct⟩
    refine ⟨List.forall_mem_cons.mpr ⟨rfl,named⟩,?_⟩
    rw [kept_known known]
    exact List.nodup_cons.mpr ⟨fresh,distinct⟩

theorem regular_unknown (unknown : name ∉ names) :
    Regular names ((some name,node) :: members) ↔ Regular names members := by
  constructor
  · rintro ⟨named,distinct⟩
    rw [kept_unknown unknown] at distinct
    exact ⟨(List.forall_mem_cons.mp named).2,distinct⟩
  · rintro ⟨named,distinct⟩
    refine ⟨List.forall_mem_cons.mpr ⟨rfl,named⟩,?_⟩
    rwa [kept_unknown unknown]

theorem ofMembers?_eq_some {fields : Fields} :
    Fields.ofMembers? names members = some fields ↔ Regular names members ∧ fields = kept names members := by
  induction members generalizing fields with
  | nil => exact ⟨fun given => ⟨⟨nofun,List.nodup_nil⟩,(Option.some.inj given).symm⟩,fun ⟨_,same⟩ => same ▸ rfl⟩
  | cons m rest ih =>
    obtain ⟨key,node⟩ := m
    cases key with
    | none => exact ⟨nofun,fun ⟨regular,_⟩ => nomatch regular.named _ List.mem_cons_self⟩
    | some name =>
      rw [Fields.ofMembers?,Option.bind_eq_bind,Option.bind_eq_some_iff]
      simp only [ih]
      by_cases known : name ∈ names
      · have twice : (kept names rest).any (fun f => f.1 == name) = true ↔
            name ∈ (kept names rest).map Prod.fst := by
          simp [List.any_eq_true]
        rw [regular_known known,kept_known known]
        constructor
        · rintro ⟨_,⟨regular,rfl⟩,given⟩
          rw [if_pos (List.contains_iff_mem.mpr known)] at given
          obtain ⟨fresh,same⟩ := Option.ite_none_left_eq_some.mp given
          exact ⟨⟨fun among => fresh (twice.mpr among),regular⟩,(Option.some.inj same).symm⟩
        · rintro ⟨⟨fresh,regular⟩,rfl⟩
          refine ⟨_,⟨regular,rfl⟩,?_⟩
          rw [if_pos (List.contains_iff_mem.mpr known),if_neg fun among => fresh (twice.mp among)]
      · have passed : names.contains name ≠ true := fun among => known (List.contains_iff_mem.mp among)
        rw [regular_unknown known,kept_unknown known]
        constructor
        · rintro ⟨_,⟨regular,rfl⟩,given⟩
          rw [if_neg passed] at given
          exact ⟨regular,(Option.some.inj given).symm⟩
        · rintro ⟨regular,rfl⟩
          exact ⟨_,⟨regular,rfl⟩,if_neg passed⟩

theorem ofMembers?_regular (regular : Regular names members) :
    Fields.ofMembers? names members = some (kept names members) := ofMembers?_eq_some.mpr ⟨regular,rfl⟩

theorem ofMembers?_irregular (irregular : ¬ Regular names members) : Fields.ofMembers? names members = none :=
  Option.eq_none_iff_forall_ne_some.mpr fun _ given => irregular (ofMembers?_eq_some.mp given).1

namespace Fields

variable {fields first second : Fields}

-- What a field says to a reader that takes null for nothing.
def told? (fields : Fields) (name : String) : Option Node :=
  match fields.get? name with
  | some .null => none
  | found => found

theorem nullable_eq (fields : Fields) (name : String) (room : Nat) (read : Reader α) :
    fields.nullable name room read = match fields.told? name with
      | none => some none
      | some node => (read room node).map some := by
  unfold nullable optional told?
  cases fields.get? name with
  | none => rfl
  | some node => cases node <;> rfl

theorem nullable_congr {read : Reader α} (same : first.told? name = second.told? name) :
    first.nullable name room read = second.nullable name room read := by
  rw [nullable_eq,nullable_eq,same]

theorem get?_cons (name : String) (node : Node) (fields : Fields) (asked : String) :
    get? ((name,node) :: fields) asked = if name = asked then some node else fields.get? asked := by
  by_cases same : name = asked
  · simp [get?,same]
  · simp [get?,same]

theorem get?_append (first second : Fields) (name : String) :
    get? (first ++ second) name = (first.get? name).or (second.get? name) := by
  rw [get?,List.find?_append,Option.map_or]
  rfl

theorem get?_eq_none : fields.get? name = none ↔ name ∉ fields.map Prod.fst := by
  rw [get?,Option.map_eq_none_iff,List.find?_eq_none]
  constructor
  · intro absent member
    obtain ⟨f,among,same⟩ := List.mem_map.mp member
    exact absent f among (beq_iff_eq.mpr same)
  · intro absent f among same
    exact absent (beq_iff_eq.mp same ▸ List.mem_map_of_mem among)

theorem mem_of_get? (found : fields.get? name = some node) : (name,node) ∈ fields := by
  obtain ⟨⟨other,value⟩,first,same⟩ := Option.map_eq_some_iff.mp found
  have named : (other == name) = true := List.find?_some (p := fun f : String × Node => f.1 == name) first
  cases same
  rw [← beq_iff_eq.mp named]
  exact List.mem_of_find?_eq_some first

theorem get?_of_mem (distinct : (fields.map Prod.fst).Nodup) (member : (name,node) ∈ fields) :
    fields.get? name = some node := by
  induction fields with
  | nil => cases member
  | cons f rest ih =>
    obtain ⟨fresh,others⟩ := List.nodup_cons.mp distinct
    rw [get?_cons]
    rcases List.mem_cons.mp member with rfl | later
    · rw [if_pos rfl]
    · rw [if_neg fun same => fresh (List.mem_map.mpr ⟨_,later,same.symm⟩),ih others later]

-- A null field tells nothing, as a missing one does.
theorem told?_null (fresh : name ∉ (first ++ second).map Prod.fst) (asked : String) :
    told? (first ++ (name,.null) :: second) asked = told? (first ++ second) asked := by
  unfold told?
  rw [get?_append,get?_append,get?_cons]
  by_cases same : name = asked
  · subst same
    have missing := get?_eq_none.mpr fresh
    rw [get?_append] at missing
    obtain ⟨unsaid,unwritten⟩ := Option.or_eq_none_iff.mp missing
    rw [unsaid,unwritten,if_pos rfl]
    rfl
  · rw [if_neg same]

-- A field tells nothing of the others.
theorem told?_other {one two : Node} (different : name ≠ other) :
    told? (first ++ (name,one) :: second) other = told? (first ++ (name,two) :: second) other := by
  unfold told?
  rw [get?_append,get?_append,get?_cons,get?_cons,if_neg different,if_neg different]

theorem nullableOr_eq {read : Reader α} {absent : α} (fields : Fields) (name : String) (room : Nat) :
    fields.nullableOr name room read absent = match fields.told? name with
      | none => some absent
      | some node => read room node := by
  rw [nullableOr,nullable_eq]
  cases fields.told? name with
  | none => rfl
  | some node => simp

theorem get?_of_told? (told : fields.told? name = none) : fields.get? name = none ∨ fields.get? name = some .null := by
  unfold told? at told
  split at told
  · rename_i null
    exact .inr null
  · exact .inl told

theorem told?_eq_some {written : Node} (filled : written ≠ .null) :
    fields.told? name = some written ↔ fields.get? name = some written := by
  unfold told?
  split
  · rename_i null
    rw [null]
    exact ⟨nofun,fun same => absurd (Option.some.inj same).symm filled⟩
  · rfl

-- A field that is not at its default says so.
theorem nullableOr_iff {read : Reader α} {absent value found : α} {written : Node}
    (given : fields.nullableOr name room read absent = some found) (present : value ≠ absent)
    (exact : ∀ node, read room node = some value ↔ node = written) (filled : written ≠ .null) :
    found = value ↔ fields.get? name = some written := by
  rw [nullableOr_eq] at given
  rw [← told?_eq_some filled]
  cases told : fields.told? name with
  | none =>
    rw [told] at given
    exact ⟨fun same => absurd (same.symm.trans (Option.some.inj given).symm) present,nofun⟩
  | some node =>
    rw [told] at given
    have read : read room node = some found := given
    rw [Option.some.injEq,← exact,read,Option.some.injEq]

theorem nullableOr_bool {absent value found : Bool}
    (given : fields.nullableOr name room Reader.bool absent = some found) (present : value ≠ absent) :
    found = value ↔ fields.get? name = some (.bool value) :=
  nullableOr_iff given present (fun node => by cases node <;> simp [Reader.bool]) nofun

theorem nullableOr_string {absent value found : String}
    (given : fields.nullableOr name room Reader.string absent = some found) (present : value ≠ absent) :
    found = value ↔ fields.get? name = some (.string (some value)) :=
  nullableOr_iff given present (fun node => by cases node <;> simp [Reader.string]) nofun

end Fields

theorem get?_kept (known : name ∈ names) :
    (kept names members).get? name = (members.find? fun m => m.1 == some name).map Prod.snd := by
  induction members with
  | nil => rfl
  | cons m rest ih =>
    obtain ⟨key,node⟩ := m
    by_cases same : key = some name
    · subst same
      simp [kept_known known,Fields.get?_cons]
    · rw [List.find?_cons_of_neg (by simpa using same),← ih]
      cases key with
      | none => rfl
      | some other =>
        by_cases field : other ∈ names
        · rw [kept_known field,Fields.get?_cons,if_neg fun named => same (congrArg some named)]
        · rw [kept_unknown field]

theorem mapM_forall₂ {read : β → Option α} {items : List β} {values : List α}
    (found : items.mapM read = some values) : List.Forall₂ (fun item value => read item = some value) items values := by
  induction items generalizing values with
  | nil => cases found; exact .nil
  | cons item rest ih =>
    simp only [List.mapM_cons,Option.bind_eq_bind,Option.bind_eq_some_iff] at found
    obtain ⟨first,this,later,others,same⟩ := found
    cases same
    exact .cons this (ih others)

end Entitlement.Json
