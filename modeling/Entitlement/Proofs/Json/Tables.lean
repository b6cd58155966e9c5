import Entitlement.Proofs.Json.Nodes

-- Records as tables. A record is written as the row of its fields, some of them left out, and reading the record again
-- finds in every field what the table holds for it. A reader that takes a default for a missing field gets its value
-- from what is written, or from the default where nothing is.
namespace Entitlement.Json

-- The fields of a record in their order, each with what is written for it, if anything is.
abbrev Table := List (String × Option Json)

def Table.members (table : Table) : List (String × Json) := table.flatMap fun row => option? row.1 row.2

def Table.written (table : Table) (name : String) : Option Json := (table.lookup name).join

def filledText (text : String) : Option Json := if text.isEmpty then none else some (.string text)

def filledList (items : List Json) : Option Json := if items.isEmpty then none else some (.array items)

theorem member?_eq (name text : String) : member? name text = option? name (filledText text) := by
  unfold member? filledText
  split <;> rfl

theorem list?_eq (name : String) (items : List Json) : list? name items = option? name (filledList items) := by
  unfold list? filledList
  split <;> rfl

-- An integer of 64 bits with a sign.
def Fits64 (n : Int) : Prop := -(limit63 : Int) ≤ n ∧ n < limit63

instance (n : Int) : Decidable (Fits64 n) := inferInstanceAs (Decidable (_ ∧ _))

theorem fits64_zero : Fits64 0 := by decide

theorem Fits64.small {n : Int} (fits : Fits64 n) : n < limit64 := Int.lt_trans fits.2 (by decide)

variable {names : List String} {table : Table} {name : String}

theorem Table.members_cons (row : String × Option Json) :
    Table.members (row :: table) = option? row.1 row.2 ++ table.members := List.flatMap_cons

theorem Table.mem_members {m : String × Json} (member : m ∈ table.members) : (m.1,some m.2) ∈ table := by
  obtain ⟨⟨name,written⟩,row,among⟩ := List.mem_flatMap.mp member
  cases written with
  | none => cases among
  | some value =>
    cases List.mem_singleton.mp among
    exact row

namespace Fields

def ofTable (table : Table) : Fields := table.members.map fun m => (m.1,m.2.node)

theorem mem_names_ofTable {f : String × Node} (member : f ∈ ofTable table) : f.1 ∈ table.map Prod.fst := by
  obtain ⟨m,among,rfl⟩ := List.mem_map.mp member
  exact List.mem_map_of_mem (Table.mem_members among)

theorem ofMembers?_table (distinct : (table.map Prod.fst).Nodup)
    (known : ∀ name ∈ table.map Prod.fst, name ∈ names) :
    ofMembers? names (memberNodes table.members) = some (ofTable table) := by
  induction table with
  | nil => rfl
  | cons row rest ih =>
    obtain ⟨name,written⟩ := row
    obtain ⟨fresh,others⟩ := List.nodup_cons.mp distinct
    obtain ⟨this,later⟩ := List.forall_mem_cons.mp known
    have read := ih others later
    cases written with
    | none => exact read
    | some value =>
      have alone : (ofTable rest).any (fun f => f.1 == name) = false := by
        rw [List.any_eq_false]
        intro f member same
        exact fresh (by simpa only [beq_iff_eq.mp same] using mem_names_ofTable member)
      have among : names.contains name = true := List.contains_iff_mem.mpr this
      simp only [Table.members_cons,option?,List.cons_append,List.nil_append,memberNodes,ofMembers?,read,
        Option.bind_eq_bind,Option.bind_some,among,alone,if_true,Bool.false_eq_true,if_false]
      rfl

theorem get?_ofTable (distinct : (table.map Prod.fst).Nodup) (name : String) :
    (ofTable table).get? name = (table.written name).map node := by
  induction table with
  | nil => rfl
  | cons row rest ih =>
    obtain ⟨other,written⟩ := row
    obtain ⟨fresh,others⟩ := List.nodup_cons.mp distinct
    have later := ih others
    by_cases same : other = name
    · subst same
      cases written with
      | some value => simp [ofTable,Table.members_cons,option?,get?,Table.written]
      | none =>
        have absent : ∀ f ∈ ofTable rest, f.1 ≠ other :=
          fun f member same => fresh (same ▸ mem_names_ofTable member)
        have missing : (ofTable rest).get? other = none := by
          rw [get?,List.find?_eq_none.mpr fun f member => by simpa using absent f member]
          rfl
        have nothing : Table.written ((other,none) :: rest) other = none := by simp [Table.written]
        rw [nothing]
        exact missing
    · have passed : Table.written ((other,written) :: rest) name = Table.written rest name := by
        simp [Table.written,List.lookup_cons,beq_false_of_ne (Ne.symm same)]
      rw [passed,← later]
      cases written with
      | none => rfl
      | some value => simp [ofTable,Table.members_cons,option?,get?,same]

theorem ofNode?_table {needed room : Nat} (distinct : (table.map Prod.fst).Nodup)
    (known : ∀ name ∈ table.map Prod.fst, name ∈ names) :
    ofNode? names needed (room + 1) (node (.object table.members)) = some (ofTable table,room) := by
  rw [node,ofNode?,ofMembers?_table distinct known]
  rfl

end Fields

-- A reader that takes `absent` where nothing is written gets the value from what is written.
def Tells (read : Reader α) (room : Nat) (absent value : α) : Option Json → Prop
  | none => value = absent
  | some written => written.node ≠ .null ∧ read room written.node = some value

section Readers

variable {read : Reader α} {room : Nat} {absent value : α} {written : Option Json}

theorem Tells.optional (distinct : (table.map Prod.fst).Nodup)
    (tells : Tells read room absent value (table.written name)) :
    (Fields.ofTable table).optional name room read absent = some value := by
  rw [Fields.optional,Fields.get?_ofTable distinct]
  cases told : table.written name with
  | none =>
    rw [told] at tells
    exact congrArg some tells.symm
  | some json =>
    rw [told] at tells
    exact tells.2

theorem nullable_of_ne {node : Node} (present : node ≠ .null) :
    Reader.nullable read room node = (read room node).map some := by
  cases node with
  | null => exact absurd rfl present
  | _ => rfl

theorem Tells.nullable (tells : Tells read room absent value written) :
    ∃ found : Option α, Tells (Reader.nullable read) room none found written ∧ found.getD absent = value := by
  cases written with
  | none => exact ⟨none,rfl,tells.symm⟩
  | some json =>
    exact ⟨some value,⟨tells.1,(nullable_of_ne tells.1).trans (congrArg (Option.map some) tells.2)⟩,rfl⟩

theorem Tells.nullableOr (distinct : (table.map Prod.fst).Nodup)
    (tells : Tells read room absent value (table.written name)) :
    (Fields.ofTable table).nullableOr name room read absent = some value := by
  obtain ⟨found,tells,same⟩ := tells.nullable
  rw [Fields.nullableOr,Fields.nullable,tells.optional distinct,Option.map_some,same]

theorem tells_string {absent : String} (s : String) : Tells Reader.string room absent s (some (.string s)) :=
  ⟨nofun,rfl⟩

theorem tells_filledText (s : String) : Tells Reader.string room "" s (filledText s) := by
  unfold filledText
  split
  · rename_i blank
    exact String.isEmpty_iff.mp blank
  · exact tells_string s

theorem tells_bool {absent : Bool} (b : Bool) : Tells Reader.bool room absent b (some (.bool b)) := ⟨nofun,rfl⟩

theorem tells_optionalText (text : Option String) :
    Tells (Reader.nullable Reader.string) room none text (text.map .string) := by
  cases text with
  | none => rfl
  | some s => exact ⟨nofun,rfl⟩

theorem tells_integer64 {absent n : Int} (fits : Fits64 n) :
    Tells Reader.integer64 room absent n (some (integer n)) := by
  have range : -(limit63 : Int) ≤ n ∧ n ≤ (limit63 : Int) - 1 := ⟨fits.1,Int.le_sub_one_of_lt fits.2⟩
  refine ⟨nofun,?_⟩
  simp only [integer,node,Reader.integer64,Reader.integer,value?_spelling fits.1 fits.small,Option.bind_some,
    Number.integer?,Option.filter_some,range,decide_true,Bool.and_self,if_true]

theorem tells_value {n : Int} (fits : Fits64 n) :
    Tells (Reader.nullable Reader.value) room none (some (integer n)) (some (integer n)) := by
  refine ⟨nofun,?_⟩
  simp [integer,node,Reader.nullable,Reader.value,value?_spelling fits.1 fits.small]

theorem mapM_map_some {read : β → Option γ} {write : α → β} {result : α → γ} {values : List α}
    (each : ∀ value ∈ values, read (write value) = some (result value)) :
    (values.map write).mapM read = some (values.map result) := by
  induction values with
  | nil => rfl
  | cons value rest ih =>
    obtain ⟨this,later⟩ := List.forall_mem_cons.mp each
    simp [this,ih later]

theorem list_itemNodes {toJson : α → Json} {result : α → β} {read : Reader β} {values : List α}
    (each : ∀ value ∈ values, read room (toJson value).node = some (result value)) :
    Reader.list read (room + 1) (node (.array (values.map toJson))) = some (values.map result) := by
  rw [node,itemNodes_eq,List.map_map,Reader.list]
  exact mapM_map_some each

theorem tells_filledList {read : Reader (List β)} {values : List β} {told : List Json}
    (each : told ≠ [] → read room (node (.array told)) = some values) (none : told = [] → values = []) :
    Tells read room [] values (filledList told) := by
  unfold filledList
  split
  · rename_i blank
    exact none (List.isEmpty_iff.mp blank)
  · rename_i filled
    exact ⟨nofun,each fun blank => filled (List.isEmpty_iff.mpr blank)⟩

theorem tells_list {toJson : α → Json} {values : List α}
    (each : ∀ value ∈ values, read room (toJson value).node = some value) :
    Tells (Reader.list read) (room + 1) [] values (filledList (values.map toJson)) := by
  have items : Reader.list read (room + 1) (node (.array (values.map toJson))) = some values :=
    (list_itemNodes each).trans (congrArg some (List.map_id values))
  exact tells_filledList (fun _ => items) List.map_eq_nil_iff.mp

end Readers

-- What a reader gave goes back to what it read.
section Found

variable {read : Reader α} {room : Nat} {fields : Fields}

theorem optional_some {absent value : α} (found : fields.optional name room read absent = some value) :
    value = absent ∨ ∃ node, read room node = some value := by
  unfold Fields.optional at found
  split at found
  · exact .inr ⟨_,found⟩
  · exact .inl (Option.some.inj found).symm

theorem nullable_some {found : Option α} (given : fields.nullable name room read = some found) {value : α}
    (present : found = some value) : ∃ node, read room node = some value := by
  subst present
  rcases optional_some given with absent | ⟨node,given⟩
  · cases absent
  · cases node with
    | null => cases given
    | _ =>
      obtain ⟨inner,given,same⟩ := Option.map_eq_some_iff.mp given
      cases same
      exact ⟨_,given⟩

theorem nullableOr_some {absent value : α} (found : fields.nullableOr name room read absent = some value) :
    value = absent ∨ ∃ node, read room node = some value := by
  obtain ⟨inner,found,same⟩ := Option.map_eq_some_iff.mp found
  cases inner with
  | none => exact .inl same.symm
  | some inner => exact .inr (nullable_some found (congrArg some same))

theorem mapM_some {read : β → Option α} {items : List β} {values : List α}
    (found : items.mapM read = some values) : ∀ value ∈ values, ∃ item ∈ items, read item = some value := by
  induction items generalizing values with
  | nil => cases found; exact nofun
  | cons item rest ih =>
    simp only [List.mapM_cons,Option.bind_eq_bind,Option.bind_eq_some_iff] at found
    obtain ⟨first,this,later,others,same⟩ := found
    cases same
    refine List.forall_mem_cons.mpr ⟨⟨item,List.mem_cons_self,this⟩,fun value among => ?_⟩
    obtain ⟨source,member,given⟩ := ih others value among
    exact ⟨source,List.mem_cons_of_mem _ member,given⟩

theorem list_some {node : Node} {values : List α} (found : Reader.list read room node = some values) :
    ∃ inner, room = inner + 1 ∧ ∀ value ∈ values, ∃ item, read inner item = some value := by
  cases room with
  | zero => cases found
  | succ inner =>
    cases node with
    | array items =>
      refine ⟨inner,rfl,fun value among => ?_⟩
      obtain ⟨item,_,given⟩ := mapM_some found value among
      exact ⟨item,given⟩
    | _ => cases found

theorem integer64_some {n : Int} {node : Node} (found : Reader.integer64 room node = some n) : Fits64 n := by
  cases node with
  | number s =>
    have range : -(limit63 : Int) ≤ n ∧ n ≤ (limit63 : Int) - 1 := by
      simpa using (Option.filter_eq_some_iff.mp found).2
    exact ⟨range.1,Int.lt_of_le_sub_one range.2⟩
  | _ => cases found

theorem range_of_value? {s : Spelling} {n : Int} (value : s.value? = some (.integer n)) :
    -(limit63 : Int) ≤ n ∧ n < limit64 := by
  have positive : (0 : Int) < limit64 := by decide
  simp only [Spelling.value?] at value
  split at value
  · rename_i fits
    cases value
    simp only [Bool.and_eq_true,decide_eq_true_eq] at fits
    omega
  · split at value
    · rename_i fits
      cases value
      simp only [Bool.and_eq_true,decide_eq_true_eq] at fits
      omega
    · obtain ⟨x,_,same⟩ := Option.map_eq_some_iff.mp value
      cases same

theorem number_of_value {node : Node} {n : Number} (given : Reader.value room node = some (.number n)) :
    ∃ s : Spelling, s.value? = some n := by
  cases node with
  | number s =>
    have value : s.value? = some n := by cases room <;> simpa [Reader.value] using given
    exact ⟨s,value⟩
  | object members =>
    cases room with
    | zero => simp [Reader.value] at given
    | succ room =>
      obtain ⟨_,_,same⟩ := Option.bind_eq_some_iff.mp given
      cases same
  | _ => cases room <;> simp [Reader.value] at given

end Found

end Entitlement.Json
