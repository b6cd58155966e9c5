import Entitlement.Proofs.Json.Fields
import Entitlement.Proofs.Json.RoundTrip
import Entitlement.Proofs.Product.Documents
import Mathlib.Logic.Relation

-- Products from documents that leave fields out. A product is the same whether a field is missing or null, and whatever
-- stands in members that are no fields, in its own document and in those of all products below it. What comes of a
-- document has the base flag, the availability and the extensions that the document tells.
namespace Entitlement.Product

open Json

variable {fields first second : Fields} {read : Reader (List Product)} {one other node : Node} {p : Product}
  {above below : List Node} {name : String} {room : Nat}

-- One document leaves out what the other one has for nothing: a field that is null, or a member that is no field, in the
-- document itself or in that of an extension. A record that is an array leaves out nothing, but its extensions may.
inductive Omits : Node → Node → Prop
  | null {name : String} {before after : List (Scribed × Node)} (known : name ∈ fieldNames)
      (once : some name ∉ (before ++ after).map Prod.fst) :
      Omits (.object (before ++ after)) (.object (before ++ (some name,.null) :: after))
  | unknown {name : String} {before after : List (Scribed × Node)} (node : Node) (unknown : name ∉ fieldNames) :
      Omits (.object (before ++ after)) (.object (before ++ (some name,node) :: after))
  | extension {one other : Node} {above below : List Node} {before after : List (Scribed × Node)}
      (omits : Omits one other) :
      Omits (.object (before ++ (some "extensions",.array (above ++ one :: below)) :: after))
        (.object (before ++ (some "extensions",.array (above ++ other :: below)) :: after))
  | item {one other : Node} {above below before after : List Node}
      (place : before.length = fieldNames.idxOf "extensions") (omits : Omits one other) :
      Omits (.array (before ++ .array (above ++ one :: below) :: after))
        (.array (before ++ .array (above ++ other :: below) :: after))

-- Two documents that leave out and have for nothing what they like.
abbrev Equivalent : Node → Node → Prop := Relation.EqvGen Omits

theorem ofFields_congr (told : ∀ name, name ≠ "extensions" → first.told? name = second.told? name)
    (extensions : first.nullable "extensions" room read = second.nullable "extensions" room read) :
    ofFields first room read = ofFields second room read := by
  have same {α : Type} {read : Reader α} (name : String) (different : name ≠ "extensions") :
      first.nullable name room read = second.nullable name room read := Fields.nullable_congr (told name different)
  simp (disch := decide) only [ofFields,Fields.nullableOr,extensions,same]

theorem ofFields_told (told : ∀ name, first.told? name = second.told? name) :
    ofFields first room read = ofFields second room read :=
  ofFields_congr (fun name _ => told name) (Fields.nullable_congr (told _))

theorem read_object {members : List (Scribed × Node)} : Product.read (room + 1) (.object members) =
    (Fields.ofMembers? fieldNames members).bind fun fields => ofFields fields room (readExtensions room) := by
  rw [read_succ,Fields.ofNode?,Option.bind_map]
  rfl

theorem read_objects {one other : List (Scribed × Node)} (regular : Regular fieldNames one ↔ Regular fieldNames other)
    (fields : ∀ room, ofFields (kept fieldNames one) room (readExtensions room) =
      ofFields (kept fieldNames other) room (readExtensions room)) :
    Product.read room (.object one) = Product.read room (.object other) := by
  cases room with
  | zero => rfl
  | succ room =>
    rw [read_object,read_object]
    by_cases reads : Regular fieldNames one
    · rw [ofMembers?_regular reads,ofMembers?_regular (regular.mp reads)]
      exact fields room
    · rw [ofMembers?_irregular reads,ofMembers?_irregular fun also => reads (regular.mpr also)]

theorem read_null {before after : List (Scribed × Node)} (known : name ∈ fieldNames)
    (once : some name ∉ (before ++ after).map Prod.fst) :
    Product.read room (.object (before ++ after)) =
      Product.read room (.object (before ++ (some name,.null) :: after)) := by
  have fresh : name ∉ (kept fieldNames (before ++ after)).map Prod.fst := by
    intro among
    obtain ⟨f,member,rfl⟩ := List.mem_map.mp among
    exact once (List.mem_map_of_mem (mem_kept.mp member).1)
  refine read_objects ?_ fun room => ?_
  · rw [regular_perm List.perm_middle,regular_known known]
    exact ⟨fun regular => ⟨fresh,regular⟩,And.right⟩
  · rw [kept_append] at fresh
    rw [kept_append,kept_append,kept_known known]
    exact ofFields_told fun asked => (Fields.told?_null fresh asked).symm

theorem read_unknown {before after : List (Scribed × Node)} (unknown : name ∉ fieldNames) :
    Product.read room (.object (before ++ after)) =
      Product.read room (.object (before ++ (some name,node) :: after)) := by
  refine read_objects ?_ fun room => ?_
  · rw [regular_perm List.perm_middle,regular_unknown unknown]
  · rw [kept_append,kept_append,kept_unknown unknown]

section Below

variable (same : ∀ room, Product.read room one = Product.read room other)
include same

theorem readExtensions_among (left room : Nat) :
    readExtensions left room (.array (above ++ one :: below)) =
      readExtensions left room (.array (above ++ other :: below)) := by
  cases left with
  | zero => rfl
  | succ left =>
    cases room with
    | zero => rfl
    | succ room => simp only [readExtensions,Reader.list,List.mapM_append,List.mapM_cons,same left]

theorem ofFields_among (left : Nat) :
    ofFields (first ++ ("extensions",.array (above ++ one :: below)) :: second) room (readExtensions left) =
      ofFields (first ++ ("extensions",.array (above ++ other :: below)) :: second) room (readExtensions left) := by
  refine ofFields_congr (fun name different => Fields.told?_other (Ne.symm different)) ?_
  unfold Fields.nullable Fields.optional
  rw [Fields.get?_append,Fields.get?_append,Fields.get?_cons,Fields.get?_cons,if_pos rfl,if_pos rfl]
  cases Fields.get? first "extensions" with
  | some written => rfl
  | none => exact congrArg (Option.map some) (readExtensions_among same left room)

theorem read_extension {before after : List (Scribed × Node)} :
    Product.read room (.object (before ++ (some "extensions",.array (above ++ one :: below)) :: after)) =
      Product.read room (.object (before ++ (some "extensions",.array (above ++ other :: below)) :: after)) := by
  have known : "extensions" ∈ fieldNames := by decide
  refine read_objects ?_ fun room => ?_
  · rw [regular_perm List.perm_middle,regular_known known,regular_perm List.perm_middle,regular_known known]
  · rw [kept_append,kept_append,kept_known known,kept_known known]
    exact ofFields_among same room

theorem read_item {before after : List Node} (place : before.length = fieldNames.idxOf "extensions") :
    Product.read room (.array (before ++ .array (above ++ one :: below) :: after)) =
      Product.read room (.array (before ++ .array (above ++ other :: below) :: after)) := by
  have length : before.length = (fieldNames.take (fieldNames.idxOf "extensions")).length := place.trans (by decide)
  have parts : fieldNames = fieldNames.take (fieldNames.idxOf "extensions") ++
      "extensions" :: fieldNames.drop (fieldNames.idxOf "extensions" + 1) := by decide
  have fields (node : Node) : fieldNames.zip (before ++ node :: after) =
      (fieldNames.take (fieldNames.idxOf "extensions")).zip before ++
        ("extensions",node) :: (fieldNames.drop (fieldNames.idxOf "extensions" + 1)).zip after := by
    conv_lhs => rw [parts]
    rw [List.zip_append length.symm,List.zip_cons_cons]
  cases room with
  | zero => rfl
  | succ room =>
    rw [read_succ,read_succ,Fields.ofNode?,Fields.ofNode?,Fields.ofItems?,Fields.ofItems?,fields,fields,
      List.length_append,List.length_append,List.length_cons,List.length_cons]
    split
    · exact ofFields_among same room
    · rfl

end Below

theorem read_omits (omits : Omits one other) (room : Nat) : Product.read room one = Product.read room other := by
  induction omits generalizing room with
  | null known once => exact read_null known once
  | unknown node unknown => exact read_unknown unknown
  | extension omits ih => exact read_extension ih
  | item place omits ih => exact read_item ih place

theorem read_equivalent (equivalent : Equivalent one other) (room : Nat) :
    Product.read room one = Product.read room other := by
  induction equivalent with
  | rel one other omits => exact read_omits omits room
  | refl one => rfl
  | symm one other equivalent ih => exact ih.symm
  | trans one other third first second ihFirst ihSecond => exact ihFirst.trans ihSecond

-- What a document says for a field. The items of an array are the fields in their order.
def said? (name : String) : Node → Option Node
  | .object members => (members.find? fun m => m.1 == some name).map Prod.snd
  | .array items => Fields.get? (fieldNames.zip items) name
  | _ => none

def itemsOf : Option Node → List Node
  | some (.array items) => items
  | _ => []

def extensionNodes (node : Node) : List Node := itemsOf (said? "extensions" node)

-- The product that came of a document. It is a base product by any of three fields, and available unless the document
-- denies it; each of its extensions came of an item of the row, in the order of the row.
inductive Reflects : Node → Product → Prop
  | intro {node : Node} {p : Product} (came : ∃ room, Product.read room node = some p)
      (base : p.isBase = true ↔ said? "isbase" node = some (.bool true) ∨ said? "base" node = some (.bool true) ∨
        said? "product_type" node = some (.string (some "base")))
      (available : p.available = false ↔ said? "available" node = some (.bool false))
      (extensions : List.Forall₂ Reflects (extensionNodes node) p.extensions) : Reflects node p

theorem said?_of_ofNode? {needed left : Nat} (found : Fields.ofNode? fieldNames needed room node = some (fields,left))
    (known : name ∈ fieldNames) : fields.get? name = said? name node := by
  cases room with
  | zero => cases found
  | succ room =>
    cases node with
    | object members =>
      obtain ⟨_,read,same⟩ := Option.map_eq_some_iff.mp found
      cases same
      obtain ⟨_,rfl⟩ := ofMembers?_eq_some.mp read
      exact get?_kept known
    | array items =>
      obtain ⟨_,read,same⟩ := Option.map_eq_some_iff.mp found
      cases same
      obtain ⟨_,same⟩ := Option.ite_none_right_eq_some.mp read
      cases same
      rfl
    | _ => cases found

theorem ofFields_tells (given : ofFields fields room read = some p) :
    (p.isBase = true ↔ fields.get? "isbase" = some (.bool true) ∨ fields.get? "base" = some (.bool true) ∨
      fields.get? "product_type" = some (.string (some "base"))) ∧
    (p.available = false ↔ fields.get? "available" = some (.bool false)) ∧
    fields.nullableOr "extensions" room read [] = some p.extensions := by
  unfold ofFields at given
  obtain ⟨type,typed,given⟩ := Option.bind_eq_some_iff.mp given
  iterate 4 obtain ⟨_,_,given⟩ := Option.bind_eq_some_iff.mp given
  obtain ⟨isbase,first,given⟩ := Option.bind_eq_some_iff.mp given
  obtain ⟨base,second,given⟩ := Option.bind_eq_some_iff.mp given
  iterate 2 obtain ⟨_,_,given⟩ := Option.bind_eq_some_iff.mp given
  obtain ⟨available,told,given⟩ := Option.bind_eq_some_iff.mp given
  iterate 10 obtain ⟨_,_,given⟩ := Option.bind_eq_some_iff.mp given
  obtain ⟨extensions,extended,given⟩ := Option.bind_eq_some_iff.mp given
  cases given
  refine ⟨?_,Fields.nullableOr_bool told (by decide),extended⟩
  rw [← Fields.nullableOr_bool first (by decide),← Fields.nullableOr_bool second (by decide),
    ← Fields.nullableOr_string typed (by decide)]
  simp only [Bool.or_eq_true,beq_iff_eq,or_assoc]

theorem readExtensions_some {list : List Product}
    (given : fields.nullableOr "extensions" room (readExtensions room) [] = some list) :
    ∃ inner < room + 1,
      List.Forall₂ (fun item p => Product.read inner item = some p) (itemsOf (fields.get? "extensions")) list := by
  rw [Fields.nullableOr_eq] at given
  cases told : fields.told? "extensions" with
  | none =>
    rw [told] at given
    cases given
    refine ⟨room,by omega,?_⟩
    rcases Fields.get?_of_told? told with none | null
    · rw [none]; exact .nil
    · rw [null]; exact .nil
  | some node =>
    rw [told] at given
    have read : readExtensions room room node = some list := given
    cases room with
    | zero => cases read
    | succ inner =>
      cases node with
      | array items =>
        have filled : Node.array items ≠ .null := nofun
        rw [(Fields.told?_eq_some filled).mp told]
        exact ⟨inner,by omega,mapM_forall₂ read⟩
      | _ => cases read

theorem reflects_of_read (given : Product.read room node = some p) : Reflects node p := by
  induction room using Nat.strongRecOn generalizing node p with
  | ind room ih =>
    cases room with
    | zero => cases given
    | succ room =>
      have came := given
      rw [read_succ] at given
      obtain ⟨⟨fields,left⟩,found,given⟩ := Option.bind_eq_some_iff.mp given
      obtain ⟨base,available,extended⟩ := ofFields_tells given
      obtain ⟨inner,less,each⟩ := readExtensions_some extended
      have said (name : String) (known : name ∈ fieldNames) := said?_of_ofNode? found known
      rw [said "isbase" (by decide),said "base" (by decide),said "product_type" (by decide)] at base
      rw [said "available" (by decide)] at available
      rw [said "extensions" (by decide)] at each
      exact ⟨⟨_,came⟩,base,available,each.imp fun item p given => ih inner less given⟩

theorem decode_lenient :
    (∀ {bytes others : Bytes} {one other : Node}, Node.ofBytes? bytes = some one → Node.ofBytes? others = some other →
      Equivalent one other → (format.decode bytes).toOption = (format.decode others).toOption) ∧
    ∀ {bytes : Bytes} {p : Product}, format.decode bytes = .ok p →
      ∃ node, Node.ofBytes? bytes = some node ∧ Reflects node p := by
  constructor
  · intro bytes others one other first second equivalent
    rw [toOption_decode,toOption_decode,first,second]
    exact read_equivalent equivalent _
  · intro bytes p decoded
    obtain ⟨node,written,read⟩ := decode_ok.mp decoded
    exact ⟨node,written,reflects_of_read read⟩

def sparse : Json := .object [("identifier",.string "SLES"),
  ("extensions",.array [.object [("identifier",.string "sdk"),("available",.bool false)]])]

def padded : Json := .object [("identifier",.string "SLES"),("product_type",.null),
  ("extensions",.array [.object [("identifier",.string "sdk"),("available",.bool false),("colour",.array [.null])]])]

theorem equivalent_sparse : Equivalent sparse.node padded.node := by
  have extension : Omits (node (.object [("identifier",.string "sdk"),("available",.bool false)]))
      (node (.object [("identifier",.string "sdk"),("available",.bool false),("colour",.array [.null])])) :=
    @Omits.unknown "colour" [(some "identifier",.string "sdk"),(some "available",.bool false)] []
      (.array [.null]) (by decide)
  refine .trans _ _ _ (.rel _ _ (@Omits.extension _ _ [] [] [(some "identifier",.string "SLES")] [] extension))
    (.rel _ _ (@Omits.null "product_type" [(some "identifier",.string "SLES")] [_] (by decide) (by simp)))

theorem padded_decoded : ∃ p, format.decode (Text.encode sparse.compact) = .ok p ∧
    (format.decode (Text.encode padded.compact)).toOption = some p ∧
    ∃ node, Node.ofBytes? (Text.encode sparse.compact) = some node ∧ Reflects node p := by
  have written : Node.ofBytes? (Text.encode sparse.compact) = some sparse.node := Node.ofBytes?_compact sparse
  obtain ⟨p,decoded⟩ : ∃ p, format.decode (Text.encode sparse.compact) = .ok p :=
    ⟨_,decode_ok.mpr ⟨_,written,rfl⟩⟩
  have same := decode_lenient.1 written (Node.ofBytes?_compact padded) equivalent_sparse
  rw [decoded] at same
  exact ⟨p,decoded,same.symm,decode_lenient.2 decoded⟩

end Entitlement.Product
