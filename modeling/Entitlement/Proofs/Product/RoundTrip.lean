import Entitlement.MigrationPath
import Entitlement.Service
import Entitlement.Proofs.Json.RoundTrip
import Entitlement.Proofs.Product.Documents

-- Writing the documents of products, migration paths and services and reading them again. What a decoder gave has no
-- release and no product line, and its base flags agree with its product types, so that it comes back unchanged.
namespace Entitlement

open Json

namespace Product

theorem receivedAll_eq (list : List Product) : receivedAll list = list.map received := by
  induction list with
  | nil => rfl
  | cons p rest ih => rw [receivedAll,ih,List.map_cons]

-- The depth to which a reader is promised to follow.
def Low (p : Product) : Prop := p.height ≤ Entitlement.depthLimit

def AllNumbered (p : Product) : Prop := ∀ q ∈ p :: p.descendants, q.Numbered

-- Whatever has the type of a base product is marked as one.
def BasesMarked (p : Product) : Prop := ∀ q ∈ p :: p.descendants, q.productType = "base" → q.isBase = true

instance (p : Product) : Decidable p.Low := inferInstanceAs (Decidable (_ ≤ _))

instance (p : Product) : Decidable p.Numbered := inferInstanceAs (Decidable (Fits64 p.id))

instance (p : Product) : Decidable p.AllNumbered := inferInstanceAs (Decidable (∀ q ∈ p :: p.descendants, q.Numbered))

variable {room : Nat} {fields : Fields} {p : Product}

-- An id that is out of range counts as none.
theorem idOf_fits {node : Node} {value : Json} (given : Reader.value room node = some value) : Fits64 (idOf value) := by
  cases value with
  | string s =>
    rw [idOf]
    cases read : Text.integer? limit63 (Text.trimmed s.toList) with
    | none => exact fits64_zero
    | some n => simpa [Fits64] using (Option.filter_eq_some_iff.mp read).2
  | number n =>
    cases n with
    | floating bits => exact fits64_zero
    | integer n =>
      obtain ⟨s,value⟩ := number_of_value given
      by_cases most : n < limit63
      · rw [← integer,idOf_integer most]
        exact ⟨(range_of_value? value).1,most⟩
      · have dropped : idOf (.number (.integer n)) = 0 := by
          simp only [idOf,Number.integer?,Option.filter_some,most,decide_false,Bool.false_eq_true,if_false,
            Option.getD_none]
        rw [dropped]
        exact fits64_zero
  | _ => exact fits64_zero

theorem ofFields_some {read : Reader (List Product)} (given : ofFields fields room read = some p) :
    p.toProductFacts.received = p.toProductFacts ∧ p.Numbered ∧
      (p.extensions = [] ∨ ∃ list, read room list = some p.extensions) := by
  unfold ofFields at given
  -- Of the fields only the id and the extensions have anything to tell.
  iterate 12 obtain ⟨_,_,given⟩ := Option.bind_eq_some_iff.mp given
  obtain ⟨number,numbered,given⟩ := Option.bind_eq_some_iff.mp given
  iterate 7 obtain ⟨_,_,given⟩ := Option.bind_eq_some_iff.mp given
  obtain ⟨extensions,extended,given⟩ := Option.bind_eq_some_iff.mp given
  cases given
  refine ⟨?_,?_,nullableOr_some extended⟩
  · simp only [ProductFacts.received,Bool.or_assoc,Bool.or_self]
  · cases number with
    | none => exact fits64_zero
    | some value =>
      obtain ⟨node,read⟩ := nullable_some numbered rfl
      exact idOf_fits read

theorem received_of_read {node : Node} (given : read room node = some p) : p.received = p ∧ p.AllNumbered := by
  induction room using Nat.strongRecOn generalizing node p with
  | ind room ih =>
    cases room with
    | zero => cases given
    | succ room =>
      rw [read_succ] at given
      obtain ⟨found,_,given⟩ := Option.bind_eq_some_iff.mp given
      obtain ⟨facts,numbered,extended⟩ := ofFields_some given
      have below : ∀ q ∈ p.extensions, q.received = q ∧ q.AllNumbered := by
        rcases extended with none | ⟨list,extended⟩
        · rw [none]; exact nofun
        · cases room with
          | zero => cases extended
          | succ inner =>
            obtain ⟨_,_,each⟩ := list_some extended
            intro q member
            obtain ⟨item,read⟩ := each q member
            exact ih inner (by omega) read
      obtain ⟨_,extensions⟩ := p
      have same : extensions.map received = extensions :=
        (List.map_congr_left fun q member => (below q member).1).trans (List.map_id extensions)
      refine ⟨by rw [received,receivedAll_eq,same,facts],List.forall_mem_cons.mpr ⟨numbered,?_⟩⟩
      intro q member
      obtain ⟨extension,among,member⟩ := mem_descendantsAll.mp member
      exact (below extension among).2 q member

theorem blank_received : blank.received = blank ∧ blank.AllNumbered :=
  ⟨rfl,List.forall_mem_singleton.mpr fits64_zero⟩

theorem members_received {facts : ProductFacts} (marked : facts.productType = "base" → facts.isBase = true)
    (told : List Json) : members facts.received told = members facts told := by
  have flag : (facts.isBase || facts.productType == "base") = facts.isBase := by
    cases base : facts.productType == "base" with
    | false => exact Bool.or_false _
    | true => rw [marked (beq_iff_eq.mp base)]; rfl
  simp only [members,ProductFacts.received,flag]

mutual

theorem toJson_received (p : Product) (marked : p.BasesMarked) : p.received.toJson = p.toJson := by
  match p with
  | ⟨facts,extensions⟩ =>
    obtain ⟨this,below⟩ := List.forall_mem_cons.mp marked
    rw [received,toJson,toJson,toJsons_received extensions below,members_received this]

theorem toJsons_received (list : List Product)
    (marked : ∀ q ∈ descendantsAll list, q.productType = "base" → q.isBase = true) :
    toJsons (receivedAll list) = toJsons list := by
  match list with
  | [] => rfl
  | p :: rest =>
    rw [descendantsAll,← List.cons_append,List.forall_mem_append] at marked
    rw [receivedAll,toJsons,toJsons,toJson_received p marked.1,toJsons_received rest marked.2]

end

end Product

theorem Product.keeps {room : Nat} (enough : 2 * Entitlement.depthLimit + 4 ≤ room) :
    Keeps Product.read Product.toJson Product.received Product.Low Product.AllNumbered Product.BasesMarked room where
  told p low numbered := p.read_toJson room (by unfold Product.Low at low; omega) numbered
  same p marked := p.toJson_received marked
  own _ _ given := Product.received_of_read given

namespace Service

def received (s : Service) : Service := { s with product := s.product.received }

def AllNumbered (s : Service) : Prop := Fits64 s.id ∧ s.product.AllNumbered

def table (s : Service) : Table := [
  ("id",some (integer s.id)),("url",some (.string s.url)),("name",some (.string s.name)),
  ("obsoleted_service_name",some (.string s.obsoletedName)),("product",some s.product.toJson)]

variable {room : Nat}

theorem toJson_eq (s : Service) : s.toJson = .object s.table.members := rfl

theorem read_toJson (s : Service) (numbered : s.AllNumbered)
    (product : Product.read room s.product.toJson.node = some s.product.received) :
    read (room + 1) s.toJson.node = some s.received := by
  have distinct : (s.table.map Prod.fst).Nodup := by
    change fieldNames.Nodup
    decide
  have fields : Fields.ofNode? fieldNames 0 (room + 1) s.toJson.node = some (.ofTable s.table,room) :=
    Fields.ofNode?_table distinct fun name member => member
  have text (name t : String) (told : s.table.written name = some (.string t)) :
      (Fields.ofTable s.table).optional name room Reader.string "" = some t :=
    Tells.optional distinct (told ▸ tells_string t)
  have id : Tells Reader.integer64 room 0 s.id (s.table.written "id") := tells_integer64 numbered.1
  have inner : Tells Product.read room Product.blank s.product.received (s.table.written "product") := by
    refine ⟨?_,product⟩
    cases s.product
    exact nofun
  simp only [read,fields,id.optional distinct,text "url" s.url rfl,text "name" s.name rfl,
    text "obsoleted_service_name" s.obsoletedName rfl,inner.optional distinct,Option.bind_eq_bind,Option.bind_some]
  rfl

theorem received_of_read {node : Node} {s : Service} (given : read room node = some s) :
    s.received = s ∧ s.AllNumbered := by
  obtain ⟨found,_,given⟩ := Option.bind_eq_some_iff.mp given
  obtain ⟨id,numbered,given⟩ := Option.bind_eq_some_iff.mp given
  iterate 3 obtain ⟨_,_,given⟩ := Option.bind_eq_some_iff.mp given
  obtain ⟨product,read,given⟩ := Option.bind_eq_some_iff.mp given
  cases given
  have own : product.received = product ∧ product.AllNumbered := by
    rcases optional_some read with rfl | ⟨_,read⟩
    · exact Product.blank_received
    · exact Product.received_of_read read
  have fits : Fits64 id := by
    rcases optional_some numbered with rfl | ⟨_,numbered⟩
    · exact fits64_zero
    · exact integer64_some numbered
  exact ⟨by rw [received,own.1],fits,own.2⟩

theorem keeps (products : Keeps Product.read Product.toJson Product.received Product.Low Product.AllNumbered
      Product.BasesMarked room) :
    Keeps read toJson received (fun s => s.product.Low) AllNumbered (fun s => s.product.BasesMarked) (room + 1) where
  told s low numbered := s.read_toJson numbered (products.told s.product low numbered.2)
  same s marked := by
    rw [toJson,toJson,received,products.same s.product marked]
  own _ _ given := received_of_read given

end Service

-- The documents of products, of migration paths and of services bring their values back.
theorem documents_roundTrip :
    RoundTrip Product.format Product.toJson Product.received Product.Low Product.AllNumbered Product.BasesMarked ∧
    RoundTrip MigrationPath.format MigrationPath.toJson (List.map Product.received)
      (fun path => ∀ p ∈ path, p.Low) (fun path => ∀ p ∈ path, p.AllNumbered)
      (fun path => ∀ p ∈ path, p.BasesMarked) ∧
    RoundTrip Service.format Service.toJson Service.received
      (fun s => s.product.Low) Service.AllNumbered (fun s => s.product.BasesMarked) :=
  ⟨(Product.keeps (by decide)).roundTrip,(Product.keeps (by decide)).list.roundTrip,
    (Service.keeps (Product.keeps (by decide))).roundTrip⟩

-- A base product with an extension that has the type of one without being marked.
def twofold : Product := {
  Product.blank with
  name := "SLES",version := "15",arch := "x86_64",isBase := true,id := -9223372036854775808
  summary := "\"\\\n\u0001",friendlyName := "Grün 😀"
  repositories := [⟨"Updates","https://example.com/",true,false,false,none,some "",["x86_64"]⟩]
  extensions := [{ Product.blank with name := "PackageHub",productType := "base",release := "1" }] }

theorem twofold_comesBack :
    twofold.Low ∧ twofold.AllNumbered ∧
      Product.format.decode (Text.encode twofold.toJson.compact) = .ok twofold.received := by
  have low : twofold.Low := by decide
  have numbered : twofold.AllNumbered := by decide
  exact ⟨low,numbered,documents_roundTrip.1.decoded twofold low numbered⟩

end Entitlement
