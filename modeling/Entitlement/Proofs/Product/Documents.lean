import Entitlement.Product.Document
import Entitlement.Proofs.Json.Tables
import Entitlement.Proofs.Product.Tree

-- The documents of products. What is read from the document of a product is the product itself, but for the two fields
-- that are no part of a document and for the base flag, which the product type may set.
namespace Entitlement

open Json

namespace OfferedRepository

def table (r : OfferedRepository) : Table := [
  ("name",some (.string r.name)),("url",some (.string r.url)),("enabled",some (.bool r.enabled)),
  ("autorefresh",some (.bool r.autorefresh)),("installer_updates",some (.bool r.installerUpdates)),
  ("distro_target",r.distroTarget.map .string),("description",r.description.map .string),
  ("arch",filledList (r.arch.map .string))]

variable {room : Nat}

theorem toJson_eq (r : OfferedRepository) : r.toJson = .object r.table.members := by
  simp [toJson,table,Table.members,list?_eq,Json.option?]

theorem read_toJson (r : OfferedRepository) : read (room + 2) r.toJson.node = some r := by
  have distinct : (r.table.map Prod.fst).Nodup := by
    change fieldNames.Nodup
    decide
  have fields : Fields.ofNode? fieldNames 0 (room + 2) r.toJson.node = some (.ofTable r.table,room + 1) := by
    rw [toJson_eq]
    exact Fields.ofNode?_table distinct fun name member => member
  have text (name s : String) (told : r.table.written name = some (.string s)) :
      (Fields.ofTable r.table).optional name (room + 1) Reader.string "" = some s :=
    Tells.optional distinct (told ▸ tells_string s)
  have flag (name : String) (b : Bool) (told : r.table.written name = some (.bool b)) :
      (Fields.ofTable r.table).optional name (room + 1) Reader.bool false = some b :=
    Tells.optional distinct (told ▸ tells_bool b)
  have textIfAny (name : String) (s : Option String) (told : r.table.written name = s.map .string) :
      (Fields.ofTable r.table).nullable name (room + 1) Reader.string = some s :=
    Tells.optional distinct (told ▸ tells_optionalText s)
  have arch : Tells (Reader.list Reader.string) (room + 1) [] r.arch (r.table.written "arch") :=
    tells_list fun _ _ => rfl
  simp only [read,fields,text "name" r.name rfl,text "url" r.url rfl,flag "enabled" r.enabled rfl,
    flag "autorefresh" r.autorefresh rfl,flag "installer_updates" r.installerUpdates rfl,
    textIfAny "distro_target" r.distroTarget rfl,textIfAny "description" r.description rfl,arch.optional distinct,
    Option.bind_eq_bind,Option.bind_some]

end OfferedRepository

-- What a reader makes of the document of a product.
def ProductFacts.received (p : ProductFacts) : ProductFacts :=
  { p with release := "",productLine := "",isBase := p.isBase || p.productType == "base" }

namespace Product

mutual

def received : Product → Product
  | ⟨facts,extensions⟩ => ⟨facts.received,receivedAll extensions⟩

def receivedAll : List Product → List Product
  | [] => []
  | p :: rest => received p :: receivedAll rest

end

-- The id is one of the type that ids have.
def Numbered (p : Product) : Prop := Fits64 p.id

def table (p : ProductFacts) (extensions : List Json) : Table := [
  ("identifier",some (.string p.name)),("version",some (.string p.version)),("arch",some (.string p.arch)),
  ("summary",filledText p.summary),("isbase",some (.bool p.isBase)),("friendly_name",filledText p.friendlyName),
  ("release_type",filledText p.releaseType),("available",some (.bool p.available)),("free",some (.bool p.free)),
  ("recommended",some (.bool p.recommended)),("extensions",filledList extensions),("id",some (integer p.id)),
  ("description",filledText p.description),("eula_url",filledText p.eulaUrl),
  ("former_identifier",filledText p.formerName),("product_type",filledText p.productType),
  ("shortname",filledText p.shortName),("name",filledText p.longName),("release_stage",filledText p.releaseStage),
  ("repositories",filledList (p.repositories.map OfferedRepository.toJson))]

def writtenNames : List String := ["identifier","version","arch","summary","isbase","friendly_name","release_type",
  "available","free","recommended","extensions","id","description","eula_url","former_identifier","product_type",
  "shortname","name","release_stage","repositories"]

variable {facts : ProductFacts} {told : List Json} {room : Nat}

theorem members_eq (facts : ProductFacts) (told : List Json) : members facts told = (table facts told).members := by
  simp [members,table,Table.members,member?_eq,list?_eq,Json.option?]

theorem distinct_table : ((table facts told).map Prod.fst).Nodup := by
  change writtenNames.Nodup
  decide

theorem known_table : ∀ name ∈ (table facts told).map Prod.fst, name ∈ fieldNames := by
  change ∀ name ∈ writtenNames, name ∈ fieldNames
  decide

theorem idOf_integer {n : Int} (small : n < limit63) : idOf (integer n) = n := by
  simp only [idOf,integer,Number.integer?,Option.filter_some,small,decide_true,if_true,Option.getD_some]

theorem ofFields_table {read : Reader (List Product)} {extensions : List Product}
    (numbered : Fits64 facts.id) (enough : 3 ≤ room)
    (tells : Tells read room [] extensions (filledList told)) :
    ofFields (.ofTable (table facts told)) room read = some ⟨facts.received,extensions⟩ := by
  have distinct : ((table facts told).map Prod.fst).Nodup := distinct_table
  have text (name s : String) (same : (table facts told).written name = some (.string s)) :
      (Fields.ofTable (table facts told)).nullableOr name room Reader.string "" = some s :=
    Tells.nullableOr distinct (same ▸ tells_string s)
  have filled (name s : String) (same : (table facts told).written name = filledText s) :
      (Fields.ofTable (table facts told)).nullableOr name room Reader.string "" = some s :=
    Tells.nullableOr distinct (same ▸ tells_filledText s)
  have flag (name : String) (absent b : Bool) (same : (table facts told).written name = some (.bool b)) :
      (Fields.ofTable (table facts told)).nullableOr name room Reader.bool absent = some b :=
    Tells.nullableOr distinct (same ▸ tells_bool b)
  have base : (Fields.ofTable (table facts told)).nullableOr "base" room Reader.bool false = some false := by
    have unwritten : (table facts told).written "base" = none := rfl
    exact Tells.nullableOr distinct (by rw [unwritten]; rfl)
  have id : (Fields.ofTable (table facts told)).nullable "id" room Reader.value = some (some (integer facts.id)) :=
    Tells.optional distinct (tells_value numbered)
  have repositories : Tells (Reader.list OfferedRepository.read) room [] facts.repositories
      ((table facts told).written "repositories") := by
    obtain ⟨inner,rfl⟩ : ∃ inner, room = inner + 3 := ⟨room - 3,by omega⟩
    exact tells_list fun r _ => r.read_toJson
  have extension : (Fields.ofTable (table facts told)).nullableOr "extensions" room read [] = some extensions :=
    Tells.nullableOr distinct tells
  simp only [ofFields,text "identifier" facts.name rfl,text "version" facts.version rfl,text "arch" facts.arch rfl,
    filled "summary" facts.summary rfl,flag "isbase" false facts.isBase rfl,base,
    filled "friendly_name" facts.friendlyName rfl,filled "release_type" facts.releaseType rfl,
    flag "available" true facts.available rfl,flag "free" false facts.free rfl,
    flag "recommended" false facts.recommended rfl,id,filled "description" facts.description rfl,
    filled "eula_url" facts.eulaUrl rfl,filled "former_identifier" facts.formerName rfl,
    filled "product_type" facts.productType rfl,filled "shortname" facts.shortName rfl,
    filled "name" facts.longName rfl,filled "release_stage" facts.releaseStage rfl,repositories.nullableOr distinct,
    extension,Option.bind_eq_bind,Option.bind_some,Option.map_some,Option.getD_some,idOf_integer numbered.2,Bool.or_false]
  rfl

-- The reader of the extensions of a product for which so much room is left.
def readExtensions : Nat → Reader (List Product)
  | 0 => fun _ _ => none
  | inner + 1 => Reader.list fun _ => read inner

theorem read_succ (room : Nat) (node : Node) :
    read (room + 1) node = (Fields.ofNode? fieldNames fieldNames.length (room + 1) node).bind fun found =>
      ofFields found.1 room (readExtensions room) := by
  cases room with
  | zero => rfl
  | succ inner => rfl

theorem read_members (facts : ProductFacts) (told : List Json) (room : Nat) :
    read (room + 1) (node (.object (members facts told))) =
      ofFields (.ofTable (table facts told)) room (readExtensions room) := by
  rw [read_succ,members_eq,Fields.ofNode?_table distinct_table known_table]
  rfl

-- Each level of the tree opens two containers, and a repository two more inside the row of repositories.
mutual

theorem read_toJson (p : Product) (room : Nat) (enough : 2 * p.height + 4 ≤ room)
    (numbered : ∀ q ∈ p :: p.descendants, q.Numbered) : read room p.toJson.node = some p.received := by
  match p, room with
  | ⟨facts,extensions⟩, room+1 =>
    simp only [height] at enough
    obtain ⟨this,below⟩ := List.forall_mem_cons.mp numbered
    rw [toJson,read_members]
    refine ofFields_table this (by omega) (tells_filledList (fun _ => ?_) ?_)
    · obtain ⟨inner,rfl⟩ : ∃ inner, room = inner + 1 := ⟨room - 1,by omega⟩
      exact read_toJsons extensions inner (by omega) below
    · intro none
      cases extensions with
      | nil => rfl
      | cons p rest => cases none

theorem read_toJsons (list : List Product) (room : Nat) (enough : 2 * heightAll list + 2 ≤ room)
    (numbered : ∀ q ∈ descendantsAll list, q.Numbered) :
    (itemNodes (toJsons list)).mapM (read room) = some (receivedAll list) := by
  match list with
  | [] => rfl
  | p :: rest =>
    simp only [heightAll] at enough
    rw [descendantsAll,← List.cons_append,List.forall_mem_append] at numbered
    have first := read_toJson p room (by omega) numbered.1
    have later := read_toJsons rest room (by omega) numbered.2
    simp [toJsons,itemNodes,first,later,receivedAll]

end

end Product
end Entitlement
