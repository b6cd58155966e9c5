import Entitlement.Json.Record
import Entitlement.Proofs.Json.Tokens
import Entitlement.Proofs.Text.Utf8

-- The document that a written value is read as. The builder is put before the tokens of a value wherever one may stand,
-- and delivers the value to the container that is open there.
namespace Entitlement.Json

mutual

def node : Json → Node
  | .null => .null
  | .bool b => .bool b
  | .number n => .number n.spelling
  | .string s => .string (some s)
  | .array items => .array (itemNodes items)
  | .object members => .object (memberNodes members)

def itemNodes : List Json → List Node
  | [] => []
  | item :: rest => node item :: itemNodes rest

def memberNodes : List (String × Json) → List (Scribed × Node)
  | [] => []
  | (name,value) :: rest => (some name,node value) :: memberNodes rest

end

theorem itemNodes_eq (items : List Json) : itemNodes items = items.map node := by
  induction items with
  | nil => rfl
  | cons item rest ih => rw [itemNodes,ih,List.map_cons]

theorem memberNodes_eq (members : List (String × Json)) :
    memberNodes members = members.map fun m => (some m.1,m.2.node) := by
  induction members with
  | nil => rfl
  | cons m rest ih => rw [memberNodes,ih,List.map_cons]

namespace Node

variable {stack : List Open} {expected : Expected} {rest : List Token}

theorem ofTokensFrom_step {p next : Progress} {token : Token} (step : advance p token = some next) :
    ofTokensFrom p (token :: rest) = ofTokensFrom next rest := by
  rw [ofTokensFrom,step]

theorem scribed_codeUnits (s : String) : scribed (codeUnits s) = some s := by
  rw [scribed,codeUnits,characters?_codeUnits,Option.map_some,String.ofList_toList]

def Starts (expected : Expected) : Prop := expected = .value ∨ expected = .firstItem

-- The tokens of a value build its document, whatever stands around it.
def Built (v : Json) : Prop :=
  ∀ {stack : List Open} {expected : Expected} {rest : List Token}, Starts expected →
    ofTokensFrom ⟨stack,expected⟩ (v.tokens ++ rest) = ofTokensFrom (deliver v.node stack) rest

theorem ofTokensFrom_items {first : Json} {items : List Json} (each : ∀ item ∈ first :: items, Built item)
    {before : List Node} (starts : Starts expected) :
    ofTokensFrom ⟨.array before :: stack,expected⟩ (itemTokens (first :: items) ++ .endArray :: rest) =
      ofTokensFrom (deliver (.array (before.reverse ++ (first :: items).map node)) stack) rest := by
  induction items generalizing first before expected with
  | nil =>
    have built : ofTokensFrom ⟨.array before :: stack,expected⟩ (first.tokens ++ .endArray :: rest) = _ :=
      List.forall_mem_singleton.mp each starts
    have closed : advance ⟨.array (first.node :: before) :: stack,.afterItem⟩ .endArray =
      some (deliver (.array (first.node :: before).reverse) stack) := rfl
    rw [itemTokens,built,deliver,ofTokensFrom_step closed,List.reverse_cons]
    rfl
  | cons next items ih =>
    obtain ⟨this,later⟩ := List.forall_mem_cons.mp each
    have comma : advance ⟨.array (first.node :: before) :: stack,.afterItem⟩ .comma =
      some ⟨.array (first.node :: before) :: stack,.value⟩ := rfl
    rw [itemTokens,List.append_assoc,List.cons_append,this starts,deliver,ofTokensFrom_step comma,
      ih later (.inl rfl)]
    simp

theorem ofTokensFrom_name {before : List (Scribed × Node)}
    (starts : expected = .firstKey before ∨ expected = .key before) (name : String) :
    ofTokensFrom ⟨stack,expected⟩ (.string (codeUnits name) :: .colon :: rest) =
      ofTokensFrom ⟨.object before (some name) :: stack,.value⟩ rest := by
  have named : advance ⟨stack,expected⟩ (.string (codeUnits name)) = some ⟨stack,.colon before (some name)⟩ := by
    rw [← scribed_codeUnits name]
    rcases starts with rfl | rfl <;> rfl
  rw [ofTokensFrom_step named]
  exact ofTokensFrom_step rfl

theorem ofTokensFrom_members {first : String × Json} {members : List (String × Json)}
    (each : ∀ m ∈ first :: members, Built m.2) {before : List (Scribed × Node)}
    (starts : expected = .firstKey before ∨ expected = .key before) :
    ofTokensFrom ⟨stack,expected⟩ (memberTokens (first :: members) ++ .endObject :: rest) =
      ofTokensFrom (deliver (.object (before.reverse ++ memberNodes (first :: members))) stack) rest := by
  induction members generalizing first before expected with
  | nil =>
    obtain ⟨name,value⟩ := first
    have built : ofTokensFrom ⟨.object before (some name) :: stack,.value⟩ (value.tokens ++ .endObject :: rest) = _ :=
      List.forall_mem_singleton.mp each (.inl rfl)
    have closed : advance ⟨stack,.afterMember ((some name,value.node) :: before)⟩ .endObject =
      some (deliver (.object ((some name,value.node) :: before).reverse) stack) := rfl
    rw [memberTokens,List.cons_append,List.cons_append,ofTokensFrom_name starts,built,deliver,
      ofTokensFrom_step closed,List.reverse_cons]
    rfl
  | cons next members ih =>
    obtain ⟨name,value⟩ := first
    obtain ⟨this,later⟩ := List.forall_mem_cons.mp each
    have comma : advance ⟨stack,.afterMember ((some name,value.node) :: before)⟩ .comma =
      some ⟨stack,.key ((some name,value.node) :: before)⟩ := rfl
    simp only [memberTokens,List.cons_append,List.append_assoc]
    rw [ofTokensFrom_name starts,this (.inl rfl),deliver,ofTokensFrom_step comma,ih later (.inr rfl)]
    simp [memberNodes]

theorem built (v : Json) : Built v := by
  induction v with
  | null | bool | number =>
    intro stack expected rest starts
    rcases starts with rfl | rfl <;> exact ofTokensFrom_step rfl
  | string s =>
    intro stack expected rest starts
    rw [node,← scribed_codeUnits s]
    rcases starts with rfl | rfl <;> exact ofTokensFrom_step rfl
  | array items each =>
    intro stack expected rest starts
    have opened : advance ⟨stack,expected⟩ .beginArray = some ⟨.array [] :: stack,.firstItem⟩ := by
      rcases starts with rfl | rfl <;> rfl
    rw [tokens,List.cons_append,List.cons_append,List.append_assoc,ofTokensFrom_step opened]
    cases items with
    | nil => exact ofTokensFrom_step rfl
    | cons first items =>
      rw [node,itemNodes_eq]
      exact ofTokensFrom_items each (.inr rfl)
  | object members each =>
    intro stack expected rest starts
    have opened : advance ⟨stack,expected⟩ .beginObject = some ⟨stack,.firstKey []⟩ := by
      rcases starts with rfl | rfl <;> rfl
    rw [tokens,List.cons_append,List.cons_append,List.append_assoc,ofTokensFrom_step opened]
    cases members with
    | nil => exact ofTokensFrom_step rfl
    | cons first members => exact ofTokensFrom_members each (.inl rfl)

theorem ofTokens?_tokens (v : Json) : ofTokens? v.tokens = some v.node := by
  have built : ofTokensFrom ⟨[],.value⟩ (v.tokens ++ []) = some v.node := built v (.inl rfl)
  rwa [List.append_nil] at built

theorem ofBytes?_of_scans {text : List Char} {v : Json} (scans : Scans text v.tokens) :
    ofBytes? (Text.encode (String.ofList text)) = some v.node := by
  rw [ofBytes?,Text.encode,Text.decode_flatMap,read?,String.toList_ofList,scans.tokens?]
  exact ofTokens?_tokens v

theorem ofBytes?_compact (v : Json) : ofBytes? (Text.encode v.compact) = some v.node := ofBytes?_of_scans (scans_write v)

theorem ofBytes?_pretty (v : Json) : ofBytes? (Text.encode v.pretty) = some v.node :=
  ofBytes?_of_scans (scans_writeLines v 0)

end Node
end Entitlement.Json
