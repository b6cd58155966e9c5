import Entitlement.Product
import Entitlement.Json.Decode

-- The JSON documents of products.
-- In a document every field may be left out or `null`. The base flag has three spellings: `isbase`, `base` and
-- the product type `base`. The release and the product line are known to the package manager only and are not
-- part of a document.
namespace Entitlement

namespace OfferedRepository

def shape : Json.RecordShape := ⟨"RemoteRepository", [
  .optional "name" .text, .optional "url" .text, .optional "enabled" .flag, .optional "autorefresh" .flag,
  .optional "installer_updates" .flag, .optional "distro_target" (.nullable .text),
  .optional "description" (.nullable .text), .optional "arch" (.list .text)]⟩

def fieldNames : List String := shape.fieldNames

def read : Json.Reader OfferedRepository := fun room node => do
  let (fields, room) ← Json.Fields.ofNode? fieldNames 0 room node
  some {
    name := ← fields.optional "name" room Json.Reader.string ""
    url := ← fields.optional "url" room Json.Reader.string ""
    enabled := ← fields.optional "enabled" room Json.Reader.bool false
    autorefresh := ← fields.optional "autorefresh" room Json.Reader.bool false
    installerUpdates := ← fields.optional "installer_updates" room Json.Reader.bool false
    distroTarget := ← fields.nullable "distro_target" room Json.Reader.string
    description := ← fields.nullable "description" room Json.Reader.string
    arch := ← fields.optional "arch" room (Json.Reader.list Json.Reader.string) [] }

def toJson (r : OfferedRepository) : Json := .object (
  [("name", .string r.name), ("url", .string r.url), ("enabled", .bool r.enabled),
    ("autorefresh", .bool r.autorefresh), ("installer_updates", .bool r.installerUpdates)]
    ++ Json.option? "distro_target" (r.distroTarget.map .string)
    ++ Json.option? "description" (r.description.map .string)
    ++ Json.list? "arch" (r.arch.map .string))

end OfferedRepository

namespace Product

def shape : Json.RecordShape := ⟨"RawProduct", [
  .nullable "identifier" .text, .nullable "version" .text, .nullable "arch" .text, .nullable "summary" .text,
  .nullable "isbase" .flag, .nullable "base" .flag, .nullable "friendly_name" .text,
  .nullable "release_type" .text, .nullable "available" .flag, .nullable "free" .flag,
  .nullable "recommended" .flag, .nullable "extensions" (.list (.record "RawProduct")), .nullable "id" .any,
  .nullable "description" .text, .nullable "eula_url" .text, .nullable "former_identifier" .text,
  .nullable "product_type" .text, .nullable "shortname" .text, .nullable "name" .text,
  .nullable "release_stage" .text, .nullable "repositories" (.list (.record "RemoteRepository"))]⟩

def fieldNames : List String := shape.fieldNames

-- The id that a value stands for: an integer, or a text that spells one; 0 for all else.
def idOf : Json → Int
  | .number n => (n.integer?.filter fun i => i < (limit63 : Int)).getD 0
  | .string s => (Text.integer? limit63 (Text.trimmed s.toList)).getD 0
  | _ => 0

def ofFields (fields : Json.Fields) (room : Nat) (extensions : Json.Reader (List Product)) :
    Option Product := do
  let text (name : String) : Option String := fields.nullableOr name room Json.Reader.string ""
  let flag (name : String) (absent : Bool) : Option Bool :=
    fields.nullableOr name room Json.Reader.bool absent
  let productType ← text "product_type"
  some {
    name := ← text "identifier"
    version := ← text "version"
    arch := ← text "arch"
    release := ""
    summary := ← text "summary"
    isBase := (← flag "isbase" false) || (← flag "base" false) || productType == "base"
    friendlyName := ← text "friendly_name"
    releaseType := ← text "release_type"
    productLine := ""
    -- Only some servers report availability.
    available := ← flag "available" true
    free := ← flag "free" false
    recommended := ← flag "recommended" false
    id := ((← fields.nullable "id" room Json.Reader.value).map idOf).getD 0
    description := ← text "description"
    eulaUrl := ← text "eula_url"
    formerName := ← text "former_identifier"
    productType := productType
    shortName := ← text "shortname"
    longName := ← text "name"
    releaseStage := ← text "release_stage"
    repositories :=
      ← fields.nullableOr "repositories" room (Json.Reader.list OfferedRepository.read) []
    extensions := ← fields.nullableOr "extensions" room extensions [] }

-- Reads a product; the list of its extensions opens a container, and each of them another one.
def read : Json.Reader Product
  | 0, _ => none
  | room + 1, node => do
    let (fields, _) ← Json.Fields.ofNode? fieldNames fieldNames.length (room + 1) node
    ofFields fields room (match room with
      | 0 => fun _ _ => none
      | inner + 1 => Json.Reader.list fun _ => read inner)

def format : Json.Format Product := ⟨read, .record shape.name, [shape, OfferedRepository.shape]⟩

def members (p : ProductFacts) (extensions : List Json) : List (String × Json) :=
  [("identifier", .string p.name), ("version", .string p.version), ("arch", .string p.arch)]
    ++ Json.member? "summary" p.summary
    ++ [("isbase", .bool p.isBase)]
    ++ Json.member? "friendly_name" p.friendlyName
    ++ Json.member? "release_type" p.releaseType
    ++ [("available", .bool p.available), ("free", .bool p.free), ("recommended", .bool p.recommended)]
    ++ Json.list? "extensions" extensions
    ++ [("id", Json.integer p.id)]
    ++ Json.member? "description" p.description
    ++ Json.member? "eula_url" p.eulaUrl
    ++ Json.member? "former_identifier" p.formerName
    ++ Json.member? "product_type" p.productType
    ++ Json.member? "shortname" p.shortName
    ++ Json.member? "name" p.longName
    ++ Json.member? "release_stage" p.releaseStage
    ++ Json.list? "repositories" (p.repositories.map OfferedRepository.toJson)

mutual

def toJson : Product → Json
  | ⟨facts, extensions⟩ => .object (members facts (toJsons extensions))

def toJsons : List Product → List Json
  | [] => []
  | p :: rest => toJson p :: toJsons rest

end

end Product
end Entitlement
