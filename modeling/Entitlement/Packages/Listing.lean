import Entitlement.Error
import Entitlement.Packages
import Entitlement.Service
import Entitlement.Text.Utf8
import Entitlement.Xml.Diagnosis

-- The lists that the package manager writes: products, services, repositories and found packages.
-- Each is an XML stream with a list in it. An empty stream, or one of blanks, is an empty list.
namespace Entitlement.Listing

open Xml (Record Shape)

def isOn (value : String) : Bool :=
  let word := Text.trim value
  word = "1" || word = "true" || word = "yes"

-- How a list is laid out: a row of records, each with the name of the element that leads to the next one, and at last
-- to the items.
structure Layout where
  outer : List (String × String)
  record : String
  element : String
  item : Shape

namespace Layout

def shapeFrom (l : Layout) : List (String × String) → Shape
  | [] => .record l.record [] [(l.element, .list l.item)]
  | (record, element) :: rest => .record record [] [(element, l.shapeFrom rest)]

def shape (l : Layout) : Shape := l.shapeFrom l.outer

def itemsFrom (l : Layout) : List (String × String) → Record → Option (List Record)
  | [], r => r.list? l.element
  | (_, element) :: rest, r => do
    match ← r.record? element with
    | none => some []
    | some inner => l.itemsFrom rest inner

def read (l : Layout) (ofRecord : Record → Option α) (bytes : Bytes) : Result (List α) :=
  let text := Text.decodeLenient bytes
  if Text.isBlankText text then .ok []
  else
    let document := Xml.Document.ofText text.toList
    match document.record?.bind fun r => (l.itemsFrom l.outer r).bind (·.mapM ofRecord) with
    | some items => .ok items
    | none => match document.check l.shape with
      | .ok () => .error (.xml "")
      | .error fault => .error (.xml fault.message)

end Layout

def product? (r : Record) : Option Product := do
  let facts : ProductFacts := {
    Product.blank.toProductFacts with
    name := ← r.attribute? "name"
    version := ← r.attribute? "version"
    arch := ← r.attribute? "arch"
    release := ← r.attribute? "release"
    summary := ← r.attribute? "summary"
    isBase := isOn (← r.attribute? "isbase")
    releaseType := ← r.attribute? "registerrelease"
    productLine := ← r.attribute? "productline"
    description := Text.trim (← r.text? "description")
    available := true }
  some ⟨facts, []⟩

def productLayout : Layout := ⟨[("ProductStream", "product-list")], "ProductList", "product",
  .record "XmlProduct"
    ["name", "version", "arch", "release", "summary", "isbase", "registerrelease", "productline"]
    [("description", .text)]⟩

def products : Bytes → Result (List Product) := productLayout.read product?

def service? (r : Record) : Option InstalledService := do
  some ⟨← r.attribute? "name", ← r.attribute? "url"⟩

def serviceLayout : Layout := ⟨[("ServiceStream", "service-list")], "ServiceList", "service",
  .record "XmlService" ["name", "url"] []⟩

def services : Bytes → Result (List InstalledService) := serviceLayout.read service?

def priority (value : String) : Int := (Text.integer? limit31 (Text.trimmed value.toList)).getD 0

def repository? (r : Record) : Option Repository := do
  some {
    name := ← r.attribute? "name"
    aliasName := ← r.attribute? "alias"
    url := Text.trim (← r.text? "url")
    enabled := isOn (← r.attribute? "enabled")
    priority := priority (← r.attribute? "priority") }

def repositoryLayout : Layout := ⟨[("RepoStream", "repo-list")], "RepoList", "repo",
  .record "XmlRepo" ["name", "alias", "enabled", "priority"] [("url", .text)]⟩

def repositories : Bytes → Result (List Repository) := repositoryLayout.read repository?

def package? (r : Record) : Option ProductPackage := do
  some {
    name := ← r.attribute? "name"
    edition := ← r.attribute? "edition"
    arch := ← r.attribute? "arch"
    repository := ← r.attribute? "repository" }

def packageLayout : Layout := ⟨[("SearchStream", "search-result"), ("SearchResult", "solvable-list")],
  "SolvableList", "solvable", .record "XmlSolvable" ["name", "edition", "arch", "repository"] []⟩

def packages : Bytes → Result (List ProductPackage) := packageLayout.read package?

end Entitlement.Listing
