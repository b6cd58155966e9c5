import Entitlement.Error
import Entitlement.Text.Split

-- The identity of a product: its internal name, version and architecture, written with slashes between.
namespace Entitlement

structure Triplet where
  name : String
  version : String
  arch : String
deriving DecidableEq, Inhabited

namespace Triplet

def text (t : Triplet) : String := t.name ++ "/" ++ t.version ++ "/" ++ t.arch

def validPart (part : List Char) : Bool := !part.isEmpty && !part.any Text.isBlank

def parse (text : String) : Result Triplet :=
  match Text.split '/' text.toList with
  | [name, version, arch] =>
    if validPart name && validPart version && validPart arch then
      .ok ⟨String.ofList name, String.ofList version, String.ofList arch⟩
    else .error (.invalidTriplet text)
  | _ => .error (.invalidTriplet text)

end Triplet
end Entitlement
