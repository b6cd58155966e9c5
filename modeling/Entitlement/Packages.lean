import Entitlement.Product

-- What the package manager reports and is told.
namespace Entitlement

structure Repository where
  name : String
  aliasName : String
  url : String
  enabled : Bool
  priority : Int
deriving DecidableEq, Inhabited

structure ProductPackage where
  name : String
  edition : String
  arch : String
  repository : String
deriving DecidableEq, Inhabited

structure UpgradeOptions where
  nonInteractive : Bool := false
  autoAgreeWithLicenses : Bool := false
  allowVendorChange : Bool := false
  downloadOnly : Bool := false
  noRecommends : Bool := false
  dryRun : Bool := false
deriving DecidableEq, Inhabited

end Entitlement
