
-- How serious an event is.
namespace Entitlement

inductive Level where
  | debug
  | info
  | warn
deriving DecidableEq

end Entitlement
