import Storefront.Core.Values

set_option autoImplicit false

namespace Storefront

-- The exception classes the modelled code raises, with the data of their text and meta.
inductive Exn
  | cartNotFound (detail : String)
  | cartVersionConflict (expected actual : Int)
  | cartNotCheckoutReady (detail : String)
  | couponNotFound (detail : String)
  | couponAlreadyApplied (detail : String)
  | couponInvalid (detail : String)
  | couponExpired (validUntil : Time)
  | couponExhausted (detail : String)
  | couponMinNotMet (required current : ℚ)
  | couponCountryRestricted (detail : String)
  | currencyMismatch (cartCurrency productCurrency : String)
  | insufficientStock (items : List (Id × Int × Int))
  | onlyAvailable (product : Id) (available requested : Int)
  | productNotFound (product : Id)
  | addressNotFound (address : Id)
  | paymentMethodNotFound (method : Id)
  | gatewayNotConfigured (detail : String)
  | gatewayUnsupportedCurrency (gateway currency : String)
  | paymentFailed (detail : String) (gatewayCode : Option String)
  | orderNotCancellable (detail : String)
  | resourceNotFound (detail : String)
  | customerNotFound (detail : String)
  | forbidden (detail : String)
  | validationError (field detail : String)
  -- Raised by the database: a violated constraint, an overlong value, a missing row.
  | integrityError
  | dataError
  | doesNotExist (model : String)
  -- An adapter name that is not registered, a missing dict key, an attribute of `None`.
  | valueError (detail : String)
  | keyError (detail : String)
  | attributeError (detail : String)
  -- Anything else a call into the database or a gateway may raise.
  | other (detail : String)
  deriving DecidableEq, Repr

namespace Exn

def isPaymentFailed : Exn → Bool
  | .paymentFailed .. => true
  | _ => false

-- str(exc), for the exceptions a gateway call may raise.
def str : Exn → String
  | .paymentFailed detail _ | .valueError detail | .keyError detail | .attributeError detail
  | .other detail => detail
  | _ => ""

end Exn

end Storefront
